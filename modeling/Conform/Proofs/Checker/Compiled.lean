import Conform.Proofs.Checker.Reading
import Conform.Proofs.Schema.Induction
import Mathlib.Data.List.Perm.Basic

/-!
# What a schema compiles to, wherever it stands

The place that compilation carries along is only for the messages of faults. A schema that compiles
at one place compiles to the same checker at every other (`compiled_of_compileAt`), so `Compiled`
relates schemas and checkers without a place, node by node (`compiled_list`, `compiled_object`,
`compiled_union`).
-/

namespace Conform

/-- The schema compiles to the checker, wherever it stands. -/
def Schema.Compiled (registry : Registry) (schema : Schema) (checker : Checker) : Prop :=
  ∀ place, schema.compileAt registry place = .ok checker

/-- The entry compiles to the field, wherever its object stands. -/
def Entry.Compiled (registry : Registry) (entry : Entry) (field : FieldChecker) : Prop :=
  ∀ place, entry.compileAt registry place = .ok field

section
variable {registry : Registry} {place place' : String}

theorem readCount_place {keyword : String} {v : Value} {count : Option Nat}
    (h : readCount keyword place v = .ok count) : readCount keyword place' v = .ok count :=
  readCount_eq_ok.2 (readCount_eq_ok.1 h)

theorem readBound_place {keyword : String} {v : Value} {bound : Option Value}
    (h : readBound keyword place v = .ok bound) : readBound keyword place' v = .ok bound :=
  readBound_eq_ok.2 (readBound_eq_ok.1 h)

theorem ofKind_place {r : Refinements} {kind : Kind} {rs : List Refinement}
    (h : r.ofKind registry place kind = .ok rs) : r.ofKind registry place' kind = .ok rs := by
  cases kind with
  | string =>
    obtain ⟨least, hl, most, hm, htexts⟩ := Refinements.ofString_eq_ok.1 h
    exact Refinements.ofString_eq_ok.2
      ⟨least, readCount_place hl, most, readCount_place hm, htexts⟩
  | number =>
    obtain ⟨least, hl, most, hm, htexts⟩ := Refinements.ofNumber_eq_ok.1 h
    exact Refinements.ofNumber_eq_ok.2
      ⟨least, readBound_place hl, most, readBound_place hm, htexts⟩
  | boolean | null => exact h

/-! ## Fields and options -/

theorem compileEntries_of_compiled : ∀ {entries : List Entry} {fields : List FieldChecker},
    List.Forall₂ (Entry.Compiled registry) entries fields →
      compileEntries entries registry place = .ok fields
  | _, _, .nil => rfl
  | _, _, .cons h hs => compileEntries_cons.2 ⟨_, h _, _, compileEntries_of_compiled hs, rfl⟩

theorem compiled_of_compileEntries : ∀ {entries : List Entry} {fields : List FieldChecker},
    (∀ name schema required, .named name (.field schema required) ∈ entries →
      ∀ {place : String} {checker : Checker}, schema.compileAt registry place = .ok checker →
        schema.Compiled registry checker) →
    compileEntries entries registry place = .ok fields →
      List.Forall₂ (Entry.Compiled registry) entries fields
  | [], _, _, h => by
    obtain rfl := Except.ok.inj h
    exact .nil
  | entry :: entries, _, ih, h => by
    obtain ⟨field, hf, others, ho, rfl⟩ := compileEntries_cons.1 h
    obtain ⟨name, schema, required, rfl, htext, checker, hc, rfl⟩ := compileAt_entry.1 hf
    have hschema : schema.Compiled registry checker := ih _ _ _ List.mem_cons_self hc
    refine .cons ?_ (compiled_of_compileEntries (fun name schema required he => ?_) ho)
    · intro place'
      exact compileAt_entry.2 ⟨name, schema, required, rfl, htext, checker, hschema _, rfl⟩
    · exact ih name schema required (List.mem_cons_of_mem _ he)

theorem compileAll_of_compiled : ∀ {options : List Schema} {checkers : List Checker} {index : Nat},
    List.Forall₂ (Schema.Compiled registry) options checkers →
      compileAll options registry place index = .ok checkers
  | _, _, _, .nil => rfl
  | _, _, _, .cons h hs => compileAll_cons.2 ⟨_, h _, _, compileAll_of_compiled hs, rfl⟩

theorem compiled_of_compileAll : ∀ {options : List Schema} {checkers : List Checker} {index : Nat},
    (∀ option ∈ options, ∀ {place : String} {checker : Checker},
      option.compileAt registry place = .ok checker → option.Compiled registry checker) →
    compileAll options registry place index = .ok checkers →
      List.Forall₂ (Schema.Compiled registry) options checkers
  | [], _, _, _, h => by
    obtain rfl := Except.ok.inj h
    exact .nil
  | option :: options, _, _, ih, h => by
    obtain ⟨checker, hc, others, ho, rfl⟩ := compileAll_cons.1 h
    obtain ⟨hoption, hoptions⟩ := List.forall_mem_cons.1 ih
    exact .cons (hoption hc) (compiled_of_compileAll hoptions ho)

/-! ## All schemas -/

theorem compiled_of_compileAt {schema : Schema} {checker : Checker}
    (h : schema.compileAt registry place = .ok checker) : schema.Compiled registry checker := by
  induction schema using Schema.memInduction generalizing place checker with
  | primitive kind r =>
    obtain ⟨k, hk, rs, hr, rfl⟩ := compilePrimitive_eq_ok.1 h
    exact fun place' => compilePrimitive_eq_ok.2 ⟨k, hk, rs, ofKind_place hr, rfl⟩
  | literal value => exact fun _ => h
  | list item least most ih =>
    obtain ⟨minItems, hl, maxItems, hm, inner, hi, htexts⟩ := compileAt_list.1 h
    exact fun place' => compileAt_list.2
      ⟨minItems, readCount_place hl, maxItems, readCount_place hm, inner, ih hi _, htexts⟩
  | object entries strict ih =>
    obtain ⟨fields, hf, hk, hd, rfl⟩ := compileAt_object.1 h
    exact fun place' => compileAt_object.2
      ⟨fields, compileEntries_of_compiled (compiled_of_compileEntries ih hf), hk, hd, rfl⟩
  | union options ih =>
    obtain ⟨checkers, ho, rfl⟩ := compileAt_union.1 h
    exact fun place' => compileAt_union.2
      ⟨checkers, compileAll_of_compiled (compiled_of_compileAll ih ho), rfl⟩
  | field | other => cases h

/-! ## Node by node -/

theorem compiled_literal {value : Value} {checker : Checker} :
    (Schema.literal value).Compiled registry checker ↔
      value.hasText = true ∧ .literal value = checker :=
  ⟨fun h => compileAt_literal.1 (h ""), fun h _ => compileAt_literal.2 h⟩

theorem compiled_list {item : Schema} {least most : Value} {checker : Checker} :
    (Schema.list item least most).Compiled registry checker ↔
      ∃ minItems, readCount "min_items" "" least = .ok minItems ∧
      ∃ maxItems, readCount "max_items" "" most = .ok maxItems ∧
      ∃ inner, item.Compiled registry inner ∧
        least.hasText = true ∧ most.hasText = true ∧ .list inner minItems maxItems = checker := by
  constructor
  · intro h
    obtain ⟨minItems, hl, maxItems, hm, inner, hi, htexts⟩ := compileAt_list.1 (h "")
    exact ⟨minItems, hl, maxItems, hm, inner, compiled_of_compileAt hi, htexts⟩
  · rintro ⟨minItems, hl, maxItems, hm, inner, hi, htexts⟩ place
    exact compileAt_list.2 ⟨minItems, readCount_place hl, maxItems, readCount_place hm, inner, hi _,
      htexts⟩

theorem compiled_entry {entry : Entry} {field : FieldChecker} :
    entry.Compiled registry field ↔
      ∃ name schema required, entry = .named name (.field schema required) ∧
        name.hasText = true ∧
      ∃ checker, schema.Compiled registry checker ∧
        ⟨name, required.truthy, checker⟩ = field := by
  constructor
  · intro h
    obtain ⟨name, schema, required, rfl, htext, checker, hc, rfl⟩ := compileAt_entry.1 (h "")
    exact ⟨name, schema, required, rfl, htext, checker, compiled_of_compileAt hc, rfl⟩
  · rintro ⟨name, schema, required, rfl, htext, checker, hc, rfl⟩ place
    exact compileAt_entry.2 ⟨name, schema, required, rfl, htext, checker, hc _, rfl⟩

theorem compiled_object {entries : List Entry} {strict : Value} {checker : Checker} :
    (Schema.object entries strict).Compiled registry checker ↔
      ∃ fields, List.Forall₂ (Entry.Compiled registry) entries fields ∧
        (fields.map FieldChecker.name).all Value.isKey = true ∧
        areDistinct (fields.map FieldChecker.name) = true ∧
        .object fields strict.truthy = checker := by
  constructor
  · intro h
    obtain ⟨fields, hf, hk, hd, rfl⟩ := compileAt_object.1 (h "")
    refine ⟨fields, compiled_of_compileEntries (fun _ _ _ _ => ?_) hf, hk, hd, rfl⟩
    exact compiled_of_compileAt
  · rintro ⟨fields, hf, hk, hd, rfl⟩ place
    exact compileAt_object.2 ⟨fields, compileEntries_of_compiled hf, hk, hd, rfl⟩

theorem compiled_union {options : List Schema} {checker : Checker} :
    (Schema.union options).Compiled registry checker ↔
      ∃ checkers, List.Forall₂ (Schema.Compiled registry) options checkers ∧
        .union checkers = checker := by
  constructor
  · intro h
    obtain ⟨checkers, ho, rfl⟩ := compileAt_union.1 (h "")
    exact ⟨checkers, compiled_of_compileAll (fun _ _ => compiled_of_compileAt) ho, rfl⟩
  · rintro ⟨checkers, ho, rfl⟩ place
    exact compileAt_union.2 ⟨checkers, compileAll_of_compiled ho, rfl⟩

theorem Schema.Compiled.unique {schema : Schema} {checker checker' : Checker}
    (h : schema.Compiled registry checker) (hother : schema.Compiled registry checker') :
    checker = checker' :=
  Except.ok.inj ((h "").symm.trans (hother ""))

end

end Conform
