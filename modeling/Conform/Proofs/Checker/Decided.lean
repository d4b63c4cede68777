import Conform.Proofs.Checker.Verdict
import Conform.Proofs.Schema.Violates

/-!
# What a verdict decides

A compiled checker stops at the first failure, and a test behind it may have no answer at all.
Whenever it comes to a verdict, this is whether the schema accepts the value (`settles_accepts`).

The refinements of a primitive node are the keywords that are given: a value fails a keyword exactly
if it is refused by a refinement of that kind (`failsOwn_iff_refuses`). The counts of a list and the
keys of an object are tested alike (`atLeast_iff_not`, `isAmong_names_iff`).
-/

namespace Conform

open Schema

/-! ## Refinements -/

/-- One of the refinements, of the given kind, refuses the value. -/
def Refuses (rs : List Refinement) (v : Value) (k : ViolationKind) : Prop :=
  ∃ ρ ∈ rs, k = ρ.kind ∧ ρ.holds v = .ok false

section
variable {rs rs' : List Refinement} {v : Value} {k : ViolationKind}

theorem refuses_nil : ¬ Refuses [] v k := nofun

theorem refuses_append : Refuses (rs ++ rs') v k ↔ Refuses rs v k ∨ Refuses rs' v k := by
  simp only [Refuses, List.mem_append, or_and_right, exists_or]

theorem refuses_cons {ρ : Refinement} :
    Refuses (ρ :: rs) v k ↔ (k = ρ.kind ∧ ρ.holds v = .ok false) ∨ Refuses rs v k := by
  simp only [Refuses, List.exists_mem_cons_iff]

theorem settles_allHold : ∀ {rs : List Refinement},
    Settles (Refinement.allHold rs v) (∀ k, ¬ Refuses rs v k)
  | [] => .of_iff (iff_of_true rfl fun _ => refuses_nil)
  | ρ :: rs => by
    have hρ : Settles (ρ.holds v) (ρ.holds v ≠ .ok false) := fun b hb => by
      cases b <;> simp [hb]
    refine (hρ.and settles_allHold).congr ?_
    simp only [refuses_cons, not_or, not_and, forall_and, forall_eq, ne_eq]

section
variable {keyword place s : String} {bound : Value}

theorem refuses_minLength {least : Option Nat} (h : readCount keyword place bound = .ok least) :
    Refuses (least.map Refinement.minLength).toList (.str s) k ↔
      k = .lengthTooShort ∧ ∃ n : Int, bound = .int n ∧ s.length < n := by
  rcases readCount_eq_ok.1 h with ⟨rfl, rfl⟩ | ⟨n, rfl, rfl⟩ <;>
    simp [Refuses, Refinement.kind, Refinement.holds]

theorem refuses_maxLength {most : Option Nat} (h : readCount keyword place bound = .ok most) :
    Refuses (most.map Refinement.maxLength).toList (.str s) k ↔
      k = .lengthTooLong ∧ ∃ n : Int, bound = .int n ∧ n < s.length := by
  rcases readCount_eq_ok.1 h with ⟨rfl, rfl⟩ | ⟨n, rfl, rfl⟩ <;>
    simp [Refuses, Refinement.kind, Refinement.holds]

theorem refuses_pattern {v : Value} {pattern : Option (String × Pattern.Program)}
    (h : whenGiven v requirePattern = .ok pattern) :
    Refuses (pattern.map fun (text, program) => .pattern text program).toList (.str s) k ↔
      k = .patternMismatch ∧ ∃ text program, v = .str text ∧
        Pattern.compile text = .ok program ∧ program.search s = .ok false := by
  rcases whenGiven_eq_ok.1 h with ⟨rfl, rfl⟩ | ⟨-, ⟨text, program⟩, hp, rfl⟩
  · simp [Refuses]
  · obtain ⟨rfl, hprogram⟩ := requirePattern_eq_ok.1 hp
    simp [Refuses, Refinement.kind, Refinement.holds, hprogram]

theorem refuses_format {v : Value} {registry : Registry} {format : Option Format}
    (h : whenGiven v registry.resolve = .ok format) :
    Refuses (format.map fun format => .format v.text format).toList (.str s) k ↔
      k = .formatInvalid ∧ ∃ name format, v = .str name ∧ registry.find? name = some format ∧
        format.conforms s = .ok false := by
  rcases whenGiven_eq_ok.1 h with ⟨rfl, rfl⟩ | ⟨-, format, hf, rfl⟩
  · simp [Refuses]
  · obtain ⟨name, rfl, hname⟩ := resolve_eq_ok.1 hf
    simp [Refuses, Refinement.kind, Refinement.holds, hname]

theorem refuses_minimum {least : Option Value} (h : readBound keyword place bound = .ok least) :
    Refuses (least.map Refinement.minimum).toList v k ↔
      k = .belowMinimum ∧ v.isBelow bound = true := by
  have hholds : (Refinement.minimum bound).holds v = .ok !v.isBelow bound := by cases v <;> rfl
  rcases readBound_eq_ok.1 h with ⟨rfl, rfl⟩ | ⟨-, rfl⟩
  · simp [Refuses]
  · simp [Refuses, Refinement.kind, hholds]

theorem refuses_maximum {most : Option Value} (h : readBound keyword place bound = .ok most) :
    Refuses (most.map Refinement.maximum).toList v k ↔
      k = .aboveMaximum ∧ bound.isBelow v = true := by
  have hholds : (Refinement.maximum bound).holds v = .ok !bound.isBelow v := by cases v <;> rfl
  rcases readBound_eq_ok.1 h with ⟨rfl, rfl⟩ | ⟨-, rfl⟩
  · simp [Refuses]
  · simp [Refuses, Refinement.kind, hholds]

end

variable {registry : Registry} {place : String} {kind : KindRef} {r : Refinements} {kd : Kind}
  (hk : kind.kind? = some kd) (hr : r.ofKind registry place kd = .ok rs)
include hk hr

/-- A value of the kind fails a keyword exactly if a refinement that was compiled refuses it. -/
theorem failsOwn_iff_refuses (hv : kd.includes v = true) :
    FailsOwn registry (.primitive kind r) v k ↔ Refuses rs v k := by
  cases kd with
  | string =>
    obtain ⟨s, rfl⟩ : ∃ s, v = .str s := by cases v <;> first | exact ⟨_, rfl⟩ | cases hv
    obtain ⟨least, hl, most, hm, -, -, pattern, hp, format, hf, rfl⟩ :=
      Refinements.ofString_eq_ok.1 hr
    rw [failsOwn_str_iff hk, refuses_append, refuses_append, refuses_append, refuses_minLength hl,
      refuses_maxLength hm, refuses_pattern hp, refuses_format hf, or_assoc (c := _ ∧ _)]
  | number =>
    obtain ⟨least, hl, most, hm, -, -, rfl⟩ := Refinements.ofNumber_eq_ok.1 hr
    rw [failsOwn_number_iff hk hv, refuses_append, refuses_minimum hl, refuses_maximum hm]
  | boolean | null =>
    obtain rfl := Except.ok.inj hr
    exact iff_of_false (not_failsOwn_of_includes hk Kind.noConfusion Kind.noConfusion hv)
      refuses_nil

theorem settles_primitive (v : Value) :
    Settles ((Checker.primitive kd rs).accepts v) (Accepts registry (.primitive kind r) v) := by
  rw [Checker.accepts, accepts_primitive_iff]
  cases hv : kd.includes v with
  | true => exact settles_allHold.congr (by simp only [failsOwn_iff_refuses hk hr hv])
  | false =>
    refine .of_iff (iff_of_false Bool.false_ne_true fun hnone => ?_)
    exact hnone .typeMismatch (.kind hk hv)

end

/-! ## Whole schemas -/

/-- The checkers that are compiled from the schema decide whether it accepts a value. -/
def Schema.Decided (registry : Registry) (schema : Schema) : Prop :=
  ∀ {place : String} {checker : Checker}, schema.compileAt registry place = .ok checker →
    ∀ v, Settles (checker.accepts v) (Accepts registry schema v)

section
variable {registry : Registry} {place : String}

theorem atLeast_iff_not {keyword : String} {bound : Value} {least : Option Nat}
    (h : readCount keyword place bound = .ok least) (m : Nat) :
    Checker.atLeast least m = true ↔ ¬ ∃ n : Int, bound = .int n ∧ m < n := by
  rcases readCount_eq_ok.1 h with ⟨rfl, rfl⟩ | ⟨n, rfl, rfl⟩ <;> simp [Checker.atLeast]

theorem atMost_iff_not {keyword : String} {bound : Value} {most : Option Nat}
    (h : readCount keyword place bound = .ok most) (m : Nat) :
    Checker.atMost most m = true ↔ ¬ ∃ n : Int, bound = .int n ∧ n < m := by
  rcases readCount_eq_ok.1 h with ⟨rfl, rfl⟩ | ⟨n, rfl, rfl⟩ <;> simp [Checker.atMost]

/-- What a checker looks for among the declared names are the names of the schema. -/
theorem isAmong_names_iff : ∀ {entries : List Entry} {fields : List FieldChecker},
    compileEntries entries registry place = .ok fields → ∀ key : Value,
      key.isAmong (fields.map FieldChecker.name) = true ↔ Declares entries key
  | [], _, h, key => by
    obtain rfl := Except.ok.inj h
    simp [Value.isAmong, Declares]
  | entry :: entries, _, h, key => by
    obtain ⟨field, hfield, others, hothers, rfl⟩ := compileEntries_cons.1 h
    obtain ⟨name, schema, required, rfl, -, checker, -, rfl⟩ := compileAt_entry.1 hfield
    have ih := isAmong_names_iff hothers key
    simp only [Value.isAmong, List.map_cons, List.any_cons, Bool.or_eq_true] at ih ⊢
    rw [ih]
    constructor
    · rintro (hsame | ⟨name', schema', required', he, hsame⟩)
      · exact ⟨name, schema, required, List.mem_cons_self, hsame⟩
      · exact ⟨name', schema', required', List.mem_cons_of_mem _ he, hsame⟩
    · rintro ⟨name', schema', required', he, hsame⟩
      rcases List.mem_cons.1 he with he | he
      · cases he
        exact .inl hsame
      · exact .inr ⟨name', schema', required', he, hsame⟩

theorem decided_list {item : Schema} {least most : Value} (ih : item.Decided registry) :
    (Schema.list item least most).Decided registry := by
  intro place checker hc v
  obtain ⟨minItems, hl, maxItems, hm, inner, hi, -, -, rfl⟩ := compileAt_list.1 hc
  simp only [Checker.accepts]
  cases hv : v.items? with
  | none =>
    refine .of_iff (iff_of_false Bool.false_ne_true fun h => ?_)
    obtain ⟨items, hv', -⟩ := accepts_list_iff.1 h
    cases hv.symm.trans hv'
  | some items =>
    have hcounts : Settles (.ok (Checker.atLeast minItems items.length &&
        Checker.atMost maxItems items.length))
        ((¬ ∃ n : Int, least = .int n ∧ items.length < n) ∧
          ¬ ∃ n : Int, most = .int n ∧ n < items.length) :=
      .of_iff (by rw [Bool.and_eq_true, atLeast_iff_not hl, atMost_iff_not hm])
    refine (hcounts.and (settles_allPass fun w _ => ih hi w)).congr ?_
    rw [accepts_list_iff]
    simp [hv, and_assoc]

theorem settles_field {name required : Value} {schema : Schema} {checker : Checker}
    {fields : List (Value × Value)}
    (h : ∀ v, Settles (checker.accepts v) (Accepts registry schema v)) :
    Settles (Checker.acceptsField ⟨name, required.truthy, checker⟩ fields)
      ((required.truthy = true → Value.lookup name fields ≠ none) ∧
        ∀ w, Value.lookup name fields = some w → Accepts registry schema w) := by
  simp only [Checker.acceptsField]
  cases Value.lookup name fields with
  | some w => exact (h w).congr (by simp)
  | none => exact .of_iff (by simp)

theorem settles_fields {values : List (Value × Value)} : ∀ {entries : List Entry}
    {fields : List FieldChecker}, compileEntries entries registry place = .ok fields →
    (∀ name schema required, .named name (.field schema required) ∈ entries →
      schema.Decided registry) →
    Settles (Checker.acceptsFields fields values)
      (∀ name schema required, .named name (.field schema required) ∈ entries →
        (required.truthy = true → Value.lookup name values ≠ none) ∧
        ∀ w, Value.lookup name values = some w → Accepts registry schema w)
  | [], _, hc, _ => by
    obtain rfl := Except.ok.inj hc
    exact .of_iff (by simp)
  | entry :: entries, _, hc, ih => by
    obtain ⟨field, hfield, others, hothers, rfl⟩ := compileEntries_cons.1 hc
    obtain ⟨name, schema, required, rfl, -, checker, hs, rfl⟩ := compileAt_entry.1 hfield
    have hfirst : Settles (Checker.acceptsField ⟨name, required.truthy, checker⟩ values) _ :=
      settles_field (ih name schema required List.mem_cons_self hs)
    have hrest : Settles (Checker.acceptsFields others values) _ :=
      settles_fields hothers fun name schema required he =>
        ih name schema required (List.mem_cons_of_mem _ he)
    refine (hfirst.and hrest).congr ⟨?_, ?_⟩
    · rintro ⟨hf, hr⟩ name' schema' required' he
      rcases List.mem_cons.1 he with he | he
      · cases he
        exact hf
      · exact hr name' schema' required' he
    · exact fun h => ⟨h name schema required List.mem_cons_self,
        fun name' schema' required' he => h name' schema' required' (List.mem_cons_of_mem _ he)⟩

theorem decided_object {entries : List Entry} {strict : Value}
    (ih : ∀ name schema required, .named name (.field schema required) ∈ entries →
      schema.Decided registry) : (Schema.object entries strict).Decided registry := by
  intro place checker hc v
  obtain ⟨fields, hf, -, -, rfl⟩ := compileAt_object.1 hc
  cases v with
  | map values =>
    have hkeys : Settles (.ok (!strict.truthy ||
        (unexpectedKeys (fields.map FieldChecker.name) values).isEmpty))
        (strict.truthy = true → ∀ key ∈ values.map (·.1), Declares entries key) := by
      refine .of_iff ?_
      simp only [unexpectedKeys, Bool.or_eq_true, Bool.not_eq_true', List.isEmpty_iff,
        List.filter_eq_nil_iff, Bool.not_eq_false, isAmong_names_iff hf]
      cases strict.truthy <;> simp
    refine ((settles_fields hf ih).and hkeys).congr ?_
    simp [accepts_object_iff]
  | _ =>
    refine .of_iff (iff_of_false Bool.false_ne_true fun h => ?_)
    obtain ⟨fields, hv, -⟩ := accepts_object_iff.1 h
    cases hv

theorem settles_options {v : Value} : ∀ {options : List Schema} {checkers : List Checker}
    {index : Nat}, compileAll options registry place index = .ok checkers →
    (∀ option ∈ options, option.Decided registry) →
    Settles (Checker.acceptsAny checkers v) (∃ option ∈ options, Accepts registry option v)
  | [], _, _, hc, _ => by
    obtain rfl := Except.ok.inj hc
    exact .of_iff (by simp)
  | option :: options, _, _, hc, ih => by
    obtain ⟨checker, hs, others, hothers, rfl⟩ := compileAll_cons.1 hc
    obtain ⟨hoption, hrest⟩ := List.forall_mem_cons.1 ih
    exact ((hoption hs v).or (settles_options hothers hrest)).congr (by simp)

end

theorem settles_accepts (registry : Registry) (schema : Schema) : schema.Decided registry := by
  induction schema using Schema.memInduction with
  | primitive kind r =>
    intro place checker hc v
    obtain ⟨kd, hk, rs, hr, rfl⟩ := compilePrimitive_eq_ok.1 hc
    exact settles_primitive hk hr v
  | literal expected =>
    intro place checker hc v
    obtain ⟨-, rfl⟩ := compileAt_literal.1 hc
    exact .of_iff accepts_literal_iff.symm
  | list item least most ih => exact decided_list ih
  | object entries strict ih => exact decided_object ih
  | union options ih =>
    intro place checker hc v
    obtain ⟨checkers, ho, rfl⟩ := compileAt_union.1 hc
    exact (settles_options ho ih).congr accepts_union_iff.symm
  | field | other => exact fun hc => nomatch hc

end Conform
