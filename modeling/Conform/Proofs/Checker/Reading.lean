import Conform.Checker
import Conform.Proofs.Outcome
import Conform.Proofs.Value.Key
import Conform.Proofs.Value.Number
import Conform.Proofs.Value.Writable

/-!
# What compilation has read

For each step of compilation, when it succeeds and with what: `readCount_eq_ok`, `readBound_eq_ok`,
`requirePattern_eq_ok` and `resolve_eq_ok` for the keywords, `compilePrimitive_eq_ok` for a
primitive node, `compileAt_literal`, `compileAt_list`, `compileAt_object`, `compileAt_union` and
their companions for the others. What is proved about compiled schemas rests on these and opens none
of the steps again.
-/

namespace Conform

/-! ## Keywords -/

theorem ofFault_requireText {v : Value} {u : Unit} :
    SchemaFailure.ofFault v.requireText = .ok u ↔ v.hasText = true :=
  SchemaFailure.ofFault_eq_ok.trans Value.requireText_eq_ok

theorem requireCount_eq_ok {keyword place : String} {v : Value} :
    requireCount keyword place v = .ok () ↔ v = .null ∨ ∃ n : Nat, v = .int n := by
  cases v with
  | null => simp [requireCount]
  | int n =>
    by_cases hn : n < 0
    · simp [requireCount, hn]
      omega
    · obtain ⟨m, rfl⟩ := Int.eq_ofNat_of_zero_le (Int.not_lt.1 hn)
      simp only [requireCount, hn, if_false, true_iff]
      exact .inr ⟨m, rfl⟩
  | _ => simp [requireCount]

theorem readCount_eq_ok {keyword place : String} {v : Value} {count : Option Nat} :
    readCount keyword place v = .ok count ↔
      (v = .null ∧ count = none) ∨ ∃ n : Nat, v = .int n ∧ count = some n := by
  unfold readCount
  rw [bind_eq_ok]
  constructor
  · rintro ⟨⟨⟩, h, hc⟩
    rcases requireCount_eq_ok.1 h with rfl | ⟨n, rfl⟩
    · exact .inl ⟨rfl, (Except.ok.inj hc).symm⟩
    · exact .inr ⟨n, rfl, (Except.ok.inj hc).symm⟩
  · rintro (⟨rfl, rfl⟩ | ⟨n, rfl, rfl⟩)
    · exact ⟨(), rfl, rfl⟩
    · exact ⟨(), requireCount_eq_ok.2 (.inr ⟨n, rfl⟩), rfl⟩

/-- Whether a count is refused does not depend on its name and place. -/
theorem requireCount_of_read {keyword place keyword' place' : String} {v : Value}
    {count : Option Nat} (h : readCount keyword place v = .ok count) :
    requireCount keyword' place' v = .ok () := by
  obtain ⟨⟨⟩, hr, -⟩ := bind_eq_ok.1 h
  exact requireCount_eq_ok.2 (requireCount_eq_ok.1 hr)

theorem readBound_eq_ok {keyword place : String} {v : Value} {bound : Option Value} :
    readBound keyword place v = .ok bound ↔
      (v = .null ∧ bound = none) ∨
        (((∃ n, v = .int n) ∨ ∃ x, v = .float x) ∧ bound = some v) := by
  cases v <;> simp [readBound, requireBound, Value.isNull, eq_comm]

theorem requireBound_of_read {keyword place keyword' place' : String} {v : Value}
    {bound : Option Value} (h : readBound keyword place v = .ok bound) :
    requireBound keyword' place' v = .ok () := by
  rcases readBound_eq_ok.1 h with ⟨rfl, -⟩ | ⟨⟨n, rfl⟩ | ⟨x, rfl⟩, -⟩ <;> rfl

theorem requireKind_eq_ok {kind : KindRef} {k : Kind} :
    requireKind kind = .ok k ↔ kind.kind? = some k := by
  unfold requireKind
  cases kind.kind? <;> simp

theorem whenGiven_eq_ok {α : Type} {v : Value} {check : Value → Except SchemaFailure α}
    {o : Option α} : whenGiven v check = .ok o ↔
      (v = .null ∧ o = none) ∨ (v ≠ .null ∧ ∃ a, check v = .ok a ∧ some a = o) := by
  unfold whenGiven
  split
  · rename_i h
    simp [Value.isNull_iff.1 h, eq_comm]
  · rename_i h
    simp [bind_eq_ok, mt Value.isNull_iff.2 h]

theorem requirePattern_eq_ok {v : Value} {text : String} {program : Pattern.Program} :
    requirePattern v = .ok (text, program) ↔
      v = .str text ∧ Pattern.compile text = .ok program := by
  cases v with
  | str s =>
    simp only [requirePattern, Value.str.injEq]
    constructor
    · intro h
      split at h <;> cases h
      exact ⟨rfl, by assumption⟩
    · rintro ⟨rfl, h⟩
      simp [h]
  | _ => simp [requirePattern]

theorem resolve_eq_ok {registry : Registry} {v : Value} {format : Format} :
    registry.resolve v = .ok format ↔
      ∃ name, v = .str name ∧ registry.find? name = some format := by
  constructor
  · intro h
    unfold Registry.resolve at h
    split at h
    · cases h
    · split at h
      · split at h <;> cases h
        exact ⟨_, rfl, by assumption⟩
      · cases h
  · rintro ⟨name, rfl, h⟩
    simp [Registry.resolve, Value.isKey, h]

/-! ## Primitive nodes -/

theorem Refinements.ofString_eq_ok {r : Refinements} {registry : Registry} {place : String}
    {refinements : List Refinement} :
    r.ofString registry place = .ok refinements ↔
      ∃ least, readCount "min_length" place r.minLength = .ok least ∧
      ∃ most, readCount "max_length" place r.maxLength = .ok most ∧
        r.minLength.hasText = true ∧ r.maxLength.hasText = true ∧
      ∃ pattern, whenGiven r.pattern requirePattern = .ok pattern ∧
      ∃ format, whenGiven r.format registry.resolve = .ok format ∧
        (least.map .minLength).toList ++ (most.map .maxLength).toList ++
          (pattern.map fun (text, program) => .pattern text program).toList ++
          (format.map fun format => .format r.format.text format).toList = refinements := by
  simp only [Refinements.ofString, bind_eq_ok, ofFault_requireText, exists_const, Except.ok.injEq]

theorem Refinements.ofNumber_eq_ok {r : Refinements} {place : String}
    {refinements : List Refinement} :
    r.ofNumber place = .ok refinements ↔
      ∃ least, readBound "minimum" place r.minimum = .ok least ∧
      ∃ most, readBound "maximum" place r.maximum = .ok most ∧
        r.minimum.hasText = true ∧ r.maximum.hasText = true ∧
        (least.map .minimum).toList ++ (most.map .maximum).toList = refinements := by
  simp only [Refinements.ofNumber, bind_eq_ok, ofFault_requireText, exists_const, Except.ok.injEq]

/-- The refinements that compilation reads for a kind. -/
def Refinements.ofKind (r : Refinements) (registry : Registry) (place : String) :
    Kind → Except SchemaFailure (List Refinement)
  | .string => r.ofString registry place
  | .number => r.ofNumber place
  | _ => .ok []

theorem compilePrimitive_eq_ok {kind : KindRef} {r : Refinements} {registry : Registry}
    {place : String} {checker : Checker} :
    compilePrimitive kind r registry place = .ok checker ↔
      ∃ k, kind.kind? = some k ∧ ∃ refinements, r.ofKind registry place k = .ok refinements ∧
        .primitive k refinements = checker := by
  simp only [compilePrimitive, bind_eq_ok, requireKind_eq_ok]
  refine exists_congr fun k => and_congr_right fun _ => ?_
  cases k with
  | string | number => simp only [Refinements.ofKind, bind_eq_ok, Except.ok.injEq]
  | boolean | null => simp [Refinements.ofKind]

/-! ## The other nodes -/

/-- Strings differ as keys if they differ. -/
theorem areDistinct_str_iff : ∀ {names : List String},
    areDistinct (names.map .str) = true ↔ names.Nodup
  | [] => by simp [areDistinct]
  | name :: names => by
    have hmem : (Value.str name).isAmong (names.map .str) = true ↔ name ∈ names := by
      simp [Value.isAmong_str_iff]
    rw [List.map_cons, areDistinct, Bool.and_eq_true, areDistinct_str_iff, List.nodup_cons,
      Bool.not_eq_true', ← Bool.not_eq_true, hmem]

/-- Between keys it does not matter which of the two is looked for. -/
theorem areDistinct_iff_keysDiffer : ∀ {names : List Value}, names.all Value.isKey = true →
    (areDistinct names = true ↔ Value.KeysDiffer names)
  | [], _ => iff_of_true rfl .nil
  | name :: names, hk => by
    rw [List.all_cons, Bool.and_eq_true] at hk
    rw [Value.KeysDiffer, List.pairwise_cons, ← Value.KeysDiffer, ← areDistinct_iff_keysDiffer hk.2,
      areDistinct, Bool.and_eq_true, Bool.not_eq_true', Value.isAmong, List.any_eq_false]
    refine and_congr_left fun _ => forall₂_congr fun later _ => ?_
    rw [Bool.not_eq_true, Value.same_comm (.inl hk.1)]

/-- Fields are put together if their names can be keys and no two coincide. -/
theorem assemble_eq_ok {fields : List FieldChecker} {strict : Bool} {place : String}
    {checker : Checker} :
    assemble fields strict place = .ok checker ↔
      (fields.map FieldChecker.name).all Value.isKey = true ∧
        areDistinct (fields.map FieldChecker.name) = true ∧ .object fields strict = checker := by
  simp only [assemble]
  cases (fields.map FieldChecker.name).all Value.isKey with
  | false => simp
  | true => cases areDistinct (fields.map FieldChecker.name) <;> simp

section
variable {registry : Registry} {place : String}

theorem compileAt_literal {value : Value} {checker : Checker} :
    (Schema.literal value).compileAt registry place = .ok checker ↔
      value.hasText = true ∧ .literal value = checker := by
  simp only [Schema.compileAt, bind_eq_ok, ofFault_requireText, exists_const, Except.ok.injEq]

theorem compileAt_list {item : Schema} {minItems maxItems : Value} {checker : Checker} :
    (Schema.list item minItems maxItems).compileAt registry place = .ok checker ↔
      ∃ least, readCount "min_items" place minItems = .ok least ∧
      ∃ most, readCount "max_items" place maxItems = .ok most ∧
      ∃ inner, item.compileAt registry (place ++ "/items") = .ok inner ∧
        minItems.hasText = true ∧ maxItems.hasText = true ∧
        .list inner least most = checker := by
  simp only [Schema.compileAt, bind_eq_ok, ofFault_requireText, exists_const, Except.ok.injEq]

theorem compileAt_object {entries : List Entry} {strict : Value} {checker : Checker} :
    (Schema.object entries strict).compileAt registry place = .ok checker ↔
      ∃ fields, compileEntries entries registry place = .ok fields ∧
        (fields.map FieldChecker.name).all Value.isKey = true ∧
        areDistinct (fields.map FieldChecker.name) = true ∧
        .object fields strict.truthy = checker := by
  simp only [Schema.compileAt, bind_eq_ok, assemble_eq_ok]

theorem compileEntries_cons {entry : Entry} {rest : List Entry} {fields : List FieldChecker} :
    compileEntries (entry :: rest) registry place = .ok fields ↔
      ∃ field, entry.compileAt registry place = .ok field ∧
      ∃ others, compileEntries rest registry place = .ok others ∧ field :: others = fields := by
  simp only [compileEntries, bind_eq_ok, Except.ok.injEq]

/-- Only a name with a field node is a field. -/
theorem compileAt_entry {entry : Entry} {field : FieldChecker} :
    entry.compileAt registry place = .ok field ↔
      ∃ name schema required, entry = .named name (.field schema required) ∧
        name.hasText = true ∧
      ∃ checker, schema.compileAt registry (place ++ "/properties/" ++ name.text) = .ok checker ∧
        ⟨name, required.truthy, checker⟩ = field := by
  constructor
  · intro h
    unfold Entry.compileAt at h
    split at h
    · rename_i name schema required
      obtain ⟨⟨⟩, hname, h⟩ := bind_eq_ok.1 h
      obtain ⟨checker, hc, h⟩ := bind_eq_ok.1 h
      exact ⟨name, schema, required, rfl, ofFault_requireText.1 hname, checker, hc,
        Except.ok.inj h⟩
    · cases h
    · split at h <;> cases h
  · rintro ⟨name, schema, required, rfl, hname, checker, hc, rfl⟩
    simp [Entry.compileAt, Value.requireText, hname, hc]

/-- The names of the entries are those of the fields. -/
theorem fieldNames_of_compile : ∀ {entries : List Entry} {fields : List FieldChecker},
    compileEntries entries registry place = .ok fields →
      Schema.fieldNames entries = .ok (fields.map FieldChecker.name)
  | [], _, h => by cases h; rfl
  | entry :: entries, _, h => by
    obtain ⟨field, hf, fields, hfs, rfl⟩ := compileEntries_cons.1 h
    obtain ⟨name, schema, required, rfl, -, checker, -, rfl⟩ := compileAt_entry.1 hf
    have ih : entries.mapM _ = Except.ok _ := fieldNames_of_compile hfs
    simp only [Schema.fieldNames, List.mapM_cons, ih]
    rfl

theorem compileAt_union {options : List Schema} {checker : Checker} :
    (Schema.union options).compileAt registry place = .ok checker ↔
      ∃ checkers, compileAll options registry (place ++ "/anyOf/") 0 = .ok checkers ∧
        .union checkers = checker := by
  simp only [Schema.compileAt, bind_eq_ok, Except.ok.injEq]

theorem compileAll_cons {option : Schema} {rest : List Schema} {index : Nat}
    {checkers : List Checker} :
    compileAll (option :: rest) registry place index = .ok checkers ↔
      ∃ checker, option.compileAt registry (place ++ toString index) = .ok checker ∧
      ∃ others, compileAll rest registry place (index + 1) = .ok others ∧
        checker :: others = checkers := by
  simp only [compileAll, bind_eq_ok, Except.ok.injEq]

end

end Conform
