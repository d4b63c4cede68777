import Conform.Proofs.Checker.Decided

/-!
# What is reported

`reportsExactly`: in whatever a compiled checker lists there is a violation of a kind at a path
exactly if the value has it (`Schema.Violates`). One lemma for each part of a report says what is in
it: refinements, counts, items, fields, undeclared keys. The induction is over the schema. It does
not go into unions, of which only the verdict is asked, and a verdict is whether the value is
accepted (`settles_accepts`).

A test of a pattern or a format may fail, and then there is no report. Nothing has to be said about
when this is so: the theorem is about every report that there is.
-/

namespace Conform

open Schema

/-- A violation of the kind is reported at the path. -/
def Reported (violations : List Violation) (path : Pointer.Path) (kind : ViolationKind) : Prop :=
  ∃ v ∈ violations, v.path = path ∧ v.kind = kind

section
variable {q path : Pointer.Path} {k : ViolationKind} {registry : Registry}

theorem not_reported_nil : ¬ Reported [] q k := nofun

theorem reported_append {l l' : List Violation} :
    Reported (l ++ l') q k ↔ Reported l q k ∨ Reported l' q k := by
  simp only [Reported, List.mem_append, or_and_right, exists_or]

theorem reported_of {kind : ViolationKind} {detail : Value} :
    Reported [.of path kind detail] q k ↔ path = q ∧ k = kind := by
  simp [Reported, Violation.of, eq_comm]

theorem reported_unless {holds : Bool} {kind : ViolationKind} {detail : Value} :
    Reported (violationUnless holds path kind detail) q k ↔
      path = q ∧ k = kind ∧ holds = false := by
  cases holds with
  | true => simp [violationUnless, Reported]
  | false => simp only [violationUnless, Bool.false_eq_true, if_false, reported_of, and_true]

/-! ## Parts of a node -/

theorem reported_violations {v : Value} : ∀ {rs : List Refinement} {violations : List Violation},
    Refinement.violations rs v path = .ok violations →
      (Reported violations q k ↔ path = q ∧ Refuses rs v k)
  | [], _, h => by
    obtain rfl := Except.ok.inj h
    exact iff_of_false not_reported_nil fun h => refuses_nil h.2
  | ρ :: rs, _, h => by
    obtain ⟨holds, hholds, h⟩ := bind_eq_ok.1 h
    obtain ⟨others, hothers, h⟩ := bind_eq_ok.1 h
    obtain rfl := Except.ok.inj h
    rw [reported_append, reported_unless, reported_violations hothers, refuses_cons, hholds,
      Except.ok.injEq, and_or_left]

theorem reported_counts {keyword keyword' place place' : String} {least most : Value}
    {minItems maxItems : Option Nat} (hl : readCount keyword place least = .ok minItems)
    (hm : readCount keyword' place' most = .ok maxItems) {m : Nat} :
    Reported (Checker.countViolations minItems maxItems m path) q k ↔
      path = q ∧ ((k = .tooFewItems ∧ ∃ n : Int, least = .int n ∧ m < n) ∨
        (k = .tooManyItems ∧ ∃ n : Int, most = .int n ∧ n < m)) := by
  have hleast : Checker.atLeast minItems m = false ↔ ∃ n : Int, least = .int n ∧ m < n := by
    rw [← Bool.not_eq_true, atLeast_iff_not hl, not_not]
  have hmost : Checker.atMost maxItems m = false ↔ ∃ n : Int, most = .int n ∧ n < m := by
    rw [← Bool.not_eq_true, atMost_iff_not hm, not_not]
  simp only [Checker.countViolations, reported_append, reported_unless, hleast, hmost,
    ← and_or_left]

theorem reported_unexpected {declared : List Value} {fields : List (Value × Value)} :
    Reported ((unexpectedKeys declared fields).map fun key =>
        .of (path ++ [key]) .unexpectedProperty .null) q k ↔
      k = .unexpectedProperty ∧ ∃ key ∈ fields.map (·.1), key.isAmong declared = false ∧
        path ++ [key] = q := by
  simp only [Reported, unexpectedKeys, List.mem_map, List.mem_filter, Bool.not_eq_true']
  constructor
  · rintro ⟨_, ⟨key, ⟨hkey, hdeclared⟩, rfl⟩, rfl, rfl⟩
    exact ⟨rfl, key, hkey, hdeclared, rfl⟩
  · rintro ⟨rfl, key, hkey, hdeclared, rfl⟩
    exact ⟨_, ⟨key, ⟨hkey, hdeclared⟩, rfl⟩, rfl, rfl⟩

/-! ## Parts below a node -/

/-- Whatever the checker lists are the violations of the value, below the path that it was given. -/
def Reports (registry : Registry) (schema : Schema) (checker : Checker) : Prop :=
  ∀ {v : Value} {path : Pointer.Path} {violations : List Violation},
    checker.collect v path = .ok violations → ∀ q k,
      (Reported violations q k ↔ ∃ rel, q = path ++ rel ∧ Violates registry schema v rel k)

/-- So it is with every checker that is compiled from the schema. -/
def ReportsExactly (registry : Registry) (schema : Schema) : Prop :=
  ∀ {place : String} {checker : Checker}, schema.compileAt registry place = .ok checker →
    Reports registry schema checker

theorem reported_items {item : Schema} {inner : Checker} (ih : Reports registry item inner) :
    ∀ {items : List Value} {start : Nat} {violations : List Violation},
      collectFrom (fun index w => inner.collect w (path ++ [.int index])) start items =
        .ok violations →
      (Reported violations q k ↔ ∃ (i : Nat) (w : Value), items[i]? = some w ∧
        ∃ rest, q = path ++ .int (start + i : Nat) :: rest ∧ Violates registry item w rest k)
  | [], _, _, h => by
    obtain rfl := Except.ok.inj h
    simp [Reported]
  | v :: items, start, _, h => by
    obtain ⟨found, hfound, h⟩ := bind_eq_ok.1 h
    obtain ⟨others, hothers, h⟩ := bind_eq_ok.1 h
    obtain rfl := Except.ok.inj h
    have hshift (i : Nat) : start + (i + 1) = start + 1 + i := by omega
    rw [reported_append, ih hfound q k, reported_items ih hothers]
    simp only [List.append_assoc, List.singleton_append]
    constructor
    · rintro (hv | ⟨i, w, hi, hw⟩)
      · exact ⟨0, v, rfl, hv⟩
      · exact ⟨i + 1, w, hi, by rwa [hshift]⟩
    · rintro ⟨i, w, hi, hw⟩
      cases i with
      | zero =>
        obtain rfl := Option.some.inj hi
        exact .inl hw
      | succ i =>
        rw [hshift] at hw
        exact .inr ⟨i, w, hi, hw⟩

/-- A field has a violation: there is no value for it, though it is required, or its value has one.
-/
def FieldViolates (registry : Registry) (values : List (Value × Value)) (path : Pointer.Path)
    (name required : Value) (schema : Schema) (q : Pointer.Path) (k : ViolationKind) : Prop :=
  (path ++ [name] = q ∧ k = .missingRequired ∧ required.truthy = true ∧
      Value.lookup name values = none) ∨
    ∃ w, Value.lookup name values = some w ∧ ∃ rest, q = path ++ name :: rest ∧
      Violates registry schema w rest k

theorem reported_field {name required : Value} {schema : Schema} {checker : Checker}
    {values : List (Value × Value)} {found : List Violation} (ih : Reports registry schema checker)
    (h : Checker.collectField ⟨name, required.truthy, checker⟩ values path = .ok found) :
    Reported found q k ↔ FieldViolates registry values path name required schema q k := by
  unfold Checker.collectField at h
  cases hw : Value.lookup name values with
  | some w =>
    rw [hw] at h
    simp [FieldViolates, hw, ih h q k]
  | none =>
    rw [hw] at h
    obtain rfl := Except.ok.inj h
    simp [FieldViolates, hw, reported_unless]

/-- The fields are all gone through, whatever there is to report on the others. -/
theorem reported_fields {place : String} {values : List (Value × Value)} :
    ∀ {entries : List Entry} {fields : List FieldChecker} {violations : List Violation},
      compileEntries entries registry place = .ok fields →
      (∀ name schema required, .named name (.field schema required) ∈ entries →
        ReportsExactly registry schema) →
      Checker.collectFields fields values path = .ok violations →
      (Reported violations q k ↔
        ∃ name schema required, .named name (.field schema required) ∈ entries ∧
          FieldViolates registry values path name required schema q k)
  | [], _, _, hc, _, h => by
    obtain rfl := Except.ok.inj hc
    obtain rfl := Except.ok.inj h
    simp [Reported]
  | entry :: entries, _, _, hc, ih, h => by
    obtain ⟨field, hfield, fields, hfields, rfl⟩ := compileEntries_cons.1 hc
    obtain ⟨name, schema, required, rfl, -, checker, hs, rfl⟩ := compileAt_entry.1 hfield
    obtain ⟨found, hfound, h⟩ := bind_eq_ok.1 h
    obtain ⟨others, hothers, h⟩ := bind_eq_ok.1 h
    obtain rfl := Except.ok.inj h
    have hschema : Reports registry schema checker := ih name schema required List.mem_cons_self hs
    have hschemas : ∀ name schema required, .named name (.field schema required) ∈ entries →
        ReportsExactly registry schema := fun name schema required he =>
      ih name schema required (List.mem_cons_of_mem _ he)
    rw [reported_append, reported_field hschema hfound, reported_fields hfields hschemas hothers]
    constructor
    · rintro (hv | ⟨name', schema', required', he, hv⟩)
      · exact ⟨name, schema, required, List.mem_cons_self, hv⟩
      · exact ⟨name', schema', required', List.mem_cons_of_mem _ he, hv⟩
    · rintro ⟨name', schema', required', he, hv⟩
      rcases List.mem_cons.1 he with he | he
      · cases he
        exact .inl hv
      · exact .inr ⟨name', schema', required', he, hv⟩

variable {violations : List Violation} {entries : List Entry}

/-! ## Whole schemas -/

/-- What is reported at the path of a node without keys and without anything below it. -/
theorem reported_leaf {schema : Schema} {v : Value} (hk : ∀ name, ¬ FailsKey schema v name k)
    (hs : ∀ key inner w, ¬ Step schema v key inner w)
    (h : Reported violations q k ↔ path = q ∧ Fails registry schema v k) :
    Reported violations q k ↔ ∃ rel, q = path ++ rel ∧ Violates registry schema v rel k := by
  simp only [h, violates_leaf_iff hk hs]
  constructor
  · rintro ⟨rfl, hf⟩
    exact ⟨[], by simp, rfl, hf⟩
  · rintro ⟨_, rfl, rfl, hf⟩
    exact ⟨by simp, hf⟩

theorem reported_own_leaf {schema : Schema} {v : Value}
    (hu : ∀ options, schema ≠ .union options) (hk : ∀ name, ¬ FailsKey schema v name k)
    (hs : ∀ key inner w, ¬ Step schema v key inner w)
    (h : Reported violations q k ↔ path = q ∧ FailsOwn registry schema v k) :
    Reported violations q k ↔ ∃ rel, q = path ++ rel ∧ Violates registry schema v rel k := by
  rw [← fails_node_iff hu] at h
  exact reported_leaf hk hs h

theorem reported_no_items {item : Schema} {least most v detail : Value} (hv : v.items? = none) :
    Reported [.of path .typeMismatch detail] q k ↔ ∃ rel, q = path ++ rel ∧
      Violates registry (.list item least most) v rel k := by
  refine reported_own_leaf (fun _ h => nomatch h) (fun _ h => nomatch h) (fun _ _ _ hs => ?_) ?_
  · cases hs with
    | item hv' _ => cases hv.symm.trans hv'
  · rw [reported_of]
    constructor
    · rintro ⟨rfl, rfl⟩
      exact ⟨rfl, .array hv⟩
    · rintro ⟨rfl, h⟩
      cases h with
      | array => exact ⟨rfl, rfl⟩
      | minItems hv' | maxItems hv' => cases hv.symm.trans hv'

theorem reported_no_object {strict v detail : Value} (hv : v.isObject = false) :
    Reported [.of path .typeMismatch detail] q k ↔ ∃ rel, q = path ++ rel ∧
      Violates registry (.object entries strict) v rel k := by
  have hmap : ∀ fields, v ≠ .map fields := by
    rintro fields rfl
    cases hv
  refine reported_own_leaf (fun _ h => nomatch h) (fun _ h => ?_) (fun _ _ _ h => ?_) ?_
  · cases h <;> exact hmap _ rfl
  · cases h
    exact hmap _ rfl
  · rw [reported_of]
    constructor
    · rintro ⟨rfl, rfl⟩
      exact ⟨rfl, .object hv⟩
    · rintro ⟨rfl, ⟨⟩⟩
      exact ⟨rfl, rfl⟩

theorem reportsExactly_primitive (kind : KindRef) (r : Refinements) :
    ReportsExactly registry (.primitive kind r) := by
  intro place checker hc v path violations h q k
  obtain ⟨kd, hk, rs, hr, rfl⟩ := compilePrimitive_eq_ok.1 hc
  refine reported_own_leaf (fun _ h => nomatch h) (fun _ h => nomatch h)
    (fun _ _ _ h => nomatch h) ?_
  rw [Checker.collect] at h
  cases hv : kd.includes v with
  | true =>
    rw [hv, if_pos rfl] at h
    rw [reported_violations h, failsOwn_iff_refuses hk hr hv]
  | false =>
    rw [hv, if_neg Bool.false_ne_true] at h
    obtain rfl := Except.ok.inj h
    rw [reported_of, failsOwn_of_not_includes hk hv]

theorem reportsExactly_literal (expected : Value) :
    ReportsExactly registry (.literal expected) := by
  intro place checker hc v path violations h q k
  obtain ⟨-, rfl⟩ := compileAt_literal.1 hc
  refine reported_own_leaf (fun _ h => nomatch h) (fun _ h => nomatch h)
    (fun _ _ _ h => nomatch h) ?_
  obtain rfl := Except.ok.inj h
  rw [reported_unless]
  constructor
  · rintro ⟨rfl, rfl, hv⟩
    exact ⟨rfl, .literal hv⟩
  · rintro ⟨rfl, h⟩
    cases h with
    | literal hv => exact ⟨rfl, rfl, hv⟩

theorem reportsExactly_list {item : Schema} {least most : Value}
    (ih : ReportsExactly registry item) : ReportsExactly registry (.list item least most) := by
  intro place checker hc v path violations h q k
  obtain ⟨minItems, hl, maxItems, hm, inner, hi, -, -, rfl⟩ := compileAt_list.1 hc
  rw [Checker.collect] at h
  cases hv : v.items? with
  | none =>
    rw [hv] at h
    obtain rfl := Except.ok.inj h
    exact reported_no_items hv
  | some items =>
    rw [hv] at h
    obtain ⟨found, hfound, h⟩ := bind_eq_ok.1 h
    obtain rfl := Except.ok.inj h
    simp only [reported_append, reported_counts hl hm, reported_items (ih hi) hfound,
      violates_items_iff hv, failsOwn_list_iff hv, Nat.zero_add]
    constructor
    · rintro (⟨rfl, hf⟩ | ⟨i, w, hw, rest, rfl, hviolates⟩)
      · exact ⟨[], by simp, .inl ⟨rfl, hf⟩⟩
      · exact ⟨.int i :: rest, rfl, .inr ⟨i, w, hw, rest, rfl, hviolates⟩⟩
    · rintro ⟨_, rfl, ⟨rfl, hf⟩ | ⟨i, w, hw, rest, rfl, hviolates⟩⟩
      · exact .inl ⟨by simp, hf⟩
      · exact .inr ⟨i, w, hw, rest, rfl, hviolates⟩

theorem reportsExactly_object {strict : Value}
    (ih : ∀ name schema required, .named name (.field schema required) ∈ entries →
      ReportsExactly registry schema) : ReportsExactly registry (.object entries strict) := by
  intro place checker hc v path violations h q k
  obtain ⟨fields, hf, -, -, rfl⟩ := compileAt_object.1 hc
  cases v with
  | map values =>
    rw [Checker.collect] at h
    obtain ⟨found, hfound, h⟩ := bind_eq_ok.1 h
    obtain rfl := Except.ok.inj h
    have hunexpected : Reported ((if strict.truthy then
          unexpectedKeys (fields.map FieldChecker.name) values else []).map fun key =>
            .of (path ++ [key]) .unexpectedProperty .null) q k ↔
        strict.truthy = true ∧ k = .unexpectedProperty ∧
          ∃ key ∈ values.map (·.1), ¬ Declares entries key ∧ path ++ [key] = q := by
      cases strict.truthy with
      | false => simp [Reported]
      | true => simp [reported_unexpected, ← isAmong_names_iff hf]
    rw [reported_append, reported_fields hf ih hfound, hunexpected]
    simp only [violates_fields_iff]
    constructor
    -- what is reported comes from one field, or from an undeclared key
    · rintro (⟨name, schema, required, he, ⟨rfl, rfl, hreq, hw⟩ | ⟨w, hw, rest, rfl, hv⟩⟩ |
        ⟨hs, rfl, key, hkey, hd, rfl⟩)
      · exact ⟨[name], rfl, .inl ⟨name, rfl, .missing he hreq hw⟩⟩
      · exact ⟨name :: rest, rfl, .inr ⟨name, schema, required, he, w, hw, rest, rfl, hv⟩⟩
      · exact ⟨[key], rfl, .inl ⟨key, rfl, .unexpected hs hkey hd⟩⟩
    · rintro ⟨_, rfl, ⟨name, rfl, hf⟩ | ⟨name, schema, required, he, w, hw, rest, rfl, hv⟩⟩
      · cases hf with
        | missing he hreq hw => exact .inl ⟨name, _, _, he, .inl ⟨rfl, rfl, hreq, hw⟩⟩
        | unexpected hs hkey hd => exact .inr ⟨hs, rfl, name, hkey, hd, rfl⟩
      · exact .inl ⟨name, schema, required, he, .inr ⟨w, hw, rest, rfl, hv⟩⟩
  | _ =>
    obtain rfl := Except.ok.inj h
    exact reported_no_object rfl

/-- A union is reported if its verdict is that no option accepts. -/
theorem reportsExactly_union (options : List Schema) :
    ReportsExactly registry (.union options) := by
  intro place checker hc v path violations h q k
  obtain ⟨checkers, ho, rfl⟩ := compileAt_union.1 hc
  refine reported_leaf (fun _ h => nomatch h) (fun _ _ _ h => nomatch h) ?_
  obtain ⟨accepted, ha, h⟩ := bind_eq_ok.1 h
  obtain rfl := Except.ok.inj h
  have haccepted : accepted = true ↔ Accepts registry (.union options) v :=
    settles_accepts registry (.union options) hc v accepted ha
  rw [fails_union_iff, ← haccepted, reported_unless, Bool.not_eq_true]

theorem reportsExactly (registry : Registry) (schema : Schema) :
    ReportsExactly registry schema := by
  induction schema using Schema.memInduction with
  | primitive kind r => exact reportsExactly_primitive kind r
  | literal expected => exact reportsExactly_literal expected
  | list item least most ih => exact reportsExactly_list ih
  | object entries strict ih => exact reportsExactly_object ih
  | union options => exact reportsExactly_union options
  | field | other => exact fun hc => nomatch hc

end

/-- There is a report on a value unless a pattern or a format fails on a part of it. In whatever is
reported there is a violation exactly if the value has it: if a constraint fails of a node that the
path leads to, or one about a key of an object that the path leads to but for the key. -/
theorem Validator.reported_errors_iff {schema : Schema} {registry : Registry}
    {validator : Validator} (hv : Validator.ofSchema schema registry = .ok validator)
    (value : Value) :
    ((∀ fault, ¬ Undecided validator.checker.refinements value fault) →
      ∃ violations, validator.errors value = .ok violations) ∧
    ∀ violations, validator.errors value = .ok violations → ∀ path kind,
      Reported violations path kind ↔
        (∃ node w, Reaches schema value path node w ∧ Fails registry node w kind) ∨
        ∃ above node w name, path = above ++ [name] ∧ Reaches schema value above node w ∧
          FailsKey node w name kind := by
  obtain ⟨checker, hc, hv⟩ := bind_eq_ok.1 hv
  obtain rfl := Except.ok.inj hv
  refine ⟨fun hdecided => ?_, fun violations hcollect path kind => ?_⟩
  · cases hcollect : checker.collect value [] with
    | ok violations => exact ⟨violations, hcollect⟩
    | error fault =>
      exact absurd ((checker.agree value []).cause_of_report fault hcollect) (hdecided fault)
  rw [reportsExactly registry schema hc hcollect path kind]
  constructor
  · rintro ⟨_, rfl, ⟨hr, hf⟩ | ⟨hr, hf⟩⟩
    · exact .inl ⟨_, _, hr, hf⟩
    · exact .inr ⟨_, _, _, _, rfl, hr, hf⟩
  · rintro (⟨node, w, hr, hf⟩ | ⟨above, node, w, name, rfl, hr, hf⟩)
    · exact ⟨path, rfl, .node hr hf⟩
    · exact ⟨above ++ [name], rfl, .key hr hf⟩

theorem Validator.reported_errors_account : ∃ validator,
    Validator.ofSchema accountSchema .standard = .ok validator ∧
    ∃ violations, validator.errors accountValue = .ok violations ∧
      (∀ path kind, Reported violations path kind ↔
        (∃ node w, Reaches accountSchema accountValue path node w ∧
          Fails .standard node w kind) ∨
        ∃ above node w name, path = above ++ [name] ∧
          Reaches accountSchema accountValue above node w ∧ FailsKey node w name kind) ∧
      violations.map (fun v => (v.pointer, v.kind)) =
        [("/name", .lengthTooShort), ("/name", .patternMismatch), ("/born", .formatInvalid),
          ("/roles/1", .noAlternativeMatched), ("/age", .unexpectedProperty)] := by
  obtain ⟨validator, hv, ha⟩ := account_answers
  obtain ⟨hreturns, hreported⟩ := Validator.reported_errors_iff hv accountValue
  obtain ⟨violations, he⟩ := hreturns fun fault => Undecided.of_decides ha.decides
  exact ⟨validator, hv, violations, he, hreported violations he, account_violations hv he⟩

end Conform
