import Conform.Proofs.Checker.Reading
import Conform.Proofs.Schema.Induction
import Conform.Proofs.Schema.Nodes

/-!
# Why a schema is refused

`Schema.Refused` says what can be wrong with a single node, and how it is reported: a node of a sort
that may not stand there, a keyword whose value is not allowed, an entry that is no field, names
that no object can have. Nodes below it do not matter. `Schema.shown` are the values of a node that
appear in messages. When a schema does not compile, one of its nodes is refused or shows a value
that has no text, and compilation failed with the reason for it (`Schema.FailsWith`,
`exists_failsWith`); the place in the message is the spelling of the path to the node. An error that
would show a value without a text cannot be written, and compilation fails with the fault of writing
it (`SchemaFailure.written`).
-/

namespace Conform

/-! ## Keywords -/

/-- A count is absent or a natural number. -/
def CountAllowed (v : Value) : Prop := v = .null ∨ ∃ n : Nat, v = .int n

/-- A bound is absent or a number. -/
def BoundAllowed (v : Value) : Prop := v = .null ∨ (∃ n, v = .int n) ∨ ∃ x, v = .float x

/-- What is wrong with the value of `pattern`. -/
inductive PatternRefused : Value → SchemaFailure → Prop
  | notText {v : Value} : v ≠ .null → (∀ s, v ≠ .str s) →
      PatternRefused v (.schema (.patternNotText v))
  | invalid {s : String} {error : Pattern.SyntaxError} :
      Pattern.compile s = .error (.invalid error) →
      PatternRefused (.str s) (.schema (.badPattern s error))
  | excess {s : String} {excess : Pattern.Excess} : Pattern.compile s = .error (.excess excess) →
      PatternRefused (.str s) (.fault excess.fault)

/-- What is wrong with the value of `format`. -/
inductive FormatRefused (registry : Registry) : Value → SchemaFailure → Prop
  | noKey {v : Value} : v.isKey = false → FormatRefused registry v (.fault .wrongType)
  | unknown {v : Value} : v ≠ .null → v.isKey = true →
      (∀ name format, v = .str name → registry.find? name ≠ some format) →
      FormatRefused registry v (.schema (.unknownFormat v registry.names))

/-! ## Nodes -/

/-- Why an entry of an object at a place is no field. -/
inductive Entry.Refused (place : String) : Entry → SchemaFailure → Prop
  | notField {name : Value} {node : Schema} : (∀ schema required, node ≠ .field schema required) →
      Refused place (.named name node) (.schema (.notField name (some place) node))
  | notFieldPair {v name node : Value} : v.pair = .ok (name, node) →
      Refused place (.other v) (.schema (.notField name (some place) (.other node)))
  | notPair {v : Value} {fault : Fault} : v.pair = .error fault →
      Refused place (.other v) (.schema (.notPairs place))

/-- Why a node at a place is refused, whatever is below it. -/
inductive Schema.Refused (registry : Registry) (place : String) : Schema → SchemaFailure → Prop
  | misplaced (schema : Schema) (required : Value) :
      Refused registry place (.field schema required) (.schema (.misplacedOptional place))
  | unknown (v : Value) :
      Refused registry place (.other v) (.schema (.unknownNode (some place) (.other v)))
  | kind {kind : KindRef} {r : Refinements} : kind.kind? = none →
      Refused registry place (.primitive kind r) (.schema (.unknownKind kind))
  | length {kind : KindRef} {r : Refinements} {keyword : String} {v : Value} :
      kind.kind? = some .string →
      (keyword, v) ∈ [("min_length", r.minLength), ("max_length", r.maxLength)] →
      ¬ CountAllowed v →
      Refused registry place (.primitive kind r) (.schema (.badCount keyword place v))
  | pattern {kind : KindRef} {r : Refinements} {failure : SchemaFailure} :
      kind.kind? = some .string → PatternRefused r.pattern failure →
      Refused registry place (.primitive kind r) failure
  | format {kind : KindRef} {r : Refinements} {failure : SchemaFailure} :
      kind.kind? = some .string → FormatRefused registry r.format failure →
      Refused registry place (.primitive kind r) failure
  | bound {kind : KindRef} {r : Refinements} {keyword : String} {v : Value} :
      kind.kind? = some .number →
      (keyword, v) ∈ [("minimum", r.minimum), ("maximum", r.maximum)] → ¬ BoundAllowed v →
      Refused registry place (.primitive kind r) (.schema (.badBound keyword place v))
  | itemCount {item : Schema} {least most v : Value} {keyword : String} :
      (keyword, v) ∈ [("min_items", least), ("max_items", most)] → ¬ CountAllowed v →
      Refused registry place (.list item least most) (.schema (.badCount keyword place v))
  | entry {entries : List Entry} {strict : Value} {entry : Entry} {failure : SchemaFailure} :
      entry ∈ entries → entry.Refused place failure →
      Refused registry place (.object entries strict) failure
  | noKeys {entries : List Entry} {strict : Value} {names : List Value} :
      fieldNames entries = .ok names → names.all Value.isKey = false →
      Refused registry place (.object entries strict) (.fault .wrongType)
  | repeated {entries : List Entry} {strict : Value} {names : List Value} :
      fieldNames entries = .ok names → names.all Value.isKey = true → ¬ Value.KeysDiffer names →
      Refused registry place (.object entries strict) (.schema (.repeatedNames place))

/-- The values that the messages of a node show. The name of a field is shown in the places below
it. -/
def Schema.shown : Schema → List Value
  | .primitive kind r =>
    match kind.kind? with
    | some .string => [r.minLength, r.maxLength]
    | some .number => [r.minimum, r.maximum]
    | _ => []
  | .literal value => [value]
  | .list _ least most => [least, most]
  | .object entries _ => entries.filterMap fun entry =>
    match entry with
    | .named name (.field _ _) => some name
    | _ => none
  | _ => []

/-- What is raised for a reason: an error with its message, or the fault of writing it. -/
def SchemaFailure.written : SchemaFailure → SchemaFailure
  | .schema error => .raise error
  | .fault f => .fault f

/-- Compilation fails at a node: the node is refused, or it shows a value that has no text. -/
inductive Schema.FailsWith (registry : Registry) (place : String) (node : Schema) :
    SchemaFailure → Prop
  | refused {reason : SchemaFailure} :
      node.Refused registry place reason → FailsWith registry place node reason.written
  | unshown {v : Value} :
      v ∈ node.shown → v.hasText = false → FailsWith registry place node (.fault .badValue)

theorem SchemaFailure.written_eq_schema {reason : SchemaFailure} {error : SchemaError} :
    reason.written = .schema error ↔ reason = .schema error ∧ error.hasText = true := by
  cases reason with
  | schema e =>
    rw [written, raise_eq_schema, SchemaFailure.schema.injEq]
    exact and_congr_right fun h => by rw [h]
  | fault f => simp [written]

theorem SchemaFailure.written_eq_fault {reason : SchemaFailure} {fault : Fault} :
    reason.written = .fault fault ↔
      reason = .fault fault ∨
        ∃ error, reason = .schema error ∧ error.hasText = false ∧ .badValue = fault := by
  cases reason with
  | schema e => simp [written, raise_eq_fault]
  | fault f => simp [written]

/-- Only what is refused with an error fails with it. -/
theorem Schema.FailsWith.refused_schema {registry : Registry} {place : String} {node : Schema}
    {error : SchemaError} (h : node.FailsWith registry place (.schema error)) :
    node.Refused registry place (.schema error) := by
  generalize hfailure : SchemaFailure.schema error = failure at h
  cases h with
  | refused h =>
    obtain ⟨rfl, -⟩ := SchemaFailure.written_eq_schema.1 hfailure.symm
    rwa [← hfailure]
  | unshown => cases hfailure

/-! ## Reading keywords -/

section
variable {keyword place : String} {v : Value} {failure : SchemaFailure}

theorem readCount_eq_error :
    readCount keyword place v = .error failure ↔
      ¬ CountAllowed v ∧ .raise (.badCount keyword place v) = failure := by
  have hallowed : requireCount keyword place v = .ok () ↔ CountAllowed v := requireCount_eq_ok
  rw [← hallowed]
  cases v with
  | int n => by_cases hn : n < 0 <;> simp [readCount, requireCount, hn]
  | _ => simp [readCount, requireCount]

theorem readBound_eq_error :
    readBound keyword place v = .error failure ↔
      ¬ BoundAllowed v ∧ .raise (.badBound keyword place v) = failure := by
  rw [BoundAllowed, readBound, bind_eq_error]
  cases v <;> simp [requireBound]

theorem whenGiven_eq_error {α : Type} {check : Value → Except SchemaFailure α} :
    whenGiven v check = .error failure ↔ v ≠ .null ∧ check v = .error failure := by
  unfold whenGiven
  by_cases h : v = .null
  · simp [h, Value.isNull]
  · rw [if_neg (mt Value.isNull_iff.1 h), bind_eq_error]
    simp [h]

theorem refused_of_requirePattern (hv : v ≠ .null) (h : requirePattern v = .error failure) :
    ∃ reason, PatternRefused v reason ∧ reason.written = failure := by
  cases v with
  | str s =>
    simp only [requirePattern] at h
    split at h
    · cases h
    all_goals
      rename_i hs
      obtain rfl := Except.error.inj h
    · exact ⟨_, .invalid hs, rfl⟩
    · exact ⟨_, .excess hs, rfl⟩
  | _ =>
    obtain rfl := Except.error.inj h
    refine ⟨_, .notText hv fun s hs => ?_, rfl⟩
    cases hs

theorem refused_of_resolve {registry : Registry} (hv : v ≠ .null)
    (h : registry.resolve v = .error failure) :
    ∃ reason, FormatRefused registry v reason ∧ reason.written = failure := by
  have hunknown (name : String) (format : Format) : v = .str name →
      registry.find? name ≠ some format := fun hname hfind => by
    cases (resolve_eq_ok.2 ⟨name, hname, hfind⟩).symm.trans h
  cases hk : v.isKey with
  | false =>
    rw [Registry.resolve, hk] at h
    obtain rfl := Except.error.inj h
    exact ⟨_, .noKey hk, rfl⟩
  | true =>
    have herror : .error (.raise (.unknownFormat v registry.names)) =
        (.error failure : Except SchemaFailure Format) := by
      rw [← h, Registry.resolve, hk]
      cases v with
      | str s =>
        cases hs : registry.find? s with
        | none => simp [hs]
        | some format => exact absurd hs (hunknown s format rfl)
      | _ => rfl
    obtain rfl := Except.error.inj herror
    exact ⟨_, .unknown hv hk hunknown, rfl⟩

end

/-! ## Compilation of single nodes -/

section
variable {registry : Registry} {place : String} {failure : SchemaFailure}

theorem Schema.FailsWith.of_requireText {node : Schema} {v : Value} (hv : v ∈ node.shown)
    (h : SchemaFailure.ofFault v.requireText = .error failure) :
    node.FailsWith registry place failure := by
  cases htext : v.hasText with
  | true => simp [Value.requireText, htext] at h
  | false =>
    rw [Value.requireText, htext] at h
    obtain rfl := Except.error.inj h
    exact .unshown hv htext

theorem failsWith_of_ofString {kind : KindRef} {r : Refinements} (hk : kind.kind? = some .string)
    (h : r.ofString registry place = .error failure) :
    (Schema.primitive kind r).FailsWith registry place failure := by
  have hshown : (Schema.primitive kind r).shown = [r.minLength, r.maxLength] := by
    rw [Schema.shown, hk]
  rcases bind_eq_error.1 h with h | ⟨_, -, h⟩
  · obtain ⟨hcount, rfl⟩ := readCount_eq_error.1 h
    exact .refused (.length hk (by simp) hcount)
  rcases bind_eq_error.1 h with h | ⟨_, -, h⟩
  · obtain ⟨hcount, rfl⟩ := readCount_eq_error.1 h
    exact .refused (.length hk (by simp) hcount)
  rcases bind_eq_error.1 h with h | ⟨_, -, h⟩
  · exact .of_requireText (by simp [hshown]) h
  rcases bind_eq_error.1 h with h | ⟨_, -, h⟩
  · exact .of_requireText (by simp [hshown]) h
  rcases bind_eq_error.1 h with h | ⟨_, -, h⟩
  · obtain ⟨hgiven, hpattern⟩ := whenGiven_eq_error.1 h
    obtain ⟨reason, hr, rfl⟩ := refused_of_requirePattern hgiven hpattern
    exact .refused (.pattern hk hr)
  rcases bind_eq_error.1 h with h | ⟨_, -, h⟩
  · obtain ⟨hgiven, hformat⟩ := whenGiven_eq_error.1 h
    obtain ⟨reason, hr, rfl⟩ := refused_of_resolve hgiven hformat
    exact .refused (.format hk hr)
  · cases h

theorem failsWith_of_ofNumber {kind : KindRef} {r : Refinements} (hk : kind.kind? = some .number)
    (h : r.ofNumber place = .error failure) :
    (Schema.primitive kind r).FailsWith registry place failure := by
  have hshown : (Schema.primitive kind r).shown = [r.minimum, r.maximum] := by
    rw [Schema.shown, hk]
  rcases bind_eq_error.1 h with h | ⟨_, -, h⟩
  · obtain ⟨hbound, rfl⟩ := readBound_eq_error.1 h
    exact .refused (.bound hk (by simp) hbound)
  rcases bind_eq_error.1 h with h | ⟨_, -, h⟩
  · obtain ⟨hbound, rfl⟩ := readBound_eq_error.1 h
    exact .refused (.bound hk (by simp) hbound)
  rcases bind_eq_error.1 h with h | ⟨_, -, h⟩
  · exact .of_requireText (by simp [hshown]) h
  rcases bind_eq_error.1 h with h | ⟨_, -, h⟩
  · exact .of_requireText (by simp [hshown]) h
  · cases h

theorem failsWith_of_compilePrimitive {kind : KindRef} {r : Refinements}
    (h : compilePrimitive kind r registry place = .error failure) :
    (Schema.primitive kind r).FailsWith registry place failure := by
  rcases bind_eq_error.1 h with h | ⟨k, hk, h⟩
  · unfold requireKind at h
    cases hk : kind.kind? with
    | some k => simp [hk] at h
    | none =>
      rw [hk] at h
      obtain rfl := Except.error.inj h
      exact .refused (.kind hk)
  have hk := requireKind_eq_ok.1 hk
  cases k with
  | string =>
    rcases bind_eq_error.1 h with h | ⟨_, -, h⟩
    · exact failsWith_of_ofString hk h
    · cases h
  | number =>
    rcases bind_eq_error.1 h with h | ⟨_, -, h⟩
    · exact failsWith_of_ofNumber hk h
    · cases h
  | boolean | null => cases h

/-- Fields are refused for their names. -/
theorem failsWith_of_assemble {entries : List Entry} {strict : Value} {fields : List FieldChecker}
    (hf : compileEntries entries registry place = .ok fields)
    (h : assemble fields strict.truthy place = .error failure) :
    (Schema.object entries strict).FailsWith registry place failure := by
  have hnames := fieldNames_of_compile hf
  simp only [assemble] at h
  split at h
  · rename_i hk
    obtain rfl := Except.error.inj h
    exact .refused (.noKeys hnames (by simpa only [Bool.not_eq_true'] using hk))
  split at h
  · rename_i hk hd
    obtain rfl := Except.error.inj h
    have hk : (fields.map FieldChecker.name).all Value.isKey = true := by
      simpa only [Bool.not_eq_true', Bool.not_eq_false] using hk
    refine .refused (.repeated hnames hk fun hdiffer => ?_)
    rw [(areDistinct_iff_keysDiffer hk).2 hdiffer] at hd
    cases hd
  · cases h

/-- An entry is refused as such, or for its name, or for the schema of its field. -/
theorem failsWith_of_entry {entries : List Entry} {strict : Value} {entry : Entry}
    (hentry : entry ∈ entries) (h : entry.compileAt registry place = .error failure) :
    (Schema.object entries strict).FailsWith registry place failure ∨ ∃ name schema required,
      entry = .named name (.field schema required) ∧
      schema.compileAt registry (place ++ "/properties/" ++ name.text) = .error failure := by
  cases entry with
  | named name node =>
    cases node with
    | field schema required =>
      rcases bind_eq_error.1 h with h | ⟨_, -, h⟩
      · refine .inl (.of_requireText ?_ h)
        exact List.mem_filterMap.2 ⟨_, hentry, rfl⟩
      rcases bind_eq_error.1 h with h | ⟨_, -, h⟩
      · exact .inr ⟨name, schema, required, rfl, h⟩
      · cases h
    | _ =>
      obtain rfl := Except.error.inj h
      exact .inl (.refused (.entry hentry (.notField nofun)))
  | other v =>
    rw [Entry.compileAt] at h
    split at h
    all_goals
      rename_i hpair
      obtain rfl := Except.error.inj h
    · exact .inl (.refused (.entry hentry (.notFieldPair hpair)))
    · exact .inl (.refused (.entry hentry (.notPair hpair)))

/-! ## All of a schema -/

theorem exists_of_compileEntries : ∀ {entries : List Entry},
    compileEntries entries registry place = .error failure →
      ∃ entry ∈ entries, entry.compileAt registry place = .error failure
  | [], h => by cases h
  | entry :: entries, h => by
    rcases bind_both_eq_error h with h | h
    · exact ⟨entry, List.mem_cons_self, h⟩
    · obtain ⟨other, hother, herror⟩ := exists_of_compileEntries h
      exact ⟨other, List.mem_cons_of_mem entry hother, herror⟩

theorem exists_of_compileAll : ∀ {options : List Schema} {index : Nat},
    compileAll options registry place index = .error failure →
      ∃ i option, options[i]? = some option ∧
        Schema.compileAt option registry (place ++ toString (index + i)) = .error failure
  | [], _, h => by cases h
  | option :: options, index, h => by
    rcases bind_both_eq_error h with h | h
    · exact ⟨0, option, rfl, h⟩
    · obtain ⟨i, other, hother, herror⟩ := exists_of_compileAll h
      exact ⟨i + 1, other, hother, by rwa [Nat.add_right_comm, Nat.add_assoc] at herror⟩

theorem exists_failsWith_here {schema : Schema} (h : schema.FailsWith registry place failure) :
    ∃ path node, schema.NodeAt path node ∧
      node.FailsWith registry (place ++ Pointer.spell path) failure :=
  ⟨[], schema, .here, by rwa [Pointer.append_spell_nil]⟩

/-- A schema that does not compile has a node at which compilation fails, with the same failure. -/
theorem exists_failsWith {schema : Schema} (h : schema.compileAt registry place = .error failure) :
    ∃ path node, schema.NodeAt path node ∧
      node.FailsWith registry (place ++ Pointer.spell path) failure := by
  -- each step down the schema moves a part of the spelling from the path to the place
  induction schema using Schema.memInduction generalizing place with
  | primitive kind r => exact exists_failsWith_here (failsWith_of_compilePrimitive h)
  | literal value =>
    rcases bind_eq_error.1 h with h | ⟨_, -, h⟩
    · exact exists_failsWith_here (.of_requireText (by simp [Schema.shown]) h)
    · cases h
  | list item least most ih =>
    rcases bind_eq_error.1 h with h | ⟨_, -, h⟩
    · obtain ⟨hcount, rfl⟩ := readCount_eq_error.1 h
      exact exists_failsWith_here (.refused (.itemCount (by simp) hcount))
    rcases bind_eq_error.1 h with h | ⟨_, -, h⟩
    · obtain ⟨hcount, rfl⟩ := readCount_eq_error.1 h
      exact exists_failsWith_here (.refused (.itemCount (by simp) hcount))
    rcases bind_eq_error.1 h with h | ⟨_, -, h⟩
    · obtain ⟨path, node, hnode, hr⟩ := ih h
      exact ⟨_, node, .item hnode, by rwa [Pointer.append_spell_items]⟩
    rcases bind_eq_error.1 h with h | ⟨_, -, h⟩
    · exact exists_failsWith_here (.of_requireText (by simp [Schema.shown]) h)
    rcases bind_eq_error.1 h with h | ⟨_, -, h⟩
    · exact exists_failsWith_here (.of_requireText (by simp [Schema.shown]) h)
    · cases h
  | field schema required =>
    obtain rfl := Except.error.inj h
    exact exists_failsWith_here (.refused (.misplaced schema required))
  | object entries strict ih =>
    rcases bind_eq_error.1 h with h | ⟨fields, hf, h⟩
    · obtain ⟨entry, hentry, h⟩ := exists_of_compileEntries h
      rcases failsWith_of_entry hentry h with hr | ⟨name, schema, required, rfl, hschema⟩
      · exact exists_failsWith_here hr
      · obtain ⟨path, node, hnode, hr⟩ := ih name schema required hentry hschema
        exact ⟨_, node, .field hentry hnode, by rwa [Pointer.append_spell_properties]⟩
    · exact exists_failsWith_here (failsWith_of_assemble hf h)
  | union options ih =>
    rcases bind_eq_error.1 h with h | ⟨_, -, h⟩
    · obtain ⟨i, option, hoption, h⟩ := exists_of_compileAll h
      obtain ⟨path, node, hnode, hr⟩ := ih option (List.mem_of_getElem? hoption) h
      refine ⟨_, node, .option hoption hnode, ?_⟩
      rwa [Pointer.append_spell_anyOf, ← Nat.zero_add i]
    · cases h
  | other v =>
    obtain rfl := Except.error.inj h
    exact exists_failsWith_here (.refused (.unknown v))

end

end Conform
