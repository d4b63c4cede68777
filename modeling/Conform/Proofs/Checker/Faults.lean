import Conform.Proofs.Checker.Refusal
import Conform.Proofs.Schema.Composed
import Conform.Validator

/-!
# How a composed schema fails to compile

A composed schema that does not compile is refused with an error of the schema, with two kinds of
exceptions (`Validator.ofSchema_fails_with`). Some are at a node of strings: a format that cannot be
a key cannot be looked up in a registry, and some patterns are not refused by the pattern compiler
but too much for it. The others are about what is written: a message of a node, or the error that it
is refused with, may show a value that has no text.
-/

namespace Conform

/-- The keywords of a node of strings on which compilation fails with a fault. -/
inductive Refinements.Overtax (r : Refinements) : Fault → Prop
  | format : r.format.isKey = false → Overtax r .wrongType
  | pattern {s : String} {excess : Pattern.Excess} : r.pattern = .str s →
      Pattern.compile s = .error (.excess excess) → Overtax r excess.fault

theorem overtax_of_patternRefused {r : Refinements} {fault : Fault}
    (h : PatternRefused r.pattern (.fault fault)) : r.Overtax fault := by
  generalize hv : r.pattern = v at h
  cases h with
  | excess hs => exact .pattern hv hs

theorem overtax_of_formatRefused {registry : Registry} {r : Refinements} {fault : Fault}
    (h : FormatRefused registry r.format (.fault fault)) : r.Overtax fault := by
  generalize hv : r.format = v at h
  cases h with
  | noKey hk => exact .format (hv ▸ hk)

/-- A node of a composed schema is refused with a fault only for its pattern or format. -/
theorem Schema.Composed.overtax {registry : Registry} {place : String} {node : Schema}
    {fault : Fault} (hnode : node.Composed) (h : node.Refused registry place (.fault fault)) :
    ∃ r, node = .primitive (.known .string) r ∧ r.Overtax fault := by
  have hstring {kind : KindRef} {r : Refinements} (hcomposed : (primitive kind r).Composed)
      (hk : kind.kind? = some .string) :
      primitive kind r = .primitive (.known .string) r := by
    obtain ⟨k, rfl⟩ := hcomposed.shape
    rw [Option.some.inj hk]
  cases h with
  | pattern hk h => exact ⟨_, hstring hnode hk, overtax_of_patternRefused h⟩
  | format hk h => exact ⟨_, hstring hnode hk, overtax_of_formatRefused h⟩
  | entry _ h => cases h
  | noKeys hnames hk =>
    obtain ⟨fields, rfl, -, names, htexts, -⟩ := hnode.shape
    obtain rfl := Except.ok.inj (hnames.symm.trans (Schema.fieldNames_entries fields))
    simp [htexts, Value.isKey] at hk

/-- A node has something to write that has no text: a value that its messages show, or the error
that it is refused with. -/
inductive Schema.Unwritable (registry : Registry) (place : String) (node : Schema) : Prop
  | message {v : Value} : v ∈ node.shown → v.hasText = false → Unwritable registry place node
  | error {error : SchemaError} : node.Refused registry place (.schema error) →
      error.hasText = false → Unwritable registry place node

/-- At a node of a composed schema compilation fails with a fault for its pattern or format, or
because something cannot be written. -/
theorem Schema.Composed.fault_cases {registry : Registry} {place : String} {node : Schema}
    {fault : Fault} (hnode : node.Composed) (h : node.FailsWith registry place (.fault fault)) :
    (∃ r, node = .primitive (.known .string) r ∧ r.Overtax fault) ∨
      (fault = .badValue ∧ node.Unwritable registry place) := by
  generalize hfailure : SchemaFailure.fault fault = failure at h
  cases h with
  | refused h =>
    rcases SchemaFailure.written_eq_fault.1 hfailure.symm with rfl | ⟨error, rfl, htext, rfl⟩
    · exact .inl (hnode.overtax h)
    · exact .inr ⟨rfl, .error h htext⟩
  | unshown hv htext =>
    obtain rfl := SchemaFailure.fault.inj hfailure
    exact .inr ⟨rfl, .message hv htext⟩

/-- A composed schema compiles or is refused with an error of the schema, unless it has a node of
strings whose format cannot be a key or whose pattern overtaxes the pattern compiler, or a node with
something to write that has no text. -/
theorem Validator.ofSchema_fails_with {schema : Schema} (h : schema.Composed)
    (registry : Registry) :
    (∃ validator, Validator.ofSchema schema registry = .ok validator) ∨
    (∃ error, Validator.ofSchema schema registry = .error (.schema error)) ∨
    ∃ fault path node, Validator.ofSchema schema registry = .error (.fault fault) ∧
      schema.NodeAt path node ∧
      ((∃ r, node = .primitive (.known .string) r ∧ r.Overtax fault) ∨
        (fault = .badValue ∧ node.Unwritable registry (Pointer.spell path))) := by
  cases houtcome : Validator.ofSchema schema registry with
  | ok validator => exact .inl ⟨validator, rfl⟩
  | error failure =>
    cases failure with
    | schema error => exact .inr (.inl ⟨error, rfl⟩)
    | fault fault =>
      rcases bind_eq_error.1 houtcome with hcompile | ⟨_, -, hcompile⟩
      · obtain ⟨path, node, hnode, hfails⟩ := exists_failsWith hcompile
        rw [String.empty_append] at hfails
        exact .inr (.inr ⟨fault, path, node, rfl, hnode,
          (h.of_nodeAt hnode).fault_cases hfails⟩)
      · cases hcompile

/-! ## Schemas that are not refused with an error of the schema -/

/-- A pattern that repeats more often than can be counted. -/
def repetitionSchema : Schema := .string { pattern := .str "a{99999999999}" }

/-- A format that cannot be a key. -/
def unhashableSchema : Schema := .string { format := .list [] }

theorem composed_repetition : repetitionSchema.Composed := .string .null .null _ .null

theorem composed_unhashable : unhashableSchema.Composed := .string .null .null .null _

theorem repetition_overtaxes (place : String) :
    repetitionSchema.compileAt .standard place = .error (.fault .tooLarge) := by
  have hpattern : Pattern.compile "a{99999999999}" = .error (.excess .count) :=
    eq_error_of_errorOf? (by decide +kernel)
  have hrequire : requirePattern (.str "a{99999999999}") = .error (.fault .tooLarge) := by
    rw [requirePattern, hpattern]
    rfl
  simp [repetitionSchema, Schema.string, Schema.compileAt, compilePrimitive, requireKind,
    KindRef.kind?, Refinements.ofString, readCount, requireCount, Value.requireText, Value.hasText,
    whenGiven, Value.isNull, hrequire]

/-- The pattern is found in the items of a list. -/
theorem Validator.ofSchema_fails_with_repetition :
    (Schema.list repetitionSchema .null .null).Composed ∧
      Validator.ofSchema (.list repetitionSchema .null .null) .standard =
        .error (.fault .tooLarge) ∧
      ∃ path r, (Schema.list repetitionSchema .null .null).NodeAt path
        (.primitive (.known .string) r) ∧ r.Overtax .tooLarge := by
  have hcomposed : (Schema.list repetitionSchema .null .null).Composed :=
    .list .null .null composed_repetition
  have hfails : Validator.ofSchema (.list repetitionSchema .null .null) .standard =
      .error (.fault .tooLarge) := by
    simp [Validator.ofSchema, Schema.compile, Schema.compileAt, readCount, requireCount,
      repetition_overtaxes]
  refine ⟨hcomposed, hfails, ?_⟩
  rcases Validator.ofSchema_fails_with hcomposed .standard with
    ⟨_, h⟩ | ⟨_, h⟩ | ⟨fault, path, node, h, hnode, ⟨r, rfl, hovertax⟩ | ⟨rfl, -⟩⟩
  · cases hfails.symm.trans h
  · cases hfails.symm.trans h
  · cases hfails.symm.trans h
    exact ⟨path, r, hnode, hovertax⟩
  · cases hfails.symm.trans h

/-- A length below zero, of more digits than are written. -/
def longLengthSchema : Schema := .string { minLength := .int (-longInteger) }

theorem composed_longLength : longLengthSchema.Composed := .string _ .null .null .null

/-- The error that refuses the length cannot be written. -/
theorem longLength_unwritten :
    Validator.ofSchema longLengthSchema .standard = .error (.fault .badValue) := by
  simp [longLengthSchema, Schema.string, Validator.ofSchema, Schema.compile, Schema.compileAt,
    compilePrimitive, requireKind, KindRef.kind?, Refinements.ofString, readCount, requireCount,
    longInteger_pos, SchemaFailure.raise, SchemaError.hasText, Value.neg_longInteger_hasText]

/-- None of the three compiles, and none is refused with an error of the schema. -/
theorem Validator.ofSchema_leaks :
    (repetitionSchema.Composed ∧
      (∀ validator, Validator.ofSchema repetitionSchema .standard ≠ .ok validator) ∧
      ∀ error, Validator.ofSchema repetitionSchema .standard ≠ .error (.schema error)) ∧
    (unhashableSchema.Composed ∧
      (∀ validator, Validator.ofSchema unhashableSchema .standard ≠ .ok validator) ∧
      ∀ error, Validator.ofSchema unhashableSchema .standard ≠ .error (.schema error)) ∧
    longLengthSchema.Composed ∧
      (∀ validator, Validator.ofSchema longLengthSchema .standard ≠ .ok validator) ∧
      ∀ error, Validator.ofSchema longLengthSchema .standard ≠ .error (.schema error) := by
  have hrepetition : Validator.ofSchema repetitionSchema .standard = .error (.fault .tooLarge) := by
    rw [ofSchema, Schema.compile, repetition_overtaxes, error_bind]
  have hunhashable : Validator.ofSchema unhashableSchema .standard =
      .error (.fault .wrongType) := rfl
  rw [hrepetition, hunhashable, longLength_unwritten]
  exact ⟨⟨composed_repetition, nofun, nofun⟩, ⟨composed_unhashable, nofun, nofun⟩,
    composed_longLength, nofun, nofun⟩

end Conform
