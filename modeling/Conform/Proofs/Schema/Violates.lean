import Conform.Format.Registration
import Conform.Pattern.Search
import Conform.Proofs.Schema.Induction
import Conform.Violation

/-!
# What it is to violate a schema

Without an order of checks. `Reaches schema v p node w`: the path `p` leads from the schema and the
value down to a node and the part `w` of the value that the node is about, through the fields of
objects and the items of lists, not into a union. `Fails node w kind`: a constraint that the node
puts on `w` by itself fails; `FailsKey node w name kind`: one about the keys of an object fails for
a name. `Violates` collects both along all paths.

A union asks whether a value is accepted by an option (`Accepts`), which is said on its own.
-/

namespace Conform.Schema

/-! ## Nodes -/

/-- A key that is the name of one of the fields. -/
def Declares (entries : List Entry) (key : Value) : Prop :=
  ∃ name schema required, .named name (.field schema required) ∈ entries ∧ key.same name = true

/-- A constraint of the node, other than the choice of a union, fails on the value. -/
inductive FailsOwn (registry : Registry) : Schema → Value → ViolationKind → Prop
  | kind {kind : KindRef} {r : Refinements} {k : Kind} {v : Value} :
      kind.kind? = some k → k.includes v = false →
      FailsOwn registry (.primitive kind r) v .typeMismatch
  | minLength {kind : KindRef} {r : Refinements} {s : String} {n : Int} :
      kind.kind? = some .string → r.minLength = .int n → s.length < n →
      FailsOwn registry (.primitive kind r) (.str s) .lengthTooShort
  | maxLength {kind : KindRef} {r : Refinements} {s : String} {n : Int} :
      kind.kind? = some .string → r.maxLength = .int n → n < s.length →
      FailsOwn registry (.primitive kind r) (.str s) .lengthTooLong
  | pattern {kind : KindRef} {r : Refinements} {s text : String} {program : Pattern.Program} :
      kind.kind? = some .string → r.pattern = .str text → Pattern.compile text = .ok program →
      program.search s = .ok false → FailsOwn registry (.primitive kind r) (.str s) .patternMismatch
  | format {kind : KindRef} {r : Refinements} {s name : String} {format : Format} :
      kind.kind? = some .string → r.format = .str name → registry.find? name = some format →
      format.conforms s = .ok false → FailsOwn registry (.primitive kind r) (.str s) .formatInvalid
  | minimum {kind : KindRef} {r : Refinements} {v : Value} :
      kind.kind? = some .number → v.isNumber = true → v.isBelow r.minimum = true →
      FailsOwn registry (.primitive kind r) v .belowMinimum
  | maximum {kind : KindRef} {r : Refinements} {v : Value} :
      kind.kind? = some .number → v.isNumber = true → r.maximum.isBelow v = true →
      FailsOwn registry (.primitive kind r) v .aboveMaximum
  | literal {expected v : Value} :
      v.deepEqual expected = false → FailsOwn registry (.literal expected) v .literalMismatch
  | array {item : Schema} {least most v : Value} :
      v.items? = none → FailsOwn registry (.list item least most) v .typeMismatch
  | minItems {item : Schema} {most v : Value} {n : Int} {items : List Value} :
      v.items? = some items → items.length < n →
      FailsOwn registry (.list item (.int n) most) v .tooFewItems
  | maxItems {item : Schema} {least v : Value} {n : Int} {items : List Value} :
      v.items? = some items → n < items.length →
      FailsOwn registry (.list item least (.int n)) v .tooManyItems
  | object {entries : List Entry} {strict v : Value} :
      v.isObject = false → FailsOwn registry (.object entries strict) v .typeMismatch

/-- A constraint of the node about the keys of an object fails for a name. -/
inductive FailsKey : Schema → Value → Value → ViolationKind → Prop
  | missing {entries : List Entry} {strict name required : Value} {schema : Schema}
      {fields : List (Value × Value)} :
      .named name (.field schema required) ∈ entries → required.truthy = true →
      Value.lookup name fields = none →
      FailsKey (.object entries strict) (.map fields) name .missingRequired
  | unexpected {entries : List Entry} {strict key : Value} {fields : List (Value × Value)} :
      strict.truthy = true → key ∈ fields.map (·.1) → ¬ Declares entries key →
      FailsKey (.object entries strict) (.map fields) key .unexpectedProperty

/-- From a node and a value to a node right below and a part of the value, under a key or an
index. -/
inductive Step : Schema → Value → Value → Schema → Value → Prop
  | field {entries : List Entry} {strict name required w : Value} {schema : Schema}
      {fields : List (Value × Value)} :
      .named name (.field schema required) ∈ entries → Value.lookup name fields = some w →
      Step (.object entries strict) (.map fields) name schema w
  | item {item : Schema} {least most v w : Value} {items : List Value} {i : Nat} :
      v.items? = some items → items[i]? = some w → Step (.list item least most) v (.int i) item w

/-- The value meets all constraints: those of the node, those of the nodes below on its parts, and
those of one of the options if the node is a union. -/
inductive Accepts (registry : Registry) : Schema → Value → Prop
  | node {schema : Schema} {v : Value} :
      (∀ options, schema ≠ .union options) → (∀ kind, ¬ FailsOwn registry schema v kind) →
      (∀ name kind, ¬ FailsKey schema v name kind) →
      (∀ key inner w, Step schema v key inner w → Accepts registry inner w) →
      Accepts registry schema v
  | union {options : List Schema} {option : Schema} {v : Value} :
      option ∈ options → Accepts registry option v → Accepts registry (.union options) v

/-- A constraint of the node fails on the value. -/
inductive Fails (registry : Registry) : Schema → Value → ViolationKind → Prop
  | own {schema : Schema} {v : Value} {kind : ViolationKind} :
      FailsOwn registry schema v kind → Fails registry schema v kind
  | alternatives {options : List Schema} {v : Value} :
      (∀ option ∈ options, ¬ Accepts registry option v) →
      Fails registry (.union options) v .noAlternativeMatched

/-! ## The constraints of a node -/

section
variable {registry : Registry} {kind : KindRef} {r : Refinements} {k : ViolationKind}

theorem failsOwn_str_iff {s : String} (hk : kind.kind? = some .string) :
    FailsOwn registry (.primitive kind r) (.str s) k ↔
      ((k = .lengthTooShort ∧ ∃ n : Int, r.minLength = .int n ∧ s.length < n) ∨
        (k = .lengthTooLong ∧ ∃ n : Int, r.maxLength = .int n ∧ n < s.length)) ∨
      (k = .patternMismatch ∧ ∃ text program, r.pattern = .str text ∧
        Pattern.compile text = .ok program ∧ program.search s = .ok false) ∨
      (k = .formatInvalid ∧ ∃ name format, r.format = .str name ∧
        registry.find? name = some format ∧ format.conforms s = .ok false) := by
  constructor
  · intro h
    cases h with
    | kind hk' hv =>
      obtain rfl := Option.some.inj (hk.symm.trans hk')
      cases hv
    | minLength _ hr hn => exact .inl (.inl ⟨rfl, _, hr, hn⟩)
    | maxLength _ hr hn => exact .inl (.inr ⟨rfl, _, hr, hn⟩)
    | pattern _ hr hp hs => exact .inr (.inl ⟨rfl, _, _, hr, hp, hs⟩)
    | format _ hr hf hs => exact .inr (.inr ⟨rfl, _, _, hr, hf, hs⟩)
    | minimum _ hv _ => cases hv
    | maximum _ hv _ => cases hv
  · rintro ((⟨rfl, n, hr, hn⟩ | ⟨rfl, n, hr, hn⟩) | ⟨rfl, text, program, hr, hp, hs⟩ |
      ⟨rfl, name, format, hr, hf, hs⟩)
    · exact .minLength hk hr hn
    · exact .maxLength hk hr hn
    · exact .pattern hk hr hp hs
    · exact .format hk hr hf hs

/-- A value that is not of the kind of its node fails by that and by nothing else. -/
theorem failsOwn_of_not_includes {kd : Kind} {v : Value} (hk : kind.kind? = some kd)
    (hv : kd.includes v = false) :
    FailsOwn registry (.primitive kind r) v k ↔ k = .typeMismatch := by
  constructor
  · intro h
    cases h with
    | kind => rfl
    | minLength hk' | maxLength hk' | pattern hk' | format hk' =>
      obtain rfl := Option.some.inj (hk.symm.trans hk')
      cases hv
    | minimum hk' hn | maximum hk' hn =>
      obtain rfl := Option.some.inj (hk.symm.trans hk')
      exact absurd hn (Bool.eq_false_iff.1 hv)
  · rintro rfl
    exact .kind hk hv

theorem failsOwn_number_iff {v : Value} (hk : kind.kind? = some .number)
    (hv : v.isNumber = true) :
    FailsOwn registry (.primitive kind r) v k ↔
      (k = .belowMinimum ∧ v.isBelow r.minimum = true) ∨
      (k = .aboveMaximum ∧ r.maximum.isBelow v = true) := by
  constructor
  · intro h
    cases h with
    | kind hk' hv' =>
      obtain rfl := Option.some.inj (hk.symm.trans hk')
      exact absurd hv (Bool.eq_false_iff.1 hv')
    | minLength hk' | maxLength hk' | pattern hk' | format hk' => cases hk.symm.trans hk'
    | minimum _ _ h => exact .inl ⟨rfl, h⟩
    | maximum _ _ h => exact .inr ⟨rfl, h⟩
  · rintro (⟨rfl, h⟩ | ⟨rfl, h⟩)
    · exact .minimum hk hv h
    · exact .maximum hk hv h

/-- A value of a kind without refinements meets its node. -/
theorem not_failsOwn_of_includes {kd : Kind} {v : Value} (hk : kind.kind? = some kd)
    (hs : kd ≠ .string) (hn : kd ≠ .number) (hv : kd.includes v = true) :
    ¬ FailsOwn registry (.primitive kind r) v k := by
  intro h
  cases h with
  | kind hk' hv' =>
    obtain rfl := Option.some.inj (hk.symm.trans hk')
    exact absurd hv (Bool.eq_false_iff.1 hv')
  | minLength hk' | maxLength hk' | pattern hk' | format hk' =>
    exact hs (Option.some.inj (hk.symm.trans hk'))
  | minimum hk' | maximum hk' => exact hn (Option.some.inj (hk.symm.trans hk'))

theorem failsOwn_list_iff {item : Schema} {least most v : Value} {items : List Value}
    (hv : v.items? = some items) :
    FailsOwn registry (.list item least most) v k ↔
      (k = .tooFewItems ∧ ∃ n : Int, least = .int n ∧ items.length < n) ∨
      (k = .tooManyItems ∧ ∃ n : Int, most = .int n ∧ n < items.length) := by
  constructor
  · intro h
    cases h with
    | array hv' => cases hv.symm.trans hv'
    | minItems hv' hn =>
      obtain rfl := Option.some.inj (hv.symm.trans hv')
      exact .inl ⟨rfl, _, rfl, hn⟩
    | maxItems hv' hn =>
      obtain rfl := Option.some.inj (hv.symm.trans hv')
      exact .inr ⟨rfl, _, rfl, hn⟩
  · rintro (⟨rfl, n, rfl, hn⟩ | ⟨rfl, n, rfl, hn⟩)
    · exact .minItems hv hn
    · exact .maxItems hv hn

end

/-! ## Paths -/

inductive Reaches : Schema → Value → Pointer.Path → Schema → Value → Prop
  | here {schema : Schema} {v : Value} : Reaches schema v [] schema v
  | down {schema inner node : Schema} {v w x key : Value} {path : Pointer.Path} :
      Step schema v key inner w → Reaches inner w path node x →
      Reaches schema v (key :: path) node x

/-- There is a violation of the kind at the path. -/
inductive Violates (registry : Registry) (schema : Schema) (v : Value) :
    Pointer.Path → ViolationKind → Prop
  | node {path : Pointer.Path} {node : Schema} {w : Value} {kind : ViolationKind} :
      Reaches schema v path node w → Fails registry node w kind →
      Violates registry schema v path kind
  | key {path : Pointer.Path} {node : Schema} {w name : Value} {kind : ViolationKind} :
      Reaches schema v path node w → FailsKey node w name kind →
      Violates registry schema v (path ++ [name]) kind

/-! ## Violations from the root down -/

section
variable {registry : Registry}

/-- A violation is at the root, at a key of the root, or below a step from the root. -/
theorem violates_iff {schema : Schema} {v : Value} {path : Pointer.Path} {kind : ViolationKind} :
    Violates registry schema v path kind ↔
      (path = [] ∧ Fails registry schema v kind) ∨
      (∃ name, path = [name] ∧ FailsKey schema v name kind) ∨
      ∃ key rest inner w, path = key :: rest ∧ Step schema v key inner w ∧
        Violates registry inner w rest kind := by
  constructor
  · rintro (⟨hr, hf⟩ | ⟨hr, hf⟩)
    · cases hr with
      | here => exact .inl ⟨rfl, hf⟩
      | down hs hr => exact .inr (.inr ⟨_, _, _, _, rfl, hs, .node hr hf⟩)
    · cases hr with
      | here => exact .inr (.inl ⟨_, rfl, hf⟩)
      | down hs hr => exact .inr (.inr ⟨_, _, _, _, rfl, hs, .key hr hf⟩)
  · rintro (⟨rfl, hf⟩ | ⟨name, rfl, hf⟩ | ⟨key, rest, inner, w, rfl, hs, hv⟩)
    · exact .node .here hf
    · exact .key .here hf
    · cases hv with
      | node hr hf => exact .node (.down hs hr) hf
      | key hr hf => exact .key (.down hs hr) hf

/-- A node without keys and without anything below it has violations at the root only. -/
theorem violates_leaf_iff {schema : Schema} {v : Value} {path : Pointer.Path}
    {kind : ViolationKind} (hk : ∀ name, ¬ FailsKey schema v name kind)
    (hs : ∀ key inner w, ¬ Step schema v key inner w) :
    Violates registry schema v path kind ↔ path = [] ∧ Fails registry schema v kind := by
  rw [violates_iff]
  constructor
  · rintro (h | ⟨name, -, h⟩ | ⟨key, _, inner, w, -, h, -⟩)
    · exact h
    · exact absurd h (hk name)
    · exact absurd h (hs key inner w)
  · exact .inl

theorem violates_items_iff {item : Schema} {least most v : Value} {items : List Value}
    {path : Pointer.Path} {kind : ViolationKind} (hv : v.items? = some items) :
    Violates registry (.list item least most) v path kind ↔
      (path = [] ∧ FailsOwn registry (.list item least most) v kind) ∨
      ∃ (i : Nat) (w : Value), items[i]? = some w ∧ ∃ rest, path = .int i :: rest ∧
        Violates registry item w rest kind := by
  rw [violates_iff]
  constructor
  · rintro (⟨hp, hf⟩ | ⟨name, -, hf⟩ | ⟨key, rest, inner, w, hp, hs, h⟩)
    · cases hf with
      | own hf => exact .inl ⟨hp, hf⟩
    · cases hf
    · cases hs with
      | @item _ _ _ _ _ items' i hv' hi =>
        obtain rfl := Option.some.inj (hv.symm.trans hv')
        exact .inr ⟨i, w, hi, rest, hp, h⟩
  · rintro (⟨hp, hf⟩ | ⟨i, w, hi, rest, hp, h⟩)
    · exact .inl ⟨hp, .own hf⟩
    · exact .inr (.inr ⟨_, rest, item, w, hp, .item hv hi, h⟩)

theorem violates_fields_iff {entries : List Entry} {strict : Value}
    {fields : List (Value × Value)} {path : Pointer.Path} {kind : ViolationKind} :
    Violates registry (.object entries strict) (.map fields) path kind ↔
      (∃ name, path = [name] ∧ FailsKey (.object entries strict) (.map fields) name kind) ∨
      ∃ name schema required, .named name (.field schema required) ∈ entries ∧
        ∃ w, Value.lookup name fields = some w ∧ ∃ rest, path = name :: rest ∧
          Violates registry schema w rest kind := by
  rw [violates_iff]
  constructor
  · rintro (⟨-, hf⟩ | h | ⟨name, rest, schema, w, hp, hs, h⟩)
    · cases hf with
      | own hf =>
        cases hf with
        | object hv => cases hv
    · exact .inl h
    · cases hs with
      | field he hw => exact .inr ⟨name, schema, _, he, w, hw, rest, hp, h⟩
  · rintro (h | ⟨name, schema, required, he, w, hw, rest, hp, h⟩)
    · exact .inr (.inl h)
    · exact .inr (.inr ⟨name, rest, schema, w, hp, .field he hw, h⟩)

theorem accepts_union_iff {options : List Schema} {v : Value} :
    Accepts registry (.union options) v ↔ ∃ option ∈ options, Accepts registry option v := by
  constructor
  · rintro (⟨hu, -, -, -⟩ | ⟨ho, ha⟩)
    · exact absurd rfl (hu options)
    · exact ⟨_, ho, ha⟩
  · rintro ⟨option, ho, ha⟩
    exact .union ho ha

theorem accepts_node_iff {schema : Schema} {v : Value} (hu : ∀ options, schema ≠ .union options) :
    Accepts registry schema v ↔
      (∀ kind, ¬ FailsOwn registry schema v kind) ∧ (∀ name kind, ¬ FailsKey schema v name kind) ∧
      ∀ key inner w, Step schema v key inner w → Accepts registry inner w := by
  constructor
  · rintro (⟨-, h1, h2, h3⟩ | ⟨-, -⟩)
    · exact ⟨h1, h2, h3⟩
    · exact absurd rfl (hu _)
  · rintro ⟨h1, h2, h3⟩
    exact .node hu h1 h2 h3

theorem fails_node_iff {schema : Schema} {v : Value} {kind : ViolationKind}
    (hu : ∀ options, schema ≠ .union options) :
    Fails registry schema v kind ↔ FailsOwn registry schema v kind := by
  constructor
  · rintro (h | -)
    · exact h
    · exact absurd rfl (hu _)
  · exact .own

theorem fails_union_iff {options : List Schema} {v : Value} {kind : ViolationKind} :
    Fails registry (.union options) v kind ↔
      kind = .noAlternativeMatched ∧ ¬ Accepts registry (.union options) v := by
  rw [accepts_union_iff]
  constructor
  · rintro (⟨⟨⟩⟩ | h)
    exact ⟨rfl, fun ⟨option, ho, ha⟩ => h option ho ha⟩
  · rintro ⟨rfl, h⟩
    exact .alternatives fun option ho ha => h ⟨option, ho, ha⟩

/-! ## What nodes accept -/

variable {v : Value}

theorem accepts_primitive_iff {kind : KindRef} {r : Refinements} :
    Accepts registry (.primitive kind r) v ↔ ∀ k, ¬ FailsOwn registry (.primitive kind r) v k := by
  have hnode : ∀ options, Schema.primitive kind r ≠ .union options := nofun
  rw [accepts_node_iff hnode]
  exact and_iff_left ⟨nofun, nofun⟩

theorem accepts_literal_iff {expected : Value} :
    Accepts registry (.literal expected) v ↔ v.deepEqual expected = true := by
  have hnode : ∀ options, Schema.literal expected ≠ .union options := nofun
  rw [accepts_node_iff hnode, ← Bool.not_eq_false]
  constructor
  · exact fun h hv => h.1 _ (.literal hv)
  · refine fun hv => ⟨fun k hf => ?_, nofun, nofun⟩
    cases hf with
    | literal hv' => exact hv hv'

theorem accepts_list_iff {item : Schema} {least most : Value} :
    Accepts registry (.list item least most) v ↔ ∃ items, v.items? = some items ∧
      ¬ (∃ n : Int, least = .int n ∧ items.length < n) ∧
      ¬ (∃ n : Int, most = .int n ∧ n < items.length) ∧
      ∀ w ∈ items, Accepts registry item w := by
  have hnode : ∀ options, Schema.list item least most ≠ .union options := nofun
  rw [accepts_node_iff hnode]
  constructor
  · rintro ⟨hown, -, hsteps⟩
    cases hv : v.items? with
    | none => exact absurd (.array hv) (hown .typeMismatch)
    | some items =>
      simp only [failsOwn_list_iff hv] at hown
      refine ⟨items, rfl, fun h => hown _ (.inl ⟨rfl, h⟩), fun h => hown _ (.inr ⟨rfl, h⟩), ?_⟩
      intro w hw
      obtain ⟨i, hi⟩ := List.mem_iff_getElem?.1 hw
      exact hsteps _ _ _ (.item hv hi)
  · rintro ⟨items, hv, hleast, hmost, hitems⟩
    refine ⟨fun kind hf => ?_, nofun, fun key inner w hs => ?_⟩
    · rcases (failsOwn_list_iff hv).1 hf with ⟨-, h⟩ | ⟨-, h⟩
      · exact hleast h
      · exact hmost h
    · cases hs with
      | item hv' hi =>
        obtain rfl := Option.some.inj (hv.symm.trans hv')
        exact hitems w (List.mem_of_getElem? hi)

theorem accepts_object_iff {entries : List Entry} {strict : Value} :
    Accepts registry (.object entries strict) v ↔ ∃ fields, v = .map fields ∧
      (∀ name schema required, .named name (.field schema required) ∈ entries →
        (required.truthy = true → Value.lookup name fields ≠ none) ∧
        ∀ w, Value.lookup name fields = some w → Accepts registry schema w) ∧
      (strict.truthy = true → ∀ key ∈ fields.map (·.1), Declares entries key) := by
  have hnode : ∀ options, Schema.object entries strict ≠ .union options := nofun
  rw [accepts_node_iff hnode]
  constructor
  · rintro ⟨hown, hkeys, hsteps⟩
    cases v with
    | map fields =>
      refine ⟨fields, rfl, fun name schema required he => ⟨fun hreq hnone => ?_, fun w hw => ?_⟩,
        fun hs key hkey => ?_⟩
      · exact hkeys _ _ (.missing he hreq hnone)
      · exact hsteps _ _ _ (.field he hw)
      · exact Classical.byContradiction fun hd => hkeys _ _ (.unexpected hs hkey hd)
    | _ => exact absurd (.object rfl) (hown .typeMismatch)
  · rintro ⟨fields, rfl, hfields, hkeys⟩
    refine ⟨fun kind hf => ?_, fun name kind hf => ?_, fun key inner w hs => ?_⟩
    · cases hf with
      | object hv => cases hv
    · cases hf with
      | missing he hreq hnone => exact (hfields _ _ _ he).1 hreq hnone
      | unexpected hs hkey hd => exact hd (hkeys hs _ hkey)
    · cases hs with
      | field he hw => exact (hfields _ _ _ he).2 w hw

end

end Conform.Schema
