import Conform.Proofs.Schema.Nodes
import Conform.Proofs.Schema.RoundTrip

/-!
# Schemas that are composed of anything

A schema that is composed with the functions of `Conform.Schema.Build` need not make sense: keywords
are any values, and any value or an optional field may stand where a node is expected
(`Schema.Composed`; those that are `Built` do without this). Still, the kinds of its primitive nodes
are known, and its objects have fields under different texts (`Composed.shape`); so do all nodes of
it (`Composed.of_nodeAt`).
-/

namespace Conform.Schema

/-- What the functions of `Conform.Schema.Build` return, given any values and whatever they have
returned before. -/
inductive Composed : Schema → Prop
  | string (minLength maxLength pattern format : Value) :
      Composed (string { minLength, maxLength, pattern, format })
  | number (minimum maximum : Value) : Composed (number minimum maximum)
  | boolean : Composed boolean
  | null : Composed null
  | literal (value : Value) : Composed (.literal value)
  | enumOf (values : List Value) : Composed (enumOf values)
  | list {item : Schema} (minItems maxItems : Value) :
      Composed item → Composed (.list item minItems maxItems)
  | optional {schema : Schema} : Composed schema → Composed (optional schema)
  | unionOf {options : List Schema} :
      (∀ option ∈ options, Composed option) → Composed (unionOf options)
  /-- Alternatives that are given as a single list of nodes. -/
  | unionOfList {options : List Schema} :
      (∀ option ∈ options, Composed option) → Composed (.union options)
  | objectOf {fields : List (Value × Schema)} {strict : Value} {schema : Schema} :
      (∀ field ∈ fields, Composed field.2) → objectOf fields strict = .ok schema → Composed schema
  | value (v : Value) : Composed (.other v)

/-- The fields of a composed object are composed, and their names are texts that differ from each
other. -/
def ComposedFields (entries : List Entry) : Prop :=
  ∃ fields : List Field, entries = fields.map Field.entry ∧
    (∀ field ∈ fields, Composed field.schema) ∧
    ∃ names : List String, fields.map Field.name = names.map .str ∧ names.Nodup

/-- What a composed schema is made of. -/
def ComposedShape : Schema → Prop
  | .primitive kind _ => ∃ k, kind = .known k
  | .literal _ => True
  | .list item _ _ => Composed item
  | .field schema required => Composed schema ∧ required = .bool false
  | .object entries _ => ComposedFields entries
  | .union options => ∀ option ∈ options, Composed option
  | .other _ => True

theorem composed_unionOf {options alternatives : List Schema}
    (h : ∀ option ∈ options, Composed option) (heq : Schema.unionOf options = .union alternatives) :
    ∀ option ∈ alternatives, Composed option := by
  unfold Schema.unionOf at heq
  split at heq
  · split at heq
    · obtain rfl := Schema.union.inj heq
      exact List.forall_mem_map.2 fun item _ => .value item
    · exact Schema.union.inj heq ▸ h
  · exact Schema.union.inj heq ▸ h

theorem Composed.field_inv {schema : Schema} {required : Value}
    (h : Composed (.field schema required)) : Composed schema ∧ required = .bool false := by
  -- the functions that build schemas are no constructors, so the index is made a variable first
  generalize hnode : Schema.field schema required = node at h
  cases h with
  | optional h =>
    obtain ⟨rfl, rfl⟩ := Schema.field.inj hnode
    exact ⟨h, rfl⟩
  | @unionOf options =>
    obtain ⟨alternatives, heq⟩ := unionOf_eq_union options
    cases hnode.trans heq
  | objectOf _ h =>
    obtain ⟨entries, -, rfl⟩ := objectOf_eq_ok.1 h
    cases hnode
  | _ => cases hnode

/-- An optional field stands for its schema, any other node for itself. -/
theorem exists_field {name : Value} {node : Schema} (h : Composed node) :
    ∃ field : Field, field.name = name ∧ Composed field.schema ∧
      field.entry = .named name (asField node) := by
  cases node with
  | field schema required =>
    obtain ⟨hschema, rfl⟩ := h.field_inv
    exact ⟨⟨name, false, schema⟩, rfl, hschema, rfl⟩
  | _ => exact ⟨⟨name, true, _⟩, rfl, h, rfl⟩

theorem exists_fields : ∀ {arguments : List (Value × Schema)},
    (∀ argument ∈ arguments, Composed argument.2) →
      ∃ fields : List Field, fields.map Field.name = arguments.map (·.1) ∧
        (∀ field ∈ fields, Composed field.schema) ∧
        arguments.map (fun argument => .named argument.1 (asField argument.2)) =
          fields.map Field.entry
  | [], _ => ⟨[], rfl, nofun, rfl⟩
  | (name, node) :: arguments, h => by
    obtain ⟨hnode, harguments⟩ := List.forall_mem_cons.1 h
    obtain ⟨field, hname, hschema, hentry⟩ := exists_field hnode
    obtain ⟨fields, hnames, hschemas, hentries⟩ := exists_fields harguments
    refine ⟨field :: fields, ?_, List.forall_mem_cons.2 ⟨hschema, hschemas⟩, ?_⟩
    · rw [List.map_cons, List.map_cons, hname, hnames]
    · rw [List.map_cons, List.map_cons, hentry, hentries]

theorem composedFields_of_objectOf {arguments : List (Value × Schema)} {strict : Value}
    {schema : Schema} (hcomposed : ∀ argument ∈ arguments, Composed argument.2)
    (h : Schema.objectOf arguments strict = .ok schema) : ComposedShape schema := by
  obtain ⟨entries, hentries, rfl⟩ := objectOf_eq_ok.1 h
  obtain ⟨rfl, names, hnames, hnodup, -⟩ := of_checkedFields hentries
  obtain ⟨fields, hfields, hschemas, hentries⟩ := exists_fields hcomposed
  exact ⟨fields, hentries, hschemas, names, hfields.trans hnames, hnodup⟩

theorem Composed.shape {schema : Schema} (h : Composed schema) : ComposedShape schema := by
  cases h with
  | string | number | boolean | null => exact ⟨_, rfl⟩
  | literal | value => exact trivial
  | enumOf values => exact List.forall_mem_map.2 fun v _ => .literal v
  | list _ _ h | unionOfList h => exact h
  | optional h => exact ⟨h, rfl⟩
  | @unionOf options h =>
    obtain ⟨alternatives, heq⟩ := unionOf_eq_union options
    rw [heq]
    exact composed_unionOf h heq
  | objectOf hcomposed h => exact composedFields_of_objectOf hcomposed h

theorem fieldNames_entries : ∀ fields : List Field,
    fieldNames (fields.map Field.entry) = .ok (fields.map Field.name)
  | [] => rfl
  | _ :: fields => by
    have ih : List.mapM _ _ = Except.ok _ := fieldNames_entries fields
    simp only [fieldNames, List.map_cons, List.mapM_cons, ih]
    rfl

/-- An entry of a composed object is one of its fields. -/
theorem field_of_mem {fields : List Field} {name required : Value} {schema : Schema}
    (h : .named name (.field schema required) ∈ fields.map Field.entry) :
    ∃ field ∈ fields, field.name = name ∧ field.schema = schema := by
  obtain ⟨field, hfield, heq⟩ := List.mem_map.1 h
  cases heq
  exact ⟨field, hfield, rfl, rfl⟩

/-- The nodes of a composed schema are composed. -/
theorem Composed.of_nodeAt {schema node : Schema} {path : Pointer.Path} (h : Composed schema)
    (hnode : schema.NodeAt path node) : Composed node := by
  induction hnode with
  | here => exact h
  | item _ ih => exact ih h.shape
  | field hentry _ ih =>
    obtain ⟨fields, rfl, hschemas, -⟩ := h.shape
    obtain ⟨field, hfield, -, rfl⟩ := field_of_mem hentry
    exact ih (hschemas field hfield)
  | option hoption _ ih => exact ih (h.shape _ (List.mem_of_getElem? hoption))

end Conform.Schema
