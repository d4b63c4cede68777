import Conform.Schema.Basic

/-!
# Induction over schemas

Schemas are nested in lists, in the entries of objects and in field nodes. `Schema.memInduction`
hides the nesting: what holds of a node if it holds of the nodes right below it holds of every
schema. Right below an object are the schemas of its fields, not the field nodes.
-/

namespace Conform

theorem sizeOf_field_lt {name required : Value} {schema : Schema} {entries : List Entry}
    (h : .named name (.field schema required) ∈ entries) (strict : Value) :
    sizeOf schema < sizeOf (Schema.object entries strict) := by
  have := List.sizeOf_lt_of_mem h
  simp only [Entry.named.sizeOf_spec, Schema.field.sizeOf_spec, Schema.object.sizeOf_spec] at *
  omega

theorem sizeOf_option_lt {option : Schema} {options : List Schema} (h : option ∈ options) :
    sizeOf option < sizeOf (Schema.union options) := by
  have := List.sizeOf_lt_of_mem h
  simp only [Schema.union.sizeOf_spec]
  omega

@[elab_as_elim] theorem Schema.memInduction {motive : Schema → Prop}
    (primitive : ∀ kind r, motive (.primitive kind r))
    (literal : ∀ value, motive (.literal value))
    (list : ∀ item minItems maxItems, motive item → motive (.list item minItems maxItems))
    (field : ∀ schema required, motive schema → motive (.field schema required))
    (object : ∀ entries strict, (∀ name schema required,
      .named name (.field schema required) ∈ entries → motive schema) →
      motive (.object entries strict))
    (union : ∀ options, (∀ option ∈ options, motive option) → motive (.union options))
    (other : ∀ value, motive (.other value)) (schema : Schema) : motive schema :=
  match schema with
  | .primitive kind r => primitive kind r
  | .literal value => literal value
  | .list item minItems maxItems =>
    list item minItems maxItems
      (memInduction primitive literal list field object union other item)
  | .field schema required =>
    field schema required (memInduction primitive literal list field object union other schema)
  | .object entries strict =>
    object entries strict fun _ schema _ _ =>
      memInduction primitive literal list field object union other schema
  | .union options =>
    union options fun option _ =>
      memInduction primitive literal list field object union other option
  | .other value => other value
termination_by sizeOf schema
decreasing_by
  · simp; omega
  · simp; omega
  · exact sizeOf_field_lt ‹_› strict
  · exact sizeOf_option_lt ‹_›

end Conform
