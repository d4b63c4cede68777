import Conform.Proofs.Value.Lookup
import Conform.Proofs.Value.Writable
import Conform.Schema.Read
import Conform.Schema.Render

/-!
# Keywords of a rendered schema

The mapping that a node is rendered to is named here (`primitiveKeywords`, `listKeywords`,
`objectKeywords`). A node is read by looking its keywords up. What a lookup finds in a mapping that
has been put together from keywords is computed here, and the readers that go down the entries of a
node themselves are lookups as well (`optionsIn_eq`, `itemsIn_eq`, `propertiesIn_eq`).
-/

namespace Conform.Schema

/-! ## Rendered nodes -/

/-- The keywords that narrow a primitive kind. -/
def refinementKeywords (r : Refinements) : List (Value × Value) :=
  keyword "minLength" r.minLength ++ keyword "maxLength" r.maxLength ++
    keyword "pattern" r.pattern ++ keyword "format" r.format ++ keyword "minimum" r.minimum ++
    keyword "maximum" r.maximum

def primitiveKeywords (kind : Kind) (r : Refinements) : List (Value × Value) :=
  (.str "type", .str kind.name) :: refinementKeywords r

def listKeywords (item minItems maxItems : Value) : List (Value × Value) :=
  [(.str "type", .str "array"), (.str "items", item)] ++ keyword "minItems" minItems ++
    keyword "maxItems" maxItems

/-- The keywords of a rendered object. -/
def objectKeywords (properties : List (Value × Value)) (required : List Value) (strict : Bool) :
    List (Value × Value) :=
  [(.str "type", .str "object"), (.str "properties", .map properties)] ++
    (if required.isEmpty then [] else [(.str "required", .list required)]) ++
    (if strict then [(.str "additionalProperties", .bool false)] else [])

/-! ## Lookups -/

section
variable (name : String) (v : Value) (entries others : List (Value × Value))

@[simp] theorem get?_nil : get? [] name = none := rfl

@[simp] theorem get?_cons (other : String) :
    get? ((.str other, v) :: entries) name = if name = other then some v else get? entries name :=
  Value.lookup_str_cons name other v entries

@[simp] theorem get?_append :
    get? (entries ++ others) name = (get? entries name).or (get? others name) :=
  Value.lookup_append (.str name) entries others

@[simp] theorem get?_keyword (other : String) :
    get? (keyword other v) name =
      if name = other then if v.isNull then none else some v else none := by
  cases v <;> simp [keyword, Value.isNull]

/-- A keyword that has been left out reads as null, which is the value it was left out for. -/
@[simp] theorem getD_given : (if v.isNull = true then none else some v).getD Value.null = v := by
  cases v <;> rfl

end

/-- What a mapping holds is smaller than the mapping. -/
theorem sizeOf_lt_of_get? {entries : List (Value × Value)} {name : String} {v : Value}
    (h : get? entries name = some v) : sizeOf v < sizeOf (Value.map entries) := by
  have hmem := List.sizeOf_lt_of_mem (Value.mem_of_lookup_str h)
  simp only [Prod.mk.sizeOf_spec, Value.map.sizeOf_spec] at hmem ⊢
  omega

theorem hasText_of_get? {entries : List (Value × Value)} {name : String} {v : Value}
    (h : (Value.map entries).hasText = true) (hv : get? entries name = some v) :
    v.hasText = true :=
  Value.hasText_of_mem_map h (Value.mem_of_lookup_str hv)

theorem hasText_getD {entries : List (Value × Value)} (h : (Value.map entries).hasText = true)
    (name : String) : (getD entries name).hasText = true := by
  unfold getD
  cases hv : get? entries name with
  | none => rfl
  | some v => exact hasText_of_get? h hv

theorem ofSchema_eq_ok {α : Type} {x : Except SchemaFailure α} {a : α} :
    ReadFailure.ofSchema x = .ok a ↔ x = .ok a := by
  cases x with
  | error e => cases e <;> simp [ReadFailure.ofSchema]
  | ok b => simp [ReadFailure.ofSchema]

/-- The failure of reading that a failure of making a schema is. -/
def ofSchemaFailure : SchemaFailure → ReadFailure
  | .schema error => .schema error
  | .fault fault => .fault fault

theorem ofSchema_eq_error {α : Type} {x : Except SchemaFailure α} {e : ReadFailure} :
    ReadFailure.ofSchema x = .error e ↔
      ∃ failure, x = .error failure ∧ ofSchemaFailure failure = e := by
  cases x with
  | error failure => cases failure <;> simp [ReadFailure.ofSchema, ofSchemaFailure]
  | ok a => simp [ReadFailure.ofSchema]

theorem ofSchema_ne_node {α : Type} {x : Except SchemaFailure α} {error : NodeError} :
    ReadFailure.ofSchema x ≠ .error (.node error) := by
  cases x with
  | error e => cases e <;> simp [ReadFailure.ofSchema]
  | ok b => simp [ReadFailure.ofSchema]

theorem ofFault_eq_ok {α : Type} {x : Except Fault α} {a : α} :
    ReadFailure.ofFault x = .ok a ↔ x = .ok a := by
  cases x <;> simp [ReadFailure.ofFault]

theorem ofFault_eq_error {α : Type} {x : Except Fault α} {e : ReadFailure} :
    ReadFailure.ofFault x = .error e ↔ ∃ fault, x = .error fault ∧ e = .fault fault := by
  cases x <;> simp [ReadFailure.ofFault, eq_comm]

theorem raise_eq_node {error error' : NodeError} :
    ReadFailure.raise error = .node error' ↔ error = error' ∧ error.hasText = true := by
  unfold ReadFailure.raise
  split <;> simp_all

theorem ofFault_ne_node {α : Type} {x : Except Fault α} {error : NodeError} :
    ReadFailure.ofFault x ≠ .error (.node error) := by
  cases x <;> simp [ReadFailure.ofFault]

/-- What goes down the entries until it comes to a keyword looks that keyword up. -/
theorem eq_of_descent {β : Type} {f : List (Value × Value) → β} {keyword : String}
    {found : Value → β} {absent : β} (hnil : f [] = absent)
    (hcons : ∀ key v entries, f ((key, v) :: entries) =
      if (Value.str keyword).same key then found v else f entries) :
    ∀ entries, f entries = ((get? entries keyword).map found).getD absent := by
  intro entries
  induction entries with
  | nil => exact hnil
  | cons entry entries ih =>
    obtain ⟨key, v⟩ := entry
    rw [hcons, ih]
    unfold get? Value.lookup
    rw [List.find?_cons]
    cases (Value.str keyword).same key <;> rfl

theorem optionsIn_eq (place : String) (entries : List (Value × Value)) :
    optionsIn entries place = (get? entries "anyOf").map fun v => readOptions v place := by
  rw [eq_of_descent (f := fun entries => optionsIn entries place) rfl (fun _ _ _ => rfl) entries]
  cases get? entries "anyOf" <;> rfl

theorem itemsIn_eq (place : String) (entries : List (Value × Value)) :
    itemsIn entries place = (get? entries "items").map fun v => read v place := by
  rw [eq_of_descent (f := fun entries => itemsIn entries place) rfl (fun _ _ _ => rfl) entries]
  cases get? entries "items" <;> rfl

theorem propertiesIn_eq (place : String) (entries : List (Value × Value)) :
    propertiesIn entries place =
      ((get? entries "properties").map fun v => readProperties v place).getD (.ok []) :=
  eq_of_descent (f := fun entries => propertiesIn entries place) rfl (fun _ _ _ => rfl) entries

end Conform.Schema
