import Conform.Schema.Error

/-!
# Schemas as JSON Schema

A schema is rendered as a mapping with the keywords of JSON Schema. The keywords come in a fixed
order, and a field list becomes the properties and the names of the required ones.
-/

namespace Conform

/-- The keyword, if it has a value. -/
def keyword (name : String) (value : Value) : List (Value × Value) :=
  if value.isNull then [] else [(.str name, value)]

/-- The names of the fields that must be there. -/
def requiredNames : List Entry → List Value
  | [] => []
  | .named name (.field _ required) :: rest =>
    if required.truthy then name :: requiredNames rest else requiredNames rest
  | _ :: rest => requiredNames rest

mutual

def Schema.render : Schema → Except SchemaFailure Value
  | .primitive (.known kind) r =>
    .ok (.map ((.str "type", .str kind.name) ::
      (keyword "minLength" r.minLength ++ keyword "maxLength" r.maxLength ++
        keyword "pattern" r.pattern ++ keyword "format" r.format ++
        keyword "minimum" r.minimum ++ keyword "maximum" r.maximum)))
  | .primitive (.given _) _ => .error (.fault .noAttribute)
  | .literal value => .ok (.map [(.str "const", value)])
  | .list item minItems maxItems => do
    let items ← item.render
    .ok (.map ([(.str "type", .str "array"), (.str "items", items)] ++
      keyword "minItems" minItems ++ keyword "maxItems" maxItems))
  | .object entries strict => do
    let assignments ← renderAssignments entries
    let properties := Value.ofAssignments assignments
    let required := requiredNames entries
    .ok (.map ([(.str "type", .str "object"), (.str "properties", .map properties)] ++
      (if required.isEmpty then [] else [(.str "required", .list required)]) ++
      (if strict.truthy then [(.str "additionalProperties", .bool false)] else [])))
  | .union options => do
    let rendered ← renderAll options
    .ok (.map [(.str "anyOf", .list rendered)])
  | .field schema required => .error (.raise (.unknownNode none (.field schema required)))
  | .other value => .error (.raise (.unknownNode none (.other value)))

/-- The assignments of names to rendered fields. -/
def renderAssignments : List Entry → Except SchemaFailure (List (Value × Value))
  | [] => .ok []
  | .named name (.field schema _) :: rest => do
    let rendered ← schema.render
    if !name.isKey then .error (.fault .wrongType)
    else do
      let others ← renderAssignments rest
      .ok ((name, rendered) :: others)
  | .named _ _ :: _ => .error (.fault .noAttribute)
  | .other value :: _ => do
    let _ ← SchemaFailure.ofFault value.pair
    .error (.fault .noAttribute)

def renderAll : List Schema → Except SchemaFailure (List Value)
  | [] => .ok []
  | schema :: rest => do
    let rendered ← schema.render
    let others ← renderAll rest
    .ok (rendered :: others)

end

end Conform
