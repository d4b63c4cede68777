import Conform.Schema.Error

/-!
# Building schemas

The functions that a caller writes schemas with. Keywords are any values; only the names of an
object's fields are checked here.
-/

namespace Conform.Schema

def string (refinements : Refinements) : Schema := .primitive (.known .string) refinements

def number (minimum maximum : Value) : Schema :=
  .primitive (.known .number) { minimum, maximum }

def boolean : Schema := .primitive (.known .boolean) {}

def null : Schema := .primitive (.known .null) {}

/-- The values that equal one of the given ones. -/
def enumOf (values : List Value) : Schema := .union (values.map .literal)

/-- A field that may be absent. -/
def optional (schema : Schema) : Schema := .field schema (.bool false)

/-- Alternatives. A single one that is a list or a tuple stands for its items. -/
def unionOf (options : List Schema) : Schema :=
  match options with
  | [.other v] =>
    match v.items? with
    | some items => .union (items.map .other)
    | none => .union options
  | _ => .union options

/-- A field node as it is; any other node as a required field. -/
def asField : Schema → Schema
  | .field schema required => .field schema required
  | node => .field node (.bool true)

/-- Fields whose names are strings and differ from each other and from those already seen. -/
def checkedFields (seen : List String) :
    List (Value × Schema) → Except SchemaFailure (List Entry)
  | [] => .ok []
  | (.str name, node) :: rest =>
    if seen.contains name then .error (.raise (.repeatedField name))
    else do
      let others ← checkedFields (name :: seen) rest
      .ok (.named (.str name) (asField node) :: others)
  | (name, _) :: _ => .error (.raise (.nameNotText name))

/-- An object with the given fields. -/
def objectOf (fields : List (Value × Schema)) (strict : Value) :
    Except SchemaFailure Schema := do
  let entries ← checkedFields [] fields
  .ok (.object entries strict)

end Conform.Schema
