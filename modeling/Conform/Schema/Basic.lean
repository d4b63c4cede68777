import Conform.Value.Sequence

/-!
# Schemas

A schema is a tree of nodes that describes values. Nodes are plain data: nothing here says that a
tree makes sense. Any value may stand where a keyword or a node is expected, and it is the checks of
`Conform.Checker` that refuse what is not well formed. An absent keyword is null.
-/

namespace Conform

/-- The kinds of primitive values. -/
inductive Kind where
  | string
  | number
  | boolean
  | null
deriving DecidableEq

namespace Kind

def name : Kind → String
  | .string => "string"
  | .number => "number"
  | .boolean => "boolean"
  | .null => "null"

def ofName? (name : String) : Option Kind :=
  [Kind.string, .number, .boolean, .null].find? fun kind => kind.name = name

/-- Whether a value is of a kind. -/
def includes : Kind → Value → Bool
  | .string => Value.isString
  | .number => Value.isNumber
  | .boolean => Value.isBoolean
  | .null => Value.isNull

end Kind

/-- The kind that a primitive node gives: one of the four, or a value that may name one. -/
inductive KindRef where
  | known (kind : Kind)
  | given (value : Value)

/-- The kind that is meant, if there is one. -/
def KindRef.kind? : KindRef → Option Kind
  | .known kind => some kind
  | .given (.str name) => Kind.ofName? name
  | .given _ => none

/-- The keywords that narrow a primitive kind. -/
structure Refinements where
  minLength : Value := .null
  maxLength : Value := .null
  pattern : Value := .null
  format : Value := .null
  minimum : Value := .null
  maximum : Value := .null

mutual

inductive Schema where
  | primitive (kind : KindRef) (refinements : Refinements)
  | literal (value : Value)
  | list (item : Schema) (minItems maxItems : Value)
  /-- The schema of an object's field, with whether the field must be there. -/
  | field (schema : Schema) (required : Value)
  | object (entries : List Entry) (strict : Value)
  | union (options : List Schema)
  /-- A value where a node is expected. -/
  | other (value : Value)

/-- What stands in the list of an object's fields: a name with a node, or any value. -/
inductive Entry where
  | named (name : Value) (schema : Schema)
  | other (value : Value)

end

instance : Inhabited Schema := ⟨.other .null⟩

namespace Entry

/-- An entry as a name and a node. -/
def split : Entry → Except Fault (Value × Schema)
  | .named name schema => .ok (name, schema)
  | .other value => do
    let (name, node) ← value.pair
    .ok (name, .other node)

end Entry

/-- The names of an object's fields. -/
def Schema.fieldNames (entries : List Entry) : Except Fault (List Value) :=
  entries.mapM fun entry => do
    let (name, _) ← entry.split
    .ok name

end Conform
