import Conform.Pattern.Error
import Conform.Schema.Display

/-!
# What can be wrong with a schema

Causes with their messages. The place of a node is its location in the tree; the evaluator, which
does not keep track of it, reports none.
-/

namespace Conform

inductive SchemaError where
  | nameNotText (name : Value)
  | repeatedField (name : String)
  | repeatedNames (place : String)
  | notPairs (place : String)
  | notField (name : Value) (place : Option String) (node : Schema)
  | misplacedOptional (place : String)
  | unknownNode (place : Option String) (node : Schema)
  | unknownKind (kind : KindRef)
  | badCount (keyword place : String) (value : Value)
  | badBound (keyword place : String) (value : Value)
  | patternNotText (value : Value)
  | badPattern (pattern : String) (error : Pattern.SyntaxError)
  | unknownFormat (name : Value) (known : List String)
  | badFormatName (name : Value)

namespace SchemaError

/-- A place in a message; the root is not mentioned. -/
def atPlace (place : String) : String := if place = "" then "" else " at '" ++ place ++ "'"

def message : SchemaError → String
  | .nameNotText name => "Object field names must be strings, got " ++ name.display
  | .repeatedField name => "Duplicate object field '" ++ name ++ "'"
  | .repeatedNames place => "Duplicate object field names at '" ++ place ++ "'"
  | .notPairs place => "Object fields must be (name, FieldSpec) pairs at '" ++ place ++ "'"
  | .notField name place node =>
    "Field '" ++ name.text ++ "'" ++
      (match place with
        | some place => " at '" ++ place ++ "'"
        | none => "") ++ " must be a FieldSpec, got " ++ node.display
  | .misplacedOptional place =>
    "optional() is only allowed as an object field (at '" ++ place ++ "')"
  | .unknownNode place node =>
    "Unknown schema node" ++
      (match place with
        | some place => " at '" ++ place ++ "'"
        | none => "") ++ ": " ++ node.display
  | .unknownKind kind => "Unknown primitive kind: " ++ kind.display
  | .badCount keyword place value =>
    "'" ++ keyword ++ "' must be a non-negative integer" ++ atPlace place ++ ", got " ++
      value.display
  | .badBound keyword place value =>
    "'" ++ keyword ++ "' must be a number" ++ atPlace place ++ ", got " ++ value.display
  | .patternNotText value => "'pattern' must be a string, got " ++ value.display
  | .badPattern pattern error =>
    "Invalid string pattern '" ++ pattern ++ "': " ++ error.message pattern
  | .unknownFormat name known =>
    "Unknown string format '" ++ name.text ++ "'. Known formats: " ++ String.intercalate ", " known
  | .badFormatName name => "Format name must be a non-empty string, got: " ++ name.display

/-- Whether an error has a message: it shows no value without a text. -/
def hasText : SchemaError → Bool
  | .nameNotText name => name.hasText
  | .notField name _ node => name.hasText && node.hasText
  | .unknownNode _ node => node.hasText
  | .unknownKind kind => kind.hasText
  | .badCount _ _ value => value.hasText
  | .badBound _ _ value => value.hasText
  | .patternNotText value => value.hasText
  | .unknownFormat name _ => name.hasText
  | .badFormatName name => name.hasText
  | _ => true

end SchemaError

/-- Why something cannot be done with a schema: the schema is wrong, or a value in it does not admit
what is done with it. -/
inductive SchemaFailure where
  | schema (error : SchemaError)
  | fault (fault : Fault)

namespace SchemaFailure

/-- The failure with an error. The message is written right away, which is a fault of its own if it
cannot be. -/
def raise (error : SchemaError) : SchemaFailure :=
  if error.hasText then .schema error else .fault .badValue

/-- Carry a fault over. -/
def ofFault {α : Type} : Except Fault α → Except SchemaFailure α
  | .ok a => .ok a
  | .error f => .error (.fault f)

end SchemaFailure

end Conform
