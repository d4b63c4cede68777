import Conform.Schema.Basic
import Conform.Value.Display
import Conform.Value.Writable

/-!
# Schemas in messages

A node is shown as the constructor with all its parts, if all of them have a text.
-/

namespace Conform

def Kind.display (kind : Kind) : String :=
  let tag :=
    match kind with
    | .string => "STRING"
    | .number => "NUMBER"
    | .boolean => "BOOLEAN"
    | .null => "NULL"
  "<PrimitiveKind." ++ tag ++ ": '" ++ kind.name ++ "'>"

def KindRef.display : KindRef → String
  | .known kind => kind.display
  | .given value => value.display

/-- A constructor with named parts. -/
def displayNode (name : String) (parts : List (String × String)) : String :=
  name ++ "(" ++ String.intercalate ", " (parts.map fun (part, text) => part ++ "=" ++ text) ++ ")"

/-- Shown items as a tuple. -/
def displayTuple (items : List String) : String :=
  match items with
  | [item] => "(" ++ item ++ ",)"
  | _ => "(" ++ String.intercalate ", " items ++ ")"

mutual

def Schema.display : Schema → String
  | .primitive kind r =>
    displayNode "PrimitiveSpec"
      [("kind", kind.display), ("min_length", r.minLength.display),
       ("max_length", r.maxLength.display), ("pattern", r.pattern.display),
       ("format", r.format.display), ("minimum", r.minimum.display),
       ("maximum", r.maximum.display)]
  | .literal value => displayNode "LiteralSpec" [("value", value.display)]
  | .list item minItems maxItems =>
    displayNode "ListSpec"
      [("item", item.display), ("min_items", minItems.display), ("max_items", maxItems.display)]
  | .field schema required =>
    displayNode "FieldSpec" [("spec", schema.display), ("required", required.display)]
  | .object entries strict =>
    displayNode "ObjectSpec"
      [("fields", displayTuple (displayEntries entries)), ("strict", strict.display)]
  | .union options => displayNode "UnionSpec" [("options", displayTuple (displayAll options))]
  | .other value => value.display

def Entry.display : Entry → String
  | .named name schema => "(" ++ name.display ++ ", " ++ schema.display ++ ")"
  | .other value => value.display

def displayEntries : List Entry → List String
  | [] => []
  | entry :: rest => entry.display :: displayEntries rest

def displayAll : List Schema → List String
  | [] => []
  | schema :: rest => schema.display :: displayAll rest

end

/-! ## What can be shown -/

def KindRef.hasText : KindRef → Bool
  | .known _ => true
  | .given value => value.hasText

def Refinements.hasText (r : Refinements) : Bool :=
  [r.minLength, r.maxLength, r.pattern, r.format, r.minimum, r.maximum].all Value.hasText

mutual

/-- Whether a node can be shown. -/
def Schema.hasText : Schema → Bool
  | .primitive kind r => kind.hasText && r.hasText
  | .literal value => value.hasText
  | .list item minItems maxItems => item.hasText && minItems.hasText && maxItems.hasText
  | .field schema required => schema.hasText && required.hasText
  | .object entries strict => entriesHaveText entries && strict.hasText
  | .union options => allHaveText options
  | .other value => value.hasText

def Entry.hasText : Entry → Bool
  | .named name schema => name.hasText && schema.hasText
  | .other value => value.hasText

def entriesHaveText : List Entry → Bool
  | [] => true
  | entry :: rest => entry.hasText && entriesHaveText rest

def allHaveText : List Schema → Bool
  | [] => true
  | schema :: rest => schema.hasText && allHaveText rest

end

end Conform
