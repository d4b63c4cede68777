import Conform.Text.Quoted
import Conform.Value.Basic

/-!
# Values as JSON text

Tuples are written as arrays. Keys are written as strings: numbers, booleans and null by their JSON
text. Data, dates and sets have no JSON text, nor has any value that holds one. With sorted keys a
mapping must have comparable keys, all strings or all numbers; then the text does not depend on the
order of entries.

An integer is written in full here. Whoever writes asks first whether it may be (`Value.hasText`).
-/

namespace Conform

/-- How JSON text is laid out: on one line, or with each item on a line of its own. -/
structure JsonLayout where
  indent : Option Nat
  sortKeys : Bool

namespace JsonLayout

def compact : JsonLayout := ⟨none, false⟩

def canonical : JsonLayout := ⟨none, true⟩

def newline (layout : JsonLayout) (depth : Nat) : String :=
  match layout.indent with
  | none => ""
  | some width => "\n" ++ String.ofList (List.replicate (width * depth) ' ')

/-- Written items between brackets. -/
def enclose (layout : JsonLayout) (depth : Nat) (left right : String) (items : List String) :
    String :=
  if items.isEmpty then left ++ right
  else
    let separator := if layout.indent.isSome then "," ++ layout.newline (depth + 1) else ", "
    left ++ layout.newline (depth + 1) ++ String.intercalate separator items ++
      layout.newline depth ++ right

end JsonLayout

def Binary64.json (x : Binary64) : String := x.text ⟨"NaN", "Infinity"⟩

namespace Value

/-- A key as the text of a JSON string. -/
def jsonKey? : Value → Option String
  | .null => some "null"
  | .bool b => some (if b then "true" else "false")
  | .int n => some (toString n)
  | .float x => some x.json
  | .str s => some s
  | _ => none

def isNumericKey : Value → Bool
  | .bool _ => true
  | .int _ => true
  | .float _ => true
  | _ => false

/-- Order of keys: strings by code points, numbers by value. -/
def keyBelow : Value → Value → Bool
  | .str s, .str t => s < t
  | v, w => v.isBelow w

/-- Entries in the order of their keys, if the keys can be compared. -/
def sortByKey (entries : List (Value × String)) : Option (List (Value × String)) :=
  let keys := entries.map (·.1)
  if entries.length < 2 ∨ keys.all isString ∨ keys.all isNumericKey then
    some (entries.mergeSort fun a b => !keyBelow b.1 a.1)
  else none

mutual

def jsonAt (layout : JsonLayout) (depth : Nat) : Value → Option String
  | .null => some "null"
  | .bool b => some (if b then "true" else "false")
  | .int n => some (toString n)
  | .float x => some x.json
  | .str s => some (Text.jsonQuoted s)
  | .list items => (jsonItems layout (depth + 1) items).map (layout.enclose depth "[" "]")
  | .tuple items => (jsonItems layout (depth + 1) items).map (layout.enclose depth "[" "]")
  | .map entries => do
    let written ← jsonEntries layout (depth + 1) entries
    let ordered ← if layout.sortKeys then sortByKey written else some written
    some (layout.enclose depth "\x7b" "\x7d" (ordered.map (·.2)))
  | _ => none

def jsonItems (layout : JsonLayout) (depth : Nat) : List Value → Option (List String)
  | [] => some []
  | v :: rest => do
    let first ← jsonAt layout depth v
    let others ← jsonItems layout depth rest
    some (first :: others)

def jsonEntries (layout : JsonLayout) (depth : Nat) :
    List (Value × Value) → Option (List (Value × String))
  | [] => some []
  | (k, v) :: rest => do
    let key ← jsonKey? k
    let value ← jsonAt layout depth v
    let others ← jsonEntries layout depth rest
    some ((k, Text.jsonQuoted key ++ ": " ++ value) :: others)

end

/-- The JSON text of a value, if it has one. -/
def json? (layout : JsonLayout) (v : Value) : Option String := jsonAt layout 0 v

end Value

end Conform
