import Conform.Pointer
import Conform.Value.Writable

/-!
# Problems of a document

Where a document breaks the grammar, and how. A value at fault is shown in the message, for which it
must have a text.
-/

namespace Conform

inductive Defect where
  | wrongType (value : Value) (expected : String)
  | notAmong (value : Value) (choices : List String)
  | missing (name : String)
  /-- Keys that the grammar does not know, at least one. -/
  | unexpected (keys : List Value)
  | tooFew (value : Value)
  | belowZero (value : Value)
  | repeated (value : Value)
  | notPattern (value : Value)
  | noAlternative (value : Value)

/-- Shown items between commas. -/
def displayList (items : List Value) : String :=
  String.intercalate ", " (items.map Value.display)

def Defect.message : Defect → String
  | .wrongType value expected => value.display ++ " is not of type '" ++ expected ++ "'"
  | .notAmong value choices =>
    value.display ++ " is not one of [" ++ displayList (choices.map .str) ++ "]"
  | .missing name => (Value.str name).display ++ " is a required property"
  | .unexpected keys =>
    let verb := if keys.length = 1 then "was" else "were"
    "Additional properties are not allowed (" ++ displayList keys ++ " " ++ verb ++ " unexpected)"
  | .tooFew value => value.display ++ " should be non-empty"
  | .belowZero value => value.display ++ " is less than the minimum of 0"
  | .repeated value => value.display ++ " has non-unique elements"
  | .notPattern value => value.display ++ " is not a 'regex'"
  | .noAlternative value => value.display ++ " is not valid under any of the given schemas"

/-- Whether a defect has a message: it shows no value without a text. -/
def Defect.hasText : Defect → Bool
  | .wrongType value _ => value.hasText
  | .notAmong value _ => value.hasText
  | .missing _ => true
  | .unexpected keys => keys.all Value.hasText
  | .tooFew value => value.hasText
  | .belowZero value => value.hasText
  | .repeated value => value.hasText
  | .notPattern value => value.hasText
  | .noAlternative value => value.hasText

structure Problem where
  path : Pointer.Path
  defect : Defect

namespace Problem

def line (problem : Problem) : String :=
  let pointer := Pointer.join problem.path
  "  - " ++ (if pointer = "" then "/" else pointer) ++ ": " ++ problem.defect.message

/-- Order of paths: segment by segment, as text. -/
def precedes : Pointer.Path → Pointer.Path → Bool
  | [], [] => false
  | [], _ :: _ => true
  | _ :: _, [] => false
  | a :: as, b :: bs => a.text < b.text || (a.text = b.text && precedes as bs)

/-- Problems in the order of their paths; those of one path stay in the order found. -/
def sort (problems : List Problem) : List Problem :=
  problems.mergeSort fun p q => !precedes q.path p.path

end Problem

end Conform
