import Conform.Fault
import Conform.Number.Numeral
import Conform.Value.Basic

/-!
# Values that can be written

An integer is written in decimal, and only up to a limit of digits. A value that holds a longer one
has no text of any kind: it is neither displayed nor written as JSON. The functions that give a text
say which; whoever writes asks first whether there is one.
-/

namespace Conform

/-- Whether an integer has as few decimal digits as are written. -/
def isWritable (n : Int) : Bool := (Nat.toDigits 10 n.natAbs).length ≤ Numeral.digitLimit

namespace Value

mutual

/-- Whether a value has a text: no integer in it has too many digits. -/
def hasText : Value → Bool
  | .int n => isWritable n
  | .list items => haveText items
  | .tuple items => haveText items
  | .map entries => entriesHaveText entries
  | .set elements => haveText elements
  | _ => true

def haveText : List Value → Bool
  | [] => true
  | v :: rest => hasText v && haveText rest

def entriesHaveText : List (Value × Value) → Bool
  | [] => true
  | (k, v) :: rest => hasText k && hasText v && entriesHaveText rest

end

/-- Fail if a value has no text. -/
def requireText (v : Value) : Except Fault Unit := if v.hasText then .ok () else .error .badValue

end Value

end Conform
