import Conform.Fault
import Conform.Value.Equality

/-!
# Values as sequences

What a value gives when it is gone through item by item: the items of lists, tuples and sets, the
characters of strings, the numbers of data, the keys of mappings. All else cannot be gone through.
-/

namespace Conform.Value

def elements : Value → Except Fault (List Value)
  | .list items => .ok items
  | .tuple items => .ok items
  | .set elements => .ok elements
  | .str s => .ok (s.toList.map fun c => .str (String.singleton c))
  | .bytes data => .ok (data.map fun b => .int b.toNat)
  | .map entries => .ok (entries.map (·.1))
  | _ => .error .wrongType

/-- A value that consists of two others. -/
def pair (v : Value) : Except Fault (Value × Value) := do
  match ← v.elements with
  | [a, b] => .ok (a, b)
  | _ => .error .badValue

/-- Whether the characters of a word stand one after the other in a text. -/
def containsWord (word : List Char) : List Char → Bool
  | [] => word.isEmpty
  | c :: rest => word.isPrefixOf (c :: rest) || containsWord word rest

/-- Whether a value is among the elements of another; for a string, a part of it. -/
def contains (container v : Value) : Except Fault Bool :=
  match container with
  | .map entries => if v.isKey then .ok (lookup v entries).isSome else .error .wrongType
  | .set elements => if v.isKey then .ok (v.isAmong elements) else .error .wrongType
  | .list items => .ok (v.isAmong items)
  | .tuple items => .ok (v.isAmong items)
  | .str s =>
    match v with
    | .str word => .ok (containsWord word.toList s.toList)
    | _ => .error .wrongType
  | .bytes data =>
    match v with
    | .bytes word => .ok (containsWord (word.map fun b => Char.ofNat b.toNat)
        (data.map fun b => Char.ofNat b.toNat))
    | .bool b => .ok (data.contains (if b then 1 else 0))
    | .int n =>
      if 0 ≤ n ∧ n < 256 then .ok (data.contains (UInt8.ofNat n.toNat)) else .error .badValue
    | _ => .error .wrongType
  | _ => .error .wrongType

end Conform.Value
