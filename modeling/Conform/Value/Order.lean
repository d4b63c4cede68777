import Conform.Value.Equality

/-!
# Order of values

Numbers, booleans among them, are ordered by size, text and data by their parts, dates by time,
lists by their first difference, sets by inclusion. Other values, and values of different types,
have no order.
-/

namespace Conform

def Date.precedes (a b : Date) : Bool := a.ordinal < b.ordinal

def DateTime.precedes (s t : DateTime) : Bool :=
  let (seconds, micro) := s.instant
  let (seconds', micro') := t.instant
  seconds < seconds' || (seconds = seconds' && micro < micro')

namespace Value

def bytesPrecede : List UInt8 → List UInt8 → Bool
  | _, [] => false
  | [], _ :: _ => true
  | a :: as, b :: bs => a < b || (a = b && bytesPrecede as bs)

mutual

/-- Whether a value comes before another, if the two have an order. -/
def precedes? : Value → Value → Option Bool
  | .str s, w => match w with
    | .str t => some (s < t)
    | _ => none
  | .bytes a, w => match w with
    | .bytes b => some (bytesPrecede a b)
    | _ => none
  | .date d, w => match w with
    | .date e => some (d.precedes e)
    | _ => none
  | .datetime s, w => match w with
    | .datetime t => if s.offset.isSome = t.offset.isSome then some (s.precedes t) else none
    | _ => none
  | .list items, w => match w with
    | .list others => listPrecedes items others
    | _ => none
  | .tuple items, w => match w with
    | .tuple others => listPrecedes items others
    | _ => none
  | .set elements, w => match w with
    | .set others => some (elements.length < others.length && sameElements elements others)
    | _ => none
  | .null, _ => none
  | .map _, _ => none
  | v, w => match w with
    | .bool _ => some (v.isBelow w)
    | .int _ => some (v.isBelow w)
    | .float _ => some (v.isBelow w)
    | _ => none
termination_by structural x => x

def listPrecedes : List Value → List Value → Option Bool
  | _, [] => some false
  | [], _ :: _ => some true
  | v :: rest, w :: others => if same v w then listPrecedes rest others else precedes? v w
termination_by structural x => x

end

/-- Whether all values have an order with each other. -/
def areComparable : List Value → Bool
  | [] => true
  | v :: rest => rest.all (fun w => (precedes? v w).isSome) && areComparable rest

end Value

end Conform
