import Conform.Calendar
import Conform.Number.Shortest

/-!
# Values

The data that is checked, as JSON and YAML files and callers give it. A mapping keeps its entries in
the order in which their keys first came.
-/

namespace Conform

inductive Value where
  | null
  | bool (b : Bool)
  | int (n : Int)
  | float (x : Binary64)
  | str (s : String)
  | bytes (data : List UInt8)
  | date (d : Date)
  | datetime (t : DateTime)
  | list (items : List Value)
  | tuple (items : List Value)
  | map (entries : List (Value × Value))
  | set (elements : List Value)

namespace Value

instance : Inhabited Value := ⟨.null⟩

/-- The name of a value's type, as messages give it. -/
def typeName : Value → String
  | .null => "NoneType"
  | .bool _ => "bool"
  | .int _ => "int"
  | .float _ => "float"
  | .str _ => "str"
  | .bytes _ => "bytes"
  | .date _ => "date"
  | .datetime _ => "datetime"
  | .list _ => "list"
  | .tuple _ => "tuple"
  | .map _ => "dict"
  | .set _ => "set"

def isString : Value → Bool
  | .str _ => true
  | _ => false

/-- Integers and finite doubles; a boolean is not a number. -/
def isNumber : Value → Bool
  | .int _ => true
  | .float x => x.isFinite
  | _ => false

def isBoolean : Value → Bool
  | .bool _ => true
  | _ => false

def isNull : Value → Bool
  | .null => true
  | _ => false

def isArray : Value → Bool
  | .list _ => true
  | .tuple _ => true
  | _ => false

def isObject : Value → Bool
  | .map _ => true
  | _ => false

/-- The items of a list or a tuple. -/
def items? : Value → Option (List Value)
  | .list items => some items
  | .tuple items => some items
  | _ => none

/-- The place of a value among the numbers, where `false` is 0 and `true` is 1; NaN has none. -/
def extended? : Value → Option Extended
  | .bool b => some (.ofInt (if b then 1 else 0))
  | .int n => some (.ofInt n)
  | .float x => x.extended?
  | _ => none

/-- Numeric order; false when one side is NaN or not a number. -/
def isBelow (v w : Value) : Bool :=
  match v.extended?, w.extended? with
  | some a, some b => a.lt b
  | _, _ => false

/-- Whether a value counts as true: not null, false, zero or empty. -/
def truthy : Value → Bool
  | .null => false
  | .bool b => b
  | .int n => n != 0
  | .float x => x.dyadic? != some 0
  | .str s => s != ""
  | .bytes data => !data.isEmpty
  | .date _ => true
  | .datetime _ => true
  | .list items => !items.isEmpty
  | .tuple items => !items.isEmpty
  | .map entries => !entries.isEmpty
  | .set elements => !elements.isEmpty

mutual

/-- Whether a value can be the key of a mapping: it holds no list, mapping or set. -/
def isKey : Value → Bool
  | .list _ => false
  | .map _ => false
  | .set _ => false
  | .tuple items => areKeys items
  | _ => true

def areKeys : List Value → Bool
  | [] => true
  | v :: rest => isKey v && areKeys rest

end

end Value

end Conform
