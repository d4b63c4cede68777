import Conform.Value.Basic

/-!
# Equality of values

Two relations. `Value.same` is equality of the data themselves, and decides which keys of mappings
coincide: numbers are the same when they are numerically equal, booleans counting as 0 and 1, and a
list is not a tuple. `Value.deepEqual` is equality of JSON data: booleans never equal numbers, at
any depth of values, and a list equals a tuple with equal items. NaN is equal to nothing.
-/

namespace Conform.Value

/-- Numeric equality; false when one side is not numeric. -/
def sameNumber (v w : Value) : Bool :=
  match v.extended?, w.extended? with
  | some a, some b => a == b
  | _, _ => false

mutual

def same : Value → Value → Bool
  | .null, w => w.isNull
  | .bool b, w => sameNumber (.bool b) w
  | .int n, w => sameNumber (.int n) w
  | .float x, w => sameNumber (.float x) w
  | .str s, w => match w with
    | .str t => s == t
    | _ => false
  | .bytes a, w => match w with
    | .bytes b => a == b
    | _ => false
  | .date d, w => match w with
    | .date e => d == e
    | _ => false
  | .datetime s, w => match w with
    | .datetime t => s.same t
    | _ => false
  | .list items, w => match w with
    | .list others => sameItems items others
    | _ => false
  | .tuple items, w => match w with
    | .tuple others => sameItems items others
    | _ => false
  | .map entries, w => match w with
    | .map others => entries.length == others.length && sameEntries entries others
    | _ => false
  | .set elements, w => match w with
    | .set others => elements.length == others.length && sameElements elements others
    | _ => false
termination_by structural x => x

def sameItems : List Value → List Value → Bool
  | [], [] => true
  | v :: rest, w :: others => same v w && sameItems rest others
  | _, _ => false
termination_by structural x => x

/-- Every entry has its counterpart among the others. -/
def sameEntries : List (Value × Value) → List (Value × Value) → Bool
  | [], _ => true
  | (k, v) :: rest, others =>
    (match others.find? fun entry => same k entry.1 with
      | some entry => same v entry.2
      | none => false) && sameEntries rest others
termination_by structural x => x

def sameElements : List Value → List Value → Bool
  | [], _ => true
  | v :: rest, others => (others.any fun w => same v w) && sameElements rest others
termination_by structural x => x

end

/-- The value that a list of entries holds under a key. -/
def lookup (key : Value) (entries : List (Value × Value)) : Option Value :=
  (entries.find? fun entry => same key entry.1).map (·.2)

/-- Whether a key is among some values. -/
def isAmong (key : Value) (keys : List Value) : Bool := keys.any fun k => same key k

/-- Put a value under a key: a key that is already there keeps its place and its own form. -/
def put (key value : Value) : List (Value × Value) → List (Value × Value)
  | [] => [(key, value)]
  | (k, v) :: rest => if same key k then (k, value) :: rest else (k, v) :: put key value rest

/-- The mapping that a sequence of assignments makes. -/
def ofAssignments (pairs : List (Value × Value)) : List (Value × Value) :=
  pairs.foldl (fun entries pair => put pair.1 pair.2 entries) []

mutual

def deepEqual : Value → Value → Bool
  | .bool a, w => match w with
    | .bool b => a == b
    | _ => false
  | .list items, w => match w with
    | .list others => deepEqualItems items others
    | .tuple others => deepEqualItems items others
    | _ => false
  | .tuple items, w => match w with
    | .list others => deepEqualItems items others
    | .tuple others => deepEqualItems items others
    | _ => false
  | .map entries, w => match w with
    | .map others => entries.length == others.length && deepEqualEntries entries others
    | _ => false
  | .int n, w => match w with
    | .int _ => sameNumber (.int n) w
    | .float _ => sameNumber (.int n) w
    | _ => false
  | .float x, w => match w with
    | .int _ => sameNumber (.float x) w
    | .float _ => sameNumber (.float x) w
    | _ => false
  | .null, w => w.isNull
  | .str s, w => match w with
    | .str t => s == t
    | _ => false
  | .bytes a, w => match w with
    | .bytes b => a == b
    | _ => false
  | .date d, w => match w with
    | .date e => d == e
    | _ => false
  | .datetime s, w => match w with
    | .datetime t => s.same t
    | _ => false
  | .set elements, w => match w with
    | .set others => elements.length == others.length && sameElements elements others
    | _ => false

def deepEqualItems : List Value → List Value → Bool
  | [], [] => true
  | v :: rest, w :: others => deepEqual v w && deepEqualItems rest others
  | _, _ => false

/-- Every entry has its counterpart among the others, keys compared by `same`. -/
def deepEqualEntries : List (Value × Value) → List (Value × Value) → Bool
  | [], _ => true
  | (k, v) :: rest, others =>
    (match lookup k others with
      | some w => deepEqual v w
      | none => false) && deepEqualEntries rest others

end

end Conform.Value
