import Conform.Yaml.Tree
import Conform.Yaml.Typed

/-!
# Values of trees

The value of a node is made from its tag and its content. A mapping with merge keys has the entries
that these bring in before its own; of entries with the same key the last one counts, in the place
of the first.

A tree may hold several faults. Values are made level by level from the root, so the fault that
counts is that of the least depth, and of those of one depth the first in the text.
-/

namespace Conform.Yaml

/-- A result, or a failure with its depth below the node whose result it is. -/
abbrev Outcome (α : Type) := Except (Nat × Failure) α

namespace Outcome

def here {α : Type} (outcome : Except Failure α) : Outcome α :=
  match outcome with
  | .ok a => .ok a
  | .error failure => .error (0, failure)

/-- The same one level further down. -/
def deeper {α : Type} (outcome : Outcome α) : Outcome α :=
  match outcome with
  | .ok a => .ok a
  | .error (depth, failure) => .error (depth + 1, failure)

/-- Two results, or the failure of less depth; of two of one depth the first. -/
def both {α β : Type} (a : Outcome α) (b : Outcome β) : Outcome (α × β) :=
  match a, b with
  | .ok a, .ok b => .ok (a, b)
  | .error e, .ok _ => .error e
  | .ok _, .error e => .error e
  | .error e, .error f => .error (if f.1 < e.1 then f else e)

def all {α : Type} : List (Outcome α) → Outcome (List α)
  | [] => .ok []
  | a :: rest =>
    match both a (all rest) with
    | .ok (a, rest) => .ok (a :: rest)
    | .error e => .error e

end Outcome

/-! ## Shapes -/

/-- Whether a tag is that of a collection. Values of collections cannot be keys. -/
def Tag.isCollection : Tag → Bool
  | .omap => true
  | .pairs => true
  | .set => true
  | .seq => true
  | .map => true
  | _ => false

mutual

/-- The text of a node: that of a scalar, or of the default value in a mapping. -/
def Node.text? : Node → Option String
  | .scalar _ text _ => some text
  | .mapping _ entries _ => defaultText entries
  | .sequence _ _ _ => none

def defaultText : List (Node × Node) → Option String
  | [] => none
  | (key, value) :: rest => if key.tag = .value then value.text? else defaultText rest

end

def Node.isMapping : Node → Bool
  | .mapping _ _ _ => true
  | _ => false

mutual

/-- Whether all merge keys of a mapping, and of those it merges, have mappings to merge. -/
def canMerge : List (Node × Node) → Bool
  | [] => true
  | (key, value) :: rest => (key.tag ≠ .merge || isMergeable value) && canMerge rest

/-- Whether a node is a mapping or a sequence of mappings that can be merged. -/
def isMergeable : Node → Bool
  | .mapping _ entries _ => canMerge entries
  | .sequence _ items _ => areMergeable items
  | .scalar _ _ _ => false

def areMergeable : List Node → Bool
  | [] => true
  | item :: rest => item.isMapping && isMergeable item && areMergeable rest

end

/-! ## Values -/

/-- The value of a node whose tag is that of a scalar type. -/
def typed (tag : Tag) (node : Node) : Except Failure Value :=
  match node.text? with
  | none => .error .malformed
  | some text =>
    match tag with
    | .null => .ok .null
    | .bool => (Typed.bool text).mapError .fault
    | .int => (Typed.int text).mapError .fault
    | .float => (Typed.float text).mapError .fault
    | .binary => Typed.binary text
    | .timestamp =>
      match node with
      | .scalar _ _ _ => (Typed.timestamp text).mapError .fault
      | _ => .error (.fault .wrongType)
    | .str => .ok (.str text)
    | _ => .error .malformed

/-- The value of a key that is no collection. The sign of a default value is a string there. -/
def keyValue (key : Node) : Outcome Value :=
  Outcome.here (typed (if key.tag = .value then .str else key.tag) key)

/-- The pairs of a list of entries: those that merge keys bring in, and the mapping's own. -/
structure Pairs where
  merged : List (Outcome (Value × Value))
  own : List (Outcome (Value × Value))

def Pairs.all (pairs : Pairs) : List (Outcome (Value × Value)) := pairs.merged ++ pairs.own

/-- A key, which is no collection, with its value. The failures of a key come before those of the
value, and so does its being a collection. -/
def pairOf (keyTag : Tag) (key value : Outcome Value) : Outcome (Value × Value) :=
  if keyTag.isCollection then .error (0, .malformed) else Outcome.both key value

/-- The value of a collection from that of its parts, which are made one level further down. -/
def collected (parts : Outcome (List Value)) (make : List Value → Value) : Outcome Value :=
  match parts.deeper with
  | .ok values => .ok (make values)
  | .error e => .error e

/-- The value of a mapping from its pairs. -/
def collectedPairs (entries : List (Node × Node)) (pairs : Pairs)
    (make : List (Value × Value) → Value) : Outcome Value :=
  if !canMerge entries then .error (1, .malformed)
  else
    match (Outcome.all pairs.all).deeper with
    | .ok pairs => .ok (make (Value.ofAssignments pairs))
    | .error e => .error e

/-- The tuple of a pair, or its failure. -/
def tupled (pair : Outcome (Value × Value)) : Outcome Value :=
  match pair with
  | .ok (key, value) => .ok (.tuple [key, value])
  | .error e => .error e

mutual

/-- The value of a node. -/
def Node.value : Node → Outcome Value
  | .scalar tag text mark =>
    if tag.isCollection then .error (1, .malformed)
    else Outcome.here (typed tag (.scalar tag text mark))
  | .sequence tag items mark =>
    match tag with
    | .seq => collected (Outcome.all (itemValues items)) .list
    | .omap => collected (Outcome.all (pairValues items)) .list
    | .pairs => collected (Outcome.all (pairValues items)) .list
    | .map => .error (1, .malformed)
    | .set => .error (1, .malformed)
    | tag => Outcome.here (typed tag (.sequence tag items mark))
  | .mapping tag entries mark =>
    match tag with
    | .map => collectedPairs entries (entryValues entries) .map
    | .set => collectedPairs entries (entryValues entries) fun pairs => .set (pairs.map (·.1))
    | .seq => .error (1, .malformed)
    | .omap => .error (1, .malformed)
    | .pairs => .error (1, .malformed)
    | tag => Outcome.here (typed tag (.mapping tag entries mark))
termination_by structural n => n

def itemValues : List Node → List (Outcome Value)
  | [] => []
  | item :: rest => item.value :: itemValues rest
termination_by structural items => items

/-- The pairs of a sequence of mappings with one entry each. -/
def pairValues : List Node → List (Outcome Value)
  | [] => []
  | item :: rest => pairValue item :: pairValues rest
termination_by structural items => items

def pairValue : Node → Outcome Value
  | .mapping _ entries _ => singleValue entries
  | _ => .error (0, .malformed)
termination_by structural n => n

def singleValue : List (Node × Node) → Outcome Value
  | [(key, value)] => tupled (Outcome.both key.value value.value)
  | _ => .error (0, .malformed)
termination_by structural entries => entries

def entryValues : List (Node × Node) → Pairs
  | [] => ⟨[], []⟩
  | (key, value) :: rest =>
    let others := entryValues rest
    if key.tag = .merge then { others with merged := mergedPairs value ++ others.merged }
    else { others with own := pairOf key.tag (keyValue key) value.value :: others.own }
termination_by structural entries => entries

/-- The pairs that a node under a merge key brings in. Of several mappings the last come first. -/
def mergedPairs : Node → List (Outcome (Value × Value))
  | .mapping _ entries _ => (entryValues entries).all
  | .sequence _ items _ => mergedItems items
  | .scalar _ _ _ => []
termination_by structural n => n

def mergedItems : List Node → List (Outcome (Value × Value))
  | [] => []
  | item :: rest => mergedItems rest ++ mergedPairs item
termination_by structural items => items

end

/-- The value of a document; without one it is null. -/
def valueOf (root : Option Node) : Except Failure Value :=
  match root with
  | none => .ok .null
  | some root =>
    match root.value with
    | .ok value => .ok value
    | .error (_, failure) => .error failure

/-- The value of a text in the notation. A value that contains itself is made as any other, but it
is no tree. -/
def load (text : List Char) : Except Failure Value := do
  let (root, cyclic) ← read text
  let value ← valueOf root
  if cyclic then .error (.fault .selfContaining) else .ok value

end Conform.Yaml
