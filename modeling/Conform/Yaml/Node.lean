import Conform.Yaml.Cursor

/-!
# Nodes

A document's tree: scalars, sequences and mappings, each with a tag that says of which type it is
and the mark of its start. A reference stands in the tree as the node it refers to.
-/

namespace Conform.Yaml

inductive Tag where
  | null
  | bool
  | int
  | float
  | binary
  | timestamp
  | omap
  | pairs
  | set
  | str
  | seq
  | map
  | merge
  | value
  /-- A tag of no known type. -/
  | other (name : String)
deriving DecidableEq

namespace Tag

/-- What the names of the known tags begin with. -/
def standard : String := "tag:yaml.org,2002:"

def known : List (String × Tag) :=
  [("null", .null), ("bool", .bool), ("int", .int), ("float", .float), ("binary", .binary),
   ("timestamp", .timestamp), ("omap", .omap), ("pairs", .pairs), ("set", .set), ("str", .str),
   ("seq", .seq), ("map", .map), ("merge", .merge), ("value", .value)]

def ofName (name : String) : Tag :=
  ((known.find? fun entry => standard ++ entry.1 = name).map (·.2)).getD (.other name)

end Tag

inductive Node where
  | scalar (tag : Tag) (text : String) (mark : Mark)
  | sequence (tag : Tag) (items : List Node) (mark : Mark)
  | mapping (tag : Tag) (entries : List (Node × Node)) (mark : Mark)

namespace Node

instance : Inhabited Node := ⟨.scalar .null "" ⟨0, 0⟩⟩

def tag : Node → Tag
  | .scalar tag _ _ => tag
  | .sequence tag _ _ => tag
  | .mapping tag _ _ => tag

def mark : Node → Mark
  | .scalar _ _ mark => mark
  | .sequence _ _ mark => mark
  | .mapping _ _ mark => mark

end Node

end Conform.Yaml
