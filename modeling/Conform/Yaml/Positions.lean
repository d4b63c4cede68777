import Conform.Pointer
import Conform.SourceMap
import Conform.Yaml.Tree

/-!
# Positions of nodes

The source map of a tree has a position for each node below a root, under the pointer made of the
texts of keys and of indices. What stands under a key that is no scalar has no pointer.
-/

namespace Conform.Yaml

def Mark.position (mark : Mark) : Position := ⟨some (mark.line + 1), some (mark.column + 1)⟩

mutual

/-- The positions of a node and of all below it, in the order of the text. -/
def Node.positions (node : Node) (pointer : String) : List (String × Position) :=
  match node with
  | .scalar _ _ mark => [(pointer, mark.position)]
  | .sequence _ items mark => (pointer, mark.position) :: itemPositions items pointer 0
  | .mapping _ entries mark => (pointer, mark.position) :: entryPositions entries pointer
termination_by structural node

def itemPositions (items : List Node) (pointer : String) (index : Nat) :
    List (String × Position) :=
  match items with
  | [] => []
  | item :: rest =>
    item.positions (Pointer.child pointer (.int index)) ++ itemPositions rest pointer (index + 1)
termination_by structural items

def entryPositions (entries : List (Node × Node)) (pointer : String) :
    List (String × Position) :=
  match entries with
  | [] => []
  | (.scalar _ text _, value) :: rest =>
    value.positions (Pointer.child pointer (.str text)) ++ entryPositions rest pointer
  | _ :: rest => entryPositions rest pointer
termination_by structural entries

end

/-- The source map of a tree. -/
def Node.sourceMap (root : Node) : SourceMap := .ofRecords (root.positions "")

/-- The source map of a text; that of a malformed text is empty. -/
def sourceMap (text : List Char) : Except Fault SourceMap :=
  match compose text with
  | .ok (some root) => .ok root.sourceMap
  | .ok none => .ok []
  | .error .malformed => .ok []
  | .error (.fault fault) => .error fault

end Conform.Yaml
