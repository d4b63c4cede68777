import Conform.Pattern.Syntax

/-!
# Choices in their simplest form

A group that only groups is as good as what it holds. What all branches of a choice begin with is
taken out in front of the choice, and a choice between single characters is a set.
-/

namespace Conform.Pattern

/-- A node without the group around it, if that group does nothing else. -/
def Node.opened : Node → List Node
  | .group none added removed body =>
    if added.isEmpty ∧ removed.isEmpty then body else [.group none added removed body]
  | node => [node]

/-- A set of characters. A set of one is that character. -/
def Node.ofSet (negated : Bool) (items : List SetItem) : Node :=
  match negated, items.eraseDups with
  | false, [.char code] => .char code
  | negated, items => .set negated items

/-- Whether two nodes are the same, of those that hold no other nodes. -/
def Node.isSame : Node → Node → Bool
  | .char a, .char b => a == b
  | .any, .any => true
  | .set m xs, .set n ys => m == n && xs == ys
  | .anchor a, .anchor b => a == b
  | .backReference m, .backReference n => m == n
  | _, _ => false

/-- Whether a sequence begins with a node. -/
def isHead (node : Node) : List Node → Bool
  | [] => false
  | other :: _ => node.isSame other

/-- What a sequence and all others begin with, and what is left of each. -/
def splitCommon : List Node → List (List Node) → List Node × List (List Node)
  | [], others => ([], [] :: others)
  | node :: rest, others =>
    if others.all (isHead node) then
      let (common, left) := splitCommon rest (others.map List.tail)
      (node :: common, left)
    else ([], (node :: rest) :: others)

/-- The members that a branch adds to a set, if it is a single character or a set of them. -/
def setItems? : List Node → Option (List SetItem)
  | [.char code] => some [.char code]
  | [.set false items] => some items
  | _ => none

/-- A choice between sequences. -/
def choose (first : List Node) (others : List (List Node)) : List Node :=
  if others.isEmpty then first
  else
    let (common, branches) := splitCommon first others
    match branches.mapM setItems? with
    | some members => common ++ [.set false members.flatten.eraseDups]
    | none => common ++ [.alternatives branches]

end Conform.Pattern
