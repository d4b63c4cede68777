import Conform.Pattern.Charset

/-!
# What a sequence begins with

What can be told of the first character of a match without trying it. A character that is compared
as it is, and a set that does not depend on case, rule out places at a glance; anything else has to
be tried.
-/

namespace Conform.Pattern

inductive Lead where
  | char (code : Nat)
  | set (negated : Bool) (items : List SetItem) (ascii : Bool)
  | unknown

namespace Lead

def ofChar (flags : Flags) (code : Nat) : Lead :=
  if flags.ignoreCase && flags.isCased code then .unknown else .char code

def ofSet (flags : Flags) : Bool → List SetItem → Lead
  | true, [.char _] => .unknown
  | negated, items =>
    if isFolded flags items then .unknown else .set negated items flags.ascii

/-- Whether a match can begin with a character; at the end of the text there is none. -/
def admits (lead : Lead) (c : Option Nat) : Bool :=
  match lead with
  | .char code => c == some code
  | .set negated items ascii => c.any fun c => items.any (SetItem.takes ascii c) != negated
  | .unknown => true

/-- Like `admits`, but a set does not rule out anything. -/
def admitsChar (lead : Lead) (c : Option Nat) : Bool :=
  match lead with
  | .char code => c == some code
  | _ => true

end Lead

mutual

/-- What a node begins with, or what comes after it begins with if it is an empty group. -/
def Node.lead (flags : Flags) (after : Unit → Lead) : Node → Lead
  | .char code => .ofChar flags code
  | .set negated items => .ofSet flags negated items
  | .group none added removed body => leadOf (flags.inside added removed) after body
  | _ => .unknown

/-- What a sequence begins with. -/
def leadOf (flags : Flags) (after : Unit → Lead) : List Node → Lead
  | [] => after ()
  | node :: others => node.lead flags fun _ => leadOf flags after others

end

/-! ## Whole patterns

A pattern whose matches begin with one of some known characters is tried wherever one of them
stands. -/

mutual

/-- Whether the first character is a given one; `none` if the node is an empty group. -/
def Node.isLedByChar (flags : Flags) : Node → Option Bool
  | .char code => some !(flags.ignoreCase && flags.isCased code)
  | .group _ added removed body => isLedByChar (flags.inside added removed) body
  | _ => some false

/-- Whether the first character is a given one; `none` if there is nothing but empty groups. -/
def isLedByChar (flags : Flags) : List Node → Option Bool
  | [] => none
  | node :: others =>
    match node.isLedByChar flags with
    | some answer => some answer
    | none => isLedByChar flags others

end

/-- Whether a branch begins with a given character, outside of groups. -/
def isBranchLedByChar (flags : Flags) : List Node → Bool
  | .char code :: _ => !(flags.ignoreCase && flags.isCased code)
  | _ => false

def SetItem.isFixed (flags : Flags) (item : SetItem) : Bool :=
  match item with
  | .char code => !(flags.ignoreCase && flags.isCased code)
  | item => !(flags.ignoreCase && item.isCased flags)

mutual

/-- Whether the first character is from a set that the case of letters does not change. -/
def Node.isLedBySet (flags : Flags) : Node → Bool
  | .set true [.char _] => false
  | .set _ items => items.all (SetItem.isFixed flags)
  | .alternatives branches => branches.all (isBranchLedByChar flags)
  | .group _ added removed body => isLedBySet (flags.inside added removed) body
  | _ => false

/-- Whether the first node of a sequence begins with such a set. -/
def isLedBySet (flags : Flags) : List Node → Bool
  | [] => false
  | node :: _ => node.isLedBySet flags

end

/-- Whether the characters are known with which a match begins. -/
def isLed (flags : Flags) (nodes : List Node) : Bool :=
  isLedByChar flags nodes == some true || isLedBySet flags nodes

end Conform.Pattern
