/-!
# Syntax of patterns

Regular expressions as trees. Characters are code points, since an escape can name one that no text
holds.
-/

namespace Conform.Pattern

/-- Options that a pattern or a group in it turns on or off. -/
structure Flags where
  ignoreCase : Bool := false
  multiline : Bool := false
  dotAll : Bool := false
  verbose : Bool := false
  ascii : Bool := false
  unicode : Bool := false
  locale : Bool := false
  template : Bool := false
deriving DecidableEq

namespace Flags

def union (a b : Flags) : Flags where
  ignoreCase := a.ignoreCase || b.ignoreCase
  multiline := a.multiline || b.multiline
  dotAll := a.dotAll || b.dotAll
  verbose := a.verbose || b.verbose
  ascii := a.ascii || b.ascii
  unicode := a.unicode || b.unicode
  locale := a.locale || b.locale
  template := a.template || b.template

def without (a b : Flags) : Flags where
  ignoreCase := a.ignoreCase && !b.ignoreCase
  multiline := a.multiline && !b.multiline
  dotAll := a.dotAll && !b.dotAll
  verbose := a.verbose && !b.verbose
  ascii := a.ascii && !b.ascii
  unicode := a.unicode && !b.unicode
  locale := a.locale && !b.locale
  template := a.template && !b.template

/-- The flags that choose a character repertoire; at most one of them is on. -/
def repertoire (a : Flags) : Flags := { ascii := a.ascii, unicode := a.unicode, locale := a.locale }

def isEmpty (a : Flags) : Bool := a == {}

/-- The flags inside a group that turns some on and some off. -/
def inside (outer added removed : Flags) : Flags :=
  let kept := if added.repertoire.isEmpty then outer else outer.without (repertoire ⟨
    false, false, false, false, true, true, true, false⟩)
  (kept.union added).without removed

/-- The flag that a letter names. -/
def ofLetter? : Char → Option Flags
  | 'i' => some { ignoreCase := true }
  | 'L' => some { locale := true }
  | 'm' => some { multiline := true }
  | 's' => some { dotAll := true }
  | 'x' => some { verbose := true }
  | 'a' => some { ascii := true }
  | 't' => some { template := true }
  | 'u' => some { unicode := true }
  | _ => none

end Flags

inductive Category where
  | digit
  | space
  | word
deriving DecidableEq

inductive SetItem where
  | char (code : Nat)
  | range (first last : Nat)
  | category (kind : Category) (negated : Bool)
deriving DecidableEq

inductive Anchor where
  | lineStart
  | lineEnd
  | textStart
  | textEnd
  | boundary
  | nonBoundary
deriving DecidableEq

inductive Greed where
  | greedy
  | lazy
  | possessive
deriving DecidableEq

/-- The least and the greatest length of a match. -/
structure Width where
  least : Nat
  greatest : Nat
deriving DecidableEq

inductive Node where
  | char (code : Nat)
  | any
  | set (negated : Bool) (items : List SetItem)
  | anchor (place : Anchor)
  | group (number : Option Nat) (added removed : Flags) (body : List Node)
  | atomic (body : List Node)
  | repeated (greed : Greed) (least : Nat) (most : Option Nat) (body : List Node)
  | alternatives (branches : List (List Node))
  | backReference (group : Nat)
  | conditional (group : Nat) (yes no : List Node)
  | look (behind negated : Bool) (width : Width) (body : List Node)

/-- Widths are counted up to this bound. -/
def widthLimit : Nat := 0x10000000000000000

mutual

/-- The width of a node, given the widths of the groups closed before it. -/
def Node.width (groups : List (Option Width)) : Node → Width
  | .char _ => ⟨1, 1⟩
  | .any => ⟨1, 1⟩
  | .set _ _ => ⟨1, 1⟩
  | .anchor _ => ⟨0, 0⟩
  | .group _ _ _ body => widthOf groups body
  | .atomic body => widthOf groups body
  | .repeated _ least most body =>
    let w := widthOf groups body
    let greatest :=
      match most with
      | some m => w.greatest * m
      | none => if w.greatest = 0 then 0 else widthLimit
    ⟨w.least * least, greatest⟩
  | .alternatives branches => widthOfAny groups branches
  | .backReference group => (groups[group]?.join).getD ⟨0, 0⟩
  | .conditional _ yes no =>
    let y := widthOf groups yes
    let n := widthOf groups no
    ⟨min y.least n.least, max y.greatest n.greatest⟩
  | .look _ _ _ _ => ⟨0, 0⟩

/-- The width of a sequence. -/
def widthOf (groups : List (Option Width)) : List Node → Width
  | [] => ⟨0, 0⟩
  | node :: rest =>
    let w := node.width groups
    let others := widthOf groups rest
    ⟨min (w.least + others.least) widthLimit, min (w.greatest + others.greatest) widthLimit⟩

/-- The width of a choice between sequences. -/
def widthOfAny (groups : List (Option Width)) : List (List Node) → Width
  | [] => ⟨0, 0⟩
  | [branch] => widthOf groups branch
  | branch :: rest =>
    let w := widthOf groups branch
    let others := widthOfAny groups rest
    ⟨min w.least others.least, max w.greatest others.greatest⟩

end

end Conform.Pattern
