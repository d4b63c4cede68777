import Conform.Pattern.Syntax
import Conform.Unicode.Blank
import Conform.Unicode.Case
import Conform.Unicode.Digit
import Conform.Unicode.Letter

/-!
# Which characters a node of a pattern takes

Categories are those of Unicode, or of ASCII under its flag. Without regard to case a character is
compared through its small letter, and small letters that share a capital one count as one.
-/

namespace Conform.Pattern

def Category.contains (kind : Category) (ascii : Bool) (c : Nat) : Bool :=
  match kind with
  | .digit => if ascii then 48 ≤ c && c ≤ 57 else Unicode.isDigitCode c
  | .space => if ascii then c = 32 || (9 ≤ c && c ≤ 13) else Unicode.isBlankCode c
  | .word =>
    c = 95 || (if ascii then c < 128 && Unicode.isAlphanumericCode c
      else Unicode.isAlphanumericCode c)

namespace Flags

/-- Case mappings reach beyond ASCII unless the pattern is limited to it. -/
def lower (flags : Flags) (c : Nat) : Nat :=
  if flags.ascii then if 65 ≤ c ∧ c ≤ 90 then c + 32 else c else Unicode.lowerCode c

def isCased (flags : Flags) (c : Nat) : Bool :=
  if flags.ascii then (65 ≤ c && c ≤ 90) || (97 ≤ c && c ≤ 122) else Unicode.isCasedCode c

/-- A small letter with those it is taken for. -/
def family (flags : Flags) (c : Nat) : List Nat :=
  if flags.ascii then [c] else c :: Unicode.siblings c

/-- The characters whose small letter is `c`. -/
def lowerSources (flags : Flags) (c : Nat) : List Nat :=
  let own := if flags.lower c = c then [c] else []
  if flags.ascii then own ++ (if 97 ≤ c ∧ c ≤ 122 then [c - 32] else [])
  else own ++ Unicode.lowerRuns.sources c

end Flags

/-- Whether a single character of a pattern takes `c`. -/
def charTakes (flags : Flags) (code c : Nat) : Bool :=
  if flags.ignoreCase && flags.isCased code then
    (flags.family (flags.lower code)).contains (flags.lower c)
  else code = c

/-- Code points up to here have their case variants spelled out in sets. -/
def planeEnd : Nat := 0xffff

def SetItem.takes (ascii : Bool) (c : Nat) : SetItem → Bool
  | .char code => code = c
  | .range first last => first ≤ c && c ≤ last
  | .category kind negated => kind.contains ascii c != negated

/-- Whether an item brings in a letter that has both cases. -/
def SetItem.isCased (flags : Flags) : SetItem → Bool
  | .char code => planeEnd < code || flags.isCased code
  | .range first last =>
    planeEnd < last || (List.range (last + 1 - first)).any fun i => flags.isCased (first + i)
  | .category _ _ => false

/-- Whether an item takes the small letter `c`, without regard to case. -/
def SetItem.takesLower (flags : Flags) (c : Nat) : SetItem → Bool
  | .char code =>
    if planeEnd < flags.lower code then code = c
    else (flags.family (flags.lower code)).contains c
  | .range first last =>
    let within := min last planeEnd
    ((flags.family c).any fun sibling =>
      (flags.lowerSources sibling).any fun source => first ≤ source && source ≤ within) ||
    (planeEnd < last &&
      ((first ≤ c && c ≤ last) || (first ≤ Unicode.capitalCode c && Unicode.capitalCode c ≤ last)))
  | .category kind negated => kind.contains flags.ascii c != negated

/-- Whether letters are looked up in a set without regard to case. -/
def isFolded (flags : Flags) (items : List SetItem) : Bool :=
  flags.ignoreCase && items.any (SetItem.isCased flags)

/-- Whether a set takes a character. -/
def setTakes (flags : Flags) (folded negated : Bool) (items : List SetItem) (c : Nat) : Bool :=
  let member :=
    if folded then items.any (SetItem.takesLower flags (flags.lower c))
    else items.any (SetItem.takes flags.ascii c)
  member != negated

/-! ## Single characters -/

/-- Which characters a node takes that always takes exactly one. -/
structure CharTest where
  takes : Nat → Bool
  /-- Whether a run is taken step by step, so that its trail leads to the end of it. -/
  isStepwise : Bool

namespace CharTest

/-- The test for one given character. A letter that is taken for others is a set of them. -/
def ofChar (flags : Flags) (code : Nat) : CharTest where
  takes := charTakes flags code
  isStepwise :=
    flags.ignoreCase && flags.isCased code && 1 < (flags.family (flags.lower code)).length

def any (flags : Flags) : CharTest where
  takes := fun c => flags.dotAll || c != 10
  isStepwise := false

def not (test : CharTest) : CharTest := { test with takes := fun c => !test.takes c }

/-- The test for a set. All but one character is a test for that one. -/
def ofSet (flags : Flags) : Bool → List SetItem → CharTest
  | true, [.char code] => (ofChar flags code).not
  | negated, items =>
    let folded := isFolded flags items
    { takes := setTakes flags folded negated items, isStepwise := folded }

end CharTest

mutual

/-- The test of a node that takes exactly one character. -/
def Node.single? (flags : Flags) : Node → Option CharTest
  | .char code => some (.ofChar flags code)
  | .any => some (.any flags)
  | .set negated items => some (.ofSet flags negated items)
  | .group none added removed body => single? (flags.inside added removed) body
  | _ => none

/-- The test of a sequence that is one such node. -/
def single? (flags : Flags) : List Node → Option CharTest
  | [node] => node.single? flags
  | _ => none

end

end Conform.Pattern
