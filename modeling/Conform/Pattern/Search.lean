import Conform.Fault
import Conform.Pattern.Reader
import Conform.Pattern.Repetition

/-!
# Searching with patterns

Matching by backtracking: a node is given a place in the text, the trail of what was tried before it
and what has to match after it, and tries its ways in order.
-/

namespace Conform.Pattern

def isWordAt (subject : Subject) (ascii : Bool) (place : Nat) : Bool :=
  (subject[place]?.map (Category.word.contains ascii)).getD false

/-- Whether a place is at the edge of a word. -/
def isBoundary (subject : Subject) (ascii : Bool) (place : Nat) : Bool :=
  let before := 0 < place && isWordAt subject ascii (place - 1)
  before != isWordAt subject ascii place

def anchorHolds (subject : Subject) (flags : Flags) (anchor : Anchor) (place : Nat) : Bool :=
  match anchor with
  | .lineStart => place = 0 || (flags.multiline && subject[place - 1]? = some 10)
  | .lineEnd =>
    place = subject.size || (subject[place]? = some 10 &&
      (flags.multiline || place + 1 = subject.size))
  | .textStart => place = 0
  | .textEnd => place = subject.size
  | .boundary => !subject.isEmpty && isBoundary subject flags.ascii place
  | .nonBoundary => !subject.isEmpty && !isBoundary subject flags.ascii place

/-- Whether the text at a place repeats the part from `start` to `finish`. -/
def repeatsPart (subject : Subject) (flags : Flags) (start finish place : Nat) : Bool :=
  let fold (c : Option Nat) : Option Nat := if flags.ignoreCase then c.map flags.lower else c
  place + (finish - start) ≤ subject.size &&
    (List.range (finish - start)).all fun i =>
      fold subject[start + i]? == fold subject[place + i]?

/-! ## Nodes -/

/-- Where a node stands: the text, the flags there, and whether marks are kept, as they are inside
repetitions other than possessive ones. -/
structure Scope where
  subject : Subject
  flags : Flags
  isKept : Bool

namespace Scope

def withFlags (scope : Scope) (added removed : Flags) : Scope :=
  { scope with flags := scope.flags.inside added removed }

/-- Where the turns of a repetition stand. -/
def turns (scope : Scope) (greed : Greed) : Scope :=
  { scope with isKept := scope.isKept || greed != .possessive }

end Scope

def CharTest.step (test : CharTest) (subject : Subject) : Step := fun place trail rest =>
  match subject[place]? with
  | some c => if test.takes c then rest.run (place + 1) trail else .failed trail
  | none => .failed trail

mutual

def Node.step (scope : Scope) : Node → Step
  | .char code => (CharTest.ofChar scope.flags code).step scope.subject
  | .any => (CharTest.any scope.flags).step scope.subject
  | .set negated items => (CharTest.ofSet scope.flags negated items).step scope.subject
  | .anchor anchor => fun place trail rest =>
    if anchorHolds scope.subject scope.flags anchor place then rest.run place trail
    else .failed trail
  | .group none added removed body => stepAll (scope.withFlags added removed) body
  | .group (some n) added removed body => fun place trail rest =>
    stepAll (scope.withFlags added removed) body place (trail.mark (2 * n - 2) place)
      (.after fun place trail => rest.run place (trail.mark (2 * n - 1) place))
  | .atomic body => fun place trail rest =>
    let found := stepAll scope body place (trail.moveTo place) .done
    if found.isMatch then rest.run found.trail.place found.trail
    else .failed (found.trail.moveTo place)
  | .repeated greed least most body =>
    match single? scope.flags body with
    | some test => test.repetition ⟨greed, least, most⟩ scope.subject scope.isKept
    | none =>
      repetition ⟨greed, least, most⟩ scope.subject scope.isKept fun place trail rest =>
        stepAll (scope.turns greed) body place trail rest
  | .alternatives branches => stepAny scope branches
  | .backReference group => fun place trail rest =>
    match trail.marks.part? group with
    | some (start, finish) =>
      if repeatsPart scope.subject scope.flags start finish place then
        rest.run (place + (finish - start)) trail
      else .failed trail
    | none => .failed trail
  | .conditional group yes no => fun place trail rest =>
    if (trail.marks.part? group).isNone then stepAll scope no place trail rest
    else if no.isEmpty then stepAll scope yes place trail rest
    else stepAll scope yes place trail (.after rest.run)
  | .look behind negated width body => fun place trail rest =>
    let distance := if behind then width.least else 0
    if place < distance then if negated then rest.run place trail else .failed trail
    else
      let start := place - distance
      let found := stepAll scope body start (trail.moveTo start) .done
      match negated with
      | false => if found.isMatch then rest.run place found.trail else .failed found.trail
      | true =>
        if found.isMatch then .failed found.trail
        else rest.run place (found.trail.undo trail.marks scope.isKept)

/-- The nodes of a sequence one after the other. -/
def stepAll (scope : Scope) : List Node → Step
  | [] => fun place trail rest => rest.run place trail
  | node :: others => fun place trail rest =>
    node.step scope place trail
      ⟨leadOf scope.flags (fun _ => rest.lead) others,
        fun place trail => stepAll scope others place trail rest⟩

/-- The first of some sequences that matches. Those that cannot begin at the place are passed over
and leave no trail. -/
def stepAny (scope : Scope) : List (List Node) → Step
  | [] => fun _ trail _ => .failed trail
  | branch :: others => fun place trail rest =>
    if (leadOf scope.flags (fun _ => .unknown) branch).admits scope.subject[place]? then
      let found := stepAll scope branch place (trail.moveTo place) (.after rest.run)
      if found.isMatch then found
      else stepAny scope others place (found.trail.undo trail.marks scope.isKept) rest
    else stepAny scope others place trail rest

end

/-! ## Whole patterns -/

namespace Program

/-- The last place where a match may begin. Where it is not known with which characters matches
begin, as many have to follow as a match takes at least, but for one. -/
def lastStart (program : Program) (size : Nat) : Nat :=
  if isLed program.flags program.nodes then size else size - (program.least - 1)

/-- The marks of the first match in a text. -/
def firstMatch? (program : Program) (text : String) : Option Marks :=
  let subject : Subject := (text.toList.map Char.toNat).toArray
  let scope : Scope := ⟨subject, program.flags, false⟩
  if subject.size < program.least then none
  else
    (List.range (program.lastStart subject.size + 1)).findSome? fun place =>
      let found := stepAll scope program.nodes place ⟨place, #[]⟩ .done
      if found.isMatch then some found.trail.marks else none

/-- Whether a program matches somewhere in a text. There is no answer if the match has a group that
ends before it begins. -/
def search (program : Program) (text : String) : Except Fault Bool :=
  match program.firstMatch? text with
  | none => .ok false
  | some marks =>
    let isReversed := (List.range (program.groups - 1)).any fun i => marks.isReversed (i + 1)
    if isReversed then .error .reversedGroup else .ok true

end Program

end Conform.Pattern
