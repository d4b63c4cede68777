import Conform.Pattern.Attempt

/-!
# Repetitions

Turns that match, one after the other. A greedy repetition takes as many as possible and gives them
up one at a time, a lazy one takes one more whenever the rest fails, a possessive one takes as many
as possible for good. A turn is not followed by another one from the same place. A possessive
repetition goes on from the trail of its last turn, also where that one failed.
-/

namespace Conform.Pattern

/-! ## Turns of any kind -/

/-- Exactly `count` turns, then the rest. -/
def required (turn : Step) : Nat → Step
  | 0, place, trail, rest => rest.run place trail
  | count + 1, place, trail, rest =>
    (turn place (trail.moveTo place) (.after fun next trail =>
      required turn count next trail rest)).backTo place

/-- Up to `turns` more turns, as many as possible. -/
def greedy (turn : Step) : Nat → Option Nat → Step
  | 0, _, place, trail, rest => (rest.run place (trail.moveTo place)).backTo place
  | turns + 1, last, place, trail, rest =>
    if last = some place then (rest.run place (trail.moveTo place)).backTo place
    else
      let again := turn place (trail.moveTo place) (.after fun next trail =>
        greedy turn turns (some place) next trail rest)
      if again.isMatch then again
      else (rest.run place ⟨place, trail.marks⟩).backTo place

/-- Up to `turns` more turns, as few as possible. -/
def lazy (isKept : Bool) (turn : Step) : Nat → Option Nat → Step
  | turns, last, place, trail, rest =>
    let now := rest.run place (trail.moveTo place)
    if now.isMatch then now
    else
      let left := (now.trail.undo trail.marks isKept).moveTo place
      match turns with
      | 0 => .failed left
      | turns + 1 =>
        if last = some place then .failed left
        else
          (turn place left (.after fun next trail =>
            lazy isKept turn turns (some place) next trail rest)).backTo place

/-- Exactly `count` turns, each in its first way, from the place of the trail on. -/
def requiredOnce (turn : Step) : Nat → Trail → Attempt
  | 0, trail => ⟨true, trail⟩
  | count + 1, trail =>
    let one := turn trail.place trail .done
    if one.isMatch then requiredOnce turn count one.trail else one

/-- Up to `turns` more turns, each in its first way, with no way back. -/
def possessive (turn : Step) : Nat → Option Nat → Trail → Trail
  | 0, _, trail => trail
  | turns + 1, last, trail =>
    if last = some trail.place then trail
    else
      let one := turn trail.place trail .done
      if one.isMatch then possessive turn turns (some trail.place) one.trail
      else one.trail.undo trail.marks true

/-- A bound for turns without a greatest count. A turn depends on the place it sets out from and the
place of the turn before, so a repetition that comes to an end has fewer turns than there are pairs
of places. -/
def turnBound (subject : Subject) : Nat := (subject.size + 2) * (subject.size + 2)

/-- How a node is repeated. -/
structure Counts where
  greed : Greed
  least : Nat
  most : Option Nat

def Counts.more (counts : Counts) (subject : Subject) : Nat :=
  (counts.most.map (· - counts.least)).getD (turnBound subject)

/-- The repetition of a step that is not a single character. -/
def repetition (counts : Counts) (subject : Subject) (isKept : Bool) (turn : Step) : Step :=
  fun place trail rest =>
    let more := counts.more subject
    match counts.greed with
    | .greedy =>
      required turn counts.least place trail (.after fun place trail =>
        greedy turn more none place trail rest)
    | .lazy =>
      required turn counts.least place trail (.after fun place trail =>
        lazy isKept turn more none place trail rest)
    | .possessive =>
      let least := requiredOnce turn counts.least (trail.moveTo place)
      if least.isMatch then
        let trail := possessive turn more none least.trail
        rest.run trail.place trail
      else .failed (least.trail.moveTo place)

/-! ## Single characters -/

/-- How many characters from a place on pass a test, up to a limit. -/
def runLength (subject : Subject) (takes : Nat → Bool) : Nat → Nat → Nat → Nat
  | 0, _, count => count
  | limit + 1, place, count =>
    match subject[place]? with
    | some c => if takes c then runLength subject takes limit (place + 1) (count + 1) else count
    | none => count

namespace CharTest

/-- How many characters from a place on pass the test, up to a limit, and the trail of the run. -/
def count (test : CharTest) (subject : Subject) (limit place : Nat) (trail : Trail) : Nat × Trail :=
  let length := runLength subject test.takes limit place 0
  (length, trail.moveTo (if test.isStepwise then place + length else place))

/-- Try the rest at each place from `least + extra` down to `least`. A place where the text does not
have the character that has to come next is passed over and leaves no trail. -/
def descend (subject : Subject) (isKept : Bool) (rest : Rest) (least extra : Nat) (trail : Trail) :
    Attempt :=
  let place := least + extra
  let attempt :=
    if rest.lead.admitsChar subject[place]? then
      let found := rest.run place (trail.moveTo place)
      if found.isMatch then found else .failed (found.trail.undo trail.marks isKept)
    else .failed trail
  match extra with
  | 0 => attempt
  | extra + 1 =>
    if attempt.isMatch then attempt else descend subject isKept rest least extra attempt.trail

/-- Try the rest at a place, and after up to `turns` more characters as long as there is one. -/
def ascend (test : CharTest) (subject : Subject) (isKept : Bool) (rest : Rest) (turns place : Nat)
    (trail : Trail) : Attempt :=
  let found := rest.run place (trail.moveTo place)
  if found.isMatch then found
  else
    let (length, left) := test.count subject 1 place (found.trail.undo trail.marks isKept)
    match turns with
    | 0 => .failed left
    | turns + 1 =>
      if length = 0 then .failed left
      else ascend test subject isKept rest turns (place + 1) left

/-- The repetition of a single character. -/
def repetition (test : CharTest) (counts : Counts) (subject : Subject) (isKept : Bool) : Step :=
  fun place trail rest =>
    let available := subject.size - place
    if available < counts.least then .failed trail
    else
      let most := min available (counts.most.getD available)
      match counts.greed with
      | .lazy =>
        let (length, trail) := test.count subject counts.least place trail
        if length < counts.least then .failed trail
        else ascend test subject isKept rest (most - counts.least) (place + length) trail
      | .greedy =>
        let (length, trail) := test.count subject most place trail
        if length < counts.least then .failed trail
        else descend subject isKept rest (place + counts.least) (length - counts.least) trail
      | .possessive =>
        let (length, trail) := test.count subject most place trail
        if length < counts.least then .failed trail else rest.run (place + length) trail

end CharTest

end Conform.Pattern
