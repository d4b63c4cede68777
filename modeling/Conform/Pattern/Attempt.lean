import Conform.Pattern.Lead

/-!
# Attempts

An attempt to match leaves a trail even where it fails: the place from which it last set out, and
the marks that it made on the way. What is tried next starts from that trail. A mark is where a
group begins or ends; the marks of a failed attempt are dropped if they are new, but one that was
made before and moved by the attempt goes back only where marks are kept for it, which is inside
repetitions.
-/

namespace Conform.Pattern

/-- The characters of the text as code points. -/
abbrev Subject := Array Nat

/-- Group `n` begins at mark `2 * n - 2` and ends at mark `2 * n - 1`. Only marks up to the last one
made are there, and of those some may be missing. -/
abbrev Marks := Array (Option Nat)

namespace Marks

def put (marks : Marks) (index place : Nat) : Marks :=
  if index < marks.size then marks.setIfInBounds index (some place)
  else (marks ++ Array.replicate (index - marks.size) none).push (some place)

def start (marks : Marks) (group : Nat) : Option Nat := marks[2 * group - 2]?.join

def finish (marks : Marks) (group : Nat) : Option Nat := marks[2 * group - 1]?.join

/-- The part of the text that a group holds. -/
def part? (marks : Marks) (group : Nat) : Option (Nat × Nat) :=
  match marks.start group, marks.finish group with
  | some start, some finish => if start ≤ finish then some (start, finish) else none
  | _, _ => none

/-- Whether a group ends before it begins. -/
def isReversed (marks : Marks) (group : Nat) : Bool :=
  match marks.start group, marks.finish group with
  | some start, some finish => finish < start
  | _, _ => false

end Marks

structure Trail where
  /-- The place from which something was last tried. -/
  place : Nat
  marks : Marks

namespace Trail

def moveTo (trail : Trail) (place : Nat) : Trail := { trail with place }

def mark (trail : Trail) (index place : Nat) : Trail :=
  { trail with marks := trail.marks.put index place }

/-- Take back the marks made since there were only the given ones. Those that were moved go back to
their places if they are kept. -/
def undo (trail : Trail) (marks : Marks) (isKept : Bool) : Trail :=
  { trail with marks := if isKept then marks else trail.marks.take marks.size }

end Trail

structure Attempt where
  isMatch : Bool
  trail : Trail

namespace Attempt

def failed (trail : Trail) : Attempt := ⟨false, trail⟩

/-- A failed attempt returns to a place. -/
def backTo (attempt : Attempt) (place : Nat) : Attempt :=
  if attempt.isMatch then attempt else failed (attempt.trail.moveTo place)

end Attempt

/-- What has to match from a place on, and what it begins with. -/
structure Rest where
  lead : Lead
  run : Nat → Trail → Attempt

/-- Nothing more has to match. -/
def Rest.done : Rest := ⟨.unknown, fun place trail => ⟨true, trail.moveTo place⟩⟩

/-- A rest of whose beginning nothing is known. -/
def Rest.after (run : Nat → Trail → Attempt) : Rest := ⟨.unknown, run⟩

/-- A node, waiting for a place, the trail so far and the rest. -/
abbrev Step := Nat → Trail → Rest → Attempt

end Conform.Pattern
