/-!
# Sets of code points

A property of characters is a list of inclusive ranges of code points. `Runs` also has a stride,
for scripts whose capital and small letters alternate.
-/

namespace Conform.Unicode

abbrev Ranges := List (Nat × Nat)

def Ranges.contains (ranges : Ranges) (c : Nat) : Bool :=
  ranges.any fun (first, last) => first ≤ c && c ≤ last

/-- Ranges `(first, last, stride)`: every `stride`-th code point from `first` up to `last`. -/
abbrev Runs := List (Nat × Nat × Nat)

def Runs.contains (runs : Runs) (c : Nat) : Bool :=
  runs.any fun (first, last, stride) => first ≤ c && c ≤ last && (c - first) % stride = 0

end Conform.Unicode
