/-!
# Powers of two and ten

The powers that scale binary and decimal numbers.
-/

namespace Conform

/-- Two to the power `n`. -/
def pow2 (n : Nat) : Nat := Nat.pow 2 n

/-- Ten to the power `n`. -/
def pow10 (n : Nat) : Nat := Nat.pow 10 n

end Conform
