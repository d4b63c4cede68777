import Conform.Number.Power

/-!
# 64-bit floating-point numbers, exactly

A finite double is the dyadic rational it stands for, so that comparisons with integers of any
size are exact and equality of numbers is equality of rationals. The zero with a minus sign is kept
apart because its text differs. Every double is made here by one rounding step, `ofRatio`: the
nearest multiple of the spacing at the number's size, an exact half going to the even neighbour.
-/

namespace Conform

inductive Binary64 where
  | nan
  | infinity (negative : Bool)
  | negativeZero
  | finite (value : Dyadic)
deriving DecidableEq

namespace Binary64

/-- The zero with the given sign. -/
def zero (negative : Bool) : Binary64 :=
  if negative then .negativeZero else .finite 0

/-- The whole number nearest to `num / den`, an exact half going to the even one. -/
def roundDiv (num den : Nat) : Nat :=
  let quotient := num / den
  let twice := 2 * (num % den)
  if twice < den then quotient
  else if den < twice then quotient + 1
  else quotient + quotient % 2

/-- The exponent `e` with `2 ^ e ≤ num / den < 2 ^ (e + 1)`, for positive `num` and `den`. -/
def binaryExponent (num den : Nat) : Int :=
  let guess : Int := (num.log2 : Int) - den.log2
  let reached :=
    if 0 ≤ guess then den * pow2 guess.toNat ≤ num else den ≤ num * pow2 (-guess).toNat
  if reached then guess else guess - 1

/-- The double nearest to `± num / den`. -/
def ofRatio (negative : Bool) (num den : Nat) : Binary64 :=
  if num = 0 then zero negative
  else
    let spacing := max (binaryExponent num den - 52) (-1074)
    let mantissa :=
      if 0 ≤ spacing then roundDiv num (den * pow2 spacing.toNat)
      else roundDiv (num * pow2 (-spacing).toNat) den
    if 971 < spacing ∨ (spacing = 971 ∧ mantissa = pow2 53) then .infinity negative
    else if mantissa = 0 then zero negative
    else .finite (.ofIntWithPrec (if negative then -(mantissa : Int) else mantissa) (-spacing))

/-- The double nearest to an integer. -/
def ofInt (n : Int) : Binary64 := ofRatio (n < 0) n.natAbs 1

/-- The double nearest to `± digits · 10 ^ exponent`. Far outside the range of doubles the power is
not computed: 400 decimal places beyond the point settle the answer. -/
def ofDecimal (negative : Bool) (digits : Nat) (exponent : Int) : Binary64 :=
  if digits = 0 then zero negative
  else
    let size : Int := exponent + (Nat.log2 digits : Int) * 3 / 10
    if 400 < size then .infinity negative
    else if size < -400 then zero negative
    else if 0 ≤ exponent then ofRatio negative (digits * pow10 exponent.toNat) 1
    else ofRatio negative digits (pow10 (-exponent).toNat)

/-- The double nearest to a dyadic rational; a zero gets the given sign. -/
def ofDyadic (negativeIfZero : Bool) : Dyadic → Binary64
  | .zero => zero negativeIfZero
  | .ofOdd n k _ =>
    if 0 ≤ k then ofRatio (n < 0) n.natAbs (pow2 k.toNat)
    else ofRatio (n < 0) (n.natAbs * pow2 (-k).toNat) 1

def neg : Binary64 → Binary64
  | .nan => .nan
  | .infinity s => .infinity !s
  | .negativeZero => .finite 0
  | .finite d => if d = 0 then .negativeZero else .finite (-d)

/-- The dyadic rational of a finite double, both zeros giving `0`. -/
def dyadic? : Binary64 → Option Dyadic
  | .negativeZero => some 0
  | .finite d => some d
  | _ => none

/-- Sign of a number that is not NaN. -/
def isNegative : Binary64 → Bool
  | .nan => false
  | .infinity s => s
  | .negativeZero => true
  | .finite d => d < 0

/-- Sum, rounded to the nearest double. -/
def add (x y : Binary64) : Binary64 :=
  match x, y with
  | .nan, _ => .nan
  | _, .nan => .nan
  | .infinity s, .infinity t => if s = t then .infinity s else .nan
  | .infinity s, _ => .infinity s
  | _, .infinity t => .infinity t
  | .negativeZero, .negativeZero => .negativeZero
  | .negativeZero, .finite d => .finite d
  | .finite c, .negativeZero => .finite c
  | .finite c, .finite d => ofDyadic false (c + d)

/-- Product, rounded to the nearest double. -/
def mul (x y : Binary64) : Binary64 :=
  match x, y with
  | .nan, _ => .nan
  | _, .nan => .nan
  | .infinity s, y => if y.dyadic? = some 0 then .nan else .infinity (s != y.isNegative)
  | x, .infinity t => if x.dyadic? = some 0 then .nan else .infinity (x.isNegative != t)
  | x, y =>
    let sign := x.isNegative != y.isNegative
    match x.dyadic?, y.dyadic? with
    | some c, some d => ofDyadic sign (c * d)
    | _, _ => .nan

def isFinite (x : Binary64) : Bool := x.dyadic?.isSome

/-- The integer of a double without fractional part. -/
def toInt? (x : Binary64) : Option Int :=
  match x.dyadic? with
  | some .zero => some 0
  | some (.ofOdd n k _) => if k ≤ 0 then some (n * pow2 (-k).toNat) else none
  | none => none

end Binary64

/-- A number with the two infinities: what comparisons of integers and doubles look at. -/
inductive Extended where
  | minusInfinity
  | finite (value : Dyadic)
  | plusInfinity
deriving DecidableEq

namespace Extended

def lt : Extended → Extended → Bool
  | .minusInfinity, .minusInfinity => false
  | .minusInfinity, _ => true
  | .finite _, .minusInfinity => false
  | .finite c, .finite d => c < d
  | .finite _, .plusInfinity => true
  | .plusInfinity, _ => false

def ofInt (n : Int) : Extended := .finite (Dyadic.ofInt n)

end Extended

/-- The place of a double among the numbers; NaN has none. -/
def Binary64.extended? : Binary64 → Option Extended
  | .nan => none
  | .infinity true => some .minusInfinity
  | .infinity false => some .plusInfinity
  | .negativeZero => some (.finite 0)
  | .finite d => some (.finite d)

end Conform
