import Conform.Number.Binary64

/-!
# Shortest decimal text of a double

`Shortest.digits` gives the fewest decimal digits that read back to the same double, and of those
the ones nearest to it. For 1, 2, …, 17 digits it looks at the two multiples of the decimal spacing
that enclose the number and takes the first that lies in the interval of reals rounding to it.
-/

namespace Conform.Shortest

/-- The canonical form `mantissa · 2 ^ spacing` of a positive double. -/
def canonical (odd : Nat) (exponent : Int) : Nat × Int :=
  let spacing := max (exponent + odd.log2 - 52) (-1074)
  (odd * pow2 (exponent - spacing).toNat, spacing)

/-- `a · 2 ^ e` compared with `c · 10 ^ s`: the first is smaller. -/
def belowDecimal (a : Nat) (e : Int) (c : Nat) (s : Int) : Bool :=
  a * pow2 e.toNat * pow10 (-s).toNat < c * pow10 s.toNat * pow2 (-e).toNat

/-- `c · 10 ^ s` compared with `a · 2 ^ e`: the first is smaller. -/
def decimalBelow (c : Nat) (s : Int) (a : Nat) (e : Int) : Bool :=
  c * pow10 s.toNat * pow2 (-e).toNat < a * pow2 e.toNat * pow10 (-s).toNat

/-- The interval of reals that round to `mantissa · 2 ^ spacing`, in units of a quarter spacing. The
ends belong to it when the mantissa is even. -/
structure Interval where
  low : Nat
  high : Nat
  unit : Int
  closed : Bool

def interval (mantissa : Nat) (spacing : Int) : Interval :=
  let narrow := mantissa = pow2 52 ∧ -1074 < spacing
  { low := 4 * mantissa - (if narrow then 1 else 2)
    high := 4 * mantissa + 2
    unit := spacing - 2
    closed := mantissa % 2 = 0 }

/-- Whether `c · 10 ^ s` rounds to the double of the interval. -/
def Interval.contains (i : Interval) (c : Nat) (s : Int) : Bool :=
  if i.closed then !decimalBelow c s i.low i.unit && !belowDecimal i.high i.unit c s
  else belowDecimal i.low i.unit c s && decimalBelow c s i.high i.unit

/-- The least `k` with `a · 2 ^ e < 10 ^ k`, looked for around the estimate by logarithms. -/
def decimalPlaces (a : Nat) (e : Int) : Int :=
  let estimate := (e + a.log2) * 30103 / 100000
  let near := [estimate - 1, estimate, estimate + 1, estimate + 2]
  (near.find? fun k => belowDecimal a e 1 k).getD (estimate + 3)

/-- The multiple of `10 ^ s` nearest to the double among those that read back to it. -/
def atScale (i : Interval) (mantissa : Nat) (spacing s : Int) : Option Nat :=
  let num := mantissa * pow2 spacing.toNat * pow10 (-s).toNat
  let den := pow2 (-spacing).toNat * pow10 s.toNat
  let below := num / den
  let nearest := Binary64.roundDiv num den
  let other := if nearest = below then below + 1 else below
  if nearest ≠ 0 ∧ i.contains nearest s then some nearest
  else if other ≠ 0 ∧ i.contains other s then some other
  else none

/-- Drop zeros at the end of a number, raising the power of ten. -/
def stripZeros : Nat → Nat → Int → Nat × Int
  | 0, c, s => (c, s)
  | fuel + 1, c, s => if c ≠ 0 ∧ c % 10 = 0 then stripZeros fuel (c / 10) (s + 1) else (c, s)

/-- The shortest digits `c` and power `s` with `c · 10 ^ s` reading back to the positive double. -/
def digits (odd : Nat) (exponent : Int) : Nat × Int :=
  let (mantissa, spacing) := canonical odd exponent
  let i := interval mantissa spacing
  let places := decimalPlaces mantissa spacing
  let found := (List.range 17).findSome? fun n =>
    let s := places - (n + 1 : Nat)
    (atScale i mantissa spacing s).map fun c => (c, s)
  let (c, s) := found.getD (mantissa, 0)
  stripZeros 20 c s

/-- Positional text when the decimal exponent is between -4 and 15, otherwise with an exponent of at
least two digits; an integral number ends in `.0`. -/
def layout (c : Nat) (s : Int) : String :=
  let text := (toString c).toList
  let point : Int := text.length + s
  let zeros (n : Int) := List.replicate n.toNat '0'
  let chars : List Char :=
    if -4 < point ∧ point ≤ 16 then
      if point ≤ 0 then '0' :: '.' :: (zeros (-point) ++ text)
      else if (text.length : Int) ≤ point then text ++ zeros (point - text.length) ++ ['.', '0']
      else text.take point.toNat ++ '.' :: text.drop point.toNat
    else
      let e := point - 1
      let exponent := (toString e.natAbs).toList
      let padded := if exponent.length < 2 then '0' :: exponent else exponent
      let fraction := if text.length = 1 then [] else '.' :: text.drop 1
      text.take 1 ++ fraction ++ 'e' :: (if e < 0 then '-' else '+') :: padded
  String.ofList chars

end Shortest

/-- Names for what has no digits. -/
structure Binary64.Names where
  nan : String
  infinity : String

/-- The shortest text that reads back to the same double. -/
def Binary64.text (names : Binary64.Names) : Binary64 → String
  | .nan => names.nan
  | .infinity s => (if s then "-" else "") ++ names.infinity
  | .negativeZero => "-0.0"
  | .finite .zero => "0.0"
  | .finite (.ofOdd n k _) =>
    let (c, s) := Shortest.digits n.natAbs (-k)
    (if n < 0 then "-" else "") ++ Shortest.layout c s

end Conform
