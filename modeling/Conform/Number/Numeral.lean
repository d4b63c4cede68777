import Conform.Number.Binary64
import Conform.Unicode.Digit
import Conform.Unicode.Blank

/-!
# Reading numerals

Integers in a base up to 16 and decimal fractions, with digits of any script, single underscores
between digits and blanks around.
-/

namespace Conform.Numeral

/-- Blanks that may surround a numeral: of the ASCII ones only the space and the five layout
characters from tab to carriage return. -/
def isBlank (c : Char) : Bool :=
  if c.toNat < 128 then c = ' ' || (9 ≤ c.toNat && c.toNat ≤ 13) else Unicode.isBlank c

def trim (s : List Char) : List Char :=
  ((s.dropWhile isBlank).reverse.dropWhile isBlank).reverse

/-- The value of a digit below the base: decimal digits of any script, then ASCII letters. -/
def digit? (base : Nat) (c : Char) : Option Nat :=
  let value :=
    match Unicode.digitValue? c.toNat with
    | some d => some d
    | none =>
      let n := c.toNat
      if 97 ≤ n ∧ n ≤ 122 then some (n - 87) else if 65 ≤ n ∧ n ≤ 90 then some (n - 55) else none
  value.filter (· < base)

/-- Digits with single underscores between them; `none` if there is no digit, or an underscore does
not stand between two. `afterDigit` tells whether the text so far ends in a digit. -/
def digits? (base : Nat) (sum : Nat) (afterDigit : Bool) : List Char → Option Nat
  | [] => if afterDigit then some sum else none
  | c :: rest =>
    if c = '_' then if afterDigit then digits? base sum false rest else none
    else do
      let d ← digit? base c
      digits? base (sum * base + d) true rest

def dropSign : List Char → Bool × List Char
  | '-' :: rest => (true, rest)
  | '+' :: rest => (false, rest)
  | s => (false, s)

/-- The letter that may follow a `0` to announce the base. -/
def baseLetter (base : Nat) (c : Char) : Bool :=
  (base = 16 && (c = 'x' || c = 'X')) || (base = 8 && (c = 'o' || c = 'O')) ||
    (base = 2 && (c = 'b' || c = 'B'))

/-- The text after an announcement of the base such as `0x`, and one underscore after that. -/
def dropBase (base : Nat) : List Char → List Char
  | '0' :: c :: rest =>
    if baseLetter base c then
      match rest with
      | '_' :: rest => rest
      | rest => rest
    else '0' :: c :: rest
  | s => s

/-- The most decimal digits that a number is read from or written with. -/
def digitLimit : Nat := 4300

/-- An integer in the given base. A decimal numeral of too many digits is not read. -/
def integer? (base : Nat) (s : List Char) : Option Int := do
  let (negative, magnitude) := dropSign (trim s)
  let digits := dropBase base magnitude
  if base = 10 ∧ digitLimit < digits.countP (· != '_') then none
  else
    let n ← digits? base 0 false digits
    some (if negative then -(n : Int) else n)

/-- A run of digits with single underscores between them: the value, how many, and the rest. -/
def decimalRun (sum count : Nat) : List Char → Nat × Nat × List Char
  | [] => (sum, count, [])
  | '_' :: c :: rest =>
    match Unicode.digitValue? c.toNat with
    | some d => if count = 0 then (sum, count, '_' :: c :: rest)
      else decimalRun (sum * 10 + d) (count + 1) rest
    | none => (sum, count, '_' :: c :: rest)
  | c :: rest =>
    match Unicode.digitValue? c.toNat with
    | some d => decimalRun (sum * 10 + d) (count + 1) rest
    | none => (sum, count, c :: rest)

/-- The exponent after the digits of a fraction; no text is the exponent 0. -/
def exponent? : List Char → Option Int
  | [] => some 0
  | c :: rest =>
    if c = 'e' ∨ c = 'E' then
      let (negative, magnitude) := dropSign rest
      match decimalRun 0 0 magnitude with
      | (n, count, []) => if count = 0 then none else some (if negative then -(n : Int) else n)
      | _ => none
    else none

def lowercase (s : List Char) : List Char := s.map Char.toLower

/-- A decimal fraction, or a name of infinity or NaN, as the nearest double. -/
def fraction? (s : List Char) : Option Binary64 :=
  let (negative, magnitude) := dropSign (trim s)
  let name := String.ofList (lowercase magnitude)
  if name = "inf" ∨ name = "infinity" then some (.infinity negative)
  else if name = "nan" then some .nan
  else
    let (whole, wholeCount, rest) := decimalRun 0 0 magnitude
    let (sum, count, rest) :=
      match rest with
      | '.' :: rest =>
        let (_, places, _) := decimalRun 0 0 rest
        let (sum, _, rest) := if places = 0 then (whole, 0, rest) else decimalRun whole 0 rest
        (sum, places, rest)
      | rest => (whole, 0, rest)
    if wholeCount + count = 0 then none
    else (exponent? rest).map fun e => .ofDecimal negative sum (e - count)

end Conform.Numeral
