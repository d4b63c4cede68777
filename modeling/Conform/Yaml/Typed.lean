import Conform.Number.Numeral
import Conform.Text.Fields
import Conform.Unicode.Case
import Conform.Value.Equality
import Conform.Yaml.Tag

/-!
# Values of scalars

What the text of a scalar means under a tag that gives it a type. An explicit tag may stand before a
text that the type has no value for; then there is a fault.
-/

namespace Conform.Yaml.Typed

def withoutUnderscores (s : List Char) : List Char := s.filter (· != '_')

/-- A sign, which the text must have room for, and what follows it. -/
def signed (s : List Char) : Except Fault (Bool × List Char) :=
  match s with
  | [] => .error .noIndex
  | '-' :: rest => .ok (true, rest)
  | '+' :: rest => .ok (false, rest)
  | s => .ok (false, s)

def lowercase (s : List Char) : List Char := s.map fun c => Char.ofNat (Unicode.lowerCode c.toNat)

def bool (text : String) : Except Fault Value :=
  let word := String.ofList (lowercase text.toList)
  if ["yes", "true", "on"].contains word then .ok (.bool true)
  else if ["no", "false", "off"].contains word then .ok (.bool false)
  else .error .noKey

def integer (base : Nat) (digits : List Char) : Except Fault Int :=
  match Numeral.integer? base digits with
  | some n => .ok n
  | none => .error .badValue

/-- Integers in base 60, the digits written in decimal between colons. -/
def sixtieths (parts : List (List Char)) : Except Fault Int :=
  parts.foldlM (fun sum part => do
    let digit ← integer 10 part
    .ok (sum * 60 + digit)) 0

def magnitude (s : List Char) : Except Fault Int :=
  match s with
  | [] => .error .noIndex
  | ['0'] => .ok 0
  | '0' :: 'b' :: digits => integer 2 digits
  | '0' :: 'x' :: digits => integer 16 digits
  | '0' :: _ => integer 8 s
  | _ => if s.contains ':' then sixtieths (Text.fields ':' s) else integer 10 s

def int (text : String) : Except Fault Value := do
  let (negative, s) ← signed (withoutUnderscores text.toList)
  let n ← magnitude s
  .ok (.int (if negative then -n else n))

def fraction (s : List Char) : Except Fault Binary64 :=
  match Numeral.fraction? s with
  | some x => .ok x
  | none => .error .badValue

/-- The sum of digits in base 60, from the last one on, each step rounded. The power of the base
must be near to a double. -/
def sixtiethsOfDouble (base : Int) (sum : Binary64) : List Binary64 → Except Fault Binary64
  | [] => .ok sum
  | digit :: rest =>
    if (Binary64.ofInt base).isFinite then
      sixtiethsOfDouble (base * 60) (sum.add (digit.mul (.ofInt base))) rest
    else .error .tooLarge

def float (text : String) : Except Fault Value := do
  let (negative, s) ← signed (lowercase (withoutUnderscores text.toList))
  let x ←
    if s = ['.', 'i', 'n', 'f'] then .ok (Binary64.infinity false)
    else if s = ['.', 'n', 'a', 'n'] then .ok Binary64.nan
    else if s.contains ':' then do
      let digits ← (Text.fields ':' s).mapM fraction
      sixtiethsOfDouble 1 (.zero false) digits.reverse
    else fraction s
  .ok (.float (if negative then x.neg else x))

/-! ## Dates and times -/

def decimal (digits : List Char) : Nat := digits.foldl (fun n c => n * 10 + (c.toNat - 48)) 0

/-- One or two digits and what follows them, or exactly `n` digits. -/
def number? (form : Tag.Form) (s : List Char) : Option (Nat × List Char) := do
  let rest ← form s
  some (decimal (s.take (s.length - rest.length)), rest)

/-- The microseconds of a fraction of a second, cut off after six digits. -/
def micro (s : List Char) : Nat × List Char :=
  match s with
  | '.' :: rest =>
    let digits := (rest.takeWhile isAsciiDigit).take 6
    (decimal digits * pow10 (6 - digits.length), rest.dropWhile isAsciiDigit)
  | s => (0, s)

/-- The offset from universal time in minutes, if one is written, to the end of the text. -/
def zone? (s : List Char) : Option (Option Int) :=
  match s.dropWhile isSpaceOrTab with
  | [] => if s.isEmpty then some none else none
  | ['Z'] => some (some 0)
  | c :: rest => do
    if c ≠ '+' ∧ c ≠ '-' then none
    else do
      let (hours, rest) ← number? Tag.oneOrTwo rest
      let minutes ←
        match rest with
        | [] => some 0
        | _ => do
          let (minutes, rest) ← number? (Tag.digits 2) (← Tag.sign ':' rest)
          if rest.isEmpty then some minutes else none
      let offset : Int := (hours * 60 + minutes : Nat)
      some (some (if c = '-' then -offset else offset))

/-- The date that a text begins with. -/
def datePart? (s : List Char) : Option (Date × List Char) := do
  let (year, s) ← number? (Tag.digits 4) s
  let (month, s) ← number? Tag.oneOrTwo (← Tag.sign '-' s)
  let (day, s) ← number? Tag.oneOrTwo (← Tag.sign '-' s)
  some (⟨year, month, day⟩, s)

/-- The time on a date that follows it to the end of the text. -/
def timePart? (date : Date) (s : List Char) : Option DateTime := do
  let s ← Tag.timeSeparator s
  let (hour, s) ← number? Tag.oneOrTwo s
  let (minute, s) ← number? (Tag.digits 2) (← Tag.sign ':' s)
  let (second, s) ← number? (Tag.digits 2) (← Tag.sign ':' s)
  let (micro, s) := micro s
  let offset ← zone? s
  some ⟨date, hour, minute, second, micro, offset⟩

/-- A date or a time, which must be one of the calendar. One line break at the end does not count.
-/
def timestamp (text : String) : Except Fault Value :=
  let chars := text.toList
  let s := if chars.getLast? = some '\n' then chars.dropLast else chars
  match datePart? s with
  | none => .error .noAttribute
  | some (date, []) => if date.isValid then .ok (.date date) else .error .badValue
  | some (date, rest) =>
    match timePart? date rest with
    | none => .error .noAttribute
    | some t => if t.isValid then .ok (.datetime t) else .error .badValue

/-! ## Binary data -/

def sextet? (c : Char) : Option Nat :=
  let n := c.toNat
  if 'A' ≤ c && c ≤ 'Z' then some (n - 65)
  else if 'a' ≤ c && c ≤ 'z' then some (n - 71)
  else if isAsciiDigit c then some (n + 4)
  else if c = '+' then some 62
  else if c = '/' then some 63
  else none

/-- Bytes from groups of four digits of six bits. `count` digits of the current group have been
read, whose bits not yet written are `left`; `pads` signs of padding came after the last one.
Characters that are no digits are passed over. -/
def bytesFrom (count left pads : Nat) : List Char → Option (List UInt8)
  | [] => if count = 0 then some [] else none
  | c :: rest =>
    if c = '=' then
      if 2 ≤ count then
        if 4 ≤ count + pads + 1 then some [] else bytesFrom count left (pads + 1) rest
      else bytesFrom count left pads rest
    else
      match sextet? c with
      | none => bytesFrom count left pads rest
      | some d =>
        match count with
        | 0 => bytesFrom 1 d 0 rest
        | 1 => (bytesFrom 2 (d % 16) 0 rest).map (UInt8.ofNat (left * 4 + d / 16) :: ·)
        | 2 => (bytesFrom 3 (d % 4) 0 rest).map (UInt8.ofNat (left * 16 + d / 4) :: ·)
        | _ => (bytesFrom 0 0 0 rest).map (UInt8.ofNat (left * 64 + d) :: ·)

/-- Data in base 64, written in ASCII. -/
def binary (text : String) : Except Failure Value :=
  let chars := text.toList
  if !chars.all fun c => c.toNat < 128 then .error .malformed
  else
    match bytesFrom 0 0 0 chars with
    | some data => .ok (.bytes data)
    | none => .error .malformed

end Conform.Yaml.Typed
