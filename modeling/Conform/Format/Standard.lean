import Conform.Calendar
import Conform.Fault
import Conform.Number.Numeral
import Conform.Pattern.Search
import Conform.Text.Fields

/-!
# Standard formats

Predicates on strings: dates, times of day, mail addresses, network addresses, universally unique
identifiers and patterns.
-/

namespace Conform.Format

open Text (fields)

def isAsciiDigit (c : Char) : Bool := '0' ≤ c && c ≤ '9'

/-- The value of ASCII digits. -/
def decimal (digits : List Char) : Nat :=
  digits.foldl (fun n c => n * 10 + (c.toNat - 48)) 0

/-- A date of the calendar as `YYYY-MM-DD`. -/
def isDate (s : String) : Bool :=
  match fields '-' s.toList with
  | [year, month, day] =>
    year.length = 4 && month.length = 2 && day.length = 2 &&
      (year ++ month ++ day).all isAsciiDigit &&
      Date.isValid ⟨decimal year, decimal month, decimal day⟩
  | _ => false

def isDigit (c : Char) : Bool := Unicode.isDigitCode c.toNat

/-- A number of one or two digits of any script; the first of two is an ASCII digit up to `high`. -/
def isSixtieth (high : Char) : List Char → Bool
  | [c] => isDigit c
  | [c, d] => '0' ≤ c && c ≤ high && isDigit d
  | _ => false

def isHour : List Char → Bool
  | ['2', d] => '0' ≤ d && d ≤ '3'
  | s => isSixtieth '1' s

/-- A time of day as hours, minutes and seconds between colons. -/
def isTime (s : String) : Bool :=
  match fields ':' s.toList with
  | [hour, minute, second] => isHour hour && isSixtieth '5' minute && isSixtieth '5' second
  | _ => false

def isEmail (s : String) : Bool := s.toList.contains '@'

def isOctet (s : List Char) : Bool :=
  !s.isEmpty && s.all isAsciiDigit && s.length ≤ 3 && (s = ['0'] || s.head? != some '0') &&
    decimal s ≤ 255

def isIpv4Chars (s : List Char) : Bool :=
  let octets := fields '.' s
  octets.length = 4 && octets.all isOctet

/-- Four octets between full stops. -/
def isIpv4 (s : String) : Bool := isIpv4Chars s.toList

def isHexDigit (c : Char) : Bool :=
  isAsciiDigit c || ('a' ≤ c && c ≤ 'f') || ('A' ≤ c && c ≤ 'F')

/-- A group of one to four hexadecimal digits. -/
def isGroup (s : List Char) : Bool := !s.isEmpty && s.length ≤ 4 && s.all isHexDigit

/-- An IPv4 address at the end stands for the last two groups. -/
def expandTail (parts : List (List Char)) : Option (List (List Char)) :=
  match parts.getLast? with
  | some last =>
    if last.contains '.' then
      if isIpv4Chars last then some (parts.dropLast ++ [['0'], ['0']]) else none
    else some parts
  | none => some parts

/-- The groups before and after the place of an omitted run of zeros. An empty group at either end
belongs to the double colon there, and only there. -/
def aroundGap (before after : List (List Char)) : Bool :=
  let high := if before.head? = some [] then before.drop 1 else before
  let low := if after.getLast? = some [] then after.dropLast else after
  (before.head? != some [] || high.isEmpty) && (after.getLast? != some [] || low.isEmpty) &&
    high.length + low.length ≤ 7 && (high ++ low).all isGroup

/-- Eight groups between colons, of which one run of zeros may be left out. -/
def isIpv6 (s : String) : Bool :=
  let chars := s.toList
  let parts := fields ':' chars
  if chars.contains '%' ∨ parts.length < 3 then false
  else
    match expandTail parts with
    | none => false
    | some parts =>
      if 9 < parts.length then false
      else
        let inner := (parts.drop 1).dropLast
        match inner.findIdx? List.isEmpty with
        | none => parts.length = 8 && parts.all isGroup
        | some i => inner.count [] = 1 && aroundGap (parts.take (i + 1)) (parts.drop (i + 2))

/-- A universally unique identifier: 32 hexadecimal digits, with hyphens where groups end. Words and
brackets around it are allowed, and so is whatever else a numeral may have. -/
def isUuid (s : String) : Bool :=
  let chars := s.toList
  let bare := Text.trim (fun c => c = '\x7b' || c = '\x7d')
    (Text.remove "uuid:" (Text.remove "urn:" chars))
  let digits := bare.filter (· != '-')
  digits.length = 32 && (Numeral.integer? 16 digits).isSome &&
    [8, 13, 18, 23].all fun i => chars[i]? = some '-'

/-- A text that is a pattern. Some texts are too large to tell. -/
def isPattern (s : String) : Except Fault Bool :=
  match Pattern.compile s with
  | .ok _ => .ok true
  | .error (.invalid _) => .ok false
  | .error (.excess excess) => .error excess.fault

end Conform.Format
