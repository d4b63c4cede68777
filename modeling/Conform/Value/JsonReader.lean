import Conform.Value.Equality

/-!
# Values from JSON text

A number without a fraction and an exponent is an integer and any other one a double. A name that
comes twice in an object keeps its place and takes the last value.
-/

namespace Conform

namespace JsonReader

def isSpace (c : Char) : Bool := c = ' ' || c = '\t' || c = '\n' || c = '\r'

def skipSpace (s : List Char) : List Char := s.dropWhile isSpace

def isDigit (c : Char) : Bool := '0' ≤ c && c ≤ '9'

/-- The value of decimal digits. -/
def decimal (digits : List Char) : Nat := digits.foldl (fun n c => n * 10 + (c.toNat - 48)) 0

/-! ## Strings -/

def hexDigit? (c : Char) : Option Nat :=
  if isDigit c then some (c.toNat - 48)
  else if 'a' ≤ c && c ≤ 'f' then some (c.toNat - 87)
  else if 'A' ≤ c && c ≤ 'F' then some (c.toNat - 55)
  else none

/-- The code of four hexadecimal digits. -/
def unit? : List Char → Option (Nat × List Char)
  | a :: b :: c :: d :: rest => do
    let digits ← [a, b, c, d].mapM hexDigit?
    some (digits.foldl (fun n digit => n * 16 + digit) 0, rest)
  | _ => none

/-- The character of a code, or of two that are the halves of a pair. -/
def coded? (s : List Char) : Option (Char × List Char) := do
  let (high, rest) ← unit? s
  if high < 0xd800 || 0xe000 ≤ high then some (Char.ofNat high, rest)
  else
    match rest with
    | '\\' :: 'u' :: rest => do
      let (low, rest) ← unit? rest
      if high < 0xdc00 && 0xdc00 ≤ low && low < 0xe000 then
        some (Char.ofNat (0x10000 + (high - 0xd800) * 0x400 + (low - 0xdc00)), rest)
      else none
    | _ => none

/-- The characters with a letter of their own after a backslash. -/
def escapes : List (Char × Char) :=
  [('"', '"'), ('\\', '\\'), ('/', '/'), ('b', '\x08'), ('f', '\x0c'), ('n', '\n'), ('r', '\r'),
   ('t', '\t')]

/-- One character of a string. -/
def character? : List Char → Option (Char × List Char)
  | '\\' :: 'u' :: rest => coded? rest
  | '\\' :: letter :: rest => (escapes.lookup letter).map fun c => (c, rest)
  | c :: rest => if c = '"' || c = '\\' || c.toNat < 0x20 then none else some (c, rest)
  | [] => none

/-- The characters of a string after its first quote. -/
def characters? : Nat → List Char → Option (List Char × List Char)
  | _, '"' :: rest => some ([], rest)
  | 0, _ => none
  | fuel + 1, s => do
    let (c, rest) ← character? s
    let (others, rest) ← characters? fuel rest
    some (c :: others, rest)

def string? (s : List Char) : Option (String × List Char) :=
  (characters? s.length s).map fun (chars, rest) => (String.ofList chars, rest)

/-! ## Numbers -/

def sign : List Char → Bool × List Char
  | '-' :: rest => (true, rest)
  | '+' :: rest => (false, rest)
  | rest => (false, rest)

/-- At least one digit. -/
def digits? (s : List Char) : Option (List Char × List Char) :=
  let digits := s.takeWhile isDigit
  if digits.isEmpty then none else some (digits, s.dropWhile isDigit)

/-- The digits after a point, if there is one. -/
def fraction? : List Char → Option (List Char × List Char)
  | '.' :: rest => digits? rest
  | rest => some ([], rest)

/-- The exponent, if there is one. -/
def exponent? (s : List Char) : Option (Option Int × List Char) :=
  match s with
  | [] => some (none, s)
  | c :: rest =>
    if c = 'e' || c = 'E' then do
      let (negative, rest) := sign rest
      let (digits, rest) ← digits? rest
      let n : Int := decimal digits
      some (some (if negative then -n else n), rest)
    else some (none, s)

/-- The digits before the point, of which the first is zero only if it is alone. -/
def whole? (s : List Char) : Option (List Char × List Char) := do
  let (digits, rest) ← digits? s
  match digits with
  | '0' :: _ :: _ => none
  | _ => some (digits, rest)

def magnitude? (negative : Bool) (s : List Char) : Option (Value × List Char) := do
  let (whole, rest) ← whole? s
  let (places, rest) ← fraction? rest
  let (exponent, rest) ← exponent? rest
  if places.isEmpty && exponent.isNone then
    let n : Int := decimal whole
    some (.int (if negative then -n else n), rest)
  else
    some (.float (.ofDecimal negative (decimal (whole ++ places))
      (exponent.getD 0 - places.length)), rest)

def number? : List Char → Option (Value × List Char)
  | '-' :: rest => magnitude? true rest
  | rest => magnitude? false rest

/-! ## Values -/

mutual

/-- A value at the start of a text. -/
def value? (fuel : Nat) (s : List Char) : Option (Value × List Char) :=
  match fuel with
  | 0 => none
  | fuel + 1 =>
    match skipSpace s with
    | '"' :: rest => (string? rest).map fun (text, rest) => (.str text, rest)
    | '[' :: rest =>
      match skipSpace rest with
      | ']' :: rest => some (.list [], rest)
      | rest => (items? fuel rest).map fun (items, rest) => (.list items, rest)
    | '\x7b' :: rest =>
      match skipSpace rest with
      | '\x7d' :: rest => some (.map [], rest)
      | rest => (members? fuel rest).map fun (members, rest) =>
          (.map (Value.ofAssignments members), rest)
    | 't' :: 'r' :: 'u' :: 'e' :: rest => some (.bool true, rest)
    | 'f' :: 'a' :: 'l' :: 's' :: 'e' :: rest => some (.bool false, rest)
    | 'n' :: 'u' :: 'l' :: 'l' :: rest => some (.null, rest)
    | rest => number? rest
termination_by structural fuel

/-- Values with commas between them, up to a closing bracket. -/
def items? (fuel : Nat) (s : List Char) : Option (List Value × List Char) :=
  match fuel with
  | 0 => none
  | fuel + 1 => do
    let (first, rest) ← value? fuel s
    match skipSpace rest with
    | ']' :: rest => some ([first], rest)
    | ',' :: rest => (items? fuel rest).map fun (others, rest) => (first :: others, rest)
    | _ => none
termination_by structural fuel

/-- Names and values, up to a closing brace. -/
def members? (fuel : Nat) (s : List Char) : Option (List (Value × Value) × List Char) :=
  match fuel with
  | 0 => none
  | fuel + 1 =>
    match skipSpace s with
    | '"' :: rest => do
      let (name, rest) ← string? rest
      match skipSpace rest with
      | ':' :: rest => do
        let (first, rest) ← value? fuel rest
        match skipSpace rest with
        | '\x7d' :: rest => some ([(.str name, first)], rest)
        | ',' :: rest =>
          (members? fuel rest).map fun (others, rest) => ((.str name, first) :: others, rest)
        | _ => none
      | _ => none
    | _ => none
termination_by structural fuel

end

end JsonReader

/-- The value of a JSON text. Each step of the reader but one in two takes a character, so that
twice their number of steps is enough. -/
def Value.ofJson? (text : String) : Option Value :=
  let chars := text.toList
  match JsonReader.value? (2 * chars.length + 2) chars with
  | some (v, rest) => if (JsonReader.skipSpace rest).isEmpty then some v else none
  | none => none

end Conform
