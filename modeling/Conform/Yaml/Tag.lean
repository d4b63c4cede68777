import Conform.Yaml.Node

/-!
# Tags of scalars

A scalar without a tag, if it is not quoted, has the type that its text looks like: the words for
booleans and for null, integers and fractions in several bases, dates and times, and the signs for
merging and for a default value. Everything else is a string. The forms are those of YAML 1.1.
-/

namespace Conform.Yaml.Tag

/-- A text with what is left of it after a form that may end anywhere. -/
abbrev Form := List Char → Option (List Char)

def isOneOf (words : List String) (s : List Char) : Bool := words.contains (String.ofList s)

def isBool (s : List Char) : Bool :=
  isOneOf ["yes", "Yes", "YES", "no", "No", "NO", "true", "True", "TRUE", "false", "False", "FALSE",
    "on", "On", "ON", "off", "Off", "OFF"] s

def isNull (s : List Char) : Bool := isOneOf ["", "~", "null", "Null", "NULL"] s

def dropSign : List Char → List Char
  | '+' :: rest => rest
  | '-' :: rest => rest
  | s => s

def isDecimalOrGap (c : Char) : Bool := isAsciiDigit c || c = '_'

/-- A colon and one or two digits below sixty, as many times as there are, at least once if `some`
has to be seen. -/
def isSixtieths : Nat → Bool → List Char → Option (List Char)
  | 0, seen, s => if seen then some s else none
  | fuel + 1, seen, s =>
    match s with
    | ':' :: a :: b :: rest =>
      if '0' ≤ a && a ≤ '5' && isAsciiDigit b then isSixtieths fuel true rest
      else if isAsciiDigit a then isSixtieths fuel true (b :: rest)
      else if seen then some s else none
    | [':', a] => if isAsciiDigit a then some [] else if seen then some s else none
    | _ => if seen then some s else none

/-- Digits of a base and underscores, at least one, to the end. -/
def isRun (p : Char → Bool) (s : List Char) : Bool := !s.isEmpty && s.all fun c => p c || c = '_'

def isInt (s : List Char) : Bool :=
  let magnitude := dropSign s
  match magnitude with
  | '0' :: 'b' :: rest => isRun (fun c => c = '0' || c = '1') rest
  | '0' :: 'x' :: rest => isRun isHexDigit rest
  | ['0'] => true
  | '0' :: rest => isRun (fun c => '0' ≤ c && c ≤ '7') rest
  | c :: rest =>
    isAsciiDigit c &&
      (let others := rest.dropWhile isDecimalOrGap
       others.isEmpty || isSixtieths s.length false others = some [])
  | [] => false

/-- An exponent with its sign, or nothing. -/
def isExponentOrEnd (s : List Char) : Bool :=
  match s with
  | [] => true
  | e :: sign :: digits =>
    (e = 'e' || e = 'E') && (sign = '+' || sign = '-') && !digits.isEmpty &&
      digits.all isAsciiDigit
  | _ => false

def isFloat (s : List Char) : Bool :=
  let magnitude := dropSign s
  match magnitude with
  | '.' :: c :: rest =>
    isOneOf [".inf", ".Inf", ".INF"] magnitude || isOneOf [".nan", ".NaN", ".NAN"] s ||
      (magnitude = s && isAsciiDigit c && isExponentOrEnd (rest.dropWhile isDecimalOrGap))
  | c :: rest =>
    isAsciiDigit c &&
      (let others := rest.dropWhile isDecimalOrGap
       match others with
       | '.' :: fraction => isExponentOrEnd (fraction.dropWhile isDecimalOrGap)
       | _ =>
         match isSixtieths s.length false others with
         | some ('.' :: fraction) => fraction.all isDecimalOrGap
         | _ => false)
  | [] => false

/-- Exactly so many digits. -/
def digits (n : Nat) : Form := fun s =>
  if (s.take n).length = n && (s.take n).all isAsciiDigit then some (s.drop n) else none

/-- One or two digits. -/
def oneOrTwo : Form := fun s => (digits 2 s).or (digits 1 s)

def sign (c : Char) : Form
  | d :: rest => if c = d then some rest else none
  | [] => none

/-- An offset from universal time after any blanks, or nothing, to the end. -/
def isZoneOrEnd (s : List Char) : Bool :=
  let zone := s.dropWhile isSpaceOrTab
  match zone with
  | [] => s.isEmpty
  | ['Z'] => true
  | c :: rest =>
    (c = '+' || c = '-') &&
      match oneOrTwo rest with
      | some [] => true
      | some rest => (sign ':' rest).bind (digits 2) = some []
      | none => false

/-- A date without a time: four, two and two digits. -/
def isDate (s : List Char) : Bool :=
  (do
    let s ← digits 4 s
    let s ← sign '-' s
    let s ← digits 2 s
    let s ← sign '-' s
    digits 2 s) = some []

/-- A `T` or blanks, between a date and a time. -/
def timeSeparator : Form := fun s =>
  match s with
  | c :: rest =>
    if c = 'T' || c = 't' then some rest
    else if isSpaceOrTab c then some (rest.dropWhile isSpaceOrTab)
    else none
  | [] => none

/-- The fraction of a second, if there is one. -/
def dropFraction : List Char → List Char
  | '.' :: rest => rest.dropWhile isAsciiDigit
  | s => s

def isDateTime (s : List Char) : Bool :=
  let rest : Option (List Char) := do
    let s ← digits 4 s
    let s ← sign '-' s
    let s ← oneOrTwo s
    let s ← sign '-' s
    let s ← oneOrTwo s
    let s ← timeSeparator s
    let s ← oneOrTwo s
    let s ← sign ':' s
    let s ← digits 2 s
    let s ← sign ':' s
    digits 2 s
  rest.any fun s => isZoneOrEnd (dropFraction s)

/-- The tag of an untagged scalar that is not quoted. One line break at the end does not count. -/
def ofText (text : String) : Tag :=
  let chars := text.toList
  let s := if chars.getLast? = some '\n' then chars.dropLast else chars
  if isBool s then .bool
  else if isFloat s then .float
  else if isInt s then .int
  else if s = ['<', '<'] then .merge
  else if isNull s && (s != [] || chars = []) then .null
  else if isDate s || isDateTime s then .timestamp
  else if s = ['='] then .value
  else if isOneOf ["!", "&", "*"] s then .other "tag:yaml.org,2002:yaml"
  else .str

end Conform.Yaml.Tag
