import Conform.Fault

/-!
# Places in a text

A cursor is a place in a text with what is left of it. A mark is the line and the column of a place,
both counted from zero. A byte order mark takes no column, and a carriage return before a line feed
ends no line of its own.
-/

namespace Conform.Yaml

structure Mark where
  line : Nat
  column : Nat
deriving DecidableEq, Repr

/-- Why a text has no value: it breaks the rules of the notation, or a scalar in it has no value of
the type it is given. -/
inductive Failure where
  | malformed
  | fault (fault : Fault)
deriving DecidableEq

structure Cursor where
  rest : List Char
  index : Nat
  mark : Mark

/-! ## Classes of characters -/

def isBreak (c : Char) : Bool :=
  c = '\n' || c = '\r' || c = '\x85' || c = '\u2028' || c = '\u2029'

def isSpaceOrTab (c : Char) : Bool := c = ' ' || c = '\t'

/-- A character that ends a word: a blank or a line break. -/
def isGap (c : Char) : Bool := isSpaceOrTab c || isBreak c

/-- The end of the text, or a character of a class. -/
def endOr (p : Char → Bool) (next : Option Char) : Bool := next.all p

def isAsciiDigit (c : Char) : Bool := '0' ≤ c && c ≤ '9'

/-- Letters, digits, hyphen and underscore, of which names are made. -/
def isNameChar (c : Char) : Bool :=
  isAsciiDigit c || ('A' ≤ c && c ≤ 'Z') || ('a' ≤ c && c ≤ 'z') || c = '-' || c = '_'

def isHexDigit (c : Char) : Bool :=
  isAsciiDigit c || ('A' ≤ c && c ≤ 'F') || ('a' ≤ c && c ≤ 'f')

def hexValue (digits : List Char) : Nat :=
  digits.foldl (fun n c =>
    let code := c.toNat
    n * 16 + (if code < 58 then code - 48 else if code < 71 then code - 55 else code - 87)) 0

/-- The characters that a text may have at all. -/
def isAllowed (c : Char) : Bool :=
  let n := c.toNat
  c = '\t' || c = '\n' || c = '\r' || (0x20 ≤ n && n ≤ 0x7e) || n = 0x85 ||
    (0xa0 ≤ n && n ≤ 0xd7ff) || (0xe000 ≤ n && n ≤ 0xfffd) || 0x10000 ≤ n

namespace Cursor

def ofText (text : List Char) : Cursor := ⟨text, 0, ⟨0, 0⟩⟩

def peek (c : Cursor) : Option Char := c.rest.head?

def peekAt (c : Cursor) (distance : Nat) : Option Char := c.rest[distance]?

def line (c : Cursor) : Nat := c.mark.line

def column (c : Cursor) : Nat := c.mark.column

/-- The mark after a character, given the one that follows it. -/
def markAfter (mark : Mark) (c : Char) (next : Option Char) : Mark :=
  if c = '\r' then if next = some '\n' then ⟨mark.line, mark.column + 1⟩ else ⟨mark.line + 1, 0⟩
  else if isBreak c then ⟨mark.line + 1, 0⟩
  else if c = '\ufeff' then mark
  else ⟨mark.line, mark.column + 1⟩

/-- The next place; the end stays where it is. -/
def forward (c : Cursor) : Cursor :=
  match c.rest with
  | [] => c
  | ch :: rest => ⟨rest, c.index + 1, markAfter c.mark ch rest.head?⟩

def advance : Nat → Cursor → Cursor
  | 0, c => c
  | n + 1, c => advance n c.forward

/-- Past all characters of a class. -/
def skipWhile (p : Char → Bool) (c : Cursor) : Cursor := c.advance (c.rest.takeWhile p).length

/-- Past a line break, with the character that stands for it; both unchanged elsewhere. -/
def lineBreak (c : Cursor) : List Char × Cursor :=
  match c.rest with
  | '\r' :: '\n' :: _ => (['\n'], c.advance 2)
  | ch :: _ =>
    if ch = '\n' ∨ ch = '\r' ∨ ch = '\x85' then (['\n'], c.forward)
    else if isBreak ch then ([ch], c.forward)
    else ([], c)
  | [] => ([], c)

/-- Past spaces and, if one follows, a comment. -/
def skipComment (c : Cursor) : Cursor :=
  let c := c.skipWhile (· = ' ')
  if c.peek = some '#' then c.skipWhile fun ch => !isBreak ch else c

/-- Whether three given characters and the end of a word come next. -/
def atSeparator (separator : Char) (c : Cursor) : Bool :=
  match c.rest with
  | x :: y :: z :: rest =>
    x = separator && y = separator && z = separator && endOr isGap rest.head?
  | _ => false

/-- Whether a line here would begin or end a document. -/
def atDocumentBoundary (c : Cursor) : Bool := c.atSeparator '-' || c.atSeparator '.'

/-- Past the end of a line that may have a comment; nothing else may be on it. -/
def endOfLine (c : Cursor) : Except Failure Cursor :=
  let c := c.skipComment
  if endOr isBreak c.peek then .ok c.lineBreak.2 else .error .malformed

end Cursor

end Conform.Yaml
