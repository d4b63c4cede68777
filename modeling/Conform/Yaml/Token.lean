import Conform.Number.Numeral
import Conform.Text.Utf8
import Conform.Yaml.Scalar

/-!
# Tokens

What the text of a document consists of: marks of collections, keys and values, scalars, and the
properties and directives that qualify them.
-/

namespace Conform.Yaml

inductive Directive where
  | version (major : Nat)
  | tagHandle (handle tagStart : String)
  | reserved
deriving DecidableEq

inductive TokenKind where
  | streamEnd
  | directive (directive : Directive)
  | documentStart
  | documentEnd
  | blockSequenceStart
  | blockMappingStart
  | blockEnd
  | flowSequenceStart
  | flowSequenceEnd
  | flowMappingStart
  | flowMappingEnd
  | flowEntry
  | blockEntry
  | key
  | value
  | reference (name : String)
  | anchor (name : String)
  /-- A tag: a handle, if it is not written out in full, and the rest. -/
  | tag (handle : Option String) (suffix : String)
  | scalar (text : String) (plain : Bool)
deriving DecidableEq

/-- A token with the marks of its start and of its end. -/
structure Token where
  kind : TokenKind
  start : Mark
  finish : Mark

/-! ## Names and tags -/

/-- The name after the indicator of an anchor or a reference. -/
def anchorName (c : Cursor) : Except Failure (String × Cursor) :=
  let c := c.forward
  let name := c.rest.takeWhile isNameChar
  let c := c.advance name.length
  let ends (ch : Char) : Bool :=
    isGap ch || ['?', ':', ',', ']', '\x7d', '%', '@', '\x60'].contains ch
  if name.isEmpty || !endOr ends c.peek then .error .malformed
  else .ok (String.ofList name, c)

def isUriChar (c : Char) : Bool :=
  isNameChar c || [';', '/', '?', ':', '@', '&', '=', '+', '$', ',', '.', '!', '~', '*', '\'', '(',
    ')', '[', ']'].contains c

/-- The bytes of a run of escapes, two hexadecimal digits after each percent sign. -/
def uriBytes : List Char → Except Failure (List UInt8)
  | '%' :: a :: b :: rest =>
    if isHexDigit a && isHexDigit b then do
      let others ← uriBytes rest
      .ok (UInt8.ofNat (hexValue [a, b]) :: others)
    else .error .malformed
  | '%' :: _ => .error .malformed
  | _ => .ok []

/-- The characters that a run of escapes stands for. -/
def uriEscapes (c : Cursor) : Except Failure (List Char × Cursor) := do
  let bytes ← uriBytes c.rest
  match Text.Utf8.decode bytes with
  | .ok chars => .ok (chars, c.advance (3 * bytes.length))
  | .error _ => .error .malformed

/-- Characters of a resource identifier; `text` is reversed. -/
def uriFrom : Nat → List Char → Cursor → Except Failure (List Char × Cursor)
  | 0, text, c => .ok (text, c)
  | fuel + 1, text, c =>
    match c.peek with
    | some ch =>
      if ch = '%' then do
        let (chars, c) ← uriEscapes c
        uriFrom fuel (chars.reverse ++ text) c
      else if isUriChar ch then uriFrom fuel (ch :: text) c.forward
      else .ok (text, c)
    | none => .ok (text, c)

/-- A resource identifier that is not empty. -/
def uri (c : Cursor) : Except Failure (String × Cursor) := do
  let (text, finish) ← uriFrom (c.rest.length + 1) [] c
  if c.peek.any fun ch => ch = '%' || isUriChar ch then .ok (String.ofList text.reverse, finish)
  else .error .malformed

/-- A handle: one exclamation mark, or a name between two. -/
def tagHandle (c : Cursor) : Except Failure (String × Cursor) :=
  if c.peek ≠ some '!' then .error .malformed
  else if c.peekAt 1 = some ' ' then .ok ("!", c.forward)
  else
    let name := (c.rest.drop 1).takeWhile isNameChar
    if c.peekAt (name.length + 1) = some '!' then
      .ok (String.ofList ('!' :: name ++ ['!']), c.advance (name.length + 2))
    else .error .malformed

/-- A space, a line break or the end. -/
def isPlainEnd (c : Char) : Bool := c = ' ' || isBreak c

/-- The parts of a tag. -/
def tagParts (c : Cursor) : Except Failure (Option String × String × Cursor) :=
  if c.peekAt 1 = some '<' then do
    let (suffix, c) ← uri (c.advance 2)
    if c.peek = some '>' then .ok (none, suffix, c.forward) else .error .malformed
  else if endOr isGap (c.peekAt 1) then .ok (none, "!", c.forward)
  else
    let word := (c.rest.drop 1).takeWhile fun ch => !isPlainEnd ch
    if word.contains '!' then do
      let (handle, c) ← tagHandle c
      let (suffix, c) ← uri c
      .ok (some handle, suffix, c)
    else do
      let (suffix, c) ← uri c.forward
      .ok (some "!", suffix, c)

/-- A tag; a space or the end of the line comes after it. -/
def tag (c : Cursor) : Except Failure (TokenKind × Cursor) := do
  let (handle, suffix, c) ← tagParts c
  if endOr isPlainEnd c.peek then .ok (.tag handle suffix, c) else .error .malformed

/-! ## Directives -/

def directiveNumber (c : Cursor) : Except Failure (Nat × Cursor) :=
  let digits := c.rest.takeWhile isAsciiDigit
  if digits.isEmpty then .error .malformed
  else if Numeral.digitLimit < digits.length then .error (.fault .badValue)
  else .ok (digits.foldl (fun n d => n * 10 + (d.toNat - 48)) 0, c.advance digits.length)

def versionDirective (c : Cursor) : Except Failure (Directive × Cursor) := do
  let (major, c) ← directiveNumber (c.skipWhile (· = ' '))
  if c.peek ≠ some '.' then .error .malformed
  else do
    let (_, c) ← directiveNumber c.forward
    if endOr isPlainEnd c.peek then .ok (.version major, c) else .error .malformed

def tagDirective (c : Cursor) : Except Failure (Directive × Cursor) := do
  let (handle, c) ← tagHandle (c.skipWhile (· = ' '))
  if c.peek ≠ some ' ' then .error .malformed
  else do
    let (start, c) ← uri (c.skipWhile (· = ' '))
    if endOr isPlainEnd c.peek then .ok (.tagHandle handle start, c) else .error .malformed

/-- A directive with its whole line. -/
def directive (c : Cursor) : Except Failure (TokenKind × Mark × Cursor) := do
  let c := c.forward
  let name := c.rest.takeWhile isNameChar
  let c := c.advance name.length
  if name.isEmpty || !endOr isPlainEnd c.peek then .error .malformed
  else do
    let (parsed, c) ←
      if name = ['Y', 'A', 'M', 'L'] then versionDirective c
      else if name = ['T', 'A', 'G'] then tagDirective c
      else .ok (Directive.reserved, c.skipWhile fun ch => !isBreak ch)
    let finish := c.mark
    let c ← c.endOfLine
    .ok (.directive parsed, finish, c)

end Conform.Yaml
