import Conform.Unicode.Printable

/-!
# Quoted text

Two ways of writing text between quotes: `quoted`, for messages that show a value, and `jsonQuoted`,
the ASCII form of JSON. `Utf8` errors and raw data are shown with the same hexadecimal digits.
-/

namespace Conform.Text

/-- The last `width` hexadecimal digits of a number. -/
def hex : Nat → Nat → List Char
  | 0, _ => []
  | width + 1, n => hex width (n / 16) ++ [Nat.digitChar (n % 16)]

/-- Single quotes, unless the text has single quotes and no double ones. -/
def quoteFor (hasSingle hasDouble : Bool) : Char :=
  if hasSingle && !hasDouble then '"' else '\''

def escaped (quote c : Char) : List Char :=
  if c = quote ∨ c = '\\' then ['\\', c]
  else if c = '\n' then ['\\', 'n']
  else if c = '\r' then ['\\', 'r']
  else if c = '\t' then ['\\', 't']
  else if Unicode.isPrintable c then [c]
  else if c.toNat ≤ 0xff then '\\' :: 'x' :: hex 2 c.toNat
  else if c.toNat ≤ 0xffff then '\\' :: 'u' :: hex 4 c.toNat
  else '\\' :: 'U' :: hex 8 c.toNat

/-- Text in quotes, with everything unprintable escaped. -/
def quoted (s : String) : String :=
  let chars := s.toList
  let quote := quoteFor (chars.contains '\'') (chars.contains '"')
  String.ofList (quote :: chars.flatMap (escaped quote) ++ [quote])

/-- Data in quotes after a `b`: printable ASCII as it is, all else escaped. -/
def quotedBytes (data : List UInt8) : String :=
  let chars := data.map fun b => Char.ofNat b.toNat
  let quote := quoteFor (chars.contains '\'') (chars.contains '"')
  let byte (c : Char) : List Char :=
    if c.toNat < 0x7f then escaped quote c else '\\' :: 'x' :: hex 2 c.toNat
  String.ofList ('b' :: quote :: chars.flatMap byte ++ [quote])

/-- A character inside a JSON string: ASCII only, the others as UTF-16 escapes. -/
def jsonEscaped (c : Char) : List Char :=
  let unit (n : Nat) : List Char := '\\' :: 'u' :: hex 4 n
  if c = '"' ∨ c = '\\' then ['\\', c]
  else if c = '\n' then ['\\', 'n']
  else if c = '\r' then ['\\', 'r']
  else if c = '\t' then ['\\', 't']
  else if c = '\x08' then ['\\', 'b']
  else if c = '\x0c' then ['\\', 'f']
  else if 0x20 ≤ c.toNat ∧ c.toNat < 0x7f then [c]
  else if c.toNat ≤ 0xffff then unit c.toNat
  else
    let above := c.toNat - 0x10000
    unit (0xd800 + above / 0x400) ++ unit (0xdc00 + above % 0x400)

def jsonQuoted (s : String) : String :=
  String.ofList ('"' :: s.toList.flatMap jsonEscaped ++ ['"'])

end Conform.Text
