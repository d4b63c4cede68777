import Conform.Value.Display

/-!
# JSON pointers

A path of keys and indices is written as a JSON pointer: each segment after a slash, with `~` and
`/` inside a segment written `~0` and `~1`. The empty path is the empty pointer. The segments of a
path that is written have a text (`Violation.hasText`).
-/

namespace Conform.Pointer

/-- A path from the root of a value: keys of mappings and indices of lists. -/
abbrev Path := List Value

def escapeChar (c : Char) : List Char :=
  if c = '~' then ['~', '0'] else if c = '/' then ['~', '1'] else [c]

def escapeToken (token : List Char) : List Char := token.flatMap escapeChar

def joinTokens (tokens : List (List Char)) : List Char :=
  tokens.flatMap fun token => '/' :: escapeToken token

/-- The token of a segment: its plain text, escaped. -/
def escape (segment : Value) : String := String.ofList (escapeToken segment.text.toList)

/-- The pointer of a path. -/
def join (path : Path) : String :=
  String.ofList (joinTokens (path.map fun segment => segment.text.toList))

/-- The pointer of a child, given that of its parent. -/
def child (base : String) (segment : Value) : String := base ++ "/" ++ escape segment

end Conform.Pointer
