/-!
# Lines

A file's text has one kind of line end: a carriage return, alone or before a line feed, counts as a
line feed.
-/

namespace Conform.Text

def unifyLineEnds : List Char → List Char
  | [] => []
  | '\r' :: '\n' :: rest => '\n' :: unifyLineEnds rest
  | '\r' :: rest => '\n' :: unifyLineEnds rest
  | c :: rest => c :: unifyLineEnds rest

end Conform.Text
