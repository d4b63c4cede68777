import Conform.Unicode.Ranges

/-!
# Blank characters

The characters that separate words: white space of the bidirectional classes `WS`, `B` and `S`, or
of the general category `Zs`.
-/

namespace Conform.Unicode

def blankRanges : Ranges :=
  [(0x9, 0xd), (0x1c, 0x20), (0x85, 0x85), (0xa0, 0xa0), (0x1680, 0x1680), (0x2000, 0x200a),
   (0x2028, 0x2029), (0x202f, 0x202f), (0x205f, 0x205f), (0x3000, 0x3000)]

def isBlankCode (c : Nat) : Bool := blankRanges.contains c

def isBlank (c : Char) : Bool := isBlankCode c.toNat

/-- The characters without blanks at both ends. -/
def trimBlanks (s : List Char) : List Char :=
  ((s.dropWhile isBlank).reverse.dropWhile isBlank).reverse

end Conform.Unicode
