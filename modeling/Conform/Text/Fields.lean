/-!
# Taking text apart

Fields between separators, and the removal of a word wherever it stands.
-/

namespace Conform.Text

/-- The parts of a text between separators; there is one more of them than separators. -/
def fields (separator : Char) : List Char → List (List Char)
  | [] => [[]]
  | c :: rest =>
    let others := fields separator rest
    if c = separator then [] :: others
    else
      match others with
      | first :: others => (c :: first) :: others
      | [] => [[c]]

/-- Remove a word from left to right; `skip` characters of an occurrence are still to be dropped. -/
def removeFrom (word : List Char) : Nat → List Char → List Char
  | _, [] => []
  | skip + 1, _ :: rest => removeFrom word skip rest
  | 0, c :: rest =>
    if word.isPrefixOf (c :: rest) then removeFrom word (word.length - 1) rest
    else c :: removeFrom word 0 rest

/-- Remove every occurrence of a word that is not empty. -/
def remove (word : String) (s : List Char) : List Char := removeFrom word.toList 0 s

/-- The text without characters of a class at both ends. -/
def trim (p : Char → Bool) (s : List Char) : List Char :=
  ((s.dropWhile p).reverse.dropWhile p).reverse

end Conform.Text
