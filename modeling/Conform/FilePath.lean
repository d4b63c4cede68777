import Conform.Text.Fields

/-!
# File paths

A path is names between slashes. Its normal form has no empty names and no `.`; a `..` stays, since
where it leads depends on the directories there are.
-/

namespace Conform.FilePath

/-- The slashes that an absolute path begins with: one, or exactly two. -/
def root (path : List Char) : String :=
  match path with
  | '/' :: '/' :: '/' :: _ => "/"
  | '/' :: '/' :: _ => "//"
  | '/' :: _ => "/"
  | _ => ""

def names (path : String) : List String :=
  ((Text.fields '/' path.toList).map String.ofList).filter fun name => name != "" && name != "."

/-- The normal form of a path; that of no name at all is `.`. -/
def normalize (path : String) : String :=
  let text := root path.toList ++ String.intercalate "/" (names path)
  if text = "" then "." else text

/-- A path from another one. -/
def under (base path : String) : String :=
  if root path.toList = "" then normalize (base ++ "/" ++ path) else normalize path

end Conform.FilePath
