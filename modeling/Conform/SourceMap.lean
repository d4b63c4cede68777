import Conform.Text.Fields

/-!
# Source maps

Where the parts of a file's data were written: pointers with lines and columns, counted from one. A
pointer that is not in the map is located at the closest of its ancestors that is.
-/

namespace Conform

/-- A line and a column, each if it is known. -/
structure Position where
  line : Option Int
  column : Option Int
deriving DecidableEq

/-- Whether anything is known. -/
def Position.isKnown (position : Position) : Bool :=
  position.line.isSome || position.column.isSome

/-- Pointers with their positions, in the order in which they first came. -/
abbrev SourceMap := List (String × Position)

namespace SourceMap

/-- Record a position: a pointer that is already there keeps its place. -/
def put (pointer : String) (position : Position) : SourceMap → SourceMap
  | [] => [(pointer, position)]
  | (other, old) :: rest =>
    if other = pointer then (other, position) :: rest else (other, old) :: put pointer position rest

/-- The map that a sequence of records makes. -/
def ofRecords (records : List (String × Position)) : SourceMap :=
  records.foldl (fun map record => put record.1 record.2 map) []

/-- The position of a pointer, if one is known. -/
def position? (map : SourceMap) (pointer : String) : Option Position :=
  (map.lookup pointer).filter Position.isKnown

/-- The texts before the slashes of a text, the longest first; all of them are read backwards. -/
def ancestors : List Char → List (List Char)
  | [] => []
  | c :: rest => if c = '/' then rest :: ancestors rest else ancestors rest

/-- The position of a pointer or of its closest ancestor. -/
def closest (map : SourceMap) (pointer : String) : Option Position :=
  let backwards := pointer.toList.reverse
  (backwards :: ancestors backwards).findSome? fun candidate =>
    map.position? (String.ofList candidate.reverse)

end SourceMap

/-- Where something is: in which file, under which pointer, and at which position. -/
structure Location where
  file : Option String
  pointer : Option String
  line : Option Int
  column : Option Int
deriving DecidableEq

/-- The location of a pointer in a file with a source map. -/
def SourceMap.locate (map : SourceMap) (pointer : String) (file : Option String) : Location :=
  let found := map.closest pointer
  ⟨file, some pointer, found.bind Position.line, found.bind Position.column⟩

end Conform
