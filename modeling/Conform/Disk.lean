import Conform.FilePath

/-!
# Files on disk

The files that are known, each under its place: the names that lead to it from the root directory. A
path that is not absolute starts from the working directory. A directory is known when a file or
another known directory is in it.
-/

namespace Conform

/-- The names that lead from the root directory to a file or a directory. -/
abbrev Place := List String

structure Disk where
  /-- The working directory. -/
  working : Place
  /-- Directories that are known apart from those with files. -/
  directories : List Place
  files : List (Place × List UInt8)

namespace Disk

def isDirectory (disk : Disk) (place : Place) : Bool :=
  place.isPrefixOf disk.working || disk.directories.any (place.isPrefixOf ·) ||
    disk.files.any fun (file, _) => place.isPrefixOf file && place != file

/-- Where names lead, starting from a place. Each name but the last must be that of a directory. -/
def walk (disk : Disk) (place : Place) : List String → Option Place
  | [] => some place
  | name :: rest =>
    if !disk.isDirectory place then none
    else disk.walk (if name = ".." then place.dropLast else place ++ [name]) rest

/-- The place from which the names of a path lead. -/
def start (disk : Disk) (path : String) : Place :=
  if FilePath.root path.toList = "" then disk.working else []

/-- The place that a path stands for. -/
def resolve (disk : Disk) (path : String) : Option Place :=
  disk.walk (disk.start path) (FilePath.names path)

/-- The most bytes that the name of a file or a directory can have. -/
def nameLimit : Nat := 255

/-- Whether names, starting from a place, lead through directories to a name that is too long. -/
def meetsLongName (disk : Disk) (place : Place) : List String → Bool
  | [] => false
  | name :: rest =>
    disk.isDirectory place && (nameLimit < name.utf8ByteSize ||
      disk.meetsLongName (if name = ".." then place.dropLast else place ++ [name]) rest)

/-- The most bytes that a path can have. -/
def pathLimit : Nat := 4095

/-- Whether looking a path up fails for its length or that of a name in it. A path with a null
character is never looked up. This stays folded where a lookup is unfolded, which does not depend on
how it is decided. -/
@[irreducible] def isOverlong (disk : Disk) (path : String) : Bool :=
  !path.toList.contains '\x00' && (pathLimit < path.utf8ByteSize ||
    disk.meetsLongName (disk.start path) (FilePath.names path))

/-- The place and the contents of the file that a path stands for, if the path can be looked up. -/
def find? (disk : Disk) (path : String) : Option (Place × List UInt8) :=
  if disk.isOverlong path then none
  else do
    let place ← disk.resolve path
    let contents ← disk.files.lookup place
    some (place, contents)

/-- The places that names lead through, the last of them included. -/
def visited (place : Place) : List String → List Place
  | [] => []
  | name :: rest =>
    let next := if name = ".." then place.dropLast else place ++ [name]
    next :: visited next rest

def erase (disk : Disk) (place : Place) : Disk :=
  { disk with files := disk.files.filter fun (file, _) => file != place }

def write (disk : Disk) (place : Place) (contents : List UInt8) : Disk :=
  { disk with files := (place, contents) :: (disk.erase place).files }

/-- The disk with a file that is found under a path: all that the path leads through is a directory.
-/
def enter (disk : Disk) (path : String) (contents : List UInt8) : Disk :=
  let places := visited (disk.start path) (FilePath.names path)
  let entered := { disk with directories := places.dropLast ++ disk.directories }
  entered.write (places.getLast?.getD (disk.start path)) contents

end Disk

end Conform
