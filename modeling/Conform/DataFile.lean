import Conform.Disk
import Conform.FileText
import Conform.Log
import Conform.Yaml.Positions

/-!
# Data files

A file is read as UTF-8 text with one kind of line end, and the text as a value with its source map.
-/

namespace Conform

inductive DataError where
  | notFound (path : String)
  | unreadable (path : String) (error : TextError)

def DataError.message : DataError → String
  | .notFound path => "Data file not found: " ++ path
  | .unreadable path (.notUtf8 error) => "Cannot read data file " ++ path ++ ": " ++ error.message
  | .unreadable path .malformed =>
    "Invalid YAML/JSON in data file " ++ path ++ ": " ++ TextError.malformed.message

inductive DataFailure where
  | data (error : DataError)
  | fault (fault : Fault)

namespace DataFile

def loadingRecord (path : String) : Record :=
  ⟨Severity.debug, "structcheck.file_io.data_loader", "Loading data file: " ++ path⟩

/-- The value of a file's contents, with its source map. -/
def parse (contents : List UInt8) : Except TextFailure (Value × SourceMap) := do
  let chars ← decodeFile contents
  let value ← loadText chars
  let map ← (Yaml.sourceMap chars).mapError .fault
  .ok (value, map)

/-- The value and the source map of a file, with the records of reading it. -/
def load (disk : Disk) (path : String) : List Record × Except DataFailure (Value × SourceMap) :=
  let path := FilePath.normalize path
  match disk.find? path with
  | none =>
    ([], .error (if disk.isOverlong path then .fault .nameTooLong else .data (.notFound path)))
  | some (_, contents) =>
    ([loadingRecord path],
      match parse contents with
      | .ok loaded => .ok loaded
      | .error (.text error) => .error (.data (.unreadable path error))
      | .error (.fault fault) => .error (.fault fault))

end DataFile

end Conform
