import Conform.FilePath
import Conform.SourceMap
import Conform.Violation

/-!
# Reports on files

The errors found in one file: a message each, and of those that come from violations the kind and
the location.
-/

namespace Conform

structure Finding where
  message : String
  kind : Option String
  pointer : Option String
  line : Option Int
  column : Option Int

namespace Finding

/-- An error at a location, if one is given. -/
def at? (message : String) (location : Option Location) (kind : Option String) : Finding where
  message
  kind
  pointer := location.bind Location.pointer
  line := location.bind Location.line
  column := location.bind Location.column

/-- A violation, located by the source map of its file. -/
def ofViolation (map : SourceMap) (file : String) (v : Violation) : Finding :=
  .at? v.line (some (map.locate v.pointer (some file))) (some v.kind.name)

def entry (name : String) (value : Option Value) : List (Value × Value) :=
  (value.map fun v => (.str name, v)).toList

def toValue (finding : Finding) : Value :=
  .map ((.str "message", .str finding.message) ::
    (entry "kind" (finding.kind.map .str) ++ entry "path" (finding.pointer.map .str) ++
      entry "line" (finding.line.map .int) ++ entry "column" (finding.column.map .int)))

end Finding

structure FileReport where
  file : String
  errors : List Finding

namespace FileReport

/-- A report without errors. -/
def ofFile (path : String) : FileReport := ⟨FilePath.normalize path, []⟩

/-- Whether there are no errors. -/
def ok (report : FileReport) : Bool := report.errors.isEmpty

def add (report : FileReport) (finding : Finding) : FileReport :=
  { report with errors := report.errors ++ [finding] }

def addViolations (report : FileReport) (violations : List Violation) (map : SourceMap) :
    FileReport :=
  { report with errors := report.errors ++ violations.map (Finding.ofViolation map report.file) }

def toValue (report : FileReport) : Value :=
  .map [(.str "file", .str report.file), (.str "ok", .bool report.ok),
    (.str "errors", .list (report.errors.map Finding.toValue))]

end FileReport

end Conform
