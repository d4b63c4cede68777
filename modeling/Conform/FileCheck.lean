import Conform.DataFile
import Conform.FileReport
import Conform.Validator

/-!
# Checking files

Each file is loaded and its value checked. A file that has no value is an error in its report; only
a fault ends the check of several files early, and it is one too if the pointer of a violation has
no text. The records of the files that were checked before stay.
-/

namespace Conform

namespace FileReport

/-- The report on a file that could not be loaded. -/
def unloadable (path : String) (error : DataError) : FileReport :=
  (ofFile path).add (.at? error.message none none)

/-- The record of a finished check. -/
def record (report : FileReport) : Record :=
  ⟨Severity.debug, "structcheck.cli.run_check",
    report.file ++ ": " ++ toString report.errors.length ++ " error(s)"⟩

end FileReport

namespace Validator

/-- The report on the outcome of loading a file. -/
def report (validator : Validator) (path : String) :
    Except DataFailure (Value × SourceMap) → Except Fault FileReport
  | .ok (value, map) => do
    let violations ← validator.errors value
    if violations.all Violation.hasText then
      .ok ((FileReport.ofFile path).addViolations violations map)
    else .error .badValue
  | .error (.data error) => .ok (.unloadable path error)
  | .error (.fault fault) => .error fault

/-- The report on a file, with the records of checking it. -/
def checkFile (validator : Validator) (disk : Disk) (path : String) :
    List Record × Except Fault FileReport :=
  let (records, loaded) := DataFile.load disk path
  match validator.report path loaded with
  | .ok report => (records ++ [report.record], .ok report)
  | .error fault => (records, .error fault)

/-- The reports on some files, in order. -/
def checkFiles (validator : Validator) (disk : Disk) :
    List String → List Record × Except Fault (List FileReport)
  | [] => ([], .ok [])
  | path :: rest =>
    match validator.checkFile disk path with
    | (records, .error fault) => (records, .error fault)
    | (records, .ok report) =>
      let (others, reports) := validator.checkFiles disk rest
      (records ++ others, reports.map (report :: ·))

end Validator

end Conform
