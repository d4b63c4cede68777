import Conform.CommandLine.Options
import Conform.FileReport
import Conform.Value.Json

/-!
# Summaries

What a run has to say: the warnings of the schema document and the reports on the files, laid out
for people, as JSON, or as the commands of a continuous integration service.
-/

namespace Conform.CommandLine

structure Summary where
  /-- The path of the schema document, as it was given. -/
  schema : String
  warnings : List String
  reports : List FileReport

/-- Lines, each with its end. -/
def ofLines (lines : List String) : String := String.join (lines.map fun line => line ++ "\n")

namespace Summary

/-- The number of all errors. -/
def errorCount (summary : Summary) : Nat :=
  summary.reports.foldl (fun count report => count + report.errors.length) 0

/-! ## For people -/

def findingText (finding : Finding) : String :=
  let line := (finding.line.map fun n => ":" ++ toString n).getD ""
  "  ERROR" ++ line ++ ": " ++ finding.message

def reportTexts (report : FileReport) : List String :=
  if report.ok then [report.file ++ ": OK"]
  else (report.file ++ ":") :: report.errors.map findingText

def humanLines (summary : Summary) : List String :=
  summary.warnings.map (fun warning => summary.schema ++ ": WARNING: " ++ warning) ++
    summary.reports.flatMap reportTexts

/-! ## As commands -/

/-- A finding without a line is put on the first one. -/
def findingCommand (file : String) (finding : Finding) : String :=
  "::error file=" ++ file ++ ",line=" ++ toString (finding.line.getD 1) ++ "::" ++ finding.message

def commandLines (summary : Summary) : List String :=
  summary.warnings.map (fun warning => "::warning file=" ++ summary.schema ++ "::" ++ warning) ++
    summary.reports.flatMap fun report => report.errors.map (findingCommand report.file)

/-! ## As JSON -/

def toValue (summary : Summary) : Value :=
  .map [(.str "schema", .str summary.schema),
    (.str "files", .int summary.reports.length),
    (.str "errors", .int summary.errorCount),
    (.str "warnings", .list (summary.warnings.map .str)),
    (.str "results", .list (summary.reports.map FileReport.toValue))]

/-- Members stand on lines of their own, two blanks deeper than what they belong to. -/
def jsonLayout : JsonLayout := ⟨some 2, false⟩

def json (summary : Summary) : String := (summary.toValue.json? jsonLayout).getD ""

/-- What is printed of a summary. -/
def text (summary : Summary) : Layout → String
  | .human => ofLines summary.humanLines
  | .json => ofLines [summary.json]
  | .githubActions => ofLines summary.commandLines

/-- The exit code: one if a file has errors, or if warnings count and there are some. -/
def exitCode (summary : Summary) (strictExit : Bool) : Nat :=
  if !summary.reports.all FileReport.ok then 1
  else if strictExit && !summary.warnings.isEmpty then 1
  else 0

end Summary

end Conform.CommandLine
