import Conform.CommandLine.Summary
import Conform.Document.Loader
import Conform.FileCheck
import Conform.Settings

/-!
# Runs of the command line

A run loads a schema document, checks files against it and prints a summary. What it writes and how
it ends depends on the settings, the files and the words of the command line alone. The exit code is
two if there is no schema to check against; otherwise the summary gives it.
-/

namespace Conform.CommandLine

/-- How a run ends. -/
inductive Ending where
  | exit (code : Nat)
  /-- The words asked for no run. -/
  | declined (code : Nat)
  | broken (fault : Fault)
deriving DecidableEq

/-- What a run wrote, and how it ended. -/
structure Outcome where
  written : Written
  ending : Ending

/-- Why there is no schema to check against. -/
inductive SchemaProblem where
  | message (text : String)
  | fault (fault : Fault)

namespace SchemaProblem

def ofDocument : DocumentFailure → SchemaProblem
  | .document error => .message error.message
  | .schema error => .message error.message
  | .fault reason => .fault reason

def ofSchema : SchemaFailure → SchemaProblem
  | .schema error => .message error.message
  | .fault reason => .fault reason

def record (text : String) : Record := ⟨Severity.error, "structcheck.cli.run_check", text⟩

end SchemaProblem

/-- The document that a path stands for and its validator, with the records of making them. -/
def prepare (caching : Bool) (disk : Disk) (path : String) :
    List Record × Except SchemaProblem (Document × Validator) :=
  match (Loader.load disk caching path).run.run {} with
  | (.error failure, loader) => (loader.records, .error (.ofDocument failure))
  | (.ok loaded, loader) =>
    match Validator.ofSchema loaded.document.schema .standard with
    | .error failure => (loader.records, .error (.ofSchema failure))
    | .ok validator => (loader.records ++ [validator.record], .ok (loaded.document, validator))

/-- The words that stop a run write a text. -/
def Stop.outcome : Stop → Outcome
  | .help => ⟨Written.add {} .output helpText, .declined 0⟩
  | .usage error => ⟨Written.add {} .error (usageText error), .declined 2⟩

/-- The settings that a run uses. -/
def effective (settings : Settings) (options : Options) : Settings :=
  if options.verbose then { settings with logLevel := "DEBUG" } else settings

/-- The run that some options ask for. -/
def runOptions (settings : Settings) (disk : Disk) (options : Options) : Outcome :=
  let routing := Routing.ofSettings (effective settings options)
  let (preparation, prepared) := prepare settings.caching disk options.schema
  let written := routing.writeAll {} preparation
  match prepared with
  | .error (.fault fault) => ⟨written, .broken fault⟩
  | .error (.message text) => ⟨routing.write written (SchemaProblem.record text), .exit 2⟩
  | .ok (document, validator) =>
    let (records, checked) := validator.checkFiles disk options.paths
    let written := routing.writeAll written records
    match checked with
    | .error fault => ⟨written, .broken fault⟩
    | .ok reports =>
      let summary : Summary := ⟨options.schema, document.warnings, reports⟩
      ⟨written.add .output (summary.text options.layout),
        .exit (summary.exitCode options.strictExit)⟩

/-- The run that the words of a command line ask for. -/
def run (settings : Settings) (disk : Disk) (words : List String) : Outcome :=
  match parse words with
  | .ok options => runOptions settings disk options
  | .error stop => stop.outcome

end Conform.CommandLine
