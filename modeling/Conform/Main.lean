import Conform.CommandLine.Run

/-!
# The program

Takes the settings from the environment and the files that the words of the command line name, and
writes what the run writes.
-/

namespace Conform

/-- The contents of a file, if there is one that can be read. -/
def readFile? (path : String) : IO (Option (List UInt8)) := do
  try
    let contents ← IO.FS.readBinFile path
    return some contents.toList
  catch _ => return none

/-- The disk with the files that some paths stand for. -/
def readDisk (paths : List String) : IO Disk := do
  let working ← IO.currentDir
  let start : Disk := ⟨FilePath.names working.toString, [], []⟩
  paths.foldlM (fun disk path => do
    match ← readFile? path with
    | some contents => return disk.enter path contents
    | none => return disk) start

/-- The files that the words of a command line name. -/
def namedFiles (words : List String) : List String :=
  match CommandLine.parse words with
  | .ok options => (options.schema :: options.paths).map FilePath.normalize
  | .error _ => []

def readSettings : IO Settings := do
  let given ← Settings.variableNames.filterMapM fun name => do
    return (← IO.getEnv name).map fun value => (name, value)
  return .ofEnvironment fun name => given.lookup name

def exitCode : CommandLine.Ending → UInt32
  | .exit code => code.toUInt32
  | .declined code => code.toUInt32
  | .broken _ => 1

end Conform

def main (words : List String) : IO UInt32 := do
  let settings ← Conform.readSettings
  let disk ← Conform.readDisk (Conform.namedFiles words)
  let outcome := Conform.CommandLine.run settings disk words
  (← IO.getStdout).putStr outcome.written.output
  (← IO.getStderr).putStr outcome.written.error
  if let .broken _ := outcome.ending then
    (← IO.getStderr).putStrLn "structcheck: a file holds a value that cannot be made or checked"
  return Conform.exitCode outcome.ending
