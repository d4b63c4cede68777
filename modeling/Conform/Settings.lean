import Conform.Log
import Conform.Unicode.Case

/-!
# Settings

How much is logged and where, and whether documents are kept. Levels are given by name, in any case;
a name that is not known counts as a warning. Of the records that are logged, those below the level
of printing go to standard output and the others to standard error.
-/

namespace Conform

structure Settings where
  logLevel : String := "WARNING"
  printLevel : String := "WARNING"
  caching : Bool := true

/-- The two streams that a program writes to. -/
inductive Channel where
  | output
  | error
deriving DecidableEq

/-- What was written to each of the streams. -/
structure Written where
  output : String := ""
  error : String := ""

namespace Written

def add (written : Written) (channel : Channel) (text : String) : Written :=
  match channel with
  | .output => { written with output := written.output ++ text }
  | .error => { written with error := written.error ++ text }

end Written

/-- Text with each letter replaced by its small or its capital one. -/
def mapCodes (f : Nat → Nat) (s : String) : String :=
  String.ofList (s.toList.map fun c => Char.ofNat (f c.toNat))

namespace Settings

def logLevelVariable : String := "STRUCTCHECK_LOG_LEVEL"

def printLevelVariable : String := "STRUCTCHECK_PRINT_LEVEL"

def cachingVariable : String := "STRUCTCHECK_CACHE_ENABLED"

/-- The variables of the environment that give settings. -/
def variableNames : List String := [logLevelVariable, printLevelVariable, cachingVariable]

/-- The settings that an environment gives, if it gives any. -/
def ofEnvironment (get : String → Option String) : Settings where
  logLevel := (get logLevelVariable).getD "WARNING"
  printLevel := (get printLevelVariable).getD "WARNING"
  caching := mapCodes Unicode.lowerCode ((get cachingVariable).getD "true") = "true"

/-- The severity of a level. -/
def severity (level : String) : Int :=
  (Severity.ofName? (mapCodes Unicode.upperCode level)).getD Severity.warning

end Settings

/-- Which records are logged, and which of them go to standard error. -/
structure Routing where
  /-- The severity that the settings ask for. -/
  level : Int
  /-- The least severity of what goes to standard error. -/
  errorLevel : Int

namespace Routing

/-- The name of the logger that the routing is for. Channels below it have its name and a full stop
before their own. -/
def logger : String := "structcheck"

def ofSettings (settings : Settings) : Routing where
  level := Settings.severity settings.logLevel
  errorLevel := max (Settings.severity settings.printLevel) Severity.debug

/-- The least severity of what is logged; a level of zero leaves it to the usual one. -/
def threshold (routing : Routing) : Int :=
  if routing.level = 0 then Severity.warning else routing.level

def isBelowLogger (channel : String) : Bool :=
  channel = logger || (logger ++ ".").toList.isPrefixOf channel.toList

/-- Where a record goes, if it is logged, and its text. Warnings of other loggers go to standard
error by their message alone. -/
def route (routing : Routing) (record : Record) : Option (Channel × String) :=
  if isBelowLogger record.channel then
    if record.severity < routing.threshold then none
    else if record.severity < routing.errorLevel then some (.output, record.line)
    else some (.error, record.line)
  else if record.severity < Severity.warning then none
  else some (.error, record.message)

/-- Write a record, if it is logged. -/
def write (routing : Routing) (written : Written) (record : Record) : Written :=
  match routing.route record with
  | some (channel, line) => written.add channel (line ++ "\n")
  | none => written

/-- What is written for some records. -/
def writeAll (routing : Routing) (written : Written) (records : List Record) : Written :=
  records.foldl routing.write written

end Routing

end Conform
