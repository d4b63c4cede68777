/-!
# Log records

What the library notes while it works: a severity, the channel of the part that speaks, and a
message. Severities are integers, of which some have names.
-/

namespace Conform

namespace Severity

def debug : Int := 10

def warning : Int := 30

def error : Int := 40

/-- The names of severities; where a severity has two, the first one is printed. -/
def names : List (Int × String) :=
  [(50, "CRITICAL"), (50, "FATAL"), (40, "ERROR"), (30, "WARNING"), (30, "WARN"), (20, "INFO"),
   (10, "DEBUG"), (0, "NOTSET")]

def name (severity : Int) : String :=
  match names.lookup severity with
  | some name => name
  | none => "Level " ++ toString severity

def ofName? (name : String) : Option Int := (names.find? fun entry => entry.2 = name).map (·.1)

end Severity

structure Record where
  severity : Int
  channel : String
  message : String
deriving DecidableEq

/-- The line of a record in a log. -/
def Record.line (record : Record) : String :=
  record.channel ++ " - " ++ Severity.name record.severity ++ " - " ++ record.message

end Conform
