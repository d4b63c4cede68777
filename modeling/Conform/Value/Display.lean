import Conform.Text.Quoted
import Conform.Value.Basic

/-!
# Values in messages

`Value.display` shows a value so that its type can be told from the text: strings in quotes, lists
in brackets, dates by their constructor. `Value.text` is the plain text of a value: a string itself,
a date as in a calendar, all else as it is displayed. Both write an integer in full: whoever shows a
value asks first whether it may be written (`Value.hasText`).
-/

namespace Conform

def Binary64.display (x : Binary64) : String := x.text ⟨"nan", "inf"⟩

/-- The display of an offset from universal time in minutes, as whole days and seconds. -/
def DateTime.displayOffset (minutes : Int) : String :=
  if minutes = 0 then "datetime.timezone.utc"
  else
    let days := if minutes < 0 then "days=-1, " else ""
    let seconds := (if minutes < 0 then minutes + 1440 else minutes) * 60
    "datetime.timezone(datetime.timedelta(" ++ days ++ "seconds=" ++ toString seconds ++ "))"

def Date.display (d : Date) : String :=
  "datetime.date(" ++ String.intercalate ", " [toString d.year, toString d.month, toString d.day] ++
    ")"

/-- Zero microseconds at the end are left out, and before them zero seconds. -/
def DateTime.display (t : DateTime) : String :=
  let clock :=
    if t.micro != 0 then [t.hour, t.minute, t.second, t.micro]
    else if t.second != 0 then [t.hour, t.minute, t.second]
    else [t.hour, t.minute]
  let parts := [t.date.year, t.date.month, t.date.day] ++ clock
  let zone := (t.offset.map fun minutes => ", tzinfo=" ++ displayOffset minutes).getD ""
  "datetime.datetime(" ++ String.intercalate ", " (parts.map toString) ++ zone ++ ")"

namespace Value

mutual

def display : Value → String
  | .null => "None"
  | .bool b => if b then "True" else "False"
  | .int n => toString n
  | .float x => x.display
  | .str s => Text.quoted s
  | .bytes data => Text.quotedBytes data
  | .date d => d.display
  | .datetime t => t.display
  | .list items => "[" ++ String.intercalate ", " (displays items) ++ "]"
  | .tuple [v] => "(" ++ display v ++ ",)"
  | .tuple items => "(" ++ String.intercalate ", " (displays items) ++ ")"
  | .map entries => "\x7b" ++ String.intercalate ", " (displayEntries entries) ++ "\x7d"
  | .set [] => "set()"
  | .set elements => "\x7b" ++ String.intercalate ", " (displays elements) ++ "\x7d"

def displays : List Value → List String
  | [] => []
  | v :: rest => display v :: displays rest

def displayEntries : List (Value × Value) → List String
  | [] => []
  | (k, v) :: rest => (display k ++ ": " ++ display v) :: displayEntries rest

end

/-- The plain text of a value. -/
def text : Value → String
  | .str s => s
  | .date d => d.text
  | .datetime t => t.text " "
  | v => v.display

end Value

end Conform
