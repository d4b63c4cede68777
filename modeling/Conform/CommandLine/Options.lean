import Conform.Text.Quoted
import Conform.Unicode.Digit

/-!
# Options of the command line

The words of a command line are paths and options, in any order. An option may be shortened to the
start of its name, its value may follow it or be joined to it by an equals sign, and letters that
need no value may share a hyphen. After two hyphens all words are paths. The paths stand together:
those that are not next to each other are left over.
-/

namespace Conform.CommandLine

inductive Layout where
  | human
  | json
  | githubActions
deriving DecidableEq

namespace Layout

def name : Layout → String
  | .human => "human"
  | .json => "json"
  | .githubActions => "github-actions"

def all : List Layout := [.human, .json, .githubActions]

def ofName? (name : String) : Option Layout := all.find? fun layout => layout.name = name

end Layout

inductive Switch where
  | help
  | schema
  | format
  | strictExit
  | verbose
deriving DecidableEq

namespace Switch

def names : Switch → List String
  | .help => ["-h", "--help"]
  | .schema => ["--schema"]
  | .format => ["--format"]
  | .strictExit => ["--strict-exit"]
  | .verbose => ["-v", "--verbose"]

def all : List Switch := [.help, .schema, .format, .strictExit, .verbose]

/-- All names with what they stand for, in the order in which they are listed. -/
def table : List (String × Switch) :=
  all.flatMap fun switch => switch.names.map fun name => (name, switch)

/-- Whether a value comes with it. -/
def takesValue : Switch → Bool
  | .schema => true
  | .format => true
  | _ => false

/-- All its names, as messages mention it. -/
def label (switch : Switch) : String := String.intercalate "/" switch.names

end Switch

structure Options where
  schema : String
  paths : List String
  layout : Layout
  strictExit : Bool
  verbose : Bool

inductive UsageError where
  | missing (names : List String)
  | expectedValue (switch : Switch)
  | invalidChoice (value : String)
  | ignoredValue (switch : Switch) (value : String)
  | ambiguous (word : String) (names : List String)
  | leftOver (words : List String)

def UsageError.message : UsageError → String
  | .missing names => "the following arguments are required: " ++ String.intercalate ", " names
  | .expectedValue switch => "argument " ++ switch.label ++ ": expected one argument"
  | .invalidChoice value =>
    "argument " ++ Switch.format.label ++ ": invalid choice: " ++ Text.quoted value ++
      " (choose from " ++
      String.intercalate ", " (Layout.all.map fun layout => Text.quoted layout.name) ++ ")"
  | .ignoredValue switch value =>
    "argument " ++ switch.label ++ ": ignored explicit argument " ++ Text.quoted value
  | .ambiguous word names =>
    "ambiguous option: " ++ word ++ " could match " ++ String.intercalate ", " names
  | .leftOver words => "unrecognized arguments: " ++ String.intercalate " " words

/-- Why the words of a command line ask for no run. -/
inductive Stop where
  | help
  | usage (error : UsageError)

/-! ## Words -/

/-- A value joined to the name of an option, after an equals sign or directly. -/
structure Joined where
  afterSign : Bool
  value : String

inductive Word where
  | text (word : String)
  /-- Two hyphens, after which there are no options. -/
  | separator
  | named (name : String) (switch : Switch) (joined : Option Joined)
  | unknown (word : String)

def hasDigits (s : List Char) : Bool := !s.isEmpty && s.all fun c => Unicode.isDigitCode c.toNat

/-- A hyphen and a decimal number. One line break at the end does not count. -/
def isNegativeNumber (s : List Char) : Bool :=
  let s := if s.getLast? = some '\n' then s.dropLast else s
  match s with
  | '-' :: magnitude =>
    hasDigits magnitude ||
      (match magnitude.dropWhile fun c => Unicode.isDigitCode c.toNat with
       | '.' :: fraction => hasDigits fraction
       | _ => false)
  | _ => false

def startsWith (start word : String) : Bool := start.toList.isPrefixOf word.toList

/-- A word cut at its first equals sign. -/
def cutAtSign (word : String) : String × Option Joined :=
  let chars := word.toList
  match chars.dropWhile (· != '=') with
  | '=' :: value =>
    (String.ofList (chars.takeWhile (· != '=')), some ⟨true, String.ofList value⟩)
  | _ => (word, none)

/-- The options that a word which is no full name may stand for. -/
def candidates (word : String) : List (String × Switch × Option Joined) :=
  match word.toList with
  | '-' :: '-' :: _ =>
    let (start, joined) := cutAtSign word
    (Switch.table.filter fun entry => startsWith start entry.1).map fun (name, switch) =>
      (name, switch, joined)
  | hyphen :: letter :: value =>
    let short := String.ofList [hyphen, letter]
    Switch.table.filterMap fun (name, switch) =>
      if name = short then some (name, switch, some ⟨false, String.ofList value⟩)
      else if startsWith word name then some (name, switch, none)
      else none
  | _ => []

/-- A word that is none of the full names. -/
def shortened (word : String) : Except UsageError Word :=
  match candidates word with
  | [(name, switch, joined)] => .ok (.named name switch joined)
  | [] =>
    if isNegativeNumber word.toList || word.toList.contains ' ' then .ok (.text word)
    else .ok (.unknown word)
  | several => .error (.ambiguous word (several.map (·.1)))

/-- What a word before any separator is. -/
def classify (word : String) : Except UsageError Word :=
  match word.toList with
  | '-' :: _ :: _ =>
    match Switch.table.lookup word with
    | some switch => .ok (.named word switch none)
    | none =>
      match cutAtSign word with
      | (name, some joined) =>
        match Switch.table.lookup name with
        | some switch => .ok (.named name switch (some joined))
        | none => shortened word
      | _ => shortened word
  | _ => .ok (.text word)

def classifyAll : List String → Except UsageError (List Word)
  | [] => .ok []
  | word :: rest =>
    if word = "--" then .ok (.separator :: rest.map .text)
    else do
      let first ← classify word
      let others ← classifyAll rest
      .ok (first :: others)

def Word.isText : Word → Bool
  | .text _ => true
  | _ => false

/-- The word as it was written, if it is no option. -/
def Word.written : Word → String
  | .text word => word
  | .separator => "--"
  | .named name _ _ => name
  | .unknown word => word

/-! ## Reading -/

/-- What has been read so far. -/
structure Found where
  schema : Option String := none
  paths : Option (List String) := none
  layout : Layout := .human
  strictExit : Bool := false
  verbose : Bool := false
  leftOver : List String := []

/-- The effect of an option, with its value if it takes one. -/
def Found.apply (found : Found) (switch : Switch) (value : String) : Except Stop Found :=
  match switch with
  | .help => .error .help
  | .schema => .ok { found with schema := some value }
  | .format =>
    match Layout.ofName? value with
    | some layout => .ok { found with layout }
    | none => .error (.usage (.invalidChoice value))
  | .strictExit => .ok { found with strictExit := true }
  | .verbose => .ok { found with verbose := true }

def Found.applyAll (found : Found) (switches : List Switch) : Except Stop Found :=
  switches.foldlM (fun found switch => found.apply switch "") found

/-- Letters joined to a letter that takes no value: each is an option of its own, up to one that is
not known. -/
def letters (found : Found) (switches : List Switch) (switch : Switch) (afterSign : Bool) :
    List Char → Except Stop Found
  | [] => .error (.usage (.ignoredValue switch ""))
  | letter :: rest =>
    if afterSign || letter = '-' then
      .error (.usage (.ignoredValue switch (String.ofList (letter :: rest))))
    else
      let switches := switches ++ [switch]
      match Switch.table.lookup (String.ofList ['-', letter]) with
      | none =>
        let unknown := String.ofList ('-' :: letter :: rest)
        { found with leftOver := found.leftOver ++ [unknown] }.applyAll switches
      | some next =>
        match rest with
        | [] => found.applyAll (switches ++ [next])
        | '=' :: value => .error (.usage (.ignoredValue next (String.ofList value)))
        | rest => letters found switches next false rest

/-- Take words that are no options: as the paths, if there are none yet. -/
def Found.take (found : Found) (words : List Word) : Found :=
  if found.paths.isNone && words.any Word.isText then
    let written := words.map Word.written
    { found with paths := some (written.erase "--") }
  else { found with leftOver := found.leftOver ++ words.map Word.written }

/-- Go through the words; `texts` are those since the last option. -/
def readFrom (found : Found) (texts : List Word) : List Word → Except Stop Found
  | [] => .ok (if texts.isEmpty then found else found.take texts)
  | .unknown word :: rest =>
    let found := if texts.isEmpty then found else found.take texts
    readFrom { found with leftOver := found.leftOver ++ [word] } [] rest
  | .named name switch joined :: rest =>
    let found := if texts.isEmpty then found else found.take texts
    match joined with
    | some joined =>
      if switch.takesValue then do
        let found ← found.apply switch joined.value
        readFrom found [] rest
      else if startsWith "--" name then
        .error (.usage (.ignoredValue switch joined.value))
      else do
        let found ← letters found [] switch joined.afterSign joined.value.toList
        readFrom found [] rest
    | none =>
      if switch.takesValue then
        match rest with
        | .text value :: rest => do
          let found ← found.apply switch value
          readFrom found [] rest
        | _ => .error (.usage (.expectedValue switch))
      else do
        let found ← found.apply switch ""
        readFrom found [] rest
  | word :: rest => readFrom found (texts ++ [word]) rest

/-- The options that must be there but are not. -/
def Found.missing (found : Found) : List String :=
  (if found.schema.isNone then [Switch.schema.label] else []) ++
    (if found.paths.isNone then ["paths"] else [])

def Found.finish (found : Found) : Except Stop Options :=
  match found.schema, found.paths with
  | some schema, some paths =>
    if found.leftOver.isEmpty then
      .ok ⟨schema, paths, found.layout, found.strictExit, found.verbose⟩
    else .error (.usage (.leftOver found.leftOver))
  | _, _ => .error (.usage (.missing found.missing))

/-- The options of a command line. -/
def parse (words : List String) : Except Stop Options := do
  let words ← (classifyAll words).mapError .usage
  let found ← readFrom {} [] words
  found.finish

/-! ## Texts -/

def usage : String :=
  "usage: structcheck [-h] --schema SCHEMA [--format \x7bhuman,json,github-actions\x7d]\n" ++
  "                   [--strict-exit] [-v]\n" ++
  "                   paths [paths ...]\n"

def helpText : String :=
  usage ++
  "\n" ++
  "Validate YAML/JSON data files against a structcheck schema document\n" ++
  "\n" ++
  "positional arguments:\n" ++
  "  paths                 Data files to check\n" ++
  "\n" ++
  "options:\n" ++
  "  -h, --help            show this help message and exit\n" ++
  "  --schema SCHEMA       Schema document (YAML or JSON)\n" ++
  "  --format \x7bhuman,json,github-actions\x7d\n" ++
  "                        Output format (default: human)\n" ++
  "  --strict-exit         Exit with 1 when the schema document has warnings,\n" ++
  "                        even if every file conforms\n" ++
  "  -v, --verbose         Enable debug logging\n"

def usageText (error : UsageError) : String :=
  usage ++ "structcheck: error: " ++ error.message ++ "\n"

end Conform.CommandLine
