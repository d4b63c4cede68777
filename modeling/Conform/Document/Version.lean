import Conform.Disk
import Conform.Fault
import Conform.Unicode.Blank
import Conform.Unicode.Digit
import Conform.Value.Display
import Conform.Value.Writable

/-!
# Versions of the document format

A document declares the version of the format it is written in, three numbers between full stops
that may be announced by a `v`. The major number must be the supported one, a newer minor number
calls for a warning, and the patch level does not matter. Every supported version is checked against
one of the bundled grammars: the one of the very version if there is one, otherwise the newest with
the same major number. A version is looked up by its text, as the name of a directory, so one whose
text is too long for a name cannot be looked up. Numbers have as many digits as are read and
written.
-/

namespace Conform

structure Version where
  major : Nat
  minor : Nat
  patch : Nat
deriving DecidableEq

namespace Version

def text (version : Version) : String :=
  toString version.major ++ "." ++ toString version.minor ++ "." ++ toString version.patch

/-- Whether all numbers of a version can be written. -/
def hasText (version : Version) : Bool :=
  isWritable version.major && isWritable version.minor && isWritable version.patch

/-- The text of a version, if it has one. -/
def format (version : Version) : Except Fault String :=
  if version.hasText then .ok version.text else .error .badValue

end Version

inductive VersionError where
  | notText (value : Value)
  | malformed (text : String)
  | incompatible (declared : Version)
  | noGrammar (declared resolved : String)

/-- Whether an error has a message: it shows nothing without a text. -/
def VersionError.hasText : VersionError → Bool
  | .notText value => value.hasText
  | .incompatible declared => declared.hasText
  | _ => true

/-- Why there is no version, or no grammar for one. -/
inductive VersionFailure where
  | version (error : VersionError)
  | fault (fault : Fault)

/-- The failure with an error. The message is written right away, which is a fault of its own if it
cannot be. -/
def VersionFailure.raise (error : VersionError) : VersionFailure :=
  if error.hasText then .version error else .fault .badValue

namespace Version

/-- The version that this library supports. -/
def supported : Version := ⟨0, 1, 0⟩

/-- The number that one or more decimal digits of any script write. -/
def number? (digits : List Char) : Option Nat :=
  if digits.isEmpty then none
  else digits.foldlM (fun sum c => do
    let d ← Unicode.digitValue? c.toNat
    some (sum * 10 + d)) 0

/-- What stands between the full stops of a version, which may be announced by a `v`. -/
def numerals (s : List Char) : List (List Char) :=
  let announced :=
    match Unicode.trimBlanks s with
    | 'v' :: rest => rest
    | s => s
  Text.fields '.' announced

def ofChars? (s : List Char) : Option Version := do
  match numerals s with
  | [major, minor, patch] => some ⟨← number? major, ← number? minor, ← number? patch⟩
  | _ => none

/-- The version that a text writes, with as many digits as are read. -/
def parse (text : String) : Except VersionFailure Version :=
  match ofChars? text.toList with
  | some version =>
    if (numerals text.toList).all fun digits => digits.length ≤ Numeral.digitLimit then .ok version
    else .error (.fault .badValue)
  | none => .error (.version (.malformed text))

/-- The version that a value gives. -/
def ofValue (value : Value) : Except VersionFailure Version :=
  match value with
  | .str text => parse text
  | _ => .error (.raise (.notText value))

/-- Whether one version comes before another. -/
def isBelow (a b : Version) : Bool :=
  a.major < b.major || (a.major = b.major &&
    (a.minor < b.minor || (a.minor = b.minor && a.patch < b.patch)))

/-- The newest of some versions. -/
def newest : List Version → Option Version
  | [] => none
  | version :: rest =>
    match newest rest with
    | some other => some (if version.isBelow other then other else version)
    | none => some version

/-- The entry of a document that declares its version. -/
def fieldName : String := "structcheck_format"

def missingWarning : String :=
  "Missing '" ++ fieldName ++ "' field. Consider adding '" ++ fieldName ++ ": " ++
    supported.text ++ "'."

def newerWarning (declared : Version) : String :=
  "Format version " ++ declared.text ++ " is newer than the supported " ++ supported.text ++
    "; some keywords may not be understood."

/-- Refuse a declared version that is malformed or incompatible; otherwise a warning, if there is
reason for one. -/
def gate (declared : Value) : Except VersionFailure (Option String) :=
  match declared with
  | .null => .ok (some missingWarning)
  | _ => do
    let version ← ofValue declared
    if version.major ≠ supported.major then .error (.raise (.incompatible version))
    else if supported.minor < version.minor then .ok (some (newerWarning version))
    else .ok none

end Version

/-! ## Bundled grammars -/

namespace Grammar

/-- The directory of the grammars, as messages give it. -/
def directory : String := "<pkg>/schema"

def fileName : String := "document.json"

/-- The versions whose grammars are bundled. -/
def bundled : List Version := [⟨0, 1, 0⟩]

/-- Where the grammar of a version is, as messages give it. -/
def path (version : String) : String :=
  FilePath.under (FilePath.under directory version) fileName

/-- The bundled files, seen from their directory. -/
def files : Disk where
  working := ["structcheck", "schema"]
  directories := []
  files := bundled.map fun version => (["structcheck", "schema", version.text, fileName], [])

/-- Whether a text leads, as part of a path, to a bundled grammar. -/
def isBundled (version : String) : Bool :=
  FilePath.root version.toList = "" && (files.find? (version ++ "/" ++ fileName)).isSome

/-- Whether a text cannot be looked up as part of a path. -/
def isOverlong (version : String) : Bool := files.isOverlong (version ++ "/" ++ fileName)

/-- The version whose grammar serves for a version; the version itself if there is none. -/
def resolve (version : String) : Except VersionFailure String :=
  if isOverlong version then .error (.fault .nameTooLong)
  else if isBundled version then .ok version
  else do
    let wanted ← Version.parse version
    match Version.newest (bundled.filter fun candidate => candidate.major = wanted.major) with
    | some candidate => .ok candidate.text
    | none => .ok version

/-- The version whose grammar serves for a version, if it is bundled. -/
def find (version : String) : Except VersionFailure String := do
  let resolved ← resolve version
  if isBundled resolved then .ok resolved
  else .error (.version (.noGrammar version resolved))

/-- The title of the bundled grammars. -/
def title : String := "structcheck schema document"

end Grammar

namespace VersionError

def message : VersionError → String
  | .notText value =>
    "Format version must be a string, got " ++ value.typeName ++ ": " ++ value.display
  | .malformed text =>
    "Invalid format version string: '" ++ text ++ "'. Expected 'MAJOR.MINOR.PATCH' (e.g. '" ++
      Version.supported.text ++ "')."
  | .incompatible declared =>
    "Incompatible format version: document declares " ++ declared.text ++
      " but this release reads major version " ++ toString Version.supported.major ++
      " (supported: " ++ Version.supported.text ++ ")."
  | .noGrammar declared resolved =>
    "No meta-schema for format version " ++ declared ++ " (resolved to " ++ resolved ++ "): " ++
      Grammar.path resolved

end VersionError

end Conform
