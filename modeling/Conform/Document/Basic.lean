import Conform.Document.Grammar
import Conform.FileText
import Conform.Log

/-!
# Schema documents

A document is a mapping with a schema node and, beside it, the version of the format, a title and a
description. It is read in three steps: the version passes the gate, the grammar finds no problems,
and the node is read as a schema. The source is the name under which messages mention the document.
-/

namespace Conform

structure Document where
  schema : Schema
  source : String
  formatVersion : Option String
  title : Option String
  description : Option String
  warnings : List String

inductive DocumentError where
  | notFound (path : String)
  | unreadable (path : String) (error : TextError)
  | notMapping (source : String)
  | version (error : VersionError) (source : String)
  | noGrammar (error : VersionError)
  /-- The document breaks the grammar; there is at least one problem. -/
  | invalid (source : String) (problems : List Problem)
  | node (error : NodeError)

def DocumentError.message : DocumentError → String
  | .notFound path => "Schema document not found: " ++ path
  | .unreadable path (.notUtf8 error) =>
    "Cannot read schema document " ++ path ++ ": " ++ error.message
  | .unreadable path .malformed =>
    "Invalid YAML in schema document " ++ path ++ ": " ++ TextError.malformed.message
  | .notMapping source => "Schema document root must be a mapping: " ++ source
  | .version error source => error.message ++ " (" ++ source ++ ")"
  | .noGrammar error => error.message
  | .invalid source problems =>
    "Invalid schema document " ++ source ++ ":\n" ++
      String.intercalate "\n" (problems.map Problem.line)
  | .node error => error.message

/-- Why a value, or a file, is no document. -/
inductive DocumentFailure where
  | document (error : DocumentError)
  | schema (error : SchemaError)
  | fault (fault : Fault)

namespace DocumentFailure

def ofText (path : String) : TextFailure → DocumentFailure
  | .text error => .document (.unreadable path error)
  | .fault reason => .fault reason

/-- The failure of a lookup. -/
def ofGrammar : VersionFailure → DocumentFailure
  | .version error => .document (.noGrammar error)
  | .fault reason => .fault reason

def ofRead : ReadFailure → DocumentFailure
  | .node error => .document (.node error)
  | .schema error => .schema error
  | .fault reason => .fault reason

end DocumentFailure

namespace Document

/-- What a document says of its format: the version in normal form, and a warning if there is reason
for one. -/
structure Header where
  formatVersion : Option String
  warning : Option String

/-- The normal form of a declared version. -/
def normalVersion (declared : Value) : Except VersionFailure (Option String) :=
  match declared with
  | .null => .ok none
  | _ => do
    let version ← Version.ofValue declared
    let text ← version.format.mapError .fault
    .ok (some text)

/-- The header of a value, which must be a mapping, with its entries. -/
def header (v : Value) (source : String) :
    Except DocumentFailure (Header × List (Value × Value)) :=
  match v with
  | .map entries =>
    let declared := Schema.getD entries Version.fieldName
    let outcome := do
      let warning ← Version.gate declared
      let formatVersion ← normalVersion declared
      .ok (⟨formatVersion, warning⟩ : Header)
    match outcome with
    | .ok header => .ok (header, entries)
    | .error (.version error) => .error (.document (.version error source))
    | .error (.fault reason) => .error (.fault reason)
  | _ => .error (.document (.notMapping source))

/-- The version whose grammar a document is checked against. -/
def grammarVersion (header : Header) : Except DocumentFailure String :=
  (Grammar.find (header.formatVersion.getD Version.supported.text)).mapError
    DocumentFailure.ofGrammar

def text? (entries : List (Value × Value)) (keyword : String) : Option String :=
  match Schema.get? entries keyword with
  | some (.str s) => some s
  | _ => none

/-- The document with a given header. -/
def ofEntries (header : Header) (entries : List (Value × Value)) (source : String) :
    Except DocumentFailure Document := do
  let problems ← (Grammar.problems entries).mapError .fault
  if !problems.isEmpty then .error (.document (.invalid source problems))
  else do
    let schema ←
      (Schema.read (Schema.getD entries "schema") "/schema").mapError DocumentFailure.ofRead
    .ok {
      schema, source
      formatVersion := header.formatVersion
      title := text? entries "title"
      description := text? entries "description"
      warnings := header.warning.toList }

/-- The document that a value is. -/
def parse (v : Value) (source : String) : Except DocumentFailure Document := do
  let (header, entries) ← header v source
  let _ ← grammarVersion header
  ofEntries header entries source

/-! ## Records -/

def channel : String := "structcheck.models.schema_loader"

def warningRecord (warning source : String) : Record :=
  ⟨Severity.warning, channel, warning ++ " (" ++ source ++ ")"⟩

def loadingRecord (path : String) : Record :=
  ⟨Severity.debug, channel, "Loading schema document: " ++ path⟩

def cachedRecord (path : String) : Record :=
  ⟨Severity.debug, channel, "Loading schema document from cache: " ++ path⟩

def grammarRecord (resolved : String) : Record :=
  ⟨Severity.debug, channel,
    "Loaded meta-schema " ++ resolved ++ " from " ++ Grammar.path resolved⟩

end Document

end Conform
