import Conform.Document.Problem
import Conform.Document.Version
import Conform.Format.Standard
import Conform.Schema.Read
import Conform.Value.Order

/-!
# The grammar of documents

A document has a schema node, and may have a version, a title and a description. A node is a mapping
of known keywords with exactly one of `type`, `const`, `enum` and `anyOf`, and each keyword has its
shape even where the kind of node makes no use of it. `Grammar.problems` lists all that is wrong, in
the order of paths.

Below a node the problems come keyword by keyword, in the order in which the grammar lists them. The
messages are written as the problems are found, and in the end each node is shown, so a node without
a text is a fault even if there is nothing wrong with it.
-/

namespace Conform.Grammar

/-- The entries under which other nodes stand are read where they are found, as `Schema.read` does.
-/
abbrev Entries := List (Value × Value)

def typeNames : List String := ["string", "number", "boolean", "null", "array", "object"]

/-- The keywords of a node, in the grammar's order. -/
def nodeKeywords : List String :=
  ["type", "title", "description", "const", "enum", "anyOf", "minLength", "maxLength", "pattern",
   "format", "minimum", "maximum", "items", "minItems", "maxItems", "properties", "required",
   "additionalProperties"]

/-- The entries of a document, in the grammar's order. -/
def documentKeywords : List String := [Version.fieldName, "title", "description", "schema"]

/-! ## Shapes of keywords -/

def defectUnless (holds : Bool) (defect : Defect) : List Defect := if holds then [] else [defect]

def textDefects (v : Value) : List Defect := defectUnless v.isString (.wrongType v "string")

/-- Integers, and doubles without a fractional part. -/
def isIntegral : Value → Bool
  | .int _ => true
  | .float x => x.toInt?.isSome
  | _ => false

/-- Integers and all doubles; a boolean is not a number. -/
def isNumeric : Value → Bool
  | .int _ => true
  | .float _ => true
  | _ => false

def countDefects (v : Value) : List Defect :=
  defectUnless (isIntegral v) (.wrongType v "integer") ++
    defectUnless (!(isNumeric v && v.isBelow (.int 0))) (.belowZero v)

def boundDefects (v : Value) : List Defect := defectUnless (isNumeric v) (.wrongType v "number")

def typeDefects (v : Value) : List Defect :=
  defectUnless ((typeNames.map Value.str).any fun name => name.same v) (.notAmong v typeNames)

def enumDefects (v : Value) : List Defect :=
  match v with
  | .list [] => [.tooFew v]
  | .list _ => []
  | _ => [.wrongType v "array"]

def booleanDefects (v : Value) : List Defect :=
  defectUnless v.isBoolean (.wrongType v "boolean")

/-- A text that is no pattern is a defect; of some texts that cannot be told. -/
def patternDefects (v : Value) : Except Fault (List Defect) :=
  match v with
  | .str s => do
    let valid ← Format.isPattern s
    .ok (defectUnless valid (.notPattern v))
  | _ => .ok (textDefects v)

/-- Whether no value equals the next one. -/
def adjacentDiffer : List Value → Bool
  | [] => true
  | [_] => true
  | v :: w :: rest => !v.deepEqual w && adjacentDiffer (w :: rest)

def allDiffer : List Value → Bool
  | [] => true
  | v :: rest => rest.all (fun w => !v.deepEqual w) && allDiffer rest

/-- Whether values differ from each other: neighbours after sorting, or all where there is no order.
Booleans have no order here. -/
def areUnique (items : List Value) : Bool :=
  if items.any Value.isBoolean || !Value.areComparable items then allDiffer items
  else adjacentDiffer (items.mergeSort fun v w => Value.precedes? w v != some true)

/-! ## Problems at paths -/

def located (path : Pointer.Path) (defects : List Defect) : List Problem := defects.map (⟨path, ·⟩)

/-- Problems, if their messages can be written. -/
def written (problems : List Problem) : Except Fault (List Problem) :=
  if problems.all fun problem => problem.defect.hasText then .ok problems else .error .badValue

/-- The problems of one keyword's value, if the keyword is there. -/
def keywordProblems (entries : Entries) (keyword : String) (path : Pointer.Path)
    (defects : Value → List Defect) : List Problem :=
  match Schema.get? entries keyword with
  | some v => located (path ++ [.str keyword]) (defects v)
  | none => []

def patternProblems (entries : Entries) (path : Pointer.Path) : Except Fault (List Problem) :=
  match Schema.get? entries "pattern" with
  | some v => do
    let defects ← patternDefects v
    written (located (path ++ [.str "pattern"]) defects)
  | none => .ok []

def textItems (path : Pointer.Path) (index : Nat) : List Value → List Problem
  | [] => []
  | v :: rest => located (path ++ [.int index]) (textDefects v) ++ textItems path (index + 1) rest

/-- The problems of a list of required names. -/
def requiredProblems (entries : Entries) (path : Pointer.Path) : List Problem :=
  match Schema.get? entries "required" with
  | none => []
  | some v =>
    let path := path ++ [.str "required"]
    match v with
    | .list items =>
      textItems path 0 items ++ located path (defectUnless (areUnique items) (.repeated v))
    | _ => located path [.wrongType v "array"]

/-- Keys that are not among the known ones, in the order of their texts. -/
def unknownKeys (known : List String) (entries : Entries) : List Value :=
  let keys := (entries.map (·.1)).filter fun key => !key.isAmong (known.map Value.str)
  keys.mergeSort fun v w => !(w.text < v.text)

def unknownDefects (known : List String) (entries : Entries) : List Defect :=
  let keys := unknownKeys known entries
  defectUnless keys.isEmpty (.unexpected keys)

/-- A node has exactly one of the keywords that decide its kind. -/
def alternativeDefects (v : Value) (entries : Entries) : List Defect :=
  let present := ["type", "const", "enum", "anyOf"].filter fun keyword =>
    (Schema.get? entries keyword).isSome
  defectUnless (present.length = 1) (.noAlternative v)

mutual

/-- The problems of a value where a node is expected. -/
def nodeProblems (v : Value) (path : Pointer.Path) : Except Fault (List Problem) :=
  match v with
  | .map entries => do
    let keyword (name : String) (defects : Value → List Defect) : List Problem :=
      keywordProblems entries name path defects
    let kinds ← written (keyword "type" typeDefects ++ keyword "title" textDefects ++
      keyword "description" textDefects ++ keyword "enum" enumDefects)
    let options ← optionProblems entries (path ++ [.str "anyOf"])
    let lengths ← written (keyword "minLength" countDefects ++ keyword "maxLength" countDefects)
    let patterns ← patternProblems entries path
    let bounds ← written (keyword "format" textDefects ++ keyword "minimum" boundDefects ++
      keyword "maximum" boundDefects)
    let items ← itemProblems entries (path ++ [.str "items"])
    let counts ← written (keyword "minItems" countDefects ++ keyword "maxItems" countDefects)
    let properties ← propertyProblems entries (path ++ [.str "properties"])
    let names ← written (requiredProblems entries path ++
      keyword "additionalProperties" booleanDefects ++
      located path (unknownDefects nodeKeywords entries))
    v.requireText
    .ok (kinds ++ options ++ lengths ++ patterns ++ bounds ++ items ++ counts ++ properties ++
      names ++ located path (alternativeDefects v entries))
  | v => written (located path [.wrongType v "object", .noAlternative v])
termination_by structural v

def optionProblems (entries : List (Value × Value)) (path : Pointer.Path) :
    Except Fault (List Problem) :=
  match entries with
  | [] => .ok []
  | (key, v) :: rest =>
    if (Value.str "anyOf").same key then nodeListProblems v path else optionProblems rest path
termination_by structural entries

def nodeListProblems (v : Value) (path : Pointer.Path) : Except Fault (List Problem) :=
  match v with
  | .list items => nodesProblems items path 0
  | v => written (located path [.wrongType v "array"])
termination_by structural v

def nodesProblems (items : List Value) (path : Pointer.Path) (index : Nat) :
    Except Fault (List Problem) :=
  match items with
  | [] => .ok []
  | v :: rest => do
    let found ← nodeProblems v (path ++ [.int index])
    let others ← nodesProblems rest path (index + 1)
    .ok (found ++ others)
termination_by structural items

def itemProblems (entries : List (Value × Value)) (path : Pointer.Path) :
    Except Fault (List Problem) :=
  match entries with
  | [] => .ok []
  | (key, v) :: rest =>
    if (Value.str "items").same key then nodeProblems v path else itemProblems rest path
termination_by structural entries

def propertyProblems (entries : List (Value × Value)) (path : Pointer.Path) :
    Except Fault (List Problem) :=
  match entries with
  | [] => .ok []
  | (key, v) :: rest =>
    if (Value.str "properties").same key then nodeMapProblems v path else propertyProblems rest path
termination_by structural entries

def nodeMapProblems (v : Value) (path : Pointer.Path) : Except Fault (List Problem) :=
  match v with
  | .map properties => namedProblems properties path
  | v => written (located path [.wrongType v "object"])
termination_by structural v

def namedProblems (properties : List (Value × Value)) (path : Pointer.Path) :
    Except Fault (List Problem) :=
  match properties with
  | [] => .ok []
  | (name, v) :: rest => do
    let found ← nodeProblems v (path ++ [name])
    let others ← namedProblems rest path
    .ok (found ++ others)
termination_by structural properties

end

/-- The problems of the entries of a document. -/
def documentProblems (entries : Entries) : Except Fault (List Problem) := do
  let keyword (name : String) : List Problem := keywordProblems entries name [] textDefects
  let schema := Schema.get? entries "schema"
  let outer ← written (located [] (defectUnless schema.isSome (.missing "schema") ++
      unknownDefects documentKeywords entries) ++
    keyword Version.fieldName ++ keyword "title" ++ keyword "description")
  let node ←
    match schema with
    | some v => nodeProblems v [.str "schema"]
    | none => .ok []
  .ok (outer ++ node)

/-- All problems of a document, in the order of their paths. -/
def problems (entries : Entries) : Except Fault (List Problem) := do
  let found ← documentProblems entries
  .ok (Problem.sort found)

end Conform.Grammar
