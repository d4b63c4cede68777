import Conform.Pointer
import Conform.Schema.Build

/-!
# Schemas from JSON Schema

A mapping with the keywords of JSON Schema is read as a schema. One keyword decides the kind of
node, in the order `anyOf`, `const`, `enum`, `type`. An error says where it is, by the JSON pointer
of the node. Reading goes down the value itself: a keyword's value is looked for among the entries
and read where it is found.
-/

namespace Conform

inductive NodeError where
  | notMapping (place typeName : String)
  | missingItems (place : String)
  | undeclared (place : String) (names : List String)
  | unsupportedType (place : String) (type : Value)

def NodeError.message : NodeError → String
  | .notMapping place typeName =>
    "Schema node at '" ++ place ++ "' must be a mapping, got " ++ typeName
  | .missingItems place => "Array node at '" ++ place ++ "' requires 'items'"
  | .undeclared place names =>
    "Object node at '" ++ place ++ "' requires undeclared properties: " ++
      String.intercalate ", " names
  | .unsupportedType place type =>
    "Schema node at '" ++ place ++ "' has unsupported type " ++ type.display

inductive ReadFailure where
  | node (error : NodeError)
  | schema (error : SchemaError)
  | fault (fault : Fault)

/-- Whether an error has a message: it shows no value without a text. -/
def NodeError.hasText : NodeError → Bool
  | .unsupportedType _ type => type.hasText
  | _ => true

namespace ReadFailure

/-- The failure with an error. The message is written right away, which is a fault of its own if it
cannot be. -/
def raise (error : NodeError) : ReadFailure :=
  if error.hasText then .node error else .fault .badValue

def ofFault {α : Type} : Except Fault α → Except ReadFailure α
  | .ok a => .ok a
  | .error f => .error (.fault f)

def ofSchema {α : Type} : Except SchemaFailure α → Except ReadFailure α
  | .ok a => .ok a
  | .error (.schema e) => .error (.schema e)
  | .error (.fault f) => .error (.fault f)

end ReadFailure

namespace Schema

def get? (entries : List (Value × Value)) (keyword : String) : Option Value :=
  Value.lookup (.str keyword) entries

/-- A keyword's value, absent ones being null. -/
def getD (entries : List (Value × Value)) (keyword : String) : Value :=
  (get? entries keyword).getD .null

def stringRefinements (entries : List (Value × Value)) : Refinements where
  minLength := getD entries "minLength"
  maxLength := getD entries "maxLength"
  pattern := getD entries "pattern"
  format := getD entries "format"

/-- Strings as they are; anything else cannot be put together. -/
def texts : List Value → Except Fault (List String)
  | [] => .ok []
  | .str s :: rest => do
    let others ← texts rest
    .ok (s :: others)
  | _ => .error .wrongType

/-- The names that are required, after a check that all of them are declared. -/
def declaredNames (place : String) (entries : List (Value × Value)) :
    Except ReadFailure (List Value) := do
  let properties := (get? entries "properties").getD (.map [])
  let required ← ReadFailure.ofFault ((get? entries "required").getD (.list [])).elements
  let undeclared ← ReadFailure.ofFault (required.filterM fun name => do
    let declared ← properties.contains name
    .ok !declared)
  if undeclared.isEmpty then .ok required
  else do
    let names ← ReadFailure.ofFault (texts undeclared)
    .error (.node (.undeclared place names))

/-- Options that are no list: if there is a first one it is no mapping. -/
def noOptions (place : String) (v : Value) : Except ReadFailure (List Schema) := do
  match ← ReadFailure.ofFault v.elements with
  | [] => .ok []
  | first :: _ => .error (.node (.notMapping (Pointer.child place (.int 0)) first.typeName))

mutual

/-- The schema of a node whose place in the document is given. -/
def read (v : Value) (place : String) : Except ReadFailure Schema :=
  match v with
  | .map entries =>
    match optionsIn entries (Pointer.child place (.str "anyOf")) with
    | some options => do
      let options ← options
      .ok (unionOf options)
    | none =>
      match get? entries "const", get? entries "enum" with
      | some value, _ => .ok (.literal value)
      | none, some values => do
        let values ← ReadFailure.ofFault values.elements
        .ok (enumOf values)
      | none, none =>
        match getD entries "type" with
        | .str "string" => .ok (string (stringRefinements entries))
        | .str "number" => .ok (number (getD entries "minimum") (getD entries "maximum"))
        | .str "boolean" => .ok boolean
        | .str "null" => .ok null
        | .str "array" =>
          match itemsIn entries (Pointer.child place (.str "items")) with
          | none => .error (.node (.missingItems place))
          | some item => do
            let item ← item
            .ok (.list item (getD entries "minItems") (getD entries "maxItems"))
        | .str "object" => do
          let required ← declaredNames place entries
          let properties ← propertiesIn entries (Pointer.child place (.str "properties"))
          let fields := properties.map fun (name, schema) =>
            (name, if name.isAmong required then schema else optional schema)
          let strict :=
            match get? entries "additionalProperties" with
            | some (.bool false) => true
            | _ => false
          ReadFailure.ofSchema (objectOf fields (.bool strict))
        | type => .error (.raise (.unsupportedType place type))
  | v => .error (.node (.notMapping place v.typeName))
termination_by structural v

/-- The alternatives under `anyOf`, if there is such a keyword. -/
def optionsIn (entries : List (Value × Value)) (place : String) :
    Option (Except ReadFailure (List Schema)) :=
  match entries with
  | [] => none
  | (key, v) :: rest =>
    if (Value.str "anyOf").same key then some (readOptions v place) else optionsIn rest place
termination_by structural entries

def readOptions (v : Value) (place : String) : Except ReadFailure (List Schema) :=
  match v with
  | .list items => readAll items place 0
  | .tuple items => readAll items place 0
  | v => noOptions place v
termination_by structural v

def readAll (items : List Value) (place : String) (index : Nat) :
    Except ReadFailure (List Schema) :=
  match items with
  | [] => .ok []
  | v :: rest => do
    let schema ← read v (Pointer.child place (.int index))
    let others ← readAll rest place (index + 1)
    .ok (schema :: others)
termination_by structural items

/-- The schema of the items, if there is such a keyword. -/
def itemsIn (entries : List (Value × Value)) (place : String) :
    Option (Except ReadFailure Schema) :=
  match entries with
  | [] => none
  | (key, v) :: rest =>
    if (Value.str "items").same key then some (read v place) else itemsIn rest place
termination_by structural entries

/-- The names and schemas of the properties; without the keyword there are none. -/
def propertiesIn (entries : List (Value × Value)) (place : String) :
    Except ReadFailure (List (Value × Schema)) :=
  match entries with
  | [] => .ok []
  | (key, v) :: rest =>
    if (Value.str "properties").same key then readProperties v place else propertiesIn rest place
termination_by structural entries

def readProperties (v : Value) (place : String) : Except ReadFailure (List (Value × Schema)) :=
  match v with
  | .map properties => readFields properties place
  | _ => .error (.fault .noAttribute)
termination_by structural v

def readFields (properties : List (Value × Value)) (place : String) :
    Except ReadFailure (List (Value × Schema)) :=
  match properties with
  | [] => .ok []
  | (name, v) :: rest => do
    ReadFailure.ofFault name.requireText
    let schema ← read v (Pointer.child place name)
    let others ← readFields rest place
    .ok ((name, schema) :: others)
termination_by structural properties

end

end Schema

end Conform
