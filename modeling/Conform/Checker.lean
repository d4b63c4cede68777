import Conform.Evaluate

/-!
# Checkers

A schema is compiled once into a checker: a tree in which every keyword has been read and found well
formed, patterns are programs and names of formats are their predicates. The messages are written
once and for all, so what they show must have a text. A checker either stops at the first failure
(`accepts`) or lists every violation (`collect`). Compilation looks at the whole schema, so it also
finds faults in parts that no value reaches.
-/

namespace Conform

/-- One narrowing of a primitive kind. -/
inductive Refinement where
  | minLength (bound : Nat)
  | maxLength (bound : Nat)
  | pattern (text : String) (program : Pattern.Program)
  | format (name : String) (format : Format)
  | minimum (bound : Value)
  | maximum (bound : Value)

namespace Refinement

def kind : Refinement → ViolationKind
  | .minLength _ => .lengthTooShort
  | .maxLength _ => .lengthTooLong
  | .pattern _ _ => .patternMismatch
  | .format _ _ => .formatInvalid
  | .minimum _ => .belowMinimum
  | .maximum _ => .aboveMaximum

/-- What the message of a failure mentions. -/
def detail : Refinement → Value
  | .minLength bound => .int bound
  | .maxLength bound => .int bound
  | .pattern text _ => .str text
  | .format name _ => .str name
  | .minimum bound => bound
  | .maximum bound => bound

/-- Whether a value of the kind meets the refinement. -/
def holds (refinement : Refinement) (value : Value) : Except Fault Bool :=
  match refinement, value with
  | .minLength bound, .str s => .ok (bound ≤ s.length)
  | .maxLength bound, .str s => .ok (s.length ≤ bound)
  | .pattern _ program, .str s => program.search s
  | .format _ predicate, .str s => predicate.conforms s
  | .minimum bound, v => .ok !v.isBelow bound
  | .maximum bound, v => .ok !bound.isBelow v
  | _, _ => .ok true

def allHold (refinements : List Refinement) (value : Value) : Except Fault Bool :=
  match refinements with
  | [] => .ok true
  | r :: rest => do
    if ← r.holds value then allHold rest value else .ok false

/-- A violation for each refinement that a value fails. -/
def violations (refinements : List Refinement) (value : Value) (path : Pointer.Path) :
    Except Fault (List Violation) :=
  match refinements with
  | [] => .ok []
  | r :: rest => do
    let holds ← r.holds value
    let others ← violations rest value path
    .ok (violationUnless holds path r.kind r.detail ++ others)

end Refinement

mutual

inductive Checker where
  | primitive (kind : Kind) (refinements : List Refinement)
  | literal (expected : Value)
  | list (item : Checker) (minItems maxItems : Option Nat)
  | object (fields : List FieldChecker) (strict : Bool)
  | union (options : List Checker)

/-- The checker of an object's field of the given name. -/
inductive FieldChecker where
  | mk (name : Value) (required : Bool) (checker : Checker)

end

namespace FieldChecker

def name : FieldChecker → Value
  | mk name _ _ => name

def required : FieldChecker → Bool
  | mk _ required _ => required

def checker : FieldChecker → Checker
  | mk _ _ checker => checker

end FieldChecker

/-! ## Compilation -/

/-- A count that is absent or a natural number. -/
def readCount (keyword place : String) (value : Value) : Except SchemaFailure (Option Nat) := do
  requireCount keyword place value
  match value with
  | .int n => .ok (some n.toNat)
  | _ => .ok none

/-- A bound that is absent or a number. -/
def readBound (keyword place : String) (value : Value) : Except SchemaFailure (Option Value) := do
  requireBound keyword place value
  .ok (if value.isNull then none else some value)

def Refinements.ofString (r : Refinements) (registry : Registry) (place : String) :
    Except SchemaFailure (List Refinement) := do
  let minLength ← readCount "min_length" place r.minLength
  let maxLength ← readCount "max_length" place r.maxLength
  SchemaFailure.ofFault r.minLength.requireText
  SchemaFailure.ofFault r.maxLength.requireText
  let pattern ← whenGiven r.pattern requirePattern
  let format ← whenGiven r.format registry.resolve
  .ok ((minLength.map .minLength).toList ++ (maxLength.map .maxLength).toList ++
    (pattern.map fun (text, program) => .pattern text program).toList ++
    (format.map fun format => .format r.format.text format).toList)

def Refinements.ofNumber (r : Refinements) (place : String) :
    Except SchemaFailure (List Refinement) := do
  let minimum ← readBound "minimum" place r.minimum
  let maximum ← readBound "maximum" place r.maximum
  SchemaFailure.ofFault r.minimum.requireText
  SchemaFailure.ofFault r.maximum.requireText
  .ok ((minimum.map .minimum).toList ++ (maximum.map .maximum).toList)

def compilePrimitive (kind : KindRef) (r : Refinements) (registry : Registry) (place : String) :
    Except SchemaFailure Checker := do
  match ← requireKind kind with
  | .string => do
    let refinements ← r.ofString registry place
    .ok (.primitive .string refinements)
  | .number => do
    let refinements ← r.ofNumber place
    .ok (.primitive .number refinements)
  | kind => .ok (.primitive kind [])

/-- Whether no name stands twice in a list. -/
def areDistinct : List Value → Bool
  | [] => true
  | name :: rest => !name.isAmong rest && areDistinct rest

/-- An object of fields whose names can be keys and differ from each other. -/
def assemble (fields : List FieldChecker) (strict : Bool) (place : String) :
    Except SchemaFailure Checker :=
  let names := fields.map FieldChecker.name
  if !names.all Value.isKey then .error (.fault .wrongType)
  else if !areDistinct names then .error (.raise (.repeatedNames place))
  else .ok (.object fields strict)

mutual

/-- The checker of a schema whose place is given. -/
def Schema.compileAt (schema : Schema) (registry : Registry) (place : String) :
    Except SchemaFailure Checker :=
  match schema with
  | .primitive kind r => compilePrimitive kind r registry place
  | .literal value => do
    SchemaFailure.ofFault value.requireText
    .ok (.literal value)
  | .list item minItems maxItems => do
    let least ← readCount "min_items" place minItems
    let most ← readCount "max_items" place maxItems
    let item ← item.compileAt registry (place ++ "/items")
    SchemaFailure.ofFault minItems.requireText
    SchemaFailure.ofFault maxItems.requireText
    .ok (.list item least most)
  | .object entries strict => do
    let fields ← compileEntries entries registry place
    assemble fields strict.truthy place
  | .union options => do
    let options ← compileAll options registry (place ++ "/anyOf/") 0
    .ok (.union options)
  | .field _ _ => .error (.raise (.misplacedOptional place))
  | .other value => .error (.raise (.unknownNode (some place) (.other value)))
termination_by structural schema

def compileEntries (entries : List Entry) (registry : Registry) (place : String) :
    Except SchemaFailure (List FieldChecker) :=
  match entries with
  | [] => .ok []
  | entry :: rest => do
    let field ← entry.compileAt registry place
    let others ← compileEntries rest registry place
    .ok (field :: others)
termination_by structural entries

def Entry.compileAt (entry : Entry) (registry : Registry) (place : String) :
    Except SchemaFailure FieldChecker :=
  match entry with
  | .named name (.field schema required) => do
    SchemaFailure.ofFault name.requireText
    let checker ← schema.compileAt registry (place ++ "/properties/" ++ name.text)
    .ok ⟨name, required.truthy, checker⟩
  | .named name node => .error (.raise (.notField name (some place) node))
  | .other value =>
    match value.pair with
    | .ok (name, node) => .error (.raise (.notField name (some place) (.other node)))
    | .error _ => .error (.raise (.notPairs place))
termination_by structural entry

/-- The checkers of some options, counted from `index`. -/
def compileAll (options : List Schema) (registry : Registry) (place : String) (index : Nat) :
    Except SchemaFailure (List Checker) :=
  match options with
  | [] => .ok []
  | option :: rest => do
    let checker ← option.compileAt registry (place ++ toString index)
    let others ← compileAll rest registry place (index + 1)
    .ok (checker :: others)
termination_by structural options

end

/-- The checker of a schema. -/
def Schema.compile (schema : Schema) (registry : Registry) : Except SchemaFailure Checker :=
  schema.compileAt registry ""

namespace Checker

mutual

/-- How many nodes a checker has. -/
def size : Checker → Nat
  | .primitive _ _ => 1
  | .literal _ => 1
  | .list item _ _ => item.size + 1
  | .object fields _ => fieldsSize fields + 1
  | .union options => sizes options + 1

def fieldsSize : List FieldChecker → Nat
  | [] => 0
  | .mk _ _ checker :: rest => checker.size + fieldsSize rest

def sizes : List Checker → Nat
  | [] => 0
  | checker :: rest => checker.size + sizes rest

end

/-! ## Checking -/

def atLeast (bound : Option Nat) (n : Nat) : Bool := bound.all fun b => b ≤ n

def atMost (bound : Option Nat) (n : Nat) : Bool := bound.all fun b => n ≤ b

/-- Whether all values pass a test that may fail; the first that does not decides. -/
def allPass (test : Value → Except Fault Bool) : List Value → Except Fault Bool
  | [] => .ok true
  | v :: rest => do
    if ← test v then allPass test rest else .ok false

mutual

/-- Whether a value conforms, decided at the first failure. -/
def accepts (checker : Checker) (value : Value) : Except Fault Bool :=
  match checker with
  | .primitive kind refinements =>
    if kind.includes value then Refinement.allHold refinements value else .ok false
  | .literal expected => .ok (value.deepEqual expected)
  | .list item minItems maxItems =>
    match value.items? with
    | none => .ok false
    | some items =>
      if atLeast minItems items.length && atMost maxItems items.length then
        allPass (fun v => item.accepts v) items
      else .ok false
  | .object fields strict =>
    match value with
    | .map entries => do
      if ← acceptsFields fields entries then
        .ok (!strict || (unexpectedKeys (fields.map FieldChecker.name) entries).isEmpty)
      else .ok false
    | _ => .ok false
  | .union options => acceptsAny options value
termination_by structural checker

def acceptsFields (fields : List FieldChecker) (entries : List (Value × Value)) :
    Except Fault Bool :=
  match fields with
  | [] => .ok true
  | field :: rest => do
    if ← acceptsField field entries then acceptsFields rest entries else .ok false
termination_by structural fields

def acceptsField (field : FieldChecker) (entries : List (Value × Value)) : Except Fault Bool :=
  match field with
  | .mk name required checker =>
    match Value.lookup name entries with
    | some value => checker.accepts value
    | none => .ok !required
termination_by structural field

def acceptsAny (options : List Checker) (value : Value) : Except Fault Bool :=
  match options with
  | [] => .ok false
  | option :: rest => do
    if ← option.accepts value then .ok true else acceptsAny rest value
termination_by structural options

end

/-- The violations of a list's length. -/
def countViolations (minItems maxItems : Option Nat) (length : Nat) (path : Pointer.Path) :
    List Violation :=
  violationUnless (atLeast minItems length) path .tooFewItems (.int (minItems.getD 0)) ++
    violationUnless (atMost maxItems length) path .tooManyItems (.int (maxItems.getD 0))

mutual

/-- Every violation of a value at a path, in the order of declaration and of indices. -/
def collect (checker : Checker) (value : Value) (path : Pointer.Path) :
    Except Fault (List Violation) :=
  match checker with
  | .primitive kind refinements =>
    if kind.includes value then Refinement.violations refinements value path
    else .ok [.of path .typeMismatch (.str kind.name)]
  | .literal expected =>
    .ok (violationUnless (value.deepEqual expected) path .literalMismatch expected)
  | .list item minItems maxItems =>
    match value.items? with
    | none => .ok [.of path .typeMismatch (.str "array")]
    | some items => do
      let inner ← collectFrom (fun index v => item.collect v (path ++ [.int index])) 0 items
      .ok (countViolations minItems maxItems items.length path ++ inner)
  | .object fields strict =>
    match value with
    | .map entries => do
      let inner ← collectFields fields entries path
      let unexpected :=
        if strict then unexpectedKeys (fields.map FieldChecker.name) entries else []
      .ok (inner ++ unexpected.map fun key => .of (path ++ [key]) .unexpectedProperty .null)
    | _ => .ok [.of path .typeMismatch (.str "object")]
  | .union options => do
    let accepted ← acceptsAny options value
    .ok (violationUnless accepted path .noAlternativeMatched .null)
termination_by structural checker

def collectFields (fields : List FieldChecker) (entries : List (Value × Value))
    (path : Pointer.Path) : Except Fault (List Violation) :=
  match fields with
  | [] => .ok []
  | field :: rest => do
    let found ← collectField field entries path
    let others ← collectFields rest entries path
    .ok (found ++ others)
termination_by structural fields

def collectField (field : FieldChecker) (entries : List (Value × Value)) (path : Pointer.Path) :
    Except Fault (List Violation) :=
  match field with
  | .mk name required checker =>
    match Value.lookup name entries with
    | some value => checker.collect value (path ++ [name])
    | none => .ok (violationUnless (!required) (path ++ [name]) .missingRequired .null)
termination_by structural field

end

end Checker

end Conform
