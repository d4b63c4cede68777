import Conform.Format.Registration
import Conform.Violation

/-!
# What a schema means

`Schema.evaluate` walks a schema along with a value and lists every violation, depth first, in the
order of declaration and of indices. It checks as much of the schema as the value makes it reach.
-/

namespace Conform

/-- Refuse a count that is neither absent nor a natural number. -/
def requireCount (keyword place : String) (value : Value) : Except SchemaFailure Unit :=
  match value with
  | .null => .ok ()
  | .int n => if n < 0 then .error (.raise (.badCount keyword place value)) else .ok ()
  | _ => .error (.raise (.badCount keyword place value))

/-- Refuse a bound that is neither absent nor a number. -/
def requireBound (keyword place : String) (value : Value) : Except SchemaFailure Unit :=
  match value with
  | .null => .ok ()
  | .int _ => .ok ()
  | .float _ => .ok ()
  | _ => .error (.raise (.badBound keyword place value))

def requireKind (kind : KindRef) : Except SchemaFailure Kind :=
  match kind.kind? with
  | some k => .ok k
  | none => .error (.raise (.unknownKind kind))

/-- The program of a pattern keyword. -/
def requirePattern (pattern : Value) : Except SchemaFailure (String × Pattern.Program) :=
  match pattern with
  | .str text =>
    match Pattern.compile text with
    | .ok program => .ok (text, program)
    | .error (.invalid error) => .error (.raise (.badPattern text error))
    | .error (.excess excess) => .error (.fault excess.fault)
  | value => .error (.raise (.patternNotText value))

/-- A keyword's check, made only if the keyword is there. -/
def whenGiven {α : Type} (value : Value) (check : Value → Except SchemaFailure α) :
    Except SchemaFailure (Option α) :=
  if value.isNull then .ok none
  else do
    let a ← check value
    .ok (some a)

/-- A violation, if a test fails. -/
def violationUnless (holds : Bool) (path : Pointer.Path) (kind : ViolationKind) (detail : Value) :
    List Violation :=
  if holds then [] else [.of path kind detail]

/-- A violation, if a test fails, whose message is written right away. -/
def reportUnless (holds : Bool) (path : Pointer.Path) (kind : ViolationKind) (detail : Value) :
    Except SchemaFailure (List Violation) := do
  if !holds then SchemaFailure.ofFault detail.requireText
  .ok (violationUnless holds path kind detail)

/-- The violations of a string's or a list's length. -/
def lengthViolations (path : Pointer.Path) (least most : Value) (tooFew tooMany : ViolationKind)
    (length : Nat) : Except SchemaFailure (List Violation) := do
  let low ← reportUnless (!(Value.int length).isBelow least) path tooFew least
  let high ← reportUnless (!most.isBelow (.int length)) path tooMany most
  .ok (low ++ high)

def evaluateString (registry : Registry) (r : Refinements) (value : Value) (path : Pointer.Path) :
    Except SchemaFailure (List Violation) := do
  requireCount "min_length" "" r.minLength
  requireCount "max_length" "" r.maxLength
  let pattern ← whenGiven r.pattern requirePattern
  let format ← whenGiven r.format registry.resolve
  match value with
  | .str s =>
    let lengths ←
      lengthViolations path r.minLength r.maxLength .lengthTooShort .lengthTooLong s.length
    let matched ←
      match pattern with
      | some (_, program) => SchemaFailure.ofFault (program.search s)
      | none => .ok true
    let conforms ←
      match format with
      | some format => SchemaFailure.ofFault (format.conforms s)
      | none => .ok true
    .ok (lengths ++ violationUnless matched path .patternMismatch r.pattern ++
      violationUnless conforms path .formatInvalid r.format)
  | _ => .ok [.of path .typeMismatch (.str Kind.string.name)]

def evaluateNumber (r : Refinements) (value : Value) (path : Pointer.Path) :
    Except SchemaFailure (List Violation) := do
  requireBound "minimum" "" r.minimum
  requireBound "maximum" "" r.maximum
  if value.isNumber then do
    let low ← reportUnless (!value.isBelow r.minimum) path .belowMinimum r.minimum
    let high ← reportUnless (!r.maximum.isBelow value) path .aboveMaximum r.maximum
    .ok (low ++ high)
  else .ok [.of path .typeMismatch (.str Kind.number.name)]

def evaluatePrimitive (registry : Registry) (kind : KindRef) (r : Refinements) (value : Value)
    (path : Pointer.Path) : Except SchemaFailure (List Violation) := do
  match ← requireKind kind with
  | .string => evaluateString registry r value path
  | .number => evaluateNumber r value path
  | kind => .ok (violationUnless (kind.includes value) path .typeMismatch (.str kind.name))

/-- Go through items with their indices and put the results together. -/
def collectFrom {ε α : Type} (f : Nat → Value → Except ε (List α)) (index : Nat) :
    List Value → Except ε (List α)
  | [] => .ok []
  | v :: rest => do
    let found ← f index v
    let others ← collectFrom f (index + 1) rest
    .ok (found ++ others)

/-- The keys of an object that are not among the declared names. -/
def unexpectedKeys (declared : List Value) (fields : List (Value × Value)) : List Value :=
  (fields.map (·.1)).filter fun key => !key.isAmong declared

mutual

/-- The violations of a value at a path. -/
def Schema.evaluate (schema : Schema) (registry : Registry) (value : Value) (path : Pointer.Path) :
    Except SchemaFailure (List Violation) :=
  match schema with
  | .primitive kind r => evaluatePrimitive registry kind r value path
  | .literal expected => reportUnless (value.deepEqual expected) path .literalMismatch expected
  | .list item minItems maxItems => do
    requireCount "min_items" "" minItems
    requireCount "max_items" "" maxItems
    match value.items? with
    | none => .ok [.of path .typeMismatch (.str "array")]
    | some items => do
      let sizes ←
        lengthViolations path minItems maxItems .tooFewItems .tooManyItems items.length
      let inner ← collectFrom
        (fun index v => item.evaluate registry v (path ++ [.int index])) 0 items
      .ok (sizes ++ inner)
  | .object entries strict =>
    match value with
    | .map fields => do
      let inner ← evaluateEntries entries registry fields path
      if strict.truthy then do
        let declared ← SchemaFailure.ofFault (Schema.fieldNames entries)
        .ok (inner ++ (unexpectedKeys declared fields).map fun key =>
          .of (path ++ [key]) .unexpectedProperty .null)
      else .ok inner
    | _ => .ok [.of path .typeMismatch (.str "object")]
  | .union options => do
    let accepted ← evaluateAny options registry value path
    .ok (violationUnless accepted path .noAlternativeMatched .null)
  | .field schema required => .error (.raise (.unknownNode none (.field schema required)))
  | .other v => .error (.raise (.unknownNode none (.other v)))
termination_by structural schema

/-- The violations of an object's fields, in the order of declaration. -/
def evaluateEntries (entries : List Entry) (registry : Registry) (fields : List (Value × Value))
    (path : Pointer.Path) : Except SchemaFailure (List Violation) :=
  match entries with
  | [] => .ok []
  | entry :: rest => do
    let found ← evaluateEntry entry registry fields path
    let others ← evaluateEntries rest registry fields path
    .ok (found ++ others)
termination_by structural entries

def evaluateEntry (entry : Entry) (registry : Registry) (fields : List (Value × Value))
    (path : Pointer.Path) : Except SchemaFailure (List Violation) :=
  match entry with
  | .named name (.field schema required) =>
    if !name.isKey then .error (.fault .wrongType)
    else
      match Value.lookup name fields with
      | some value => schema.evaluate registry value (path ++ [name])
      | none => .ok (violationUnless (!required.truthy) (path ++ [name]) .missingRequired .null)
  | .named name node => .error (.raise (.notField name none node))
  | .other value => do
    let (name, node) ← SchemaFailure.ofFault value.pair
    .error (.raise (.notField name none (.other node)))
termination_by structural entry

/-- Whether one of some alternatives has no violations. -/
def evaluateAny (options : List Schema) (registry : Registry) (value : Value)
    (path : Pointer.Path) : Except SchemaFailure Bool :=
  match options with
  | [] => .ok false
  | option :: rest => do
    let found ← option.evaluate registry value path
    if found.isEmpty then .ok true else evaluateAny rest registry value path
termination_by structural options

end

end Conform
