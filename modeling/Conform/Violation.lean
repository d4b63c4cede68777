import Conform.Pointer
import Conform.Value.Json
import Conform.Value.Writable

/-!
# Violations

What a check reports: where, of which kind, and in words. Each kind has one message, made from one
detail: the expected type, a bound, a literal, a pattern or the name of a format. The detail must
have a text for that, and so must the keys of a path whose pointer is written.
-/

namespace Conform

inductive ViolationKind where
  | typeMismatch
  | literalMismatch
  | missingRequired
  | unexpectedProperty
  | belowMinimum
  | aboveMaximum
  | lengthTooShort
  | lengthTooLong
  | patternMismatch
  | formatInvalid
  | tooFewItems
  | tooManyItems
  | noAlternativeMatched
deriving DecidableEq

namespace ViolationKind

def all : List ViolationKind :=
  [.typeMismatch, .literalMismatch, .missingRequired, .unexpectedProperty, .belowMinimum,
   .aboveMaximum, .lengthTooShort, .lengthTooLong, .patternMismatch, .formatInvalid, .tooFewItems,
   .tooManyItems, .noAlternativeMatched]

def name : ViolationKind → String
  | .typeMismatch => "TypeMismatch"
  | .literalMismatch => "LiteralMismatch"
  | .missingRequired => "MissingRequired"
  | .unexpectedProperty => "UnexpectedProperty"
  | .belowMinimum => "BelowMinimum"
  | .aboveMaximum => "AboveMaximum"
  | .lengthTooShort => "LengthTooShort"
  | .lengthTooLong => "LengthTooLong"
  | .patternMismatch => "PatternMismatch"
  | .formatInvalid => "FormatInvalid"
  | .tooFewItems => "TooFewItems"
  | .tooManyItems => "TooManyItems"
  | .noAlternativeMatched => "NoAlternativeMatched"

def ofName? (name : String) : Option ViolationKind := all.find? fun kind => kind.name = name

/-- A bound in a message: an integral double is written as an integer. -/
def boundText (bound : Value) : String :=
  match bound with
  | .float x =>
    match x.toInt? with
    | some n => toString n
    | none => bound.text
  | _ => bound.text

/-- A literal in a message: a string between quotes as it is, other values as JSON with sorted keys
if they have JSON text. Only what has a text is compiled to a literal. -/
def literalText (literal : Value) : String :=
  match literal with
  | .str s => "'" ++ s ++ "'"
  | _ => (literal.json? .canonical).getD literal.display

def message (kind : ViolationKind) (detail : Value) : String :=
  match kind with
  | .typeMismatch => "Expected " ++ detail.text
  | .literalMismatch => "Expected " ++ literalText detail
  | .missingRequired => "Expected required property"
  | .unexpectedProperty => "Unexpected property"
  | .belowMinimum => "Expected number to be greater or equal to " ++ boundText detail
  | .aboveMaximum => "Expected number to be less or equal to " ++ boundText detail
  | .lengthTooShort => "Expected string length greater or equal to " ++ detail.text
  | .lengthTooLong => "Expected string length less or equal to " ++ detail.text
  | .patternMismatch => "Expected string to match '" ++ detail.text ++ "'"
  | .formatInvalid => "Expected string to match '" ++ detail.text ++ "' format"
  | .tooFewItems => "Expected array length to be greater or equal to " ++ detail.text
  | .tooManyItems => "Expected array length to be less or equal to " ++ detail.text
  | .noAlternativeMatched => "Expected union value"

end ViolationKind

structure Violation where
  path : Pointer.Path
  kind : ViolationKind
  message : String

namespace Violation

/-- A violation with the message of its kind. -/
def of (path : Pointer.Path) (kind : ViolationKind) (detail : Value) : Violation :=
  ⟨path, kind, kind.message detail⟩

def pointer (v : Violation) : String := Pointer.join v.path

/-- Whether the pointer can be written. -/
def hasText (v : Violation) : Bool := v.path.all Value.hasText

/-- The pointer and the message on one line. -/
def line (v : Violation) : String := v.pointer ++ ": " ++ v.message

/-- One line for each violation. -/
def lines (indent : String) (violations : List Violation) : String :=
  String.intercalate "\n" (violations.map fun v => indent ++ v.line)

def toValue (v : Violation) : Value :=
  .map [(.str "path", .str v.pointer), (.str "kind", .str v.kind.name),
    (.str "message", .str v.message)]

end Violation

end Conform
