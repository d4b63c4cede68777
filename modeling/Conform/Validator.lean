import Conform.Checker
import Conform.Log

/-!
# Validators

A schema together with its checker. The answers agree: a value is accepted when it has no
violations, the first violation is the head of all of them, and a value that is asserted to be valid
comes back unchanged or is refused with all its violations.
-/

namespace Conform

structure Validator where
  schema : Schema
  checker : Checker

/-- Why a value that was asserted to be valid is refused. -/
structure InvalidValue where
  label : String
  violations : List Violation

def InvalidValue.message (refusal : InvalidValue) : String :=
  "Invalid " ++ refusal.label ++ ":\n" ++ Violation.lines "" refusal.violations

namespace Validator

/-- The validator of a schema, with formats taken from a registry. -/
def ofSchema (schema : Schema) (registry : Registry) : Except SchemaFailure Validator := do
  let checker ← schema.compile registry
  .ok ⟨schema, checker⟩

/-- The record of a compilation. -/
def record (validator : Validator) : Record :=
  ⟨Severity.debug, "structcheck.compiler",
    "Compiled schema with " ++ toString validator.checker.size ++ " nodes"⟩

def check (validator : Validator) (value : Value) : Except Fault Bool :=
  validator.checker.accepts value

def errors (validator : Validator) (value : Value) : Except Fault (List Violation) :=
  validator.checker.collect value []

/-- The first violation of a value that is not accepted. -/
def first (validator : Validator) (value : Value) : Except Fault (Option Violation) := do
  if ← validator.check value then .ok none
  else
    match ← validator.errors value with
    | [] => .error .noIndex
    | violation :: _ => .ok (some violation)

/-- The value itself, or the refusal of a value that does not conform. Its message has the pointers
of all violations. -/
def assertValid (validator : Validator) (value : Value) (label : String) :
    Except Fault (Except InvalidValue Value) := do
  if ← validator.check value then .ok (.ok value)
  else do
    let violations ← validator.errors value
    if violations.all Violation.hasText then .ok (.error ⟨label, violations⟩)
    else .error .badValue

end Validator

end Conform
