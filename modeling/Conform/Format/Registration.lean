import Conform.Format.Registry
import Conform.Log
import Conform.Schema.Error

/-!
# Registering and finding formats

Any value may be given where the name of a format is expected. Only strings that are not empty can
be registered, and only registered names can be resolved.
-/

namespace Conform.Registry

/-- The format that a name stands for. -/
def resolve (registry : Registry) (name : Value) : Except SchemaFailure Format :=
  if !name.isKey then .error (.fault .wrongType)
  else
    let unknown := .error (.raise (.unknownFormat name registry.names))
    match name with
    | .str s =>
      match registry.find? s with
      | some format => .ok format
      | none => unknown
    | _ => unknown

/-- Whether a name is registered. -/
def hasName (registry : Registry) (name : Value) : Except Fault Bool :=
  if !name.isKey then .error .wrongType
  else
    match name with
    | .str s => .ok (registry.has s)
    | _ => .ok false

def replacingRecord (name : String) : Record :=
  ⟨Severity.debug, "structcheck.models.formats", "Replacing string format '" ++ name ++ "'"⟩

/-- The registry with a format under a name, and a record if the name was taken. -/
def enter (registry : Registry) (name : Value) (format : Format) :
    Except SchemaFailure (Registry × List Record) :=
  match name with
  | .str s =>
    if s = "" then .error (.raise (.badFormatName name))
    else
      .ok (registry.register s format, if registry.has s then [replacingRecord s] else [])
  | _ => .error (.raise (.badFormatName name))

end Conform.Registry
