import Conform.Format.Standard

/-!
# Formats by name

A registry holds named predicates on strings. A predicate may fail on a string; the format says
which faults merely mean that the string does not conform.
-/

namespace Conform

structure Format where
  test : String → Except Fault Bool
  tolerates : Fault → Bool

/-- Whether a string conforms to a format. -/
def Format.conforms (format : Format) (s : String) : Except Fault Bool :=
  match format.test s with
  | .ok b => .ok b
  | .error fault => if format.tolerates fault then .ok false else .error fault

/-- A format whose predicate answers for every string. -/
def Format.total (p : String → Bool) : Format := ⟨fun s => .ok (p s), fun _ => false⟩

/-- Formats in the order in which their names were first registered. -/
abbrev Registry := List (String × Format)

namespace Registry

/-- The formats that are known without registration. -/
def standard : Registry :=
  [("idn-email", .total Format.isEmail),
   ("email", .total Format.isEmail),
   ("ipv4", .total Format.isIpv4),
   ("ipv6", .total Format.isIpv6),
   ("regex", ⟨Format.isPattern, fun _ => false⟩),
   ("date", .total Format.isDate),
   ("time", .total Format.isTime),
   ("uuid", .total Format.isUuid)]

def names (registry : Registry) : List String :=
  (registry.map (·.1)).mergeSort fun s t => !(t < s)

def find? (registry : Registry) (name : String) : Option Format := registry.lookup name

def has (registry : Registry) (name : String) : Bool := (registry.find? name).isSome

/-- Register a format, in the place of one of the same name. -/
def register (name : String) (format : Format) : Registry → Registry
  | [] => [(name, format)]
  | (other, old) :: rest =>
    if other = name then (name, format) :: rest else (other, old) :: register name format rest

/-- The registry of the given names only; `none` if one of them is unknown. -/
def restrictTo (registry : Registry) (names : List String) : Option Registry :=
  names.foldlM (fun chosen name => do
    let format ← registry.find? name
    some (register name format chosen)) []

end Registry

end Conform
