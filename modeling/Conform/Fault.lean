/-!
# Faults

Why an operation on values or text cannot be carried out, where the reason is not one of the
library's own errors.
-/

namespace Conform

inductive Fault where
  /-- The operation is not defined for a value of this type. -/
  | wrongType
  /-- The type is right, but this value of it has no result. -/
  | badValue
  /-- The thing has no part of the name asked for. -/
  | noAttribute
  | noKey
  | noIndex
  /-- A number is larger than what is counted. -/
  | tooLarge
  /-- A group of a match ends before it begins. -/
  | reversedGroup
  /-- A name is too long to be looked up on disk. -/
  | nameTooLong
  /-- A value contains itself. -/
  | selfContaining
deriving DecidableEq, Repr

end Conform
