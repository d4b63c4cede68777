import Conform.Text.Lines
import Conform.Text.Utf8
import Conform.Yaml.Value

/-!
# The text of files

The bytes of a file are UTF-8 text with one kind of line end, and the text is that of a value.
-/

namespace Conform

/-- Why the text of a file has no value. -/
inductive TextError where
  | notUtf8 (error : Text.Utf8.Error)
  | malformed
deriving DecidableEq

/-- The detail of a malformed text is not told. -/
def TextError.message : TextError → String
  | .notUtf8 error => error.message
  | .malformed => "<yaml error>"

inductive TextFailure where
  | text (error : TextError)
  | fault (fault : Fault)

/-- The characters of a file. -/
def decodeFile (contents : List UInt8) : Except TextFailure (List Char) :=
  match Text.Utf8.decode contents with
  | .ok chars => .ok (Text.unifyLineEnds chars)
  | .error error => .error (.text (.notUtf8 error))

/-- The value of a file's characters. -/
def loadText (chars : List Char) : Except TextFailure Value :=
  match Yaml.load chars with
  | .ok value => .ok value
  | .error .malformed => .error (.text .malformed)
  | .error (.fault fault) => .error (.fault fault)

end Conform
