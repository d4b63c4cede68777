import Conform.Fault
import Conform.Pattern.Syntax
import Conform.Text.Quoted

/-!
# What can be wrong with a pattern

Causes with their messages. Most have a position in the pattern; in a pattern of several lines the
message adds the line and the column.
-/

namespace Conform.Pattern

inductive Cause where
  | danglingBackslash
  | badEscape (text : String)
  | incompleteEscape (text : String)
  | octalRange (text : String)
  | missingBrace
  | undefinedCharacter (name : String)
  | missingName (what : String)
  | unterminatedName (terminator : Char)
  | badGroupName (name : String)
  | unknownGroupName (name : String)
  | redefinedGroup (name : String) (number first : Nat)
  | openGroup
  | groupInLookBehind
  | invalidGroup (number : Nat)
  | badGroupNumber
  | unterminatedSet
  | badRange (first last : String)
  | repeatBounds
  | nothingToRepeat
  | multipleRepeat
  | unexpectedEnd
  | unknownExtension (text : String)
  | unterminatedComment
  | unterminatedGroup
  | unbalancedParenthesis
  | tooManyBranches
  | misplacedFlags
  | localeFlag
  | incompatibleFlags
  | repertoireOff
  | globalOn
  | globalOff
  | onAndOff
  | unknownFlag
  | missingFlag
  | missingColon
  | missingFlagsEnd
  | lookBehindWidth
  | lookBehindDistance
  | templateRepeat (greed : Greed)
deriving DecidableEq

def Cause.message : Cause → String
  | .danglingBackslash => "bad escape (end of pattern)"
  | .badEscape text => "bad escape " ++ text
  | .incompleteEscape text => "incomplete escape " ++ text
  | .octalRange text => "octal escape value " ++ text ++ " outside of range 0-0o377"
  | .missingBrace => "missing \x7b"
  | .undefinedCharacter name => "undefined character name " ++ Text.quoted name
  | .missingName what => "missing " ++ what
  | .unterminatedName terminator =>
    "missing " ++ String.singleton terminator ++ ", unterminated name"
  | .badGroupName name => "bad character in group name " ++ Text.quoted name
  | .unknownGroupName name => "unknown group name " ++ Text.quoted name
  | .redefinedGroup name number first =>
    "redefinition of group name " ++ Text.quoted name ++ " as group " ++ toString number ++
      "; was group " ++ toString first
  | .openGroup => "cannot refer to an open group"
  | .groupInLookBehind => "cannot refer to group defined in the same lookbehind subpattern"
  | .invalidGroup number => "invalid group reference " ++ toString number
  | .badGroupNumber => "bad group number"
  | .unterminatedSet => "unterminated character set"
  | .badRange first last => "bad character range " ++ first ++ "-" ++ last
  | .repeatBounds => "min repeat greater than max repeat"
  | .nothingToRepeat => "nothing to repeat"
  | .multipleRepeat => "multiple repeat"
  | .unexpectedEnd => "unexpected end of pattern"
  | .unknownExtension text => "unknown extension ?" ++ text
  | .unterminatedComment => "missing ), unterminated comment"
  | .unterminatedGroup => "missing ), unterminated subpattern"
  | .unbalancedParenthesis => "unbalanced parenthesis"
  | .tooManyBranches => "conditional backref with more than two branches"
  | .misplacedFlags => "global flags not at the start of the expression"
  | .localeFlag => "bad inline flags: cannot use 'L' flag with a str pattern"
  | .incompatibleFlags => "bad inline flags: flags 'a', 'u' and 'L' are incompatible"
  | .repertoireOff => "bad inline flags: cannot turn off flags 'a', 'u' and 'L'"
  | .globalOn => "bad inline flags: cannot turn on global flag"
  | .globalOff => "bad inline flags: cannot turn off global flag"
  | .onAndOff => "bad inline flags: flag turned on and off"
  | .unknownFlag => "unknown flag"
  | .missingFlag => "missing flag"
  | .missingColon => "missing :"
  | .missingFlagsEnd => "missing -, : or )"
  | .lookBehindWidth => "look-behind requires fixed-width pattern"
  | .lookBehindDistance => "looks too much behind"
  | .templateRepeat greed =>
    let operator :=
      match greed with
      | .greedy => "MAX_REPEAT"
      | .lazy => "MIN_REPEAT"
      | .possessive => "POSSESSIVE_REPEAT"
    "internal: unsupported template operator " ++ operator

structure SyntaxError where
  cause : Cause
  position : Option Nat
deriving DecidableEq

/-- What a pattern asks for that cannot be carried out. -/
inductive Excess where
  /-- A repetition count beyond the largest that is counted. -/
  | count
  /-- A repetition count of more digits than are read. -/
  | digits
  /-- The code of a character beyond the largest that is looked up. -/
  | code
  /-- Two character repertoires for the whole pattern. -/
  | repertoires
deriving DecidableEq

def Excess.fault : Excess → Fault
  | .count => .tooLarge
  | .digits => .badValue
  | .code => .tooLarge
  | .repertoires => .badValue

/-- Why a text is not a pattern that can be used. -/
inductive Failure where
  | invalid (error : SyntaxError)
  | excess (excess : Excess)
deriving DecidableEq

/-- The message of an error in a pattern. -/
def SyntaxError.message (pattern : String) (error : SyntaxError) : String :=
  match error.position with
  | none => error.cause.message
  | some position =>
    let chars := pattern.toList
    let before := chars.take position
    let place :=
      if chars.contains '\n' then
        let line := before.count '\n' + 1
        let column := (before.reverse.takeWhile (· != '\n')).length + 1
        " (line " ++ toString line ++ ", column " ++ toString column ++ ")"
      else ""
    error.cause.message ++ " at position " ++ toString position ++ place

end Conform.Pattern
