import TemplateSwap.Text.Quoted
import TemplateSwap.Text.Codes

namespace TemplateSwap.Pattern

open TemplateSwap.Text (Code quoted ofCodes)

/-- What is wrong with the text of a pattern. Texts quoted in a message are kept as written. -/
inductive Fault
  | trailingBackslash
  | badEscape (written : List Code)
  | incompleteEscape (written : List Code)
  | missingBrace
  | missingName (what : String)
  | unterminatedName (terminator : Char)
  | undefinedCharacter (name : List Code)
  | octalTooLarge (written : List Code)
  | openGroup
  | sameLookbehind
  | unknownGroup (index : Nat)
  | unknownGroupName (name : List Code)
  | badGroupName (name : List Code)
  | groupZero
  | repeatedGroupName (name : List Code) (index earlier : Nat)
  | unterminatedSet
  | badRange (first last : List Code)
  | countsOutOfOrder
  | nothingToRepeat
  | multipleRepeat
  | unexpectedEnd
  | unknownExtension (written : List Code)
  | unterminatedComment
  | unterminatedGroup
  | unbalancedParenthesis
  | tooManyBranches
  | flagsNotAtStart
  | localeFlag
  | incompatibleModes
  | unknownFlag
  | missingFlag
  | missingFlagEnd
  | missingColon
  | globalFlagOn
  | globalFlagOff
  | modeTurnedOff
  | flagOnAndOff
  | lookbehindTooLong
  | lookbehindNotFixed
  | loopInTemplate (name : String)
  deriving DecidableEq, Repr

def Fault.message : Fault → String
  | trailingBackslash => "bad escape (end of pattern)"
  | badEscape written => "bad escape " ++ ofCodes written
  | incompleteEscape written => "incomplete escape " ++ ofCodes written
  | missingBrace => "missing \x7b"
  | missingName what => "missing " ++ what
  | unterminatedName terminator => "missing " ++ terminator.toString ++ ", unterminated name"
  | undefinedCharacter name => "undefined character name " ++ quoted (ofCodes name)
  | octalTooLarge written => "octal escape value " ++ ofCodes written ++ " outside of range 0-0o377"
  | openGroup => "cannot refer to an open group"
  | sameLookbehind => "cannot refer to group defined in the same lookbehind subpattern"
  | unknownGroup index => "invalid group reference " ++ toString index
  | unknownGroupName name => "unknown group name " ++ quoted (ofCodes name)
  | badGroupName name => "bad character in group name " ++ quoted (ofCodes name)
  | groupZero => "bad group number"
  | repeatedGroupName name index earlier =>
    "redefinition of group name " ++ quoted (ofCodes name) ++ " as group " ++ toString index
      ++ "; was group " ++ toString earlier
  | unterminatedSet => "unterminated character set"
  | badRange first last => "bad character range " ++ ofCodes first ++ "-" ++ ofCodes last
  | countsOutOfOrder => "min repeat greater than max repeat"
  | nothingToRepeat => "nothing to repeat"
  | multipleRepeat => "multiple repeat"
  | unexpectedEnd => "unexpected end of pattern"
  | unknownExtension written => "unknown extension ?" ++ ofCodes written
  | unterminatedComment => "missing ), unterminated comment"
  | unterminatedGroup => "missing ), unterminated subpattern"
  | unbalancedParenthesis => "unbalanced parenthesis"
  | tooManyBranches => "conditional backref with more than two branches"
  | flagsNotAtStart => "global flags not at the start of the expression"
  | localeFlag => "bad inline flags: cannot use 'L' flag with a str pattern"
  | incompatibleModes => "bad inline flags: flags 'a', 'u' and 'L' are incompatible"
  | unknownFlag => "unknown flag"
  | missingFlag => "missing flag"
  | missingFlagEnd => "missing -, : or )"
  | missingColon => "missing :"
  | globalFlagOn => "bad inline flags: cannot turn on global flag"
  | globalFlagOff => "bad inline flags: cannot turn off global flag"
  | modeTurnedOff => "bad inline flags: cannot turn off flags 'a', 'u' and 'L'"
  | flagOnAndOff => "bad inline flags: flag turned on and off"
  | lookbehindTooLong => "looks too much behind"
  | lookbehindNotFixed => "look-behind requires fixed-width pattern"
  | loopInTemplate name => "internal: unsupported template operator " ++ name

/-- A fault and the place in the pattern's text that it is reported at, where there is one. -/
structure Error where
  fault : Fault
  source : List Code
  position : Option Nat
  deriving DecidableEq, Repr

namespace Error

def newline : Code := 10

/-- Lines count from one. -/
def line (source : List Code) (position : Nat) : Nat :=
  (source.take position).count newline + 1

/-- Columns count from one, from the last line break before the position. -/
def column (source : List Code) (position : Nat) : Nat :=
  ((source.take position).reverse.takeWhile (· ≠ newline)).length + 1

/-- The position is given, and in a pattern of several lines also the line and column. -/
def message (e : Error) : String :=
  match e.position with
  | none => e.fault.message
  | some position =>
    let text := e.fault.message ++ " at position " ++ toString position
    if e.source.contains newline then
      text ++ " (line " ++ toString (line e.source position) ++ ", column "
        ++ toString (column e.source position) ++ ")"
    else text

end Error

/-- Why a text is no usable pattern. Apart from faults of its text, a repetition count or the number of
a code point can be too large, and a pattern can ask for both character modes at once. -/
inductive Refusal
  | faulty (error : Error)
  | numberTooLarge
  | bothModes
  deriving DecidableEq, Repr

end TemplateSwap.Pattern
