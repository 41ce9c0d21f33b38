import Conform.Number.Basic
import Conform.Text.Quoted

/-!
# Faults in regular expressions

What can be wrong with the text of a regular expression, where the fault is, and how it is worded.

## Main definitions

- `Regex.Fault`, `Regex.Fault.message` — the faults
- `Regex.Failure`, `Regex.Failure.message` — a fault with its place in the pattern
-/

namespace Conform.Regex

/-- What is wrong with a pattern. -/
inductive Fault
  | escapeAtEnd
  | missing (what : Text)
  | unterminatedName (closer : CodePoint)
  | badName (name : Text)
  | unknownName (name : Text)
  | redefinedName (name : Text) (index earlier : Nat)
  | incompleteEscape (escape : Text)
  | badEscape (escape : Text)
  | undefinedCharacter (name : Text)
  | octalOutOfRange (escape : Text)
  | openGroup
  | groupOfSameLookbehind
  | invalidReference (index : Nat)
  | badGroupNumber
  | tooManyBranches
  | unterminatedSet
  | badRange (low high : Text)
  | minAboveMax
  | nothingToRepeat
  | multipleRepeat
  | unexpectedEnd
  | unknownExtension (extension : Text)
  | unterminatedComment
  | unterminatedGroup
  | unbalancedParenthesis
  | misplacedFlags
  | localeFlag
  | incompatibleTypeFlags
  | unknownFlag
  | globalFlagOn
  | globalFlagOff
  | typeFlagOff
  | contradictoryFlags
  | variableLookbehind
  | longLookbehind
  | templateRepeat (operator : Text)
  deriving DecidableEq, Repr

/-- The wording of a fault. -/
def Fault.message : Fault → Text
  | .escapeAtEnd => "bad escape (end of pattern)"
  | .missing what => "missing " ++ what
  | .unterminatedName closer => "missing " ++ closer :: Text.ofString ", unterminated name"
  | .badName name => "bad character in group name " ++ name.quoted
  | .unknownName name => "unknown group name " ++ name.quoted
  | .redefinedName name index earlier =>
    "redefinition of group name " ++ name.quoted ++ " as group " ++ Text.ofNat index
      ++ "; was group " ++ Text.ofNat earlier
  | .incompleteEscape escape => "incomplete escape " ++ escape
  | .badEscape escape => "bad escape " ++ escape
  | .undefinedCharacter name => "undefined character name " ++ name.quoted
  | .octalOutOfRange escape =>
    "octal escape value " ++ escape ++ " outside of range 0-0o377"
  | .openGroup => "cannot refer to an open group"
  | .groupOfSameLookbehind => "cannot refer to group defined in the same lookbehind subpattern"
  | .invalidReference index => "invalid group reference " ++ Text.ofNat index
  | .badGroupNumber => "bad group number"
  | .tooManyBranches => "conditional backref with more than two branches"
  | .unterminatedSet => "unterminated character set"
  | .badRange low high => "bad character range " ++ low ++ "-" ++ high
  | .minAboveMax => "min repeat greater than max repeat"
  | .nothingToRepeat => "nothing to repeat"
  | .multipleRepeat => "multiple repeat"
  | .unexpectedEnd => "unexpected end of pattern"
  | .unknownExtension extension => "unknown extension ?" ++ extension
  | .unterminatedComment => "missing ), unterminated comment"
  | .unterminatedGroup => "missing ), unterminated subpattern"
  | .unbalancedParenthesis => "unbalanced parenthesis"
  | .misplacedFlags => "global flags not at the start of the expression"
  | .localeFlag => "bad inline flags: cannot use 'L' flag with a str pattern"
  | .incompatibleTypeFlags => "bad inline flags: flags 'a', 'u' and 'L' are incompatible"
  | .unknownFlag => "unknown flag"
  | .globalFlagOn => "bad inline flags: cannot turn on global flag"
  | .globalFlagOff => "bad inline flags: cannot turn off global flag"
  | .typeFlagOff => "bad inline flags: cannot turn off flags 'a', 'u' and 'L'"
  | .contradictoryFlags => "bad inline flags: flag turned on and off"
  | .variableLookbehind => "look-behind requires fixed-width pattern"
  | .longLookbehind => "looks too much behind"
  | .templateRepeat operator => "internal: unsupported template operator " ++ operator

/-- Why a pattern is refused. -/
inductive Failure
  /-- A fault at an offset into the pattern. -/
  | located (fault : Fault) (position : Nat)
  /-- A fault of the pattern as a whole. -/
  | whole (fault : Fault)
  | repetitionTooLarge
  /-- A count of repetitions has too many digits. -/
  | countTooLong (digits : Nat)
  | incompatibleFlags
  | tooDeep
  deriving DecidableEq, Repr

/-- The column of an offset, counted from the last line feed before it. -/
def columnAt (pattern : Text) (position : Nat) : Nat :=
  ((pattern.take position).reverse.takeWhile (· != Text.newline)).length + 1

/-- The wording of a failure: with the offset, and in a pattern of several lines with line and
column too. -/
def Failure.message (pattern : Text) : Failure → Text
  | .located fault position =>
    let place := fault.message ++ " at position " ++ Text.ofNat position
    if Text.newline ∈ pattern then
      place ++ " (line " ++ Text.ofNat ((pattern.take position).count Text.newline + 1)
        ++ ", column " ++ Text.ofNat (columnAt pattern position) ++ ")"
    else place
  | .whole fault => fault.message
  | .repetitionTooLarge => "the repetition number is too large"
  | .countTooLong digits => Number.tooManyDigitsMessage digits
  | .incompatibleFlags => "ASCII and UNICODE flags are incompatible"
  | .tooDeep => "maximum recursion depth exceeded"

end Conform.Regex
