import Redaction.Text.Integer
import Redaction.Text.Quoted

/-!
# What can be wrong with a pattern or a template

* `Pattern.Cause`: why a pattern or a replacement template is not well formed.
* `Pattern.Fault`: a cause together with the place where it was noticed, if it has one.
* `Pattern.Limit`: why a well-formed pattern is beyond what can be compiled.
* `Pattern.Refusal`: one or the other.
* `Fault.message`: the wording; line and column are added to patterns of several lines.
-/

namespace Redaction.Pattern

/-- Why a pattern or a template is not well formed. -/
inductive Cause
  | unterminatedSubpattern
  | unbalancedParenthesis
  | unexpectedEnd
  | missingName (what : String)
  | unterminatedName (terminator : Char)
  | badNameCharacter (name : String)
  | unknownGroupName (name : String)
  | unknownExtension (marks : String)
  | redefinedGroup (name : String) (group earlier : Nat)
  | openGroup
  | lookbehindGroup
  | unterminatedComment
  | variableLookbehind
  | distantLookbehind
  | missingFlag
  | missingColon
  | missingFlagEnd
  | unknownFlag
  | localeFlag
  | incompatibleFlags
  | typeFlagOff
  | globalFlagOn
  | globalFlagOff
  | flagOnAndOff
  | lateGlobalFlags
  | badGroupNumber
  | invalidGroup (group : Nat)
  | thirdBranch
  | nothingToRepeat
  | multipleRepeat
  | emptyRepeatRange
  | unterminatedSet
  | badRange (first last : String)
  | badEscape (escape : String)
  | badEscapeAtEnd
  | incompleteEscape (escape : String)
  | octalTooLarge (escape : String)
  | missingOpening (mark : Char)
  | undefinedCharacter (name : String)
  | templateRepeat (operator : String)
deriving Repr, DecidableEq

/-- The wording of a cause. -/
def Cause.message : Cause → String
  | unterminatedSubpattern => "missing ), unterminated subpattern"
  | unbalancedParenthesis => "unbalanced parenthesis"
  | unexpectedEnd => "unexpected end of pattern"
  | missingName what => "missing " ++ what
  | unterminatedName terminator => "missing " ++ terminator.toString ++ ", unterminated name"
  | badNameCharacter name => "bad character in group name " ++ Text.quoted name
  | unknownGroupName name => "unknown group name " ++ Text.quoted name
  | unknownExtension marks => "unknown extension ?" ++ marks
  | redefinedGroup name group earlier =>
    "redefinition of group name " ++ Text.quoted name ++ " as group " ++ Text.decimal group ++
      "; was group " ++ Text.decimal earlier
  | openGroup => "cannot refer to an open group"
  | lookbehindGroup => "cannot refer to group defined in the same lookbehind subpattern"
  | unterminatedComment => "missing ), unterminated comment"
  | variableLookbehind => "look-behind requires fixed-width pattern"
  | distantLookbehind => "looks too much behind"
  | missingFlag => "missing flag"
  | missingColon => "missing :"
  | missingFlagEnd => "missing -, : or )"
  | unknownFlag => "unknown flag"
  | localeFlag => "bad inline flags: cannot use 'L' flag with a str pattern"
  | incompatibleFlags => "bad inline flags: flags 'a', 'u' and 'L' are incompatible"
  | typeFlagOff => "bad inline flags: cannot turn off flags 'a', 'u' and 'L'"
  | globalFlagOn => "bad inline flags: cannot turn on global flag"
  | globalFlagOff => "bad inline flags: cannot turn off global flag"
  | flagOnAndOff => "bad inline flags: flag turned on and off"
  | lateGlobalFlags => "global flags not at the start of the expression"
  | badGroupNumber => "bad group number"
  | invalidGroup group => "invalid group reference " ++ Text.decimal group
  | thirdBranch => "conditional backref with more than two branches"
  | nothingToRepeat => "nothing to repeat"
  | multipleRepeat => "multiple repeat"
  | emptyRepeatRange => "min repeat greater than max repeat"
  | unterminatedSet => "unterminated character set"
  | badRange first last => "bad character range " ++ first ++ "-" ++ last
  | badEscape escape => "bad escape " ++ escape
  | badEscapeAtEnd => "bad escape (end of pattern)"
  | incompleteEscape escape => "incomplete escape " ++ escape
  | octalTooLarge escape => "octal escape value " ++ escape ++ " outside of range 0-0o377"
  | missingOpening mark => "missing " ++ mark.toString
  | undefinedCharacter name => "undefined character name " ++ Text.quoted name
  | templateRepeat operator => "internal: unsupported template operator " ++ operator

/-- A cause and the index of the character at which it was noticed; faults that concern the pattern as
a whole have no place. -/
structure Fault where
  cause : Cause
  position : Option Nat
deriving Repr, DecidableEq

/-- The line and the column of an index, both counted from one. -/
def lineAndColumn (text : List Char) (position : Nat) : Nat × Nat :=
  let before := text.take position
  (before.count '\n' + 1, (before.reverse.takeWhile (· ≠ '\n')).length + 1)

/-- The wording of a fault of the text `source`. -/
def Fault.message (fault : Fault) (source : String) : String :=
  match fault.position with
  | none => fault.cause.message
  | some position =>
    let chars := source.toList
    let place := fault.cause.message ++ " at position " ++ Text.decimal position
    if chars.contains '\n' then
      let (line, column) := lineAndColumn chars position
      place ++ " (line " ++ Text.decimal line ++ ", column " ++ Text.decimal column ++ ")"
    else place

/-- Why a well-formed pattern cannot be compiled all the same. -/
inductive Limit
  | repetitionTooLarge
  | codeTooLarge
  | clashingTypeFlags
  | numberTooLong (digits : Nat)
deriving Repr, DecidableEq

/-- The wording of a limit. -/
def Limit.message : Limit → String
  | repetitionTooLarge => "the repetition number is too large"
  | codeTooLarge => "Python int too large to convert to C int"
  | clashingTypeFlags => "ASCII and UNICODE flags are incompatible"
  | numberTooLong digits =>
    "Exceeds the limit (" ++ Text.decimal Text.maxDigits ++
      " digits) for integer string conversion: value has " ++ Text.decimal digits ++
      " digits; use sys.set_int_max_str_digits() to increase the limit"

/-- Why a pattern is not accepted. -/
inductive Refusal
  | fault (fault : Fault)
  | limit (limit : Limit)
deriving Repr, DecidableEq

/-- A refusal for a cause at a place. -/
def refuseAt {α : Type} (cause : Cause) (position : Nat) : Except Refusal α :=
  .error (.fault ⟨cause, some position⟩)

/-- A refusal for a cause that concerns the pattern as a whole. -/
def refuse {α : Type} (cause : Cause) : Except Refusal α :=
  .error (.fault ⟨cause, none⟩)

end Redaction.Pattern
