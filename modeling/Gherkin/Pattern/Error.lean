import Gherkin.Text.Quoted

/-!
# Errors in patterns

Why a text is no pattern, and where in it the problem was found.
-/

namespace Gherkin.Pattern

/-- What is wrong with a pattern. -/
inductive Problem where
  | openGroup
  | openComment
  | strayParenthesis
  | openSet
  | nothingToRepeat
  | repeatedRepetition
  | reversedBounds
  | hugeRepetition
  | danglingEscape
  | badEscape (escape : String)
  | incompleteEscape (escape : String)
  | octalTooLarge (escape : String)
  | noCharacterName
  | noCharacterNameBrace
  | unknownCharacterName (name : String)
  | badRange (first last : String)
  | badGroupName (name : String)
  | noGroupName
  | openGroupName (terminator : Char)
  | repeatedGroupName (name : String) (new old : Nat)
  | unknownGroupName (name : String)
  | badGroupNumber
  | badReference (index : Nat)
  | referenceToOpenGroup
  | referenceInsideLookBehind
  | manyConditionalParts
  | unexpectedEnd
  | unknownExtension (text : String)
  | lateFlags
  | unknownFlag
  | missingFlag
  | missingFlagEnd
  | missingColon
  | badFlags (reason : String)
  | incompatibleFlags
  | widthNotFixed
  deriving Repr, DecidableEq

/-- The wording of a problem. -/
def Problem.message : Problem → String
  | openGroup => "missing ), unterminated subpattern"
  | openComment => "missing ), unterminated comment"
  | strayParenthesis => "unbalanced parenthesis"
  | openSet => "unterminated character set"
  | nothingToRepeat => "nothing to repeat"
  | repeatedRepetition => "multiple repeat"
  | reversedBounds => "min repeat greater than max repeat"
  | hugeRepetition => "the repetition number is too large"
  | danglingEscape => "bad escape (end of pattern)"
  | badEscape escape => "bad escape " ++ escape
  | incompleteEscape escape => "incomplete escape " ++ escape
  | octalTooLarge escape =>
      "octal escape value " ++ escape ++ " outside of range 0-0o377"
  | noCharacterName => "missing character name"
  | noCharacterNameBrace => "missing \x7b"
  | unknownCharacterName name => "undefined character name " ++ Text.quoted name
  | badRange first last => "bad character range " ++ first ++ "-" ++ last
  | badGroupName name => "bad character in group name " ++ Text.quoted name
  | noGroupName => "missing group name"
  | openGroupName terminator =>
      "missing " ++ terminator.toString ++ ", unterminated name"
  | repeatedGroupName name new old =>
      "redefinition of group name " ++ Text.quoted name ++ " as group " ++
        toString new ++ "; was group " ++ toString old
  | unknownGroupName name => "unknown group name " ++ Text.quoted name
  | badGroupNumber => "bad group number"
  | badReference index => "invalid group reference " ++ toString index
  | referenceToOpenGroup => "cannot refer to an open group"
  | referenceInsideLookBehind =>
      "cannot refer to group defined in the same lookbehind subpattern"
  | manyConditionalParts => "conditional backref with more than two branches"
  | unexpectedEnd => "unexpected end of pattern"
  | unknownExtension text => "unknown extension " ++ text
  | lateFlags => "global flags not at the start of the expression"
  | unknownFlag => "unknown flag"
  | missingFlag => "missing flag"
  | missingFlagEnd => "missing -, : or )"
  | missingColon => "missing :"
  | badFlags reason => "bad inline flags: " ++ reason
  | incompatibleFlags => "ASCII and UNICODE flags are incompatible"
  | widthNotFixed => "look-behind requires fixed-width pattern"

/-- A refused pattern: the problem, and the position of the character it was
found at, if it has one. -/
structure Error where
  pattern : String
  problem : Problem
  position : Option Nat := none
  deriving Repr, DecidableEq

/-- The line of a position, counted from 1. -/
def lineOf (chars : List Char) (position : Nat) : Nat :=
  (chars.take position).count '\n' + 1

/-- The place of a position in its line, counted from 1. -/
def columnOf (chars : List Char) (position : Nat) : Nat :=
  ((chars.take position).reverse.takeWhile (· != '\n')).length + 1

/-- The full message: the problem and its position; a pattern of several lines
also gets the line and the column. -/
def Error.message (error : Error) : String :=
  match error.position with
  | none => error.problem.message
  | some position =>
      let chars := error.pattern.toList
      let base := error.problem.message ++ " at position " ++ toString position
      if chars.contains '\n' then
        base ++ " (line " ++ toString (lineOf chars position) ++ ", column " ++
          toString (columnOf chars position) ++ ")"
      else base

end Gherkin.Pattern
