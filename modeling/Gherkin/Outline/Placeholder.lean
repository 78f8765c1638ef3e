import Gherkin.Record
import Gherkin.Text.Blank

/-!
# Placeholders

A placeholder is a column name between angle brackets.  The name is not empty,
holds no angle bracket, and neither begins nor ends with white space; brackets
around anything else are plain text.  Filling in is simultaneous: what a
placeholder is replaced by is not looked at again.
-/

namespace Gherkin.Placeholder

/-- What a text with placeholders is made of. -/
inductive Piece where
  /-- A character outside placeholders. -/
  | literal (c : Char)
  /-- A placeholder, by its name. -/
  | column (name : List Char)
  deriving Repr, DecidableEq

/-- An angle bracket. -/
def isBracket (c : Char) : Bool :=
  c == '<' || c == '>'

/-- Whether a name may stand between the brackets. -/
def isName (name : List Char) : Bool :=
  match name.head?, name.getLast? with
  | some first, some last =>
      !name.any isBracket && !Text.isBlank first && !Text.isBlank last
  | _, _ => false

/-- The placeholder name after an opening bracket, if one is closed there. -/
def nameAt (cs : List Char) : Option (List Char) :=
  let name := cs.takeWhile fun c => !isBracket c
  match cs.dropWhile fun c => !isBracket c with
  | '>' :: _ => if isName name then some name else none
  | _ => none

/-- The pieces of a text.  The counter is the number of characters still to
skip because they belong to the placeholder before them. -/
def piecesAux : Nat → List Char → List Piece
  | _, [] => []
  | skip + 1, _ :: cs => piecesAux skip cs
  | 0, c :: cs =>
      if c = '<' then
        match nameAt cs with
        | some name => .column name :: piecesAux (name.length + 1) cs
        | none => .literal c :: piecesAux 0 cs
      else .literal c :: piecesAux 0 cs

/-- The pieces of a text, from left to right. -/
def pieces (text : List Char) : List Piece :=
  piecesAux 0 text

/-- The name of a placeholder. -/
def Piece.name? : Piece → Option String
  | .literal _ => none
  | .column name => some (String.ofList name)

/-- The text of a piece when the columns have the given values.  A placeholder
without a column stays as it is. -/
def Piece.fill (values : Record String) : Piece → List Char
  | .literal c => [c]
  | .column name =>
      match values.find? (String.ofList name) with
      | some value => value.toList
      | none => '<' :: name ++ ['>']

/-- The names of the placeholders of a text, in order. -/
def names (text : String) : List String :=
  (pieces text.toList).filterMap Piece.name?

/-- Fill in the placeholders of a text. -/
def fill (values : Record String) (text : String) : String :=
  String.ofList ((pieces text.toList).flatMap (Piece.fill values))

end Gherkin.Placeholder
