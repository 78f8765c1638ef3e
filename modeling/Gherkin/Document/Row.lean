import Gherkin.Text.Blank

/-!
# Table rows

A row is written as cells between bars.  Inside a cell a backslash escapes a
bar, another backslash, or the letter `n` for a line feed; before any other
character it stands for itself.  A row is read in two passes: escapes are
resolved into marks, then the marks are cut at the borders.
-/

namespace Gherkin.Document.Row

/-- What a row is made of after its escapes are resolved. -/
inductive Mark where
  /-- The bar between two cells. -/
  | border
  /-- A character of a cell. -/
  | content (c : Char)
  deriving Repr, DecidableEq

/-- Resolve the escapes of a row. -/
def marks : List Char → List Mark
  | [] => []
  | '\\' :: '|' :: cs => .content '|' :: marks cs
  | '\\' :: 'n' :: cs => .content '\n' :: marks cs
  | '\\' :: '\\' :: cs => .content '\\' :: marks cs
  | '|' :: cs => .border :: marks cs
  | c :: cs => .content c :: marks cs

/-- The cells that end at a border, and the rest after the last border. -/
def cut : List Mark → List (List Char) × List Char
  | [] => ([], [])
  | .border :: ms => ([] :: (cut ms).1, (cut ms).2)
  | .content c :: ms =>
      match cut ms with
      | ([], rest) => ([], c :: rest)
      | (cell :: cells, rest) => ((c :: cell) :: cells, rest)

/-- Read what follows the first bar of a row.  The row must end at a border,
and its cells are trimmed. -/
def read? (cs : List Char) : Option (List String) :=
  match cut (marks cs) with
  | ([], _) => none
  | (cell :: cells, rest) =>
      if (Text.trim rest).isEmpty then
        some ((cell :: cells).map fun c => String.ofList (Text.trim c))
      else none

/-- A character of a cell as it is written. -/
def escapeChar (c : Char) : List Char :=
  if c = '|' then ['\\', '|']
  else if c = '\n' then ['\\', 'n']
  else if c = '\\' then ['\\', '\\']
  else [c]

/-- A row as it is written, every cell padded by a space on both sides. -/
def write (cells : List String) : List Char :=
  '|' :: cells.flatMap fun cell =>
    ' ' :: cell.toList.flatMap escapeChar ++ [' ', '|']

end Gherkin.Document.Row
