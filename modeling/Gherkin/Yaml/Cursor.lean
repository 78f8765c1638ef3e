import Gherkin.Text.Lines

/-!
# Places in a settings text

A cursor stands at a place in a text and knows its line and its column.  Line
feeds, the next-line character and the separators of lines and paragraphs end a
line; other line breaks are read as line feeds beforehand.
-/

namespace Gherkin.Yaml

/-- Whether a character may stand in a settings text. -/
def isPrintable (c : Char) : Bool :=
  let n := c.toNat
  n == 0x9 || n == 0xA || n == 0xD || (0x20 ≤ n && n ≤ 0x7E) || n == 0x85 ||
    (0xA0 ≤ n && n ≤ 0xD7FF) || (0xE000 ≤ n && n ≤ 0xFFFD) || 0x10000 ≤ n

/-- A text with every line break but the separators read as a line feed. -/
def normalize (cs : List Char) : List Char :=
  (Text.normalizeBreaks cs).map fun c => if c.toNat = 0x85 then '\n' else c

/-- Whether a character ends a line. -/
def isBreak (c : Char) : Bool :=
  c == '\n' || c.toNat == 0x2028 || c.toNat == 0x2029

/-- Whether a character is a space or a tab, or ends a line. -/
def isSpace (c : Char) : Bool :=
  c == ' ' || c == '\t' || isBreak c

/-- A place in a text. -/
structure Cursor where
  /-- The text from here on. -/
  rest : List Char
  line : Nat := 0
  column : Nat := 0
  /-- Number of characters before the place. -/
  index : Nat := 0

namespace Cursor

/-- The character at the place, or one after it. -/
def peek (cursor : Cursor) (ahead : Nat := 0) : Option Char :=
  cursor.rest[ahead]?

/-- Whether the character at the place, or one after it, is a space, a tab or a
line break, or the text ends there. -/
def atSpace (cursor : Cursor) (ahead : Nat := 0) : Bool :=
  (cursor.peek ahead).all isSpace

/-- Whether a line or the text ends at the place. -/
def atLineEnd (cursor : Cursor) : Bool :=
  cursor.peek.all isBreak

/-- Whether the text ends at the place. -/
def atEnd (cursor : Cursor) : Bool :=
  cursor.rest.isEmpty

/-- Whether a given character is at the place. -/
def at? (cursor : Cursor) (c : Char) : Bool :=
  cursor.peek == some c

/-- The place one character on.  A byte-order mark takes no column. -/
def next (cursor : Cursor) : Cursor :=
  match cursor.rest with
  | [] => cursor
  | c :: rest =>
      if isBreak c then
        { rest, line := cursor.line + 1, column := 0, index := cursor.index + 1 }
      else
        { rest, line := cursor.line
          column := if c.toNat = 0xFEFF then cursor.column else cursor.column + 1
          index := cursor.index + 1 }

/-- The place some characters on. -/
def advance (cursor : Cursor) : Nat → Cursor
  | 0 => cursor
  | n + 1 => cursor.next.advance n

/-- The place after all characters of a kind, up to a number of them. -/
def skipUpTo (kind : Char → Bool) : Nat → Cursor → Cursor
  | 0, cursor => cursor
  | n + 1, cursor =>
      if cursor.peek.any kind then skipUpTo kind n cursor.next else cursor

/-- The place after all characters of a kind. -/
def skip (kind : Char → Bool) (cursor : Cursor) : Cursor :=
  skipUpTo kind cursor.rest.length cursor

/-- Whether a document begins or ends at the place: three hyphens or three dots
at the front of a line, alone. -/
def atDocumentMark (cursor : Cursor) : Bool :=
  (cursor.rest.take 3 == ['-', '-', '-'] || cursor.rest.take 3 == ['.', '.', '.']) &&
    cursor.atSpace 3

/-- The place after a line break, if there is one, and the break. -/
def lineBreak (cursor : Cursor) : List Char × Cursor :=
  match cursor.peek with
  | some c => if isBreak c then ([c], cursor.next) else ([], cursor)
  | none => ([], cursor)

/-- The place after a comment and the spaces before it. -/
def skipComment (cursor : Cursor) : Cursor :=
  let cursor := cursor.skip (· == ' ')
  if cursor.at? '#' then cursor.skip (!isBreak ·) else cursor

end Cursor

end Gherkin.Yaml
