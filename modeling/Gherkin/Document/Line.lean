import Gherkin.Keyword
import Gherkin.Text.Blank
import Gherkin.Text.Search

/-!
# Kinds of lines

Outside doc strings the kind of a line depends on the line alone.  The kinds
are tried in a fixed order: blank lines and comments, table rows, tag lines,
fences, headers, steps; what is left is free text.
-/

namespace Gherkin.Document

/-- The two marks a doc string can be written between. -/
inductive Fence where
  | quotes
  | backticks
  deriving Repr, DecidableEq

namespace Fence

/-- The character a fence is made of. -/
def char : Fence → Char
  | quotes => '\x22'
  | backticks => '\x60'

/-- The fence as it is written. -/
def text (fence : Fence) : List Char :=
  [fence.char, fence.char, fence.char]

/-- The fence as it is written inside a doc string. -/
def escaped (fence : Fence) : List Char :=
  ['\\', fence.char, '\\', fence.char, '\\', fence.char]

end Fence

/-- What a header opens. -/
inductive Header where
  | feature
  | background
  | outline
  | scenario
  | examples
  deriving Repr, DecidableEq

/-- The words of every header, in the order in which they are tried. -/
def Header.keywords : List (String × Header) :=
  [("Feature:", .feature), ("Background:", .background),
    ("Scenario Outline:", .outline), ("Scenario Template:", .outline),
    ("Scenario:", .scenario), ("Example:", .scenario),
    ("Examples:", .examples), ("Scenarios:", .examples)]

/-- A line outside doc strings. -/
inductive Line where
  /-- A blank line or a comment. -/
  | blank
  /-- A table row, given by what follows its first bar. -/
  | row (rest : List Char)
  /-- A tag line, given by its words. -/
  | tags (words : List String)
  /-- The opening fence of a doc string. -/
  | fence (fence : Fence) (indent : List Char) (contentType : Option String)
  /-- The header of a block. -/
  | header (header : Header) (keyword title : String)
  /-- A step; `whole` is the line it stands on. -/
  | step (keyword : Keyword) (text whole : String)
  /-- Any other text. -/
  | text (whole : String)
  deriving Repr, DecidableEq

namespace Line

/-- The words of a tag line, without the comment at its end. -/
def tagWords (line : List Char) : List String :=
  (Text.words (Text.before [' ', '#'] line)).map String.ofList

/-- The white space a line starts with. -/
def indentOf (raw : List Char) : List Char :=
  raw.takeWhile Text.isBlank

/-- The fence a line opens, with the content type that follows it. -/
def fence? (line : List Char) : Option (Fence × Option String) :=
  [Fence.quotes, Fence.backticks].findSome? fun mark =>
    (Text.dropPrefix? mark.text line).map fun rest =>
      let contentType := Text.trim rest
      (mark, if contentType.isEmpty then none else some (String.ofList contentType))

/-- The header a line is, with the word used for it and the title. -/
def header? (line : List Char) : Option (Header × String × String) :=
  Header.keywords.findSome? fun (keyword, kind) =>
    (Text.dropPrefix? keyword.toList line).map fun rest =>
      (kind, keyword, String.ofList (Text.trim rest))

/-- The step a line is: a keyword, a space, and the text. -/
def step? (line : List Char) : Option (Keyword × String) :=
  Keyword.all.findSome? fun keyword =>
    (Text.dropPrefix? (keyword.word.toList ++ [' ']) line).map fun rest =>
      (keyword, String.ofList (Text.trim rest))

/-- The kind of a trimmed line that is no blank line, comment, row or tag
line. -/
def classifyWords (indent line : List Char) : Line :=
  match fence? line with
  | some (mark, contentType) => .fence mark indent contentType
  | none =>
    match header? line with
    | some (kind, keyword, title) => .header kind keyword title
    | none =>
      match step? line with
      | some (keyword, words) => .step keyword words (String.ofList line)
      | none => .text (String.ofList line)

/-- The kind of a line. -/
def classify (raw : List Char) : Line :=
  match Text.trim raw with
  | [] => .blank
  | '#' :: _ => .blank
  | '|' :: rest => .row rest
  | '@' :: rest => .tags (tagWords ('@' :: rest))
  | line => classifyWords (indentOf raw) line

end Line

end Gherkin.Document
