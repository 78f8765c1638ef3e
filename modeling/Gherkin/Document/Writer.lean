import Gherkin.Document.Line
import Gherkin.Document.Row
import Gherkin.Feature
import Gherkin.Text.Lines

/-!
# Writing documents

A feature is written line by line: tags above the header they belong to, steps
under their block, and rows or a doc string under their step.  What stands deeper
is indented further, and nothing depends on it.  Three headers can be written with
either of two words; a choice by line numbers says which one is used.

A feature knows at which line each of its parts stands.  Writing does not look at
these numbers; `placed` replaces them by the lines at which writing puts the parts.
-/

namespace Gherkin.Document

/-- The lines of a text. -/
abbrev Lines := List (List Char)

/-- For the header at a line, whether it is written with its second word. -/
abbrev WordChoice := Int → Bool

/-- The words of a header: the first, and the second if there are two. -/
def Header.word : Header → Bool → String
  | .feature, _ => "Feature:"
  | .background, _ => "Background:"
  | .outline, false => "Scenario Outline:"
  | .outline, true => "Scenario Template:"
  | .scenario, false => "Scenario:"
  | .scenario, true => "Example:"
  | .examples, false => "Examples:"
  | .examples, true => "Scenarios:"

/-- A text at a level of indentation. -/
def indented (level : Nat) (text : List Char) : List Char :=
  List.replicate (2 * level) ' ' ++ text

/-- The tag line above a header, if the header has tags. -/
def tagLines (level : Nat) (tags : List String) : Lines :=
  if tags.isEmpty then []
  else [indented level (Text.join [' '] (tags.map fun tag => '@' :: tag.toList))]

/-- A header and its title. -/
def headerLine (level : Nat) (word title : String) : List Char :=
  indented level (word.toList ++ ' ' :: title.toList)

/-- Rows, each on a line. -/
def rowLines (level : Nat) (rows : List (List String)) : Lines :=
  rows.map fun cells => indented level (Row.write cells)

/-- A line of a doc string: fences in it are escaped. -/
def docLine (level : Nat) (text : List Char) : List Char :=
  indented level (Text.replace Fence.quotes.text Fence.quotes.escaped text)

/-- A doc string between its fences. -/
def docLines (level : Nat) (doc : DocString) : Lines :=
  indented level (Fence.quotes.text ++ (doc.contentType.getD "").toList) ::
    (Text.splitAt '\n' doc.content.toList).map (docLine level) ++
      [indented level Fence.quotes.text]

/-- A step, and under it its rows and its doc string. -/
def stepLines (step : Step) : Lines :=
  indented 2 (step.keyword.word.toList ++ ' ' :: step.text.toList) ::
    (rowLines 3 ((step.table.map DataTable.rows).getD []) ++
      (step.doc.map (docLines 3)).getD [])

/-- Steps under one another. -/
def stepsLines (steps : List Step) : Lines :=
  steps.flatMap stepLines

/-- A background. -/
def backgroundLines (background : Background) : Lines :=
  indented 1 (Header.background.word false).toList :: stepsLines background.steps

/-- The rows of examples, the column names first.  Without column names there
are none. -/
def examplesRows (examples : Examples) : List (List String) :=
  if examples.header.isEmpty then [] else examples.header :: examples.rows

/-- Examples that begin at a line. -/
def examplesLines (choice : WordChoice) (line : Int) (examples : Examples) : Lines :=
  let above := tagLines 2 examples.tags
  above ++
    indented 2 (Header.examples.word (choice (line + above.length))).toList ::
      rowLines 3 (examplesRows examples)

/-- Parts under one another, the first of which begins at a line. -/
def partsFrom {α : Type} (write : Int → α → Lines) : Int → List α → Lines
  | _, [] => []
  | line, part :: parts =>
      let first := write line part
      first ++ partsFrom write (line + first.length) parts

/-- The header that a definition is written with. -/
def headerOf : Definition → Header
  | .scenario _ => .scenario
  | .outline _ => .outline

/-- The blocks of examples of a definition. -/
def examplesOf : Definition → List Examples
  | .scenario _ => []
  | .outline outline => outline.examples

/-- A definition that begins at a line: its header with the tags above it, its
steps, and its examples. -/
def definitionLines (choice : WordChoice) (line : Int) (definition : Definition) : Lines :=
  let above := tagLines 1 definition.tags
  let word := (headerOf definition).word (choice (line + above.length))
  let head := above ++ headerLine 1 word definition.name :: stepsLines definition.steps
  head ++ partsFrom (examplesLines choice) (line + head.length) (examplesOf definition)

/-- A feature up to its first definition. -/
def featureHead (feature : Feature) : Lines :=
  tagLines 0 feature.tags ++
    headerLine 0 (Header.feature.word false) feature.name ::
      (feature.description.map (fun line => indented 1 line.toList) ++
        (feature.background.map backgroundLines).getD [])

/-- The lines of a feature. -/
def linesOf (choice : WordChoice) (feature : Feature) : Lines :=
  let head := featureHead feature
  head ++ partsFrom (definitionLines choice) (1 + head.length) feature.definitions

/-- The text of a feature. -/
def write (feature : Feature) (choice : WordChoice := fun _ => false) : String :=
  String.ofList ((linesOf choice feature).flatMap (· ++ ['\n']))

/-! ## The lines at which parts are written -/

/-- Put parts at their lines, the first of which begins at the given line. -/
def placeFrom {α : Type} (height : α → Nat) (place : Int → α → α) : Int → List α → List α
  | _, [] => []
  | line, part :: parts => place line part :: placeFrom height place (line + height part) parts

/-- Steps at the lines at which they are written. -/
def placeSteps (line : Int) (steps : List Step) : List Step :=
  placeFrom (fun step => (stepLines step).length) (fun line step => { step with line }) line
    steps

/-- The line of a header with the tags above it. -/
def headerAt (line : Int) (tags : List String) : Int :=
  if tags.isEmpty then line else line + 1

/-- The number of lines of examples. -/
def examplesHeight (examples : Examples) : Nat :=
  (examplesLines (fun _ => false) 0 examples).length

/-- Blocks of examples at the lines at which they are written. -/
def placeExamples (line : Int) (examples : List Examples) : List Examples :=
  placeFrom examplesHeight
    (fun line block => { block with line := headerAt line block.tags }) line examples

/-- A definition at the line at which it is written. -/
def placeDefinition (line : Int) : Definition → Definition
  | .scenario s =>
      let header := headerAt line s.tags
      .scenario { s with line := header, steps := placeSteps (header + 1) s.steps }
  | .outline o =>
      let header := headerAt line o.tags
      let below := header + 1 + (stepsLines o.steps).length
      .outline
        { o with
          line := header
          steps := placeSteps (header + 1) o.steps
          examples := placeExamples below o.examples }

/-- The number of lines of a definition. -/
def definitionHeight (definition : Definition) : Nat :=
  (definitionLines (fun _ => false) 0 definition).length

/-- A feature whose parts stand at the lines at which they are written. -/
def placed (feature : Feature) : Feature :=
  let below := headerAt 1 feature.tags + 1 + feature.description.length
  { feature with
    background := feature.background.map fun background =>
      { steps := placeSteps (below + 1) background.steps, line := below }
    definitions :=
      placeFrom definitionHeight placeDefinition (1 + (featureHead feature).length)
        feature.definitions }

end Gherkin.Document
