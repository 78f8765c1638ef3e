import Gherkin.Feature
import Gherkin.Note
import Gherkin.Outline.Placeholder
import Gherkin.Tag

/-!
# Expanding outlines

An outline becomes one scenario for each row of its examples, with the row's
values filled in.  A row fails when the outline has a placeholder that names
none of its columns; the other rows are not affected.
-/

namespace Gherkin

/-- Why a row could not be filled in. -/
structure ExpansionError where
  outline : String
  /-- The name the row's scenario would have. -/
  name : String
  /-- The placeholders without a column, each once, in order. -/
  missing : List String
  line : Int := 0
  source : Option String := none
  deriving Repr, DecidableEq

/-- The full message: the place, the row, and what is missing. -/
def ExpansionError.message (error : ExpansionError) : String :=
  location error.source error.line ++ ": cannot expand '" ++ error.name ++
    "': no Examples column for " ++
    ", ".intercalate (error.missing.map fun name => "<" ++ name ++ ">")

/-- The row an entry was made from. -/
structure RowOrigin where
  outline : Outline
  /-- The block of examples the row stands in. -/
  examples : Examples
  /-- The position of the block in its outline, from 0. -/
  block : Nat
  /-- The position of the row in its block, from 0. -/
  row : Nat
  deriving Repr, DecidableEq

/-- One scenario of an expanded feature, or the failure that stands in its
place. -/
inductive Entry where
  /-- A scenario of the feature as it stands. -/
  | plain (scenario : Scenario)
  /-- A row filled in. -/
  | filled (origin : RowOrigin) (scenario : Scenario)
  /-- A row that could not be filled in. -/
  | failed (origin : RowOrigin) (error : ExpansionError)
  deriving Repr, DecidableEq

namespace Entry

/-- The scenario to run, unless the row failed. -/
def scenario? : Entry → Option Scenario
  | .plain scenario | .filled _ scenario => some scenario
  | .failed _ _ => none

/-- The failure, if the row failed. -/
def error? : Entry → Option ExpansionError
  | .failed _ error => some error
  | _ => none

/-- The row the entry was made from, if any. -/
def origin? : Entry → Option RowOrigin
  | .plain _ => none
  | .filled origin _ | .failed origin _ => some origin

/-- Whether there is a scenario to run. -/
def ok (entry : Entry) : Bool :=
  entry.error?.isNone

/-- The name of the scenario, or the one it would have. -/
def name : Entry → String
  | .plain scenario | .filled _ scenario => scenario.name
  | .failed _ error => error.name

/-- The line of the scenario or of the outline it was made from. -/
def line : Entry → Int
  | .plain scenario => scenario.line
  | .filled origin _ | .failed origin _ => origin.outline.line

/-- The tags of an entry together with those of its feature. -/
def tags (feature : Feature) : Entry → List String
  | .plain scenario | .filled _ scenario => Tag.combine [feature.tags, scenario.tags]
  | .failed origin _ =>
      Tag.combine [feature.tags, origin.outline.tags, origin.examples.tags]

end Entry

namespace Step

/-- The texts of a step that may hold placeholders: its text, its cells row by
row, its doc string. -/
def texts (step : Step) : List String :=
  step.text :: ((step.table.map fun table => table.rows.flatten).getD [] ++
    (step.doc.map DocString.content).toList)

/-- The placeholders of a step, in order. -/
def placeholders (step : Step) : List String :=
  step.texts.flatMap Placeholder.names

/-- A step with the values filled in. -/
def fill (values : Record String) (step : Step) : Step :=
  { step with
    text := Placeholder.fill values step.text
    table := step.table.map fun table =>
      ⟨table.rows.map fun row => row.map (Placeholder.fill values)⟩
    doc := step.doc.map fun doc =>
      { doc with content := Placeholder.fill values doc.content } }

end Step

namespace Outline

/-- The placeholders of the steps that name no column, each once, in order. -/
def missing (outline : Outline) (values : Record String) : List String :=
  Tag.combine
    [(outline.steps.flatMap Step.placeholders).filter fun name =>
      (values.find? name).isNone]

/-- The name of the scenario of a row.  The block is named only when there are
several. -/
def rowName (outline : Outline) (block row : Nat) : String :=
  if 1 < outline.examples.length then
    outline.name ++ " [Examples " ++ toString (block + 1) ++ ", Row " ++
      toString (row + 1) ++ "]"
  else outline.name ++ " [Row " ++ toString (row + 1) ++ "]"

/-- The entry of one row. -/
def expandRow (outline : Outline) (source : Option String) (examples : Examples)
    (block row : Nat) (cells : List String) : Entry :=
  let values := Record.ofPairs (examples.header.zip cells)
  let origin : RowOrigin := { outline, examples, block, row }
  let missing := outline.missing values
  if missing.isEmpty then
    .filled origin
      { name := outline.rowName block row
        tags := Tag.combine [outline.tags, examples.tags]
        steps := outline.steps.map (Step.fill values)
        line := outline.line }
  else
    .failed origin
      { outline := outline.name, name := outline.rowName block row, missing,
        line := outline.line, source }

/-- The entries of an outline, one for each row in the order of the blocks. -/
def expand (outline : Outline) (source : Option String := none) : List Entry :=
  outline.examples.zipIdx.flatMap fun (examples, block) =>
    examples.rows.zipIdx.map fun (cells, row) =>
      outline.expandRow source examples block row cells

end Outline

/-- The entries of a definition. -/
def Definition.expand (source : Option String) : Definition → List Entry
  | .scenario s => [.plain s]
  | .outline o => o.expand source

namespace Feature

/-- The entries of a feature: its scenarios, and the rows of its outlines. -/
def entries (feature : Feature) : List Entry :=
  feature.definitions.flatMap (Definition.expand feature.source)

/-- The failures among the entries. -/
def expansionErrors (feature : Feature) : List ExpansionError :=
  feature.entries.filterMap Entry.error?

/-- The note on rows that could not be filled in. -/
def expansionNotes (feature : Feature) : List Note :=
  let failed := feature.expansionErrors.length
  if failed = 0 then []
  else
    let place := match feature.source with
      | none => feature.name
      | some source => if source.isEmpty then feature.name else source
    [{ level := .warning, origin := .outline
       text := toString failed ++ " outline row(s) in " ++ place ++
        " could not be expanded" }]

end Feature

end Gherkin
