import Gherkin.Keyword
import Gherkin.Record

/-!
# Features

The content of one feature file: a feature with its background, and its
scenarios and scenario outlines in the order of the file.  A scenario is a
list of steps; an outline is a list of steps with placeholders, to be filled
in from the rows of its examples.
-/

namespace Gherkin

/-- Rows of cells attached to a step. -/
structure DataTable where
  rows : List (List String)
  deriving Repr, DecidableEq, Inhabited

/-- Free text attached to a step, and the name of its content type. -/
structure DocString where
  content : String
  contentType : Option String := none
  deriving Repr, DecidableEq, Inhabited

/-- One step. -/
structure Step where
  /-- The keyword as written. -/
  keyword : Keyword
  text : String
  /-- What the keyword stands for in its block. -/
  resolved : Keyword
  table : Option DataTable := none
  doc : Option DocString := none
  line : Int := 0
  deriving Repr, DecidableEq

/-- Steps that run before those of every scenario. -/
structure Background where
  steps : List Step := []
  line : Int := 0
  deriving Repr, DecidableEq, Inhabited

/-- A scenario that can be run as it stands. -/
structure Scenario where
  name : String
  tags : List String := []
  steps : List Step := []
  line : Int := 0
  deriving Repr, DecidableEq, Inhabited

/-- One block of examples: column names and rows of values. -/
structure Examples where
  header : List String
  rows : List (List String) := []
  tags : List String := []
  line : Int := 0
  deriving Repr, DecidableEq, Inhabited

/-- A scenario with placeholders, to be run once for each row of examples. -/
structure Outline where
  name : String
  tags : List String := []
  steps : List Step := []
  examples : List Examples := []
  line : Int := 0
  deriving Repr, DecidableEq, Inhabited

/-- What a feature is made of. -/
inductive Definition where
  | scenario (scenario : Scenario)
  | outline (outline : Outline)
  deriving Repr, DecidableEq

/-- The content of one feature file. -/
structure Feature where
  name : String
  /-- The lines of free text under the feature's name. -/
  description : List String := []
  tags : List String := []
  background : Option Background := none
  definitions : List Definition := []
  /-- The file the feature was read from. -/
  source : Option String := none
  deriving Repr, DecidableEq

namespace DataTable

/-- The first row, read as column names. -/
def headers (table : DataTable) : List String :=
  table.rows.headD []

/-- The rows under the first. -/
def dataRows (table : DataTable) : List (List String) :=
  table.rows.drop 1

/-- The rows under the first, each as a record of the column names.  A short
row leaves columns out. -/
def records (table : DataTable) : List (Record String) :=
  table.dataRows.map fun row => Record.ofPairs (table.headers.zip row)

/-- Number of rows, the first included. -/
def size (table : DataTable) : Nat :=
  table.rows.length

end DataTable

/-- The step as it is written. -/
def Step.title (step : Step) : String :=
  step.keyword.word ++ " " ++ step.text

namespace Definition

/-- The name of a scenario or an outline. -/
def name : Definition → String
  | .scenario s => s.name
  | .outline o => o.name

/-- The line of a scenario's or an outline's header. -/
def line : Definition → Int
  | .scenario s => s.line
  | .outline o => o.line

/-- The tags above a scenario's or an outline's header. -/
def tags : Definition → List String
  | .scenario s => s.tags
  | .outline o => o.tags

/-- The steps of a scenario or an outline. -/
def steps : Definition → List Step
  | .scenario s => s.steps
  | .outline o => o.steps

/-- The scenario that a definition is as it stands; of an outline, the one with
its placeholders. -/
def asScenario : Definition → Scenario
  | .scenario s => s
  | .outline o => { name := o.name, tags := o.tags, steps := o.steps, line := o.line }

/-- The outline, if the definition is one. -/
def outline? : Definition → Option Outline
  | .scenario _ => none
  | .outline o => some o

end Definition

namespace Feature

/-- The outlines of a feature. -/
def outlines (feature : Feature) : List Outline :=
  feature.definitions.filterMap Definition.outline?

/-- The steps that run before every scenario. -/
def backgroundSteps (feature : Feature) : List Step :=
  (feature.background.map Background.steps).getD []

end Feature

/-- A place in a source, for messages. -/
def location (source : Option String) (line : Int) : String :=
  let file := match source with
    | none => "<string>"
    | some name => if name.isEmpty then "<string>" else name
  file ++ ":" ++ toString line

end Gherkin
