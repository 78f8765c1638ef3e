import Gherkin.Json
import Gherkin.Path.Load
import Gherkin.Report.Console
import Gherkin.Selection

/-!
# Plans

The plan of a run: for every feature the entries that the run would execute,
with their tags and steps, or with the reason why a row could not be filled in.
-/

namespace Gherkin

/-- One planned entry. -/
structure PlannedScenario where
  name : String
  tags : List String
  line : Int
  /-- The steps of the scenario, or why there are none. -/
  content : Except String (List String)

/-- The planned entries of one feature. -/
structure FeaturePlan where
  name : String
  source : Option String
  backgroundSteps : Nat
  scenarios : List PlannedScenario

namespace PlannedScenario

/-- The plan of an entry. -/
def ofEntry (feature : Feature) (entry : Entry) : PlannedScenario :=
  { name := entry.name
    tags := entry.tags feature
    line := entry.line
    content :=
      match entry with
      | .plain scenario | .filled _ scenario => .ok (scenario.steps.map Step.title)
      | .failed _ error => .error error.message }

/-- The plan of an entry as a document. -/
def toJson (planned : PlannedScenario) : Json :=
  .object
    [("name", .string planned.name), ("tags", .strings planned.tags),
      ("source_line", .int planned.line),
      match planned.content with
      | .ok steps => ("steps", .strings steps)
      | .error message => ("error", .string message)]

/-- The lines on an entry, with its number. -/
def lines (number : Nat) (planned : PlannedScenario) : List String :=
  ("  [" ++ toString number ++ "] " ++ planned.name ++ tagSuffix planned.tags) ::
    match planned.content with
    | .ok steps => steps.map ("        " ++ ·)
    | .error message => ["        Error: " ++ message]

end PlannedScenario

namespace FeaturePlan

/-- The plan of a feature: the entries that the selection allows. -/
def ofFeature (selection : Selection) (feature : Feature) : FeaturePlan :=
  { name := feature.name
    source := feature.source
    backgroundSteps := feature.backgroundSteps.length
    scenarios :=
      (selection.select feature feature.entries).map (PlannedScenario.ofEntry feature) }

/-- The plan of a feature as a document. -/
def toJson (plan : FeaturePlan) : Json :=
  .object
    [("feature", .string plan.name), ("source_file", .ofOption plan.source),
      ("background_steps", .nat plan.backgroundSteps),
      ("scenarios", .array (plan.scenarios.map PlannedScenario.toJson))]

/-- The lines on a feature and its entries, which are numbered from 1. -/
def lines (plan : FeaturePlan) : List String :=
  ["", "Feature: " ++ plan.name ++ " (" ++ plan.source.getD "None" ++ ")"] ++
    (plan.scenarios.zipIdx 1).flatMap fun (planned, number) => planned.lines number

/-- Several plans as a document. -/
def render (plans : List FeaturePlan) : String :=
  (Json.array (plans.map toJson)).render 2

/-- The lines of several plans. -/
def allLines (plans : List FeaturePlan) : List String :=
  [consoleRule, "GHERKIN PLAN", consoleRule] ++ plans.flatMap lines ++
    ["", "Total scenarios: " ++
      toString (sumOf (fun plan => plan.scenarios.length) plans)]

end FeaturePlan

namespace Feature

/-- An integer at the right of four columns. -/
def alignedLine (line : Int) : String :=
  let text := toString line
  String.ofList (List.replicate (4 - text.length) ' ') ++ text

/-- The lines that list a feature and all its entries. -/
def listing (feature : Feature) : List String :=
  (feature.source.getD "None" ++ ": Feature: " ++ feature.name) ::
    feature.entries.map fun entry =>
      "  " ++ alignedLine entry.line ++ "  " ++ entry.name ++
        if entry.ok then "" else "  [expansion error]"

end Feature

end Gherkin
