import Gherkin.Feature
import Gherkin.Outline.Expansion
import Gherkin.Step.Error

/-!
# Results of runs

What became of every step, scenario and feature of a run, and the counts that
follow from it.
-/

namespace Gherkin

/-- What became of a step. -/
inductive Status where
  /-- The handler completed. -/
  | passed
  /-- The handler raised a fault. -/
  | failed
  /-- Not run, because an earlier step did not pass. -/
  | skipped
  /-- No registration applied. -/
  | undefined
  /-- Several registrations applied. -/
  | ambiguous
  deriving Repr, DecidableEq

namespace Status

/-- Every status, in the order of a summary. -/
def all : List Status := [passed, failed, skipped, undefined, ambiguous]

/-- The name of a status. -/
def name : Status → String
  | passed => "passed"
  | failed => "failed"
  | skipped => "skipped"
  | undefined => "undefined"
  | ambiguous => "ambiguous"

end Status

/-- The status of a step that did not pass. -/
def StepProblem.status : StepProblem → Status
  | undefined => .undefined
  | ambiguous _ => .ambiguous
  | failed _ _ => .failed

/-- What became of one step. -/
structure StepResult where
  keyword : String
  text : String
  status : Status
  /-- Seconds the step took. -/
  duration : Float := 0
  error : Option String := none
  line : Int := 0

/-- Why a scenario failed. -/
inductive Failure where
  | step (error : StepError)
  | expansion (error : ExpansionError)
  /-- An error known by its message only. -/
  | other (message : String)
  deriving Repr

/-- The full message of a failure. -/
def Failure.message : Failure → String
  | step error => error.message
  | expansion error => error.message
  | other message => message

/-- What became of one scenario. -/
structure ScenarioResult where
  name : String
  passed : Bool
  steps : List StepResult := []
  failure : Option Failure := none
  failedStep : Option Step := none
  /-- The tags of the feature and of the scenario. -/
  tags : List String := []
  /-- Seconds the scenario took. -/
  duration : Float := 0
  line : Int := 0
  /-- The scenario that was run; none for a row that could not be filled in. -/
  scenario : Option Scenario := none

/-- What became of the selected scenarios of one feature. -/
structure FeatureResult where
  name : String
  tags : List String := []
  source : Option String := none
  scenarios : List ScenarioResult := []
  /-- Seconds the feature took. -/
  duration : Float := 0

namespace ScenarioResult

/-- Number of steps with a status. -/
def count (result : ScenarioResult) (status : Status) : Nat :=
  result.steps.countP fun step => step.status == status

/-- The message of the failure. -/
def message (result : ScenarioResult) : Option String :=
  result.failure.map Failure.message

end ScenarioResult

/-- The numbers of all items together. -/
def sumOf {α : Type} (number : α → Nat) (items : List α) : Nat :=
  items.foldr (fun item sum => number item + sum) 0

namespace FeatureResult

/-- A feature passes when all its scenarios do. -/
def passed (result : FeatureResult) : Bool :=
  result.scenarios.all ScenarioResult.passed

/-- Number of scenarios. -/
def total (result : FeatureResult) : Nat :=
  result.scenarios.length

/-- Number of scenarios that passed. -/
def passedCount (result : FeatureResult) : Nat :=
  result.scenarios.countP ScenarioResult.passed

/-- Number of scenarios that failed. -/
def failedCount (result : FeatureResult) : Nat :=
  result.total - result.passedCount

/-- Number of steps with a status. -/
def stepCount (result : FeatureResult) (status : Status) : Nat :=
  sumOf (fun scenario => scenario.count status) result.scenarios

end FeatureResult

end Gherkin
