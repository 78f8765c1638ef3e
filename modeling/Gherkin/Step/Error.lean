import Gherkin.Fault
import Gherkin.Feature
import Gherkin.Text.Quoted

/-!
# Errors of steps

A step that does not pass is undefined, ambiguous, or its handler failed.
-/

namespace Gherkin

/-- Why a step did not pass. -/
inductive StepProblem where
  /-- No registration matches. -/
  | undefined
  /-- Several registrations match. -/
  | ambiguous (patterns : List String)
  /-- The handler raised a fault, which said something. -/
  | failed (fault : Fault) (detail : String)
  deriving Repr

/-- A step that did not pass. -/
structure StepError where
  step : Step
  problem : StepProblem
  source : Option String := none
  deriving Repr

namespace StepError

/-- The patterns of an ambiguous step, numbered from 1. -/
def listing (patterns : List String) : String :=
  "; ".intercalate ((patterns.zipIdx 1).map fun (pattern, number) =>
    toString number ++ ". " ++ Text.quoted pattern)

/-- What is wrong, without the place. -/
def detail (error : StepError) : String :=
  match error.problem with
  | .undefined => "Undefined step: " ++ error.step.title
  | .ambiguous patterns =>
      "Ambiguous step: " ++ error.step.title ++ " matches " ++
        toString patterns.length ++ " definitions: " ++ listing patterns
  | .failed _ detail => "Step failed: " ++ error.step.title ++ ": " ++ detail

/-- The place of the step. -/
def place (error : StepError) : String :=
  location error.source error.step.line

/-- The full message: the place, then what is wrong. -/
def message (error : StepError) : String :=
  error.place ++ ": " ++ error.detail

end StepError

end Gherkin
