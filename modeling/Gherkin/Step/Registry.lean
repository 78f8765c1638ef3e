import Gherkin.Note
import Gherkin.Pattern.Match
import Gherkin.Pattern.Reader
import Gherkin.Step.Error

/-!
# Step registries

A registry is an ordered list of registrations: a pattern, the keyword it is
for, and a handler.  A step is resolved to the one registration that applies
to it; none or several are errors.  A registry is meant to be filled before
the first step is resolved, and notes it when it is filled later.

The registry also holds the instances of step classes whose methods are
registered in it, each by its own state.
-/

namespace Gherkin

/-- What is called for a step.  A method belongs to an instance of a step
class, given by its position among the instances of the registry. -/
inductive Handler (c : Type) where
  | plain (code : c)
  | method (owner : Nat) (code : c)
  deriving Repr, DecidableEq

/-- What a handler does, wherever it belongs. -/
def Handler.code {c : Type} : Handler c → c
  | .plain code | .method _ code => code

/-- A pattern with the handler for the steps that match it. -/
structure Registration (c : Type) where
  pattern : Pattern
  /-- The keyword that steps must stand for; any if there is none. -/
  keyword : Option Keyword
  handler : Handler c
  /-- The position in the registry. -/
  index : Nat
  /-- The definition it was made from, if it was made from one. -/
  definition : Option Nat := none

namespace Registration

variable {c : Type}

/-- A registration in one line. -/
def describe (registration : Registration c) : String :=
  (registration.keyword.map Keyword.word).getD "Step" ++ " /" ++
    registration.pattern.text ++ "/"

/-- What the groups of the pattern capture if the registration applies to a
step. -/
def captures? (registration : Registration c) (step : Step) : Option Pattern.Captures :=
  if registration.keyword.all (· == step.resolved) then
    registration.pattern.fullMatch step.text
  else none

end Registration

/-- A step together with the one registration that applies to it. -/
structure StepMatch (c : Type) where
  step : Step
  registration : Registration c
  captures : Pattern.Captures

/-- The captures of the groups that have names. -/
def StepMatch.named {c : Type} (found : StepMatch c) : List (String × Option String) :=
  found.registration.pattern.named found.captures

/-- Why a step could not be registered. -/
inductive RegisterError where
  /-- And and But are no keywords to register for. -/
  | conjunction (keyword : Keyword)
  /-- The pattern cannot be read. -/
  | pattern (error : Pattern.Error)
  deriving Repr, DecidableEq

/-- The wording of a registration error. -/
def RegisterError.message : RegisterError → String
  | conjunction keyword =>
      "Keyword constraint must be Given, When, Then or ANY, got Keyword." ++
        keyword.word.map Char.toUpper
  | pattern error =>
      "Invalid step pattern " ++ Text.quoted error.pattern ++ ": " ++ error.message

/-- An ordered list of registrations. -/
structure Registry (c s : Type) where
  registrations : List (Registration c) := []
  /-- The states of the instances of step classes. -/
  instances : List s := []
  /-- Whether a step has been resolved since the registry was last emptied. -/
  matchingStarted : Bool := false

/-- The outcome of a registration: what the registry became, the notes made, and
why it was refused, if it was. -/
structure Registered (c s : Type) where
  registry : Registry c s
  notes : List Note := []
  refusal : Option RegisterError := none

namespace Registry

variable {c s : Type}

/-- Number of registrations. -/
def size (registry : Registry c s) : Nat :=
  registry.registrations.length

/-- The note on a step that is registered after a step was resolved. -/
def lateNote (pattern : String) : Note :=
  { level := .warning, origin := .registry
    text := "Step " ++ Text.quoted pattern ++
      " registered after matching started; registration during a run is unsupported" }

/-- The note on a registration. -/
def addedNote (registration : Registration c) : Note :=
  { level := .debug, origin := .registry, text := "Registered " ++ registration.describe }

/-- Register a handler for the steps that match a pattern. -/
def register [Pattern.CharNames] (registry : Registry c s) (text : String)
    (keyword : Option Keyword) (handler : Handler c) (definition : Option Nat := none) :
    Registered c s :=
  match keyword.filter Keyword.isConjunction with
  | some conjunction => { registry, refusal := some (.conjunction conjunction) }
  | none =>
      match Pattern.read text with
      | .error error => { registry, refusal := some (.pattern error) }
      | .ok pattern =>
          let registration : Registration c :=
            { pattern, keyword, handler, index := registry.size, definition }
          { registry :=
              { registry with registrations := registry.registrations ++ [registration] }
            notes :=
              (if registry.matchingStarted then [lateNote text] else []) ++
                [addedNote registration] }

/-- Remove all registrations, and begin anew. -/
def reset (_ : Registry c s) : Registry c s := {}

/-- Note that a step is resolved. -/
def startMatching (registry : Registry c s) : Registry c s :=
  { registry with matchingStarted := true }

/-- The registrations that apply to a step, in order. -/
def hits (registry : Registry c s) (step : Step) : List (StepMatch c) :=
  registry.registrations.filterMap fun registration =>
    (registration.captures? step).map fun captures => { step, registration, captures }

/-- Resolve a step to the one registration that applies to it. -/
def resolve (registry : Registry c s) (step : Step) (source : Option String := none) :
    Except StepError (StepMatch c) :=
  match registry.hits step with
  | [] => .error { step, problem := .undefined, source }
  | [found] => .ok found
  | several =>
      .error
        { step
          problem := .ambiguous (several.map fun found => found.registration.pattern.text)
          source }

end Registry

end Gherkin
