import Gherkin.Run.Result
import Gherkin.Selection
import Gherkin.Step.Filling

/-!
# Running scenarios

The steps of a scenario are run in order, those of the background first.  The
first step that is undefined, ambiguous or fails ends the scenario, and every
later step is skipped.  What a handler does is given from outside: a function
that may change the registry and a world of its own.  A fault that it raises is
the failure of the step, with what it says; the run ends when the fault is no
failure, or cannot say anything.  Time is not measured, so every duration is zero.
-/

namespace Gherkin

/-- What handlers can see and change: the registry in use, a world of their
own, and the notes that were made. -/
structure Session (c s w : Type) where
  registry : Registry c s := {}
  world : w
  notes : List Note := []

/-- The session in which a step is resolved. -/
def Session.startMatching {c s w : Type} (session : Session c s w) : Session c s w :=
  { session with registry := session.registry.startMatching }

/-- What handlers do: they complete, or raise a fault. -/
abbrev Perform (c s w : Type) :=
  StepMatch c → Session c s w → Option Fault × Session c s w

/-- Why a run ended early. -/
inductive Escape where
  /-- A fault that is no failure of a step. -/
  | fault (raised : Fault)
  /-- There is no registry to run with. -/
  | noRegistry
  /-- A registration was refused while a registry was built. -/
  | registration (error : RegisterError)
  deriving Repr

/-- What escapes when a registry cannot be built. -/
def FillingError.escape : FillingError → Escape
  | refused error => .registration error
  | raised fault => .fault fault

/-- The wording of what escaped a run. -/
def Escape.message : Escape → String
  | fault raised => raised.shown
  | noRegistry => "ScenarioRunner needs a registry or a registry_factory"
  | registration error => error.message

namespace Run

variable {c s w : Type}

/-- What became of one step. -/
inductive StepOutcome (c s w : Type) where
  | passed (session : Session c s w)
  | stopped (error : StepError) (session : Session c s w)
  | escaped (fault : Fault) (session : Session c s w)

/-- Run one step. -/
def step (perform : Perform c s w) (source : Option String) (step : Step)
    (session : Session c s w) : StepOutcome c s w :=
  let session := session.startMatching
  match session.registry.resolve step source with
  | .error error => .stopped error session
  | .ok found =>
      match perform found session with
      | (none, session) => .passed session
      | (some fault, session) =>
          match fault.capture with
          | .error raised => .escaped raised session
          | .ok detail => .stopped { step, problem := .failed fault detail, source } session

/-- The result of a step. -/
def stepResult (step : Step) (status : Status) (error : Option String := none) :
    StepResult :=
  { keyword := step.keyword.word, text := step.text, status, error, line := step.line }

/-- A note of the runner. -/
def note (level : Level) (text : String) : Note :=
  { level, origin := .run, text }

/-- Add the note on a step that was run. -/
def noteStep (session : Session c s w) (step : Step) (status : Status) : Session c s w :=
  { session with
    notes := session.notes ++ [note .debug (step.title ++ ": " ++ status.name)] }

/-- What became of the steps of a scenario.  When a fault escapes, the results
are those of the steps before it. -/
structure StepsRun (c s w : Type) where
  results : List StepResult := []
  /-- The steps that were run, each reported with its result as soon as it is complete. -/
  completed : List (Step × StepResult) := []
  /-- The first step that did not pass. -/
  error : Option StepError := none
  escaped : Option Fault := none
  session : Session c s w

/-- What becomes of steps when the first of them does not pass: the others are skipped. -/
def stopped (first : Step) (rest : List Step) (error : StepError) (session : Session c s w) :
    StepsRun c s w :=
  let status := error.problem.status
  let result := stepResult first status (some error.detail)
  { results := result :: rest.map (stepResult · .skipped)
    completed := [(first, result)]
    error := some error
    session := noteStep session first status }

/-- Run steps in order, up to the first that does not pass. -/
def steps (perform : Perform c s w) (source : Option String) :
    List Step → Session c s w → StepsRun c s w
  | [], session => { session }
  | first :: rest, session =>
      match step perform source first session with
      | .passed session =>
          let later := steps perform source rest (noteStep session first .passed)
          let result := stepResult first .passed
          { later with
            results := result :: later.results
            completed := (first, result) :: later.completed }
      | .stopped error session => stopped first rest error session
      | .escaped fault session => { escaped := some fault, session }

/-- What became of a scenario.  There is a result unless a fault escaped. -/
structure ScenarioRun (c s w : Type) where
  result : Option ScenarioResult
  /-- The steps that were run, with their results, in order. -/
  completed : List (Step × StepResult)
  escaped : Option Escape
  session : Session c s w

/-- The note on a scenario that was run. -/
def scenarioNote (name : String) (error : Option StepError) : Note :=
  match error with
  | none => note .info ("Scenario passed: " ++ name)
  | some error => note .info ("Scenario failed: " ++ name ++ " (" ++ error.message ++ ")")

/-- The steps of the background and of the scenario. -/
def stepsOf (background : Option Background) (scenario : Scenario) : List Step :=
  (background.map Background.steps).getD [] ++ scenario.steps

/-- The result of a scenario whose steps were run. -/
def resultOf (feature : Option Feature) (scenario : Scenario) (run : StepsRun c s w) :
    ScenarioResult :=
  { name := scenario.name
    passed := run.error.isNone
    steps := run.results
    failure := run.error.map Failure.step
    failedStep := run.error.map StepError.step
    tags := match feature with
      | some feature => Tag.combine [feature.tags, scenario.tags]
      | none => scenario.tags
    line := scenario.line
    scenario := some scenario }

/-- Run a scenario with the registry of the session. -/
def scenario (perform : Perform c s w) (background : Option Background)
    (feature : Option Feature) (scenario : Scenario) (session : Session c s w) :
    ScenarioRun c s w :=
  let run := steps perform (feature.bind Feature.source) (stepsOf background scenario) session
  match run.escaped with
  | some fault =>
      { result := none, completed := run.completed, escaped := some (.fault fault),
        session := run.session }
  | none =>
      { result := some (resultOf feature scenario run)
        completed := run.completed
        escaped := none
        session :=
          { run.session with
            notes := run.session.notes ++ [scenarioNote scenario.name run.error] } }

/-- Where the registries of a run come from. -/
inductive Supply (c s w : Type) where
  /-- There is none. -/
  | missing
  /-- All scenarios share the registry of the session. -/
  | shared
  /-- Every scenario gets a registry that is built for it. -/
  | fresh (build : Session c s w → Filling c s w)

/-- A session at the start of a scenario that has a registry of its own. -/
def renewed (session : Session c s w) (built : Filling c s w) : Session c s w :=
  { registry := built.registry, world := built.world, notes := session.notes ++ built.notes }

/-- Run a scenario with a registry from the supply. -/
def supplied (perform : Perform c s w) (supply : Supply c s w)
    (background : Option Background) (feature : Option Feature) (subject : Scenario)
    (session : Session c s w) : ScenarioRun c s w :=
  match supply with
  | .missing => { result := none, completed := [], escaped := some .noRegistry, session }
  | .shared => scenario perform background feature subject session
  | .fresh build =>
      let built := build session
      let session := renewed session built
      match built.error with
      | some error => { result := none, completed := [], escaped := some error.escape, session }
      | none => scenario perform background feature subject session

/-- The result of a row that could not be filled in. -/
def expansionFailure (feature : Feature) (entry : Entry) (error : ExpansionError) :
    ScenarioResult :=
  { name := error.name, passed := false, failure := some (.expansion error)
    tags := entry.tags feature, line := entry.line }

/-- Run one entry of a feature. -/
def entry (perform : Perform c s w) (supply : Supply c s w) (feature : Feature)
    (subject : Entry) (session : Session c s w) : ScenarioRun c s w :=
  match subject with
  | .failed _ error =>
      { result := some (expansionFailure feature subject error), completed := [],
        escaped := none, session }
  | .plain scenario | .filled _ scenario =>
      supplied perform supply feature.background (some feature) scenario session

/-- What became of several entries. -/
structure EntriesRun (c s w : Type) where
  results : List ScenarioResult := []
  completed : List (Step × StepResult) := []
  escaped : Option Escape := none
  session : Session c s w

/-- Run entries in order.  Only what escapes ends the run early. -/
def entries (perform : Perform c s w) (supply : Supply c s w) (feature : Feature) :
    List Entry → Session c s w → EntriesRun c s w
  | [], session => { session }
  | first :: rest, session =>
      let run := entry perform supply feature first session
      match run.result with
      | none =>
          { completed := run.completed, escaped := run.escaped, session := run.session }
      | some result =>
          let later := entries perform supply feature rest run.session
          { later with
            results := result :: later.results
            completed := run.completed ++ later.completed }

/-- The note on a feature that was run. -/
def featureNote (result : FeatureResult) : Note :=
  note .info ("Feature " ++ Text.quoted result.name ++ ": " ++
    toString result.passedCount ++ "/" ++ toString result.total ++ " scenario(s) passed")

/-- What became of a feature.  There is a result unless something escaped. -/
structure FeatureRun (c s w : Type) where
  result : Option FeatureResult
  completed : List (Step × StepResult)
  escaped : Option Escape
  session : Session c s w

/-- Expand a feature, and run the selected entries. -/
def feature (perform : Perform c s w) (supply : Supply c s w) (selection : Selection)
    (subject : Feature) (session : Session c s w) : FeatureRun c s w :=
  let session := { session with notes := session.notes ++ subject.expansionNotes }
  let run := entries perform supply subject (selection.select subject subject.entries) session
  match run.escaped with
  | some escape =>
      { result := none, completed := run.completed, escaped := some escape,
        session := run.session }
  | none =>
      let result : FeatureResult :=
        { name := subject.name, tags := subject.tags, source := subject.source,
          scenarios := run.results }
      { result := some result
        completed := run.completed
        escaped := none
        session := { run.session with notes := run.session.notes ++ [featureNote result] } }

end Run

end Gherkin
