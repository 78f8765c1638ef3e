import Gherkin.Run.Runner
import Mathlib.Data.List.Forall2

/-!
# What a run of a scenario does

The steps of a scenario are run until one does not pass.  A trace lists what is done for
each of them: a step that is resolved is handed to its handler, once, and a step that is
not resolved or fails is the last that is run.  A fault that cannot say anything is no failure
of its step: the run breaks off, without a result.
-/

namespace Gherkin

/-! ## Resolving steps -/

namespace Registry

variable {c s : Type} {registry : Registry c s} {step : Step} {source : Option String}

/-- A step is resolved to a match of its own. -/
theorem step_of_resolve {found : StepMatch c}
    (resolved : registry.resolve step source = .ok found) : found.step = step := by
  rw [resolve] at resolved
  split at resolved
  · simp at resolved
  · rename_i hit hits
    obtain rfl := Except.ok.inj resolved
    have member : hit ∈ registry.hits step := hits ▸ List.mem_singleton_self hit
    obtain ⟨registration, -, applies⟩ := List.mem_filterMap.mp member
    obtain ⟨captures, -, rfl⟩ := Option.map_eq_some_iff.mp applies
    rfl
  · simp at resolved

/-- A step that is not resolved is undefined or ambiguous. -/
theorem error_of_resolve {error : StepError}
    (unresolved : registry.resolve step source = .error error) :
    error.step = step ∧ error.source = source ∧ error.problem.status ≠ .failed := by
  rw [resolve] at unresolved
  split at unresolved
  · obtain rfl := Except.error.inj unresolved
    simp [StepProblem.status]
  · simp at unresolved
  · obtain rfl := Except.error.inj unresolved
    simp [StepProblem.status]

end Registry

namespace Run

variable {c s w : Type}

/-! ## Handlers -/

/-- No fault of a handler is meant to end the whole run. -/
def Ordinary (perform : Perform c s w) : Prop :=
  ∀ found session fault, (perform found session).1 = some fault → fault.escapes = false

/-- Every fault of a handler is captured, with what it says. -/
def Contained (perform : Perform c s w) : Prop :=
  ∀ found session fault, (perform found session).1 = some fault →
    ∃ detail, fault.capture = .ok detail

theorem Contained.ordinary {perform : Perform c s w} (contained : Contained perform) :
    Ordinary perform := by
  intro found session fault raised
  obtain ⟨detail, captured⟩ := contained found session fault raised
  cases escapes : fault.escapes with
  | false => rfl
  | true => simp [Fault.capture, escapes] at captured

/-- A session with a list of calls beside the world of the handlers. -/
def withCalls (session : Session c s w) (calls : List (StepMatch c)) :
    Session c s (w × List (StepMatch c)) :=
  { session with world := (session.world, calls) }

/-- A session without the list of calls. -/
def withoutCalls (session : Session c s (w × List (StepMatch c))) : Session c s w :=
  { session with world := session.world.1 }

/-- What became of steps, in a session with a list of calls. -/
def StepsRun.withCalls (run : StepsRun c s w) (calls : List (StepMatch c)) :
    StepsRun c s (w × List (StepMatch c)) :=
  { run with session := Run.withCalls run.session calls }

/-- What became of a scenario, in a session with a list of calls. -/
def ScenarioRun.withCalls (run : ScenarioRun c s w) (calls : List (StepMatch c)) :
    ScenarioRun c s (w × List (StepMatch c)) :=
  { run with session := Run.withCalls run.session calls }

/-- Handlers that do the same, and note every call. -/
def recording (perform : Perform c s w) : Perform c s (w × List (StepMatch c)) :=
  fun found session =>
    let (fault, after) := perform found (withoutCalls session)
    (fault, withCalls after (session.world.2 ++ [found]))

/-! ## Traces -/

/-- What a run of steps does, with the calls of handlers in order. -/
inductive Trace (perform : Perform c s w) (source : Option String) :
    List Step → Session c s w → StepsRun c s w → List (StepMatch c) → Prop
  | done (session : Session c s w) : Trace perform source [] session { session } []
  | passed {first : Step} {rest : List Step} {session after : Session c s w}
      {found : StepMatch c} {run : StepsRun c s w} {calls : List (StepMatch c)}
      (resolved : session.registry.resolve first source = .ok found)
      (performed : perform found session.startMatching = (none, after))
      (later : Trace perform source rest (noteStep after first .passed) run calls) :
      Trace perform source (first :: rest) session
        { run with
          results := stepResult first .passed :: run.results
          completed := (first, stepResult first .passed) :: run.completed }
        (found :: calls)
  | unresolved {first : Step} {rest : List Step} {session : Session c s w} {error : StepError}
      (unresolved : session.registry.resolve first source = .error error) :
      Trace perform source (first :: rest) session
        (stopped first rest error session.startMatching) []
  | failed {first : Step} {rest : List Step} {session after : Session c s w}
      {found : StepMatch c} {fault : Fault} {detail : String}
      (resolved : session.registry.resolve first source = .ok found)
      (performed : perform found session.startMatching = (some fault, after))
      (captured : fault.capture = .ok detail) :
      Trace perform source (first :: rest) session
        (stopped first rest { step := first, problem := .failed fault detail, source } after)
        [found]
  | broken {first : Step} {rest : List Step} {session after : Session c s w}
      {found : StepMatch c} {fault raised : Fault}
      (resolved : session.registry.resolve first source = .ok found)
      (performed : perform found session.startMatching = (some fault, after))
      (escapes : fault.capture = .error raised) :
      Trace perform source (first :: rest) session { escaped := some raised, session := after }
        [found]

variable {perform : Perform c s w} {source : Option String}

/-! ## Every run has a trace -/

section Step

variable {first : Step} {session after : Session c s w} {found : StepMatch c}

theorem step_eq (first : Step) (session : Session c s w) :
    step perform source first session =
      match session.registry.resolve first source with
      | .error error => .stopped error session.startMatching
      | .ok found =>
          match perform found session.startMatching with
          | (none, after) => .passed after
          | (some fault, after) =>
              match fault.capture with
              | .error raised => .escaped raised after
              | .ok detail =>
                  .stopped { step := first, problem := .failed fault detail, source } after :=
  rfl

theorem step_of_unresolved {error : StepError}
    (unresolved : session.registry.resolve first source = .error error) :
    step perform source first session = .stopped error session.startMatching := by
  rw [step_eq, unresolved]

theorem step_of_passed (resolved : session.registry.resolve first source = .ok found)
    (performed : perform found session.startMatching = (none, after)) :
    step perform source first session = .passed after := by
  rw [step_eq, resolved]
  simp only [performed]

theorem step_of_failed {fault : Fault} {detail : String}
    (resolved : session.registry.resolve first source = .ok found)
    (performed : perform found session.startMatching = (some fault, after))
    (captured : fault.capture = .ok detail) :
    step perform source first session =
      .stopped { step := first, problem := .failed fault detail, source } after := by
  rw [step_eq, resolved]
  simp only [performed, captured]

theorem step_of_escaped {fault raised : Fault}
    (resolved : session.registry.resolve first source = .ok found)
    (performed : perform found session.startMatching = (some fault, after))
    (escapes : fault.capture = .error raised) :
    step perform source first session = .escaped raised after := by
  rw [step_eq, resolved]
  simp only [performed, escapes]

end Step

/-- Every run has a trace. -/
theorem exists_trace (all : List Step) (session : Session c s w) :
    ∃ calls, Trace perform source all session (steps perform source all session) calls := by
  induction all generalizing session with
  | nil => exact ⟨[], .done session⟩
  | cons first rest ih =>
      cases resolved : session.registry.resolve first source with
      | error error =>
          refine ⟨[], ?_⟩
          rw [steps, step_of_unresolved resolved]
          exact .unresolved resolved
      | ok found =>
          rcases performed : perform found session.startMatching with ⟨_ | fault, after⟩
          · obtain ⟨calls, later⟩ := ih (noteStep after first .passed)
            refine ⟨found :: calls, ?_⟩
            rw [steps, step_of_passed resolved performed]
            exact .passed resolved performed later
          · refine ⟨[found], ?_⟩
            cases captured : fault.capture with
            | error raised =>
                rw [steps, step_of_escaped resolved performed captured]
                exact .broken resolved performed captured
            | ok detail =>
                rw [steps, step_of_failed resolved performed captured]
                exact .failed resolved performed captured

/-- Nothing escapes from a run when, as long as the registry is as it should be, every fault of a
handler is captured and every handler leaves the registry so. -/
theorem escaped_steps_eq_none_of_kept (Kept : Registry c s → Prop)
    (call : ∀ (session : Session c s w) found, Kept session.registry →
      session.registry.resolve found.step source = .ok found →
        (∀ fault, (perform found session.startMatching).1 = some fault →
            ∃ detail, fault.capture = .ok detail) ∧
          Kept (perform found session.startMatching).2.registry)
    (all : List Step) {session : Session c s w} (kept : Kept session.registry) :
    (steps perform source all session).escaped = none := by
  induction all generalizing session with
  | nil => rfl
  | cons first rest ih =>
      cases resolved : session.registry.resolve first source with
      | error error =>
          rw [steps, step_of_unresolved resolved]
          rfl
      | ok found =>
          obtain rfl := Registry.step_of_resolve resolved
          obtain ⟨contained, after⟩ := call session found kept resolved
          rcases performed : perform found session.startMatching with ⟨_ | fault, reached⟩
          · rw [performed] at after
            rw [steps, step_of_passed resolved performed]
            exact ih after
          · rw [performed] at contained
            obtain ⟨detail, captured⟩ := contained fault rfl
            rw [steps, step_of_failed resolved performed captured]
            rfl

/-- When every fault is captured, nothing escapes from the run. -/
theorem escaped_steps_eq_none (contained : Contained perform) (all : List Step)
    (session : Session c s w) : (steps perform source all session).escaped = none := by
  refine escaped_steps_eq_none_of_kept (fun _ => True) ?_ all trivial
  intro session found _ _
  exact ⟨contained found session.startMatching, trivial⟩

/-! ## What a trace tells -/

/-- A problem of a step is a failure, or the step was not resolved. -/
theorem status_cases (problem : StepProblem) :
    problem.status = .failed ∨ problem.status = .undefined ∨ problem.status = .ambiguous := by
  cases problem with
  | failed => exact Or.inl rfl
  | undefined => exact Or.inr (Or.inl rfl)
  | ambiguous => exact Or.inr (Or.inr rfl)

/-- The result is that of the step. -/
def Reports (step : Step) (result : StepResult) : Prop :=
  result.keyword = step.keyword.word ∧ result.text = step.text ∧ result.line = step.line

theorem reports_stepResult (step : Step) (status : Status) (error : Option String) :
    Reports step (stepResult step status error) :=
  ⟨rfl, rfl, rfl⟩

/-- Among steps with their results, those that were run. -/
def executed (entries : List (Step × StepResult)) : List (Step × StepResult) :=
  entries.filter fun entry => entry.2.status ≠ .skipped

theorem executed_stopped (first : Step) (rest : List Step) (error : StepError)
    (session : Session c s w) :
    executed ((first :: rest).zip (stopped first rest error session).results) =
      (stopped first rest error session).completed := by
  have skipped : executed (rest.zip (rest.map (stepResult · .skipped))) = [] := by
    rw [executed, List.filter_eq_nil_iff, List.zip_map_right]
    intro entry member
    obtain ⟨⟨step, other⟩, -, rfl⟩ := List.mem_map.mp member
    simp [stepResult]
  have notSkipped : error.problem.status ≠ .skipped := by
    rcases status_cases error.problem with status | status | status <;> simp [status]
  calc
    executed ((first, stepResult first error.problem.status (some error.detail)) ::
        rest.zip (rest.map (stepResult · .skipped))) =
        (first, stepResult first error.problem.status (some error.detail)) ::
          executed (rest.zip (rest.map (stepResult · .skipped))) :=
      List.filter_cons_of_pos (decide_eq_true notSkipped)
    _ = _ := by rw [skipped]; rfl

namespace Trace

variable {all : List Step} {session : Session c s w} {run : StepsRun c s w}
  {calls : List (StepMatch c)}

/-- There is one result for each step, in order, unless the run breaks off. -/
theorem forall₂_reports (trace : Trace perform source all session run calls)
    (whole : run.escaped = none) : List.Forall₂ Reports all run.results := by
  have skipped (rest : List Step) :
      List.Forall₂ Reports rest (rest.map (stepResult · .skipped)) := by
    rw [List.forall₂_map_right_iff, List.forall₂_same]
    exact fun step _ => reports_stepResult step .skipped none
  induction trace with
  | done => exact .nil
  | passed _ _ _ ih => exact .cons (reports_stepResult _ _ _) (ih whole)
  | unresolved | failed => exact .cons (reports_stepResult _ _ _) (skipped _)
  | broken => contradiction

/-- The steps that are reported are those that were run. -/
theorem completed_eq (trace : Trace perform source all session run calls) :
    run.completed = executed (all.zip run.results) := by
  induction trace with
  | done | broken => rfl
  | passed _ _ _ ih =>
      rw [ih]
      rfl
  | unresolved | failed => exact (executed_stopped _ _ _ _).symm

/-- No error is left exactly when every step passed. -/
theorem error_eq_none_iff (trace : Trace perform source all session run calls) :
    run.error = none ↔ ∀ result ∈ run.results, result.status = .passed := by
  have notPassed (first : Step) (rest : List Step) (error : StepError) (session : Session c s w) :
      (stopped first rest error session).error = none ↔
        ∀ result ∈ (stopped first rest error session).results, result.status = .passed := by
    constructor
    · intro none
      simp [stopped] at none
    · intro all
      have status : error.problem.status = .passed := all _ List.mem_cons_self
      rcases status_cases error.problem with other | other | other <;> simp [status] at other
  induction trace with
  | done | broken => simp
  | passed _ _ _ ih => simp [ih, stepResult]
  | unresolved | failed => exact notPassed _ _ _ _

/-- The run is the one that was traced. -/
theorem steps_eq (trace : Trace perform source all session run calls) :
    steps perform source all session = run := by
  induction trace with
  | done => rfl
  | passed resolved performed _ ih => rw [steps, step_of_passed resolved performed, ← ih]
  | unresolved unresolved => rw [steps, step_of_unresolved unresolved]
  | failed resolved performed captured =>
      rw [steps, step_of_failed resolved performed captured]
  | broken resolved performed escapes =>
      rw [steps, step_of_escaped resolved performed escapes]

/-- With handlers that note their calls the same happens, and the calls of the trace are
noted. -/
theorem recording (trace : Trace perform source all session run calls)
    (noted : List (StepMatch c)) :
    Trace (Run.recording perform) source all (withCalls session noted)
      (run.withCalls (noted ++ calls)) calls := by
  have recorded {found : StepMatch c} {session after : Session c s w} {outcome : Option Fault}
      (noted : List (StepMatch c))
      (performed : perform found session.startMatching = (outcome, after)) :
      Run.recording perform found (withCalls session noted).startMatching =
        (outcome, withCalls after (noted ++ [found])) := by
    change ((perform found session.startMatching).1,
      withCalls (perform found session.startMatching).2 (noted ++ [found])) = _
    rw [performed]
  induction trace generalizing noted with
  | done session =>
      rw [List.append_nil]
      exact .done (withCalls session noted)
  | @passed first _ session _ found _ calls resolved performed later ih =>
      have stillResolved : (withCalls session noted).registry.resolve first source = .ok found :=
        resolved
      -- The call is noted in front of those of the later steps.
      have longer : noted ++ found :: calls = noted ++ [found] ++ calls := by simp
      rw [longer]
      exact .passed stillResolved (recorded noted performed) (ih (noted ++ [found]))
  | unresolved unresolved =>
      rw [List.append_nil]
      exact .unresolved unresolved
  | @failed first _ session _ found _ _ resolved performed captured =>
      have stillResolved : (withCalls session noted).registry.resolve first source = .ok found :=
        resolved
      exact .failed stillResolved (recorded noted performed) captured
  | @broken first _ session _ found _ _ resolved performed escapes =>
      have stillResolved : (withCalls session noted).registry.resolve first source = .ok found :=
        resolved
      exact .broken stillResolved (recorded noted performed) escapes

end Trace

/-! ## Scenarios -/

section Scenario

variable {background : Option Background} {feature : Option Feature} {subject : Scenario}
  {session : Session c s w} {run : StepsRun c s w} {calls : List (StepMatch c)}

/-- A scenario of which nothing escapes has a result. -/
theorem scenario_of_trace
    (trace : Trace perform (feature.bind Feature.source) (stepsOf background subject) session run
      calls) (whole : run.escaped = none) :
    scenario perform background feature subject session =
      { result := some (resultOf feature subject run)
        completed := run.completed
        escaped := none
        session :=
          { run.session with
            notes := run.session.notes ++ [scenarioNote subject.name run.error] } } := by
  simp only [scenario, trace.steps_eq, whole]

/-- A scenario has no result when a fault escapes. -/
theorem scenario_of_escaped {raised : Fault}
    (trace : Trace perform (feature.bind Feature.source) (stepsOf background subject) session run
      calls) (escaped : run.escaped = some raised) :
    scenario perform background feature subject session =
      { result := none, completed := run.completed, escaped := some (.fault raised),
        session := run.session } := by
  simp only [scenario, trace.steps_eq, escaped]

/-- With handlers that note their calls the same becomes of a scenario, and the calls of the
trace are noted. -/
theorem scenario_recording
    (trace : Trace perform (feature.bind Feature.source) (stepsOf background subject) session run
      calls) :
    scenario (recording perform) background feature subject (withCalls session []) =
      (scenario perform background feature subject session).withCalls calls := by
  have recorded := trace.recording []
  rw [scenario, scenario, trace.steps_eq, recorded.steps_eq, StepsRun.withCalls]
  cases run.escaped <;> rfl

end Scenario

end Run

end Gherkin
