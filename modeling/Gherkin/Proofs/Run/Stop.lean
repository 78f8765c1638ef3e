import Gherkin.Proofs.Run.Trace

/-!
# Where a run of a scenario stops

All steps of a scenario pass, or the run stops at the first that does not and skips the later
ones.  It has a result in both cases.  It has none when it breaks off: the handler of the first
step that does not pass raised a fault that raises another one when it is asked for its text.
-/

namespace Gherkin

namespace Run

variable {c s w : Type} {perform : Perform c s w} {source : Option String}

/-! ## Where a run stops -/

/-- A step passes in a session: it is resolved, and its handler completes. -/
def Passes (perform : Perform c s w) (source : Option String) (session : Session c s w)
    (step : Step) : Prop :=
  ∃ found, session.registry.resolve step source = .ok found ∧
    (perform found session.startMatching).1 = none

/-- A step does not pass in a session: it is not resolved, or its handler raises a fault, which is
captured with what it says. -/
def StopsWith (perform : Perform c s w) (source : Option String) (session : Session c s w)
    (step : Step) (error : StepError) : Prop :=
  session.registry.resolve step source = .error error ∨
    ∃ found fault detail, session.registry.resolve step source = .ok found ∧
      (perform found session.startMatching).1 = some fault ∧ fault.capture = .ok detail ∧
      error = { step, problem := .failed fault detail, source }

/-- A fault escapes from a step in a session: its handler raises a fault that is not captured. -/
def EscapesWith (perform : Perform c s w) (source : Option String) (session : Session c s w)
    (step : Step) (raised : Fault) : Prop :=
  ∃ found fault, session.registry.resolve step source = .ok found ∧
    (perform found session.startMatching).1 = some fault ∧ fault.capture = .error raised

/-- A step breaks the run off in a session: its handler raises a fault, which raises another one
when it is asked for its text. -/
def BreaksWith (perform : Perform c s w) (source : Option String) (session : Session c s w)
    (step : Step) (raised : Fault) : Prop :=
  ∃ found fault, session.registry.resolve step source = .ok found ∧
    (perform found session.startMatching).1 = some fault ∧ fault.text = .error raised

/-- When no fault is meant to end the whole run, only a fault without a text lets one escape. -/
theorem Ordinary.escapesWith_iff (ordinary : Ordinary perform) {session : Session c s w}
    {step : Step} {raised : Fault} :
    EscapesWith perform source session step raised ↔
      BreaksWith perform source session step raised := by
  refine exists_congr fun found => exists_congr fun fault => and_congr_right fun _ =>
    and_congr_right fun isRaised => ?_
  rw [Fault.capture, ordinary found _ fault isRaised, Fault.detail]
  cases fault.text <;> simp [Except.map]

theorem Contained.not_breaksWith (contained : Contained perform) {session : Session c s w}
    {step : Step} {raised : Fault} : ¬BreaksWith perform source session step raised := by
  intro breaks
  obtain ⟨found, fault, -, isRaised, escapes⟩ := contained.ordinary.escapesWith_iff.mpr breaks
  obtain ⟨detail, captured⟩ := contained found _ fault isRaised
  rw [escapes] at captured
  contradiction

/-- Each step passes in the session that the steps before it lead to. -/
def EachPasses (perform : Perform c s w) (source : Option String) (session : Session c s w)
    (all : List Step) : Prop :=
  ∀ before step after, all = before ++ step :: after →
    Passes perform source (steps perform source before session).session step

/-- A run stopped at a step: those before it passed, those after it are skipped, and the
error says of the step what its result says.  Handlers were called for the steps before it,
and for the step itself exactly when it was resolved in the session that was reached. -/
structure StoppedAt (perform : Perform c s w) (source : Option String) (session : Session c s w)
    (before : List Step) (stop : Step) (after : List Step) (error : StepError)
    (results : List StepResult) (calls : List (StepMatch c)) : Prop where
  results : results = before.map (stepResult · .passed) ++
    stepResult stop error.problem.status (some error.detail) :: after.map (stepResult · .skipped)
  status : error.problem.status = .failed ∨ error.problem.status = .undefined ∨
    error.problem.status = .ambiguous
  step : error.step = stop
  message : error.message = location source stop.line ++ ": " ++ error.detail
  calls : calls.map StepMatch.step =
    before ++ if error.problem.status = .failed then [stop] else []
  resolved : error.problem.status = .failed ↔
    ∃ found, (steps perform source before session).session.registry.resolve stop source = .ok found
  passes : EachPasses perform source session before
  cause : StopsWith perform source (steps perform source before session).session stop error

theorem eachPasses_nil (session : Session c s w) : EachPasses perform source session [] := by
  intro before step after split
  simp at split

theorem EachPasses.cons {first : Step} {rest : List Step} {session reached : Session c s w}
    {found : StepMatch c} (resolved : session.registry.resolve first source = .ok found)
    (performed : perform found session.startMatching = (none, reached))
    (later : EachPasses perform source (noteStep reached first .passed) rest) :
    EachPasses perform source session (first :: rest) := by
  intro before step after split
  cases before with
  | nil =>
      obtain ⟨rfl, -⟩ := List.cons.inj split
      exact ⟨found, resolved, congrArg Prod.fst performed⟩
  | cons other before =>
      obtain ⟨rfl, restSplit⟩ := List.cons.inj split
      rw [steps, step_of_passed resolved performed]
      exact later before step after restSplit

/-- A step that is not resolved stops the run. -/
theorem stoppedAt_of_unresolved {stop : Step} {session : Session c s w} {error : StepError}
    (unresolved : session.registry.resolve stop source = .error error) (after : List Step) :
    StoppedAt perform source session [] stop after error
      (stopped stop after error session.startMatching).results [] := by
  obtain ⟨step, errorSource, notFailed⟩ := Registry.error_of_resolve unresolved
  exact {
    results := rfl
    status := status_cases error.problem
    step
    message := by rw [StepError.message, StepError.place, step, errorSource]
    calls := by rw [if_neg notFailed]; rfl
    resolved := by
      constructor
      · exact fun failed => absurd failed notFailed
      · rintro ⟨found, resolved⟩
        simp [steps, unresolved] at resolved
    passes := eachPasses_nil session
    cause := Or.inl unresolved }

/-- A step that fails stops the run. -/
theorem stoppedAt_of_failed {stop : Step} {session reached : Session c s w} {found : StepMatch c}
    {fault : Fault} {detail : String}
    (resolved : session.registry.resolve stop source = .ok found)
    (performed : perform found session.startMatching = (some fault, reached))
    (captured : fault.capture = .ok detail) (after : List Step) :
    StoppedAt perform source session [] stop after
      { step := stop, problem := .failed fault detail, source }
      (stopped stop after { step := stop, problem := .failed fault detail, source }
        reached).results
      [found] where
  results := rfl
  status := Or.inl rfl
  step := rfl
  message := rfl
  calls := congrArg ([·]) (Registry.step_of_resolve resolved)
  resolved := ⟨fun _ => ⟨found, resolved⟩, fun _ => rfl⟩
  passes := eachPasses_nil session
  cause :=
    Or.inr ⟨found, fault, detail, resolved, congrArg Prod.fst performed, captured, rfl⟩

/-- A run that stops after a step passed stops at the same step. -/
theorem StoppedAt.cons {first stop : Step} {before after : List Step}
    {session reached : Session c s w} {found : StepMatch c} {error : StepError}
    {results : List StepResult} {calls : List (StepMatch c)}
    (resolved : session.registry.resolve first source = .ok found)
    (performed : perform found session.startMatching = (none, reached))
    (later : StoppedAt perform source (noteStep reached first .passed) before stop after error
      results calls) :
    StoppedAt perform source session (first :: before) stop after error
      (stepResult first .passed :: results) (found :: calls) := by
  have reachedEq : (steps perform source (first :: before) session).session =
      (steps perform source before (noteStep reached first .passed)).session := by
    rw [steps, step_of_passed resolved performed]
  exact {
    results := by rw [later.results]; rfl
    status := later.status
    step := later.step
    message := later.message
    calls := by rw [List.map_cons, later.calls, Registry.step_of_resolve resolved]; rfl
    resolved := by rw [reachedEq]; exact later.resolved
    passes := later.passes.cons resolved performed
    cause := by rw [reachedEq]; exact later.cause }

/-- A run broke off at a step: those before it passed and are reported, and handlers were called
for them and for the step itself. -/
structure BrokenAt (perform : Perform c s w) (source : Option String) (session : Session c s w)
    (before : List Step) (stop : Step) (raised : Fault) (completed : List (Step × StepResult))
    (calls : List (StepMatch c)) : Prop where
  completed : completed = before.map fun step => (step, stepResult step .passed)
  calls : calls.map StepMatch.step = before ++ [stop]
  passes : EachPasses perform source session before
  cause : EscapesWith perform source (steps perform source before session).session stop raised

/-- A run that breaks off after a step passed breaks off at the same step. -/
theorem BrokenAt.cons {first stop : Step} {before : List Step}
    {session reached : Session c s w} {found : StepMatch c} {raised : Fault}
    {completed : List (Step × StepResult)} {calls : List (StepMatch c)}
    (resolved : session.registry.resolve first source = .ok found)
    (performed : perform found session.startMatching = (none, reached))
    (later : BrokenAt perform source (noteStep reached first .passed) before stop raised completed
      calls) :
    BrokenAt perform source session (first :: before) stop raised
      ((first, stepResult first .passed) :: completed) (found :: calls) where
  completed := by rw [later.completed]; rfl
  calls := by rw [List.map_cons, later.calls, Registry.step_of_resolve resolved]; rfl
  passes := later.passes.cons resolved performed
  cause := by
    rw [steps, step_of_passed resolved performed]
    exact later.cause

/-- All steps pass, or the run stops at one of them, or it breaks off at one. -/
theorem Trace.outcome {all : List Step} {session : Session c s w} {run : StepsRun c s w}
    {calls : List (StepMatch c)} (trace : Trace perform source all session run calls) :
    (run.escaped = none ∧ run.error = none ∧ run.results = all.map (stepResult · .passed) ∧
        calls.map StepMatch.step = all ∧ EachPasses perform source session all) ∨
      (∃ before stop after error, all = before ++ stop :: after ∧
        run.escaped = none ∧ run.error = some error ∧
        StoppedAt perform source session before stop after error run.results calls) ∨
      ∃ before stop after raised, all = before ++ stop :: after ∧ run.escaped = some raised ∧
        BrokenAt perform source session before stop raised run.completed calls := by
  induction trace with
  | done session => exact Or.inl ⟨rfl, rfl, rfl, rfl, eachPasses_nil session⟩
  | @passed first rest session reached found run calls resolved performed later ih =>
      rcases ih with ⟨whole, noError, results, called, passes⟩ |
        ⟨before, stop, after, error, split, whole, failed, stops⟩ |
        ⟨before, stop, after, raised, split, escaped, breaks⟩
      · left
        refine ⟨whole, noError, congrArg (stepResult first .passed :: ·) results, ?_,
          passes.cons resolved performed⟩
        rw [List.map_cons, called, Registry.step_of_resolve resolved]
      · right; left
        exact ⟨first :: before, stop, after, error, congrArg (first :: ·) split, whole, failed,
          stops.cons resolved performed⟩
      · right; right
        exact ⟨first :: before, stop, after, raised, congrArg (first :: ·) split, escaped,
          breaks.cons resolved performed⟩
  | @unresolved first rest session error unresolved =>
      exact Or.inr (Or.inl
        ⟨[], first, rest, error, rfl, rfl, rfl, stoppedAt_of_unresolved unresolved rest⟩)
  | @failed first rest session reached found fault detail resolved performed captured =>
      exact Or.inr (Or.inl
        ⟨[], first, rest, _, rfl, rfl, rfl, stoppedAt_of_failed resolved performed captured rest⟩)
  | @broken first rest session reached found fault raised resolved performed escapes =>
      refine Or.inr (Or.inr ⟨[], first, rest, raised, rfl, rfl, rfl, ?_, eachPasses_nil session,
        found, fault, resolved, congrArg Prod.fst performed, escapes⟩)
      exact congrArg ([·]) (Registry.step_of_resolve resolved)

theorem EachPasses.uncons {first : Step} {rest : List Step} {session : Session c s w}
    (passes : EachPasses perform source session (first :: rest)) :
    ∃ found reached, session.registry.resolve first source = .ok found ∧
      perform found session.startMatching = (none, reached) ∧
      EachPasses perform source (noteStep reached first .passed) rest := by
  obtain ⟨found, resolved, completes⟩ : ∃ found,
      session.registry.resolve first source = .ok found ∧
        (perform found session.startMatching).1 = none := passes [] first rest rfl
  rcases performed : perform found session.startMatching with ⟨outcome, reached⟩
  obtain rfl : outcome = none := (congrArg Prod.fst performed).symm.trans completes
  refine ⟨found, reached, resolved, performed, ?_⟩
  intro before step after split
  have later := passes (first :: before) step after (congrArg (first :: ·) split)
  rwa [steps, step_of_passed resolved performed] at later

/-- The run breaks off at its first step if a fault escapes from that. -/
theorem Trace.broken_of_first {first : Step} {rest : List Step} {session : Session c s w}
    {run : StepsRun c s w} {calls : List (StepMatch c)} {raised : Fault}
    (trace : Trace perform source (first :: rest) session run calls)
    (escapes : EscapesWith perform source session first raised) :
    run.escaped = some raised ∧ run.completed = [] ∧ calls.map StepMatch.step = [first] := by
  obtain ⟨found, fault, resolved, isRaised, escapes⟩ := escapes
  cases trace with
  | unresolved unresolved => simp [resolved] at unresolved
  | passed alsoResolved performed =>
      obtain rfl := Except.ok.inj (resolved.symm.trans alsoResolved)
      simp [performed] at isRaised
  | failed alsoResolved performed captured =>
      obtain rfl := Except.ok.inj (resolved.symm.trans alsoResolved)
      rw [performed, Option.some.injEq] at isRaised
      simp [isRaised, escapes] at captured
  | broken alsoResolved performed alsoEscapes =>
      obtain rfl := Except.ok.inj (resolved.symm.trans alsoResolved)
      rw [performed, Option.some.injEq] at isRaised
      obtain rfl := isRaised
      obtain rfl := Except.error.inj (escapes.symm.trans alsoEscapes)
      exact ⟨rfl, rfl, congrArg ([·]) (Registry.step_of_resolve resolved)⟩

/-- The run breaks off at a step from which a fault escapes, when those before it pass. -/
theorem Trace.broken_of_escapesWith {all before after : List Step} {stop : Step}
    {session : Session c s w} {run : StepsRun c s w} {calls : List (StepMatch c)} {raised : Fault}
    (trace : Trace perform source all session run calls) (split : all = before ++ stop :: after)
    (passes : EachPasses perform source session before)
    (escapes : EscapesWith perform source (steps perform source before session).session stop
      raised) :
    run.escaped = some raised ∧
      run.completed = before.map (fun step => (step, stepResult step .passed)) ∧
      calls.map StepMatch.step = before ++ [stop] := by
  subst split
  induction before generalizing session run calls with
  | nil => exact trace.broken_of_first escapes
  | cons first rest ih =>
      obtain ⟨found, reached, resolved, performed, passesLater⟩ := passes.uncons
      rw [steps, step_of_passed resolved performed] at escapes
      cases trace with
      | unresolved unresolved => simp [resolved] at unresolved
      | failed alsoResolved alsoPerformed | broken alsoResolved alsoPerformed =>
          obtain rfl := Except.ok.inj (resolved.symm.trans alsoResolved)
          simp [performed] at alsoPerformed
      | passed alsoResolved alsoPerformed later =>
          obtain rfl := Except.ok.inj (resolved.symm.trans alsoResolved)
          obtain ⟨-, rfl⟩ := Prod.mk.inj (performed.symm.trans alsoPerformed)
          obtain ⟨escaped, completed, called⟩ := ih passesLater escapes later
          refine ⟨escaped, congrArg ((first, stepResult first .passed) :: ·) completed, ?_⟩
          rw [List.map_cons, called, Registry.step_of_resolve resolved]
          rfl

/-! ## Scenarios -/

/-- What becomes of a scenario that is not broken off: it has one result for each step, those of
the background first, and it stops at the first step that does not pass. -/
structure Completes (perform : Perform c s w) (background : Option Background)
    (feature : Option Feature) (subject : Scenario) (session : Session c s w)
    (result : ScenarioResult) (calls : List (StepMatch c)) : Prop where
  reports : List.Forall₂ Reports (stepsOf background subject) result.steps
  completed : (scenario perform background feature subject session).completed =
    executed ((stepsOf background subject).zip result.steps)
  passed_iff_failure : result.passed ↔ result.failure = none
  passed_iff_steps : result.passed ↔ ∀ step ∈ result.steps, step.status = .passed
  outcome :
    (result.failure = none ∧ result.failedStep = none ∧
        result.steps = (stepsOf background subject).map (stepResult · .passed) ∧
        calls.map StepMatch.step = stepsOf background subject ∧
        EachPasses perform (feature.bind Feature.source) session (stepsOf background subject)) ∨
      ∃ before stop after error,
        stepsOf background subject = before ++ stop :: after ∧
        result.failure = some (.step error) ∧ result.failedStep = some stop ∧
        StoppedAt perform (feature.bind Feature.source) session before stop after error
          result.steps calls

section Scenario

variable {background : Option Background} {feature : Option Feature} {subject : Scenario}
  {session : Session c s w} {run : StepsRun c s w} {calls : List (StepMatch c)}

/-- A scenario completes when nothing escapes from its steps. -/
theorem completes_of_trace
    (trace : Trace perform (feature.bind Feature.source) (stepsOf background subject) session run
      calls) (whole : run.escaped = none) :
    Completes perform background feature subject session (resultOf feature subject run) calls := by
  have passed : (resultOf feature subject run).passed ↔ run.error = none :=
    Option.isNone_iff_eq_none
  refine {
    reports := trace.forall₂_reports whole
    completed := by rw [scenario_of_trace trace whole]; exact trace.completed_eq
    passed_iff_failure := passed.trans Option.map_eq_none_iff.symm
    passed_iff_steps := passed.trans trace.error_eq_none_iff
    outcome := ?_ }
  rcases trace.outcome with ⟨-, noError, results, called, passes⟩ |
    ⟨before, stop, after, error, split, -, failed, stops⟩ |
    ⟨before, stop, after, raised, -, escaped, -⟩
  · left
    refine ⟨?_, ?_, results, called, passes⟩
    · exact congrArg (Option.map Failure.step) noError
    · exact congrArg (Option.map StepError.step) noError
  · right
    refine ⟨before, stop, after, error, split, ?_, ?_, stops⟩
    · exact congrArg (Option.map Failure.step) failed
    · rw [← stops.step]
      exact congrArg (Option.map StepError.step) failed
  · rw [whole] at escaped
    contradiction

end Scenario

/-- A scenario is run step by step, those of the background first, until one does not pass, when no
handler raises a fault that is meant to end the whole run.  It has a result unless the fault of
that step raises another one when it is asked for its text; then that one escapes. -/
theorem scenario_trace (ordinary : Ordinary perform) (background : Option Background)
    (feature : Option Feature) (subject : Scenario) (session : Session c s w) :
    let source := feature.bind Feature.source
    let run := scenario perform background feature subject session
    let Breaks (before : List Step) (stop : Step) (after : List Step) (raised : Fault) : Prop :=
      stepsOf background subject = before ++ stop :: after ∧
        EachPasses perform source session before ∧
        BreaksWith perform source (steps perform source before session).session stop raised
    ∃ calls,
      scenario (recording perform) background feature subject (withCalls session []) =
        run.withCalls calls ∧
      ((¬∃ before stop after raised, Breaks before stop after raised) →
        ∃ result, run.result = some result ∧ run.escaped = none ∧
          Completes perform background feature subject session result calls) ∧
      ∀ before stop after raised, Breaks before stop after raised →
        run.result = none ∧ run.escaped = some (.fault raised) ∧
          run.completed = before.map (fun step => (step, stepResult step .passed)) ∧
          calls.map StepMatch.step = before ++ [stop] := by
  intro source run Breaks
  obtain ⟨calls, trace⟩ : ∃ calls, Trace perform source (stepsOf background subject) session
    (steps perform source (stepsOf background subject) session) calls := exists_trace _ session
  refine ⟨calls, scenario_recording trace, ?_, ?_⟩
  · intro unbroken
    rcases trace.outcome with ⟨whole, -⟩ | ⟨-, -, -, -, -, whole, -⟩ |
      ⟨before, stop, after, raised, split, -, breaks⟩
    · exact ⟨_, congrArg ScenarioRun.result (scenario_of_trace trace whole),
        congrArg ScenarioRun.escaped (scenario_of_trace trace whole),
        completes_of_trace trace whole⟩
    · exact ⟨_, congrArg ScenarioRun.result (scenario_of_trace trace whole),
        congrArg ScenarioRun.escaped (scenario_of_trace trace whole),
        completes_of_trace trace whole⟩
    · exact absurd ⟨before, stop, after, raised, split, breaks.passes,
        ordinary.escapesWith_iff.mp breaks.cause⟩ unbroken
  · rintro before stop after raised ⟨split, passes, breaks⟩
    obtain ⟨escaped, completed, called⟩ :=
      trace.broken_of_escapesWith split passes (ordinary.escapesWith_iff.mpr breaks)
    exact ⟨congrArg ScenarioRun.result (scenario_of_escaped trace escaped),
      congrArg ScenarioRun.escaped (scenario_of_escaped trace escaped),
      (congrArg ScenarioRun.completed (scenario_of_escaped trace escaped)).trans completed, called⟩

/-! ## A run with a result, and one without -/

section Examples

attribute [local instance] Pattern.CharNames.empty

/-- Handlers of which one registers another, which always fails. -/
def growing : Perform Bool Unit Nat := fun found session =>
  match found.registration.handler.code with
  | true =>
      (none,
        { session with
          registry := (session.registry.register "b" none (.plain false)).registry
          world := session.world + 1 })
  | false => (some .assertion, session)

theorem contained_growing : Contained growing := by
  intro found session fault raised
  rw [growing] at raised
  split at raised
  · simp at raised
  · obtain rfl := Option.some.inj raised
    exact ⟨_, rfl⟩

theorem ordinary_growing : Ordinary growing := contained_growing.ordinary

/-- A session in which one step is registered. -/
def growingSession : Session Bool Unit Nat :=
  { registry := (Registry.register {} "a" none (.plain true)).registry, world := 0 }

/-- A step with a text. -/
def givenStep (text : String) (line : Int) : Step :=
  { keyword := .context, text, resolved := .context, line }

/-- A scenario whose second step is registered by its first. -/
def growingScenario : Scenario :=
  { name := "S", line := 1, steps := [givenStep "a" 2, givenStep "b" 3, givenStep "c" 4] }

theorem scenario_trace_growing :
    Ordinary growing ∧
      ∃ result calls,
        (scenario growing none none growingScenario growingSession).result = some result ∧
        scenario (recording growing) none none growingScenario (withCalls growingSession []) =
          (scenario growing none none growingScenario growingSession).withCalls calls ∧
        calls.map StepMatch.step = [givenStep "a" 2, givenStep "b" 3] ∧
        result.steps.map StepResult.status = [.passed, .failed, .skipped] ∧
        result.failedStep = some (givenStep "b" 3) := by
  obtain ⟨calls, recorded, completes, -⟩ :=
    scenario_trace ordinary_growing none none growingScenario growingSession
  obtain ⟨result, present, -⟩ := completes
    fun ⟨_, _, _, _, _, _, breaks⟩ => contained_growing.not_breaksWith breaks
  have reported : (scenario growing none none growingScenario growingSession).result.map
      (fun result => (result.steps.map StepResult.status, result.failedStep)) =
        some ([.passed, .failed, .skipped], some (givenStep "b" 3)) := by
    decide +kernel
  have noted : (scenario (recording growing) none none growingScenario
      (withCalls growingSession [])).session.world.2.map StepMatch.step =
        [givenStep "a" 2, givenStep "b" 3] := by
    decide +kernel
  rw [present, Option.map_some, Option.some.injEq, Prod.mk.injEq] at reported
  rw [recorded] at noted
  exact ⟨ordinary_growing, result, calls, present, recorded, noted, reported.1, reported.2⟩

/-- What an integer raises that has too many digits to be shown. -/
def tooManyDigits : Fault :=
  .saying "ValueError" ("Exceeds the limit (4300 digits) for integer string conversion; " ++
    "use sys.set_int_max_str_digits() to increase the limit")

/-- Handlers that raise a fault which says such an integer. -/
def mute : Perform Bool Unit Nat := fun _ session =>
  (some { name := "ValueError", text := .error tooManyDigits }, session)

/-- A fault that a handler raises breaks off the run, although it is not meant to. -/
theorem scenario_trace_mute :
    Ordinary mute ∧
      (scenario mute none none growingScenario growingSession).result = none ∧
      (scenario mute none none growingScenario growingSession).escaped =
        some (.fault tooManyDigits) ∧
      (scenario mute none none growingScenario growingSession).completed = [] := by
  refine ⟨fun _ _ fault raised => ?_, rfl, rfl, rfl⟩
  obtain rfl := Option.some.inj raised
  rfl

end Examples

end Run

end Gherkin
