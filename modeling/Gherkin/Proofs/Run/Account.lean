import Gherkin.Proofs.Run.Factory

/-!
# The account of a feature

A scenario that is run has at most one step that did not pass and was not skipped, and it has
one exactly when the scenario failed.  Counted over the entries of a feature these steps, with
the rows that could not be filled in, are the failed scenarios.
-/

namespace Gherkin

/-- Whether a step with the status ends its scenario. -/
def Status.ends : Status → Bool
  | failed | undefined | ambiguous => true
  | passed | skipped => false

namespace ScenarioResult

/-- Number of steps that ended the scenario. -/
def culprits (result : ScenarioResult) : Nat :=
  result.steps.countP (·.status.ends)

theorem culprits_eq (result : ScenarioResult) :
    result.culprits = result.count .failed + result.count .undefined + result.count .ambiguous := by
  rw [culprits, count, count, count]
  induction result.steps with
  | nil => rfl
  | cons first rest ih =>
      simp only [List.countP_cons, ih]
      cases first.status <;> simp only [Status.ends, beq_iff_eq, reduceCtorEq, if_true, if_false,
        Bool.false_eq_true] <;> omega

end ScenarioResult

/-- What is left of a count are the items that it leaves out. -/
theorem length_sub_countP {α : Type} (p : α → Bool) (items : List α) :
    items.length - items.countP p = items.countP fun item => !p item := by
  have all : items.length = items.countP p + items.countP fun item => decide ¬p item :=
    List.length_eq_countP_add_countP p
  simp only [decide_not, Bool.decide_eq_true] at all
  omega

namespace FeatureResult

theorem failedCount_eq_countP (result : FeatureResult) :
    result.failedCount = result.scenarios.countP fun scenario => !scenario.passed :=
  length_sub_countP _ _

theorem passedCount_add_failedCount (result : FeatureResult) :
    result.passedCount + result.failedCount = result.total :=
  Nat.add_sub_of_le List.countP_le_length

theorem passed_iff_failedCount (result : FeatureResult) :
    result.passed ↔ result.failedCount = 0 := by
  rw [failedCount_eq_countP, List.countP_eq_zero, passed, List.all_eq_true]
  simp

end FeatureResult

namespace Run

variable {c s w : Type} {perform : Perform c s w} {supply : Supply c s w} {parent : Feature}

/-! ## Scenarios -/

theorem countP_ends_map {status : Status} (goesOn : status.ends = false) (all : List Step) :
    (all.map (stepResult · status)).countP (·.status.ends) = 0 := by
  rw [List.countP_eq_zero]
  intro step member
  obtain ⟨own, -, rfl⟩ := List.mem_map.mp member
  exact Bool.not_eq_true _ ▸ goesOn

/-- Where a scenario stopped there is one step that ended it, and elsewhere there is none. -/
theorem culprits_resultOf {source : Option String} {all : List Step} {session : Session c s w}
    {run : StepsRun c s w} {calls : List (StepMatch c)}
    (trace : Trace perform source all session run calls) (whole : run.escaped = none)
    (owner : Option Feature) (subject : Scenario) :
    (resultOf owner subject run).culprits =
      if (resultOf owner subject run).passed then 0 else 1 := by
  have passed : (resultOf owner subject run).passed = run.error.isNone := rfl
  have culprits : (resultOf owner subject run).culprits =
      run.results.countP (·.status.ends) := rfl
  rw [passed, culprits]
  rcases trace.outcome with ⟨-, noError, results, -, -⟩ |
    ⟨before, stop, after, error, -, -, failed, stops⟩ | ⟨_, _, _, raised, -, escaped, -⟩
  · rw [noError, results, countP_ends_map rfl]
    rfl
  · have ends : (stepResult stop error.problem.status (some error.detail)).status.ends := by
      rcases stops.status with status | status | status <;> rw [status] <;> rfl
    rw [failed, stops.results, List.countP_append, List.countP_cons, if_pos ends,
      countP_ends_map rfl, countP_ends_map rfl]
    rfl
  · rw [whole] at escaped
    contradiction

/-! ## Entries -/

/-- What is said of an entry that was run: its result tells what became of it, the factory, if
registries come from one, was called once if there was a scenario to run and not at all for
another entry, and the result counts a step that ended the scenario, or the row, exactly when it
failed. -/
structure Accounted (perform : Perform c s w) (supply : Supply c s w) (parent : Feature)
    (subject : Entry) (before : Session c s w) (result : ScenarioResult)
    (after : Session c s w) : Prop where
  present : (entry perform supply parent subject before).result = some result
  session : (entry perform supply parent subject before).session = after
  name : result.name = subject.name
  tags : result.tags = subject.tags parent
  line : result.line = subject.line
  steps : ∀ scenario, subject.scenario? = some scenario →
    result.scenario = some scenario ∧
      result.steps.length = parent.backgroundSteps.length + scenario.steps.length
  failure : ∀ error, subject.error? = some error →
    result.passed = false ∧ result.steps = [] ∧ result.failure = some (.expansion error)
  culprits : result.culprits + (if subject.ok then 0 else 1) = if result.passed then 0 else 1
  called : ∀ make, supply = .fresh make → ∀ count,
    entry (beside perform) (.fresh (counting make)) parent subject (withCount before count) =
      (entry perform supply parent subject before).withCount
        (count + if subject.ok then 1 else 0)

/-- The result of an entry with a scenario comes from a run of the scenario. -/
theorem exists_trace_of_entry {subject : Entry} {session : Session c s w} {scenario : Scenario}
    {result : ScenarioResult} (runnable : subject.scenario? = some scenario)
    (ran : (entry perform supply parent subject session).result = some result) :
    ∃ started run calls,
      Trace perform parent.source (stepsOf parent.background scenario) started run calls ∧
        run.escaped = none ∧ result = resultOf (some parent) scenario run := by
  cases subject with
  | plain own | filled _ own =>
      obtain rfl := Option.some.inj runnable
      obtain ⟨started, ended⟩ := exists_scenario_of_supplied ran
      obtain ⟨run, calls, trace, whole, same⟩ := exists_trace_of_scenario ended
      exact ⟨started, run, calls, trace, whole, same⟩
  | failed => contradiction

/-- An entry has a result, which tells what became of it. -/
theorem exists_accounted (contained : Contained perform) (ready : supply.Ready)
    {subject : Entry} (member : subject ∈ parent.entries) (session : Session c s w) :
    ∃ result, (entry perform supply parent subject session).result = some result ∧
      Accounted perform supply parent subject session result
        (entry perform supply parent subject session).session := by
  obtain ⟨result, ran⟩ := Option.isSome_iff_exists.mp
    (isSome_result_of_ready contained ready parent subject session)
  have fulfilled := fulfilledBy_of_entry member ran
  refine ⟨result, ran, ?_⟩
  exact {
    present := ran
    session := rfl
    name := fulfilled.name
    tags := fulfilled.tags
    line := fulfilled.line
    steps := by
      intro scenario runnable
      obtain ⟨reached, run, calls, trace, whole, rfl⟩ := exists_trace_of_entry runnable ran
      refine ⟨rfl, ?_⟩
      have each : run.results.length = (stepsOf parent.background scenario).length :=
        (trace.forall₂_reports whole).length_eq.symm
      exact each.trans List.length_append
    failure := by
      intro error broken
      cases subject with
      | plain | filled => contradiction
      | failed origin own =>
          obtain rfl := Option.some.inj broken
          obtain rfl := Option.some.inj ran
          exact ⟨rfl, rfl, rfl⟩
    culprits := by
      cases subject with
      | plain scenario | filled _ scenario =>
          obtain ⟨reached, run, calls, trace, whole, rfl⟩ := exists_trace_of_entry rfl ran
          exact culprits_resultOf trace whole (some parent) scenario
      | failed origin error =>
          obtain rfl := Option.some.inj ran
          rfl
    called := by
      rintro make rfl count
      exact entry_counting make parent subject session count }

/-! ## Features -/

section Feature

variable {subjects : List Entry} {session last : Session c s w} {results : List ScenarioResult}

/-- What the entries of a chain count they count together. -/
theorem countP_failed_of_chain
    (chain : Chain (Accounted perform supply parent) subjects session results last) :
    results.countP (fun result => !result.passed) =
      sumOf (·.count .failed) results + sumOf (·.count .undefined) results +
        sumOf (·.count .ambiguous) results + subjects.countP (fun subject => !subject.ok) := by
  induction chain with
  | nil => rfl
  | @cons first rest session middle last result results ran later ih =>
      have culprits := ran.culprits
      have sum (status : Status) : sumOf (·.count status) (result :: results) =
          result.count status + sumOf (·.count status) results := rfl
      rw [result.culprits_eq] at culprits
      rw [List.countP_cons, List.countP_cons, sum, sum, sum, ih]
      cases passed : result.passed <;> cases ok : first.ok <;>
        simp only [passed, ok, Bool.not_true, Bool.not_false, Bool.false_eq_true, if_true,
          if_false] at culprits ⊢ <;>
        omega

end Feature

/-- When every fault of a handler is captured and the factory, if registries come from one, always
builds a registry, each selected entry has a result, in order and whatever became of those before
it; the factory is called once for each of them that has a scenario to run.  The failed scenarios
are the steps that failed, were undefined or ambiguous, and the selected rows that could not be
filled in. -/
theorem feature_accounts (contained : Contained perform) (ready : supply.Ready)
    (selection : Selection) (subject : Feature) (session : Session c s w) :
    ∃ result last,
      (feature perform supply selection subject session).result = some result ∧
      (feature perform supply selection subject session).escaped = none ∧
      result = featureResult subject result.scenarios ∧
      Chain (Accounted perform supply subject) (selection.select subject subject.entries)
        (noteExpansion session subject) result.scenarios last ∧
      result.total = (selection.select subject subject.entries).length ∧
      (∀ make, supply = .fresh make → ∀ count,
        feature (beside perform) (.fresh (counting make)) selection subject
            (withCount session count) =
          (feature perform supply selection subject session).withCount
            (count + (selection.select subject subject.entries).countP Entry.ok)) ∧
      result.failedCount =
        result.stepCount .failed + result.stepCount .undefined + result.stepCount .ambiguous +
          (selection.select subject subject.entries).countP (fun entry => !entry.ok) ∧
      result.passedCount + result.failedCount = result.total ∧
      (result.passed ↔ result.failedCount = 0) := by
  have each : ∀ entry ∈ selection.select subject subject.entries, ∀ session : Session c s w,
      ∃ result, (Run.entry perform supply subject entry session).result = some result ∧
        Accounted perform supply subject entry session result
          (Run.entry perform supply subject entry session).session := by
    intro entry member session
    exact exists_accounted contained ready (List.mem_of_mem_filter member) session
  obtain ⟨whole, chain⟩ := chain_entries each (noteExpansion session subject)
  have ran : (feature perform supply selection subject session).result = some _ :=
    result_feature_eq_some_iff.mpr ⟨whole, rfl⟩
  refine ⟨_, _, ran, (escaped_feature ..).trans whole, rfl, chain, chain.length_eq, ?_, ?_,
    FeatureResult.passedCount_add_failedCount _, FeatureResult.passed_iff_failedCount _⟩
  · rintro make rfl count
    exact feature_counting contained ready selection subject session count
  · rw [FeatureResult.failedCount_eq_countP]
    exact countP_failed_of_chain chain

/-- A factory that builds two steps at its first call, and none later. -/
def oneFilling : Factory Bool Unit Nat := fun session =>
  if session.world = 0 then twoSteps 1 else { registry := {}, world := session.world + 1 }

theorem feature_accounts_oneFilling :
    Contained growing ∧ (Supply.fresh oneFilling).Ready ∧
      ∃ result,
        (feature growing (.fresh oneFilling) {} targetedFeature { world := 0 }).result =
            some result ∧
          (feature (beside growing) (.fresh (counting oneFilling)) {} targetedFeature
            (withCount { world := 0 } 0)).session.world.2 = 2 ∧
          result.scenarios.map (fun scenario => scenario.steps.map StepResult.status) =
            [[.passed, .failed], [.undefined, .skipped], []] ∧
          result.failedCount = 3 := by
  have ready : (Supply.fresh oneFilling).Ready := by
    intro session
    by_cases first : session.world = 0
    · simp only [oneFilling, if_pos first]
      exact error_twoSteps 1
    · simp only [oneFilling, if_neg first]
  obtain ⟨result, last, ran, -, -, -, -, called, failed, -⟩ :=
    feature_accounts contained_growing ready {} targetedFeature { world := 0 }
  have outcomes : (feature growing (.fresh oneFilling) {} targetedFeature
      { world := 0 }).result.map (fun result =>
        (result.scenarios.map fun scenario => scenario.steps.map StepResult.status)) =
        some [[.passed, .failed], [.undefined, .skipped], []] := by
    decide +kernel
  have counts : (feature growing (.fresh oneFilling) {} targetedFeature
      { world := 0 }).result.map (fun result =>
        (result.stepCount .failed, result.stepCount .undefined, result.stepCount .ambiguous)) =
        some (1, 1, 0) := by
    decide +kernel
  have rows : (Selection.select {} targetedFeature targetedFeature.entries).countP
      (fun entry => !entry.ok) = 1 := by
    decide +kernel
  have scenarios : (Selection.select {} targetedFeature targetedFeature.entries).countP
      Entry.ok = 2 := by
    decide +kernel
  rw [ran, Option.map_some, Option.some.injEq] at outcomes counts
  simp only [Prod.mk.injEq] at counts
  obtain ⟨failedSteps, undefinedSteps, ambiguousSteps⟩ := counts
  rw [failedSteps, undefinedSteps, ambiguousSteps, rows] at failed
  have calls : (feature (beside growing) (.fresh (counting oneFilling)) {} targetedFeature
      (withCount { world := 0 } 0)).session.world.2 = 2 := by
    rw [called oneFilling rfl 0, scenarios]
    rfl
  exact ⟨contained_growing, ready, result, ran, calls, outcomes, failed⟩

end Run

end Gherkin
