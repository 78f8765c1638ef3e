import Gherkin.Command
import Gherkin.Proofs.Run.Entries
import Gherkin.Proofs.Run.Stop
import Gherkin.Proofs.Selection

/-!
# A run does what was planned

The plan of a feature and a run of it are made from the same entries.  The results of the
run tell, one for each planned scenario and in the same order, what became of it.
-/

namespace Gherkin

/-- The result is that of the planned scenario: its steps follow those of the background,
or it failed for the planned reason. -/
structure PlannedScenario.FulfilledBy (feature : Feature) (planned : PlannedScenario)
    (result : ScenarioResult) : Prop where
  name : result.name = planned.name
  tags : result.tags = planned.tags
  line : result.line = planned.line
  steps : ∀ titles, planned.content = .ok titles → ∃ own : List Step,
    own.map Step.title = titles ∧
      List.Forall₂ Run.Reports (feature.backgroundSteps ++ own) result.steps
  failure : ∀ message, planned.content = .error message →
    result.passed = false ∧ result.steps = [] ∧ result.message = some message

/-- The scenario of an entry has the line of the entry. -/
theorem line_of_scenario? {feature : Feature} {entry : Entry} (member : entry ∈ feature.entries)
    {scenario : Scenario} (runnable : entry.scenario? = some scenario) :
    scenario.line = entry.line := by
  obtain ⟨definition, -, expanded⟩ := List.mem_flatMap.mp member
  cases definition with
  | scenario s =>
      obtain rfl := List.mem_singleton.mp expanded
      obtain rfl := Option.some.inj runnable
      rfl
  | outline o =>
      obtain ⟨⟨examples, block⟩, -, inBlock⟩ := List.mem_flatMap.mp expanded
      obtain ⟨⟨cells, row⟩, -, rfl⟩ := List.mem_map.mp inBlock
      simp only [Outline.expandRow] at runnable ⊢
      split at runnable
      · rename_i filled
        obtain rfl := Option.some.inj runnable
        rw [if_pos filled]
        rfl
      · contradiction

namespace Run

variable {c s w : Type} {perform : Perform c s w} {supply : Supply c s w}

/-! ## Entries -/

section Entry

variable {parent : Feature} {session : Session c s w} {result : ScenarioResult}

theorem fulfilledBy_of_supplied {scenario : Scenario}
    (ran : (supplied perform supply parent.background (some parent) scenario session).result =
      some result) :
    PlannedScenario.FulfilledBy parent
      { name := scenario.name
        tags := Tag.combine [parent.tags, scenario.tags]
        line := scenario.line
        content := .ok (scenario.steps.map Step.title) }
      result := by
  obtain ⟨started, ran⟩ := exists_scenario_of_supplied ran
  obtain ⟨run, calls, trace, whole, rfl⟩ := exists_trace_of_scenario ran
  exact {
    name := rfl
    tags := rfl
    line := rfl
    steps := by
      rintro titles planned
      exact ⟨scenario.steps, Except.ok.inj planned, trace.forall₂_reports whole⟩
    failure := by
      intro message planned
      contradiction }

/-- The result of an entry is that of its plan. -/
theorem fulfilledBy_of_entry {subject : Entry} (member : subject ∈ parent.entries)
    (ran : (entry perform supply parent subject session).result = some result) :
    (PlannedScenario.ofEntry parent subject).FulfilledBy parent result := by
  cases subject with
  | plain scenario => exact fulfilledBy_of_supplied ran
  | filled origin scenario =>
      have fulfilled := fulfilledBy_of_supplied ran
      have sameLine : scenario.line = (Entry.filled origin scenario).line :=
        line_of_scenario? member rfl
      rw [sameLine] at fulfilled
      exact fulfilled
  | failed origin error =>
      obtain rfl := Option.some.inj ran
      exact {
        name := rfl
        tags := rfl
        line := rfl
        steps := by
          intro titles planned
          contradiction
        failure := by
          intro message planned
          obtain rfl := Except.error.inj planned
          exact ⟨rfl, rfl, rfl⟩ }

end Entry

/-! ## Features -/

/-- A run from which nothing escapes does what was planned. -/
theorem fulfilled_of_feature {selection : Selection} {subject : Feature} {session : Session c s w}
    {result : FeatureResult}
    (ran : (feature perform supply selection subject session).result = some result) :
    List.Forall₂ (PlannedScenario.FulfilledBy subject)
      (FeaturePlan.ofFeature selection subject).scenarios result.scenarios := by
  obtain ⟨whole, rfl⟩ := result_feature_eq_some_iff.mp ran
  rw [FeaturePlan.ofFeature, List.forall₂_map_left_iff]
  refine forall₂_entries ?_ whole
  intro entry member session result ran
  exact fulfilledBy_of_entry (List.mem_of_mem_filter member) ran

/-- What the program runs has a result for each feature, in order, when nothing escapes. -/
theorem forall₂_runFeatures {settings : Settings} {Tells : LoadedFeature → FeatureResult → Prop}
    (each : ∀ loaded (session : Session c s w) result,
      (feature perform supply (Command.selectionOf settings loaded) loaded.feature session).result =
        some result → Tells loaded result)
    {features : List LoadedFeature} {session : Session c s w}
    (whole : (Command.runFeatures perform supply settings features session).escaped = none) :
    List.Forall₂ Tells features
      (Command.runFeatures perform supply settings features session).results := by
  induction features generalizing session with
  | nil => exact .nil
  | cons first rest ih =>
      rw [Command.runFeatures] at whole ⊢
      cases ran : (feature perform supply (Command.selectionOf settings first) first.feature
          session).result with
      | none =>
          simp only [ran, escaped_feature] at whole
          simp [result_feature_eq_some_iff.mpr ⟨whole, rfl⟩] at ran
      | some result =>
          simp only [ran] at whole ⊢
          exact .cons (each first session result ran) (ih whole)

/-- What the program runs is what it plans with the same settings, feature by feature. -/
theorem fulfilled_of_runFeatures {settings : Settings} {features : List LoadedFeature}
    {session : Session c s w}
    (whole : (Command.runFeatures perform supply settings features session).escaped = none) :
    List.Forall₂
      (fun loaded result =>
        List.Forall₂ (PlannedScenario.FulfilledBy loaded.feature)
          (FeaturePlan.ofFeature (Command.selectionOf settings loaded) loaded.feature).scenarios
          result.scenarios)
      features (Command.runFeatures perform supply settings features session).results :=
  forall₂_runFeatures (fun _ _ _ ran => fulfilled_of_feature ran) whole

/-- Whatever the handlers do, a run of a feature from which nothing escapes has one result
for each planned scenario, in the same order, and the result is that of the planned
scenario; so it is when the program runs the features that it has loaded.  Nothing escapes
when there are registries to run with and every fault of a handler is captured. -/
theorem feature_fulfills_plan (perform : Perform c s w) (supply : Supply c s w)
    (selection : Selection) (subject : Feature) (session : Session c s w) :
    ((feature perform supply selection subject session).escaped = none →
        ∃ result, (feature perform supply selection subject session).result = some result ∧
          List.Forall₂ (PlannedScenario.FulfilledBy subject)
            (FeaturePlan.ofFeature selection subject).scenarios result.scenarios) ∧
      (∀ (settings : Settings) features,
        (Command.runFeatures perform supply settings features session).escaped = none →
          List.Forall₂
            (fun loaded result =>
              List.Forall₂ (PlannedScenario.FulfilledBy loaded.feature)
                (FeaturePlan.ofFeature (Command.selectionOf settings loaded)
                  loaded.feature).scenarios
                result.scenarios)
            features (Command.runFeatures perform supply settings features session).results) ∧
      (Contained perform → supply.Ready →
        (feature perform supply selection subject session).escaped = none) := by
  refine ⟨?_, fun settings features => fulfilled_of_runFeatures, ?_⟩
  · intro whole
    rw [escaped_feature] at whole
    have ran := result_feature_eq_some_iff.mpr ⟨whole, rfl⟩
    exact ⟨_, ran, fulfilled_of_feature ran⟩
  · intro contained ready
    rw [escaped_feature]
    exact escaped_selected_eq_none contained ready selection subject session

section Targeted

attribute [local instance] Pattern.CharNames.empty

/-- A registry with a step that fails. -/
def oneStep : Registered Bool Unit := Registry.register {} "x" none (.plain false)

/-- Registries with that step and one that passes. -/
def twoSteps (world : Nat) : Filling Bool Unit Nat :=
  (oneStep.filling world).andThen fun registry world =>
    (registry.register "[b1]" none (.plain true)).filling world

/-- Every scenario gets these two steps. -/
def twoStepsSupply : Supply Bool Unit Nat := .fresh fun session => twoSteps session.world

theorem error_twoSteps (world : Nat) : (twoSteps world).error = none := by
  have first : oneStep.refusal = none := by decide +kernel
  have second : (oneStep.registry.register "[b1]" none (.plain true)).refusal = none := by
    decide +kernel
  simp [twoSteps, Filling.andThen, Registered.filling, first, second]

theorem feature_fulfills_plan_targeted :
    Contained growing ∧ twoStepsSupply.Ready ∧
      (FeaturePlan.ofFeature {} targetedFeature).scenarios.map PlannedScenario.name =
        ["A", "B [Examples 1, Row 1]", "B [Examples 2, Row 1]"] ∧
      ∃ result,
        (feature growing twoStepsSupply {} targetedFeature { world := 0 }).result =
            some result ∧
          List.Forall₂ (PlannedScenario.FulfilledBy targetedFeature)
            (FeaturePlan.ofFeature {} targetedFeature).scenarios result.scenarios ∧
          result.scenarios.map ScenarioResult.passed = [false, true, false] := by
  have ready : twoStepsSupply.Ready := fun session => error_twoSteps session.world
  obtain ⟨fulfills, -, runs⟩ :=
    feature_fulfills_plan growing twoStepsSupply {} targetedFeature { world := 0 }
  obtain ⟨result, ran, fulfilled⟩ := fulfills (runs contained_growing ready)
  have outcomes : (feature growing twoStepsSupply {} targetedFeature
      { world := 0 }).result.map (fun result => result.scenarios.map ScenarioResult.passed) =
        some [false, true, false] := by
    decide +kernel
  rw [ran, Option.map_some, Option.some.injEq] at outcomes
  exact ⟨contained_growing, ready, by decide +kernel, result, ran, fulfilled, outcomes⟩

end Targeted

end Run

end Gherkin
