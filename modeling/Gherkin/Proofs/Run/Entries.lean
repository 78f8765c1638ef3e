import Gherkin.Proofs.Run.Trace

/-!
# What a run of a feature does

The selected entries of a feature are run one after the other.  Each has a result unless
something escapes, and what escapes ends the run.
-/

namespace Gherkin.Run

variable {c s w : Type} {perform : Perform c s w} {supply : Supply c s w} {parent : Feature}

/-! ## Scenarios -/

section Scenario

variable {background : Option Background} {owner : Option Feature} {subject : Scenario}
  {session : Session c s w} {result : ScenarioResult}

/-- A result of a scenario comes from a run with a trace. -/
theorem exists_trace_of_scenario
    (ran : (scenario perform background owner subject session).result = some result) :
    ∃ run calls, Trace perform (owner.bind Feature.source) (stepsOf background subject) session run
      calls ∧ run.escaped = none ∧ result = resultOf owner subject run := by
  obtain ⟨calls, trace⟩ : ∃ calls, Trace perform (owner.bind Feature.source)
      (stepsOf background subject) session
      (steps perform (owner.bind Feature.source) (stepsOf background subject) session) calls :=
    exists_trace _ session
  cases escaped : (steps perform (owner.bind Feature.source) (stepsOf background subject)
      session).escaped with
  | some raised =>
      rw [scenario_of_escaped trace escaped] at ran
      contradiction
  | none =>
      rw [scenario_of_trace trace escaped] at ran
      exact ⟨_, calls, trace, escaped, (Option.some.inj ran).symm⟩

theorem isSome_result_scenario (background : Option Background) (owner : Option Feature)
    (subject : Scenario) (session : Session c s w) :
    (scenario perform background owner subject session).result.isSome =
      (scenario perform background owner subject session).escaped.isNone := by
  rw [scenario]
  split <;> rfl

theorem supplied_of_built {build : Session c s w → Filling c s w}
    (built : (build session).error = none) :
    supplied perform (.fresh build) background owner subject session =
      scenario perform background owner subject (renewed session (build session)) := by
  simp only [supplied, built]

/-- A result of a scenario comes from a run in some session. -/
theorem exists_scenario_of_supplied
    (ran : (supplied perform supply background owner subject session).result = some result) :
    ∃ started, (scenario perform background owner subject started).result = some result := by
  cases supply with
  | missing => contradiction
  | shared => exact ⟨session, ran⟩
  | fresh build =>
      cases built : (build session).error with
      | some error => simp [supplied, built] at ran
      | none => exact ⟨_, supplied_of_built built ▸ ran⟩

theorem isSome_result_supplied (background : Option Background) (owner : Option Feature)
    (subject : Scenario) (session : Session c s w) :
    (supplied perform supply background owner subject session).result.isSome =
      (supplied perform supply background owner subject session).escaped.isNone := by
  cases supply with
  | missing => rfl
  | shared => exact isSome_result_scenario background owner subject session
  | fresh build =>
      rw [supplied]
      cases (build session).error with
      | some error => rfl
      | none => exact isSome_result_scenario background owner subject _

end Scenario

/-! ## Entries -/

/-- There are registries to run with. -/
def Supply.Ready : Supply c s w → Prop
  | .missing => False
  | .shared => True
  | .fresh build => ∀ session, (build session).error = none

/-- An entry has a result unless something escapes. -/
theorem isSome_result_entry (subject : Entry) (session : Session c s w) :
    (entry perform supply parent subject session).result.isSome =
      (entry perform supply parent subject session).escaped.isNone := by
  cases subject with
  | plain | filled => exact isSome_result_supplied _ _ _ session
  | failed => rfl

/-- With registries to run with, an entry has a result when every fault is captured. -/
theorem isSome_result_of_ready (contained : Contained perform) (ready : supply.Ready)
    (parent : Feature) (subject : Entry) (session : Session c s w) :
    (entry perform supply parent subject session).result.isSome := by
  have ends (scenario : Scenario) (session : Session c s w) :
      (Run.scenario perform parent.background (some parent) scenario session).result.isSome := by
    rw [Run.scenario, escaped_steps_eq_none contained]
    rfl
  have supplied (scenario : Scenario) :
      (Run.supplied perform supply parent.background (some parent) scenario
        session).result.isSome := by
    cases supply with
    | missing => contradiction
    | shared => exact ends scenario session
    | fresh build =>
        rw [supplied_of_built (ready session)]
        exact ends scenario _
  cases subject with
  | plain scenario | filled _ scenario => exact supplied scenario
  | failed => rfl

section Entries

variable {subjects : List Entry} {session : Session c s w}

theorem entries_cons_of_result {first : Entry} {rest : List Entry} {result : ScenarioResult}
    (ran : (entry perform supply parent first session).result = some result) :
    entries perform supply parent (first :: rest) session =
      let run := entry perform supply parent first session
      let later := entries perform supply parent rest run.session
      { later with
        results := result :: later.results
        completed := run.completed ++ later.completed } := by
  simp only [entries, ran]

/-- A run from which nothing escapes has a result for each entry, in order. -/
theorem forall₂_entries {Tells : Entry → ScenarioResult → Prop}
    (each : ∀ subject ∈ subjects, ∀ (session : Session c s w) result,
      (entry perform supply parent subject session).result = some result → Tells subject result)
    (whole : (entries perform supply parent subjects session).escaped = none) :
    List.Forall₂ Tells subjects (entries perform supply parent subjects session).results := by
  induction subjects generalizing session with
  | nil => exact .nil
  | cons first rest ih =>
      cases ran : (entry perform supply parent first session).result with
      | none =>
          -- Without a result something escaped, and it escapes from the whole run.
          have escaped : (entry perform supply parent first session).result.isSome =
              (entry perform supply parent first session).escaped.isNone :=
            isSome_result_entry first session
          simp only [entries, ran] at whole
          simp [ran, whole] at escaped
      | some result =>
          rw [entries_cons_of_result ran] at whole ⊢
          exact .cons (each first List.mem_cons_self session result ran)
            (ih (fun subject member => each subject (List.mem_cons_of_mem first member)) whole)

/-- Nothing escapes from a run of which every entry has a result. -/
theorem escaped_entries_eq_none
    (each : ∀ subject ∈ subjects, ∀ session : Session c s w,
      (entry perform supply parent subject session).result.isSome) :
    (entries perform supply parent subjects session).escaped = none := by
  induction subjects generalizing session with
  | nil => rfl
  | cons first rest ih =>
      obtain ⟨result, ran⟩ := Option.isSome_iff_exists.mp (each first List.mem_cons_self session)
      rw [entries_cons_of_result ran]
      exact ih fun subject member => each subject (List.mem_cons_of_mem first member)

end Entries

/-! ## Features -/

section Feature

variable {selection : Selection} {subject : Feature} {session : Session c s w}

/-- What becomes of the selected entries of a feature. -/
def selected (perform : Perform c s w) (supply : Supply c s w) (selection : Selection)
    (subject : Feature) (session : Session c s w) : EntriesRun c s w :=
  entries perform supply subject (selection.select subject subject.entries)
    { session with notes := session.notes ++ subject.expansionNotes }

/-- The result of a feature whose scenarios have the given results. -/
def featureResult (subject : Feature) (scenarios : List ScenarioResult) : FeatureResult :=
  { name := subject.name, tags := subject.tags, source := subject.source, scenarios }

theorem escaped_feature (perform : Perform c s w) (supply : Supply c s w) (selection : Selection)
    (subject : Feature) (session : Session c s w) :
    (feature perform supply selection subject session).escaped =
      (selected perform supply selection subject session).escaped := by
  rw [feature, selected]
  split <;> simp [*]

/-- With registries to run with, nothing escapes when every fault is captured. -/
theorem escaped_selected_eq_none (contained : Contained perform) (ready : supply.Ready)
    (selection : Selection) (subject : Feature) (session : Session c s w) :
    (selected perform supply selection subject session).escaped = none :=
  escaped_entries_eq_none fun entry _ => isSome_result_of_ready contained ready subject entry

/-- A feature has a result exactly when nothing escapes, with those of its entries. -/
theorem result_feature_eq_some_iff {result : FeatureResult} :
    (feature perform supply selection subject session).result = some result ↔
      (selected perform supply selection subject session).escaped = none ∧
        result =
          featureResult subject (selected perform supply selection subject session).results := by
  rw [feature, selected]
  split
  · simp [*]
  · simp [*, featureResult, eq_comm]

end Feature

end Gherkin.Run
