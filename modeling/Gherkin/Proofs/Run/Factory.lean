import Gherkin.Proofs.Run.Planned

/-!
# Registries that are made for each scenario

A run can be given a factory that is called for the registry of each scenario.  The factory
may look at the world of the handlers and change it, so that no two of its registries need to
be the same.  The entries of a feature are run one after the other, each in the session that
the one before it leaves, and the factory is called for those that have a scenario to run.
-/

namespace Gherkin.Run

variable {c s w : Type}

/-- What makes registries. -/
abbrev Factory (c s w : Type) := Session c s w → Filling c s w

/-- Add the notes on the rows of a feature. -/
def noteExpansion (session : Session c s w) (subject : Feature) : Session c s w :=
  { session with notes := session.notes ++ subject.expansionNotes }

variable {perform : Perform c s w} {supply : Supply c s w} {parent : Feature}

/-! ## Counting the calls of a factory

The world gets a number beside it, which a call of the factory raises and no handler sees.
With the number the same becomes of every step, scenario and entry. -/

/-- A session with a number beside the world of the handlers. -/
def withCount (session : Session c s w) (count : Nat) : Session c s (w × Nat) :=
  { session with world := (session.world, count) }

/-- A session without the number. -/
def withoutCount (session : Session c s (w × Nat)) : Session c s w :=
  { session with world := session.world.1 }

/-- What became of steps, in a session with a number. -/
def StepsRun.withCount (run : StepsRun c s w) (count : Nat) : StepsRun c s (w × Nat) :=
  { run with session := Run.withCount run.session count }

/-- What became of a scenario, in a session with a number. -/
def ScenarioRun.withCount (run : ScenarioRun c s w) (count : Nat) : ScenarioRun c s (w × Nat) :=
  { run with session := Run.withCount run.session count }

/-- What became of entries, in a session with a number. -/
def EntriesRun.withCount (run : EntriesRun c s w) (count : Nat) : EntriesRun c s (w × Nat) :=
  { run with session := Run.withCount run.session count }

/-- What became of a feature, in a session with a number. -/
def FeatureRun.withCount (run : FeatureRun c s w) (count : Nat) : FeatureRun c s (w × Nat) :=
  { run with session := Run.withCount run.session count }

/-- Handlers that do the same, and leave the number alone. -/
def beside (perform : Perform c s w) : Perform c s (w × Nat) := fun found session =>
  let (fault, after) := perform found (withoutCount session)
  (fault, withCount after session.world.2)

/-- The factory that builds the same, and counts its calls. -/
def counting (make : Factory c s w) : Factory c s (w × Nat) := fun session =>
  let built := make (withoutCount session)
  { registry := built.registry
    world := (built.world, session.world.2 + 1)
    notes := built.notes
    error := built.error }

theorem step_beside (source : Option String) (first : Step) (session : Session c s w)
    (count : Nat) :
    step (beside perform) source first (withCount session count) =
      match step perform source first session with
      | .passed after => .passed (withCount after count)
      | .stopped error after => .stopped error (withCount after count)
      | .escaped fault after => .escaped fault (withCount after count) := by
  have sameRegistry : (withCount session count).registry = session.registry := rfl
  have performed (found : StepMatch c) :
      beside perform found (withCount session count).startMatching =
        ((perform found session.startMatching).1,
          withCount (perform found session.startMatching).2 count) := rfl
  rw [step_eq, step_eq, sameRegistry]
  cases session.registry.resolve first source with
  | error error => rfl
  | ok found =>
      simp only [performed]
      rcases perform found session.startMatching with ⟨_ | fault, after⟩
      · rfl
      · cases captured : fault.capture <;> simp only [captured]

theorem steps_beside (source : Option String) (all : List Step) (session : Session c s w)
    (count : Nat) :
    steps (beside perform) source all (withCount session count) =
      (steps perform source all session).withCount count := by
  induction all generalizing session with
  | nil => rfl
  | cons first rest ih =>
      rw [steps, steps, step_beside]
      cases step perform source first session with
      | passed after =>
          have noted : noteStep (withCount after count) first .passed =
              withCount (noteStep after first .passed) count := rfl
          simp only [noted, ih]
          rfl
      | stopped | escaped => rfl

theorem scenario_beside (background : Option Background) (owner : Option Feature)
    (subject : Scenario) (session : Session c s w) (count : Nat) :
    scenario (beside perform) background owner subject (withCount session count) =
      (scenario perform background owner subject session).withCount count := by
  rw [scenario, scenario, steps_beside]
  cases escaped : (steps perform (owner.bind Feature.source) (stepsOf background subject)
      session).escaped with
  | none | some _ => simp only [StepsRun.withCount, escaped]; rfl

theorem supplied_counting (make : Factory c s w) (background : Option Background)
    (owner : Option Feature) (subject : Scenario) (session : Session c s w) (count : Nat) :
    supplied (beside perform) (.fresh (counting make)) background owner subject
        (withCount session count) =
      (supplied perform (.fresh make) background owner subject session).withCount (count + 1) := by
  have sameError : (counting make (withCount session count)).error = (make session).error := rfl
  rw [supplied, supplied, sameError]
  cases (make session).error with
  | some error => rfl
  | none =>
      exact scenario_beside background owner subject (renewed session (make session)) (count + 1)

/-- The factory is called once for an entry with a scenario to run, and not for another. -/
theorem entry_counting (make : Factory c s w) (parent : Feature) (subject : Entry)
    (session : Session c s w) (count : Nat) :
    entry (beside perform) (.fresh (counting make)) parent subject (withCount session count) =
      (entry perform (.fresh make) parent subject session).withCount
        (count + if subject.ok then 1 else 0) := by
  cases subject with
  | plain scenario | filled _ scenario =>
      exact supplied_counting make parent.background (some parent) scenario session count
  | failed => rfl

/-- When every entry has a result, the factory is called once for each that has a scenario
to run. -/
theorem entries_counting {make : Factory c s w} (contained : Contained perform)
    (ready : (Supply.fresh make).Ready) (subjects : List Entry) (session : Session c s w)
    (count : Nat) :
    entries (beside perform) (.fresh (counting make)) parent subjects (withCount session count) =
      (entries perform (.fresh make) parent subjects session).withCount
        (count + subjects.countP Entry.ok) := by
  induction subjects generalizing session count with
  | nil => rfl
  | cons first rest ih =>
      obtain ⟨result, present⟩ := Option.isSome_iff_exists.mp
        (isSome_result_of_ready contained ready parent first session)
      have called : count + (if first.ok then 1 else 0) + rest.countP Entry.ok =
          count + (first :: rest).countP Entry.ok := by
        rw [List.countP_cons]
        omega
      simp only [entries, entry_counting, ScenarioRun.withCount, present, ih, called]
      rfl

/-- When every entry has a result, the factory is called once for each selected entry that has
a scenario to run. -/
theorem feature_counting {make : Factory c s w} (contained : Contained perform)
    (ready : (Supply.fresh make).Ready) (selection : Selection) (subject : Feature)
    (session : Session c s w) (count : Nat) :
    feature (beside perform) (.fresh (counting make)) selection subject
        (withCount session count) =
      (feature perform (.fresh make) selection subject session).withCount
        (count + (selection.select subject subject.entries).countP Entry.ok) := by
  have noted : { session with notes := session.notes ++ subject.expansionNotes } =
      noteExpansion session subject := rfl
  have countNoted : { withCount session count with
      notes := (withCount session count).notes ++ subject.expansionNotes } =
      withCount (noteExpansion session subject) count := rfl
  simp only [feature, noted, countNoted, entries_counting contained ready]
  cases escaped : (entries perform (.fresh make) subject
      (selection.select subject subject.entries) (noteExpansion session subject)).escaped with
  | none | some _ => simp only [EntriesRun.withCount, escaped]; rfl

/-! ## Entries one after the other -/

/-- Entries with their results, where each holds in the session that the one before it
leaves. -/
inductive Chain (Ran : Entry → Session c s w → ScenarioResult → Session c s w → Prop) :
    List Entry → Session c s w → List ScenarioResult → Session c s w → Prop
  | nil (session : Session c s w) : Chain Ran [] session [] session
  | cons {first : Entry} {rest : List Entry} {session middle last : Session c s w}
      {result : ScenarioResult} {results : List ScenarioResult}
      (ran : Ran first session result middle) (later : Chain Ran rest middle results last) :
      Chain Ran (first :: rest) session (result :: results) last

variable {Ran : Entry → Session c s w → ScenarioResult → Session c s w → Prop}

theorem Chain.length_eq {subjects : List Entry} {session last : Session c s w}
    {results : List ScenarioResult} (chain : Chain Ran subjects session results last) :
    results.length = subjects.length := by
  induction chain with
  | nil => rfl
  | cons _ _ ih => rw [List.length_cons, List.length_cons, ih]

/-- When every entry has a result, nothing escapes and the entries form a chain. -/
theorem chain_entries {subjects : List Entry}
    (each : ∀ subject ∈ subjects, ∀ session : Session c s w, ∃ result,
      (entry perform supply parent subject session).result = some result ∧
        Ran subject session result (entry perform supply parent subject session).session)
    (session : Session c s w) :
    (entries perform supply parent subjects session).escaped = none ∧
      Chain Ran subjects session (entries perform supply parent subjects session).results
        (entries perform supply parent subjects session).session := by
  induction subjects generalizing session with
  | nil => exact ⟨rfl, .nil session⟩
  | cons first rest ih =>
      obtain ⟨result, present, ran⟩ := each first List.mem_cons_self session
      obtain ⟨whole, later⟩ := ih (fun subject member =>
        each subject (List.mem_cons_of_mem first member))
        (entry perform supply parent first session).session
      rw [entries_cons_of_result present]
      exact ⟨whole, .cons ran later⟩

end Gherkin.Run
