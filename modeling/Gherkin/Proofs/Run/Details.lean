import Gherkin.Command
import Gherkin.Proofs.Run.Entries
import Gherkin.Proofs.Step.Attempt

/-!
# Details make no difference

Handlers that do not look at the details that were noted do the same whatever these are.  So
runs that start alike, and whose registries are filled alike, apart from details, have the same
results.
-/

namespace Gherkin

variable {c s w : Type}

/-- A session without the details that were noted. -/
def Session.salient (session : Session c s w) : Session c s w :=
  { session with notes := salientNotes session.notes }

theorem Session.salient_eq_iff {session other : Session c s w} :
    session.salient = other.salient ↔
      session.registry = other.registry ∧ session.world = other.world ∧
        salientNotes session.notes = salientNotes other.notes := by
  simp only [Session.salient, Session.mk.injEq]

/-- Notes that are added to sessions that are alike. -/
theorem Session.salient_addNotes {session other : Session c s w}
    (alike : session.salient = other.salient) {notes otherNotes : List Note}
    (same : salientNotes notes = salientNotes otherNotes) :
    { session with notes := session.notes ++ notes }.salient =
      { other with notes := other.notes ++ otherNotes }.salient := by
  obtain ⟨registry, world, noted⟩ := Session.salient_eq_iff.mp alike
  exact Session.salient_eq_iff.mpr ⟨registry, world, by
    rw [salientNotes_append, salientNotes_append, noted, same]⟩

namespace Run

/-- What handlers do does not depend on the details that were noted. -/
def IgnoresDetails (perform : Perform c s w) : Prop :=
  ∀ found (session other : Session c s w), session.salient = other.salient →
    (perform found session).1 = (perform found other).1 ∧
      (perform found session).2.salient = (perform found other).2.salient

variable {perform : Perform c s w} {session other : Session c s w}

/-! ## Steps -/

/-- The same became of a step, apart from details. -/
inductive LikeOutcome : StepOutcome c s w → StepOutcome c s w → Prop
  | passed {after otherAfter : Session c s w} (alike : after.salient = otherAfter.salient) :
      LikeOutcome (.passed after) (.passed otherAfter)
  | stopped (error : StepError) {after otherAfter : Session c s w}
      (alike : after.salient = otherAfter.salient) :
      LikeOutcome (.stopped error after) (.stopped error otherAfter)
  | escaped (fault : Fault) {after otherAfter : Session c s w}
      (alike : after.salient = otherAfter.salient) :
      LikeOutcome (.escaped fault after) (.escaped fault otherAfter)

theorem likeOutcome_step (ignores : IgnoresDetails perform) (source : Option String)
    (first : Step) (alike : session.salient = other.salient) :
    LikeOutcome (step perform source first session) (step perform source first other) := by
  obtain ⟨registry, world, noted⟩ := Session.salient_eq_iff.mp alike
  have started : session.startMatching.salient = other.startMatching.salient :=
    Session.salient_eq_iff.mpr ⟨congrArg Registry.startMatching registry, world, noted⟩
  cases resolved : session.registry.resolve first source with
  | error error =>
      rw [step_of_unresolved resolved, step_of_unresolved (registry ▸ resolved)]
      exact .stopped error started
  | ok found =>
      have otherResolved : other.registry.resolve first source = .ok found := registry ▸ resolved
      obtain ⟨sameFault, after⟩ := ignores found _ _ started
      rcases performed : perform found session.startMatching with ⟨fault, left⟩
      rcases otherPerformed : perform found other.startMatching with ⟨otherFault, otherLeft⟩
      rw [performed, otherPerformed] at sameFault after
      obtain rfl : fault = otherFault := sameFault
      cases fault with
      | none =>
          rw [step_of_passed resolved performed, step_of_passed otherResolved otherPerformed]
          exact .passed after
      | some raised =>
          cases captured : raised.capture with
          | ok detail =>
              rw [step_of_failed resolved performed captured,
                step_of_failed otherResolved otherPerformed captured]
              exact .stopped _ after
          | error escaping =>
              rw [step_of_escaped resolved performed captured,
                step_of_escaped otherResolved otherPerformed captured]
              exact .escaped escaping after

/-- What became of steps, without details. -/
def StepsRun.salient (run : StepsRun c s w) : StepsRun c s w :=
  { run with session := run.session.salient }

theorem StepsRun.salient_eq_iff {run otherRun : StepsRun c s w} :
    run.salient = otherRun.salient ↔
      run.results = otherRun.results ∧ run.completed = otherRun.completed ∧
        run.error = otherRun.error ∧ run.escaped = otherRun.escaped ∧
        run.session.salient = otherRun.session.salient := by
  simp only [StepsRun.salient, StepsRun.mk.injEq]

theorem salient_noteStep (alike : session.salient = other.salient) (first : Step)
    (status : Status) :
    (noteStep session first status).salient = (noteStep other first status).salient :=
  Session.salient_addNotes alike rfl

theorem salient_steps (ignores : IgnoresDetails perform) (source : Option String)
    (all : List Step) (alike : session.salient = other.salient) :
    (steps perform source all session).salient = (steps perform source all other).salient := by
  induction all generalizing session other with
  | nil => exact StepsRun.salient_eq_iff.mpr ⟨rfl, rfl, rfl, rfl, alike⟩
  | cons first rest ih =>
      have outcomes := likeOutcome_step ignores source first alike
      rw [steps, steps]
      generalize step perform source first session = outcome at outcomes ⊢
      generalize step perform source first other = otherOutcome at outcomes ⊢
      cases outcomes with
      | passed left =>
          obtain ⟨results, completed, error, escaped, later⟩ :=
            StepsRun.salient_eq_iff.mp (ih (salient_noteStep left first .passed))
          exact StepsRun.salient_eq_iff.mpr
            ⟨congrArg (_ :: ·) results, congrArg (_ :: ·) completed, error, escaped, later⟩
      | stopped error left =>
          exact StepsRun.salient_eq_iff.mpr ⟨rfl, rfl, rfl, rfl, salient_noteStep left first _⟩
      | escaped fault left => exact StepsRun.salient_eq_iff.mpr ⟨rfl, rfl, rfl, rfl, left⟩

/-! ## Scenarios -/

/-- What became of a scenario, without details. -/
def ScenarioRun.salient (run : ScenarioRun c s w) : ScenarioRun c s w :=
  { run with session := run.session.salient }

theorem ScenarioRun.salient_eq_iff {run otherRun : ScenarioRun c s w} :
    run.salient = otherRun.salient ↔
      run.result = otherRun.result ∧ run.completed = otherRun.completed ∧
        run.escaped = otherRun.escaped ∧ run.session.salient = otherRun.session.salient := by
  simp only [ScenarioRun.salient, ScenarioRun.mk.injEq]

theorem salient_scenario (ignores : IgnoresDetails perform) (background : Option Background)
    (owner : Option Feature) (subject : Scenario) (alike : session.salient = other.salient) :
    (scenario perform background owner subject session).salient =
      (scenario perform background owner subject other).salient := by
  obtain ⟨results, completed, error, escaped, left⟩ :=
    StepsRun.salient_eq_iff.mp
      (salient_steps ignores (owner.bind Feature.source) (stepsOf background subject) alike)
  rw [scenario, scenario, ← escaped]
  dsimp only
  split
  · exact ScenarioRun.salient_eq_iff.mpr ⟨rfl, completed, rfl, left⟩
  · refine ScenarioRun.salient_eq_iff.mpr ⟨?_, completed, rfl, ?_⟩
    · simp only [resultOf, results, error]
    · exact Session.salient_addNotes left (by rw [error])

/-! ## Entries -/

/-- Registries come from the same place, or are filled alike in sessions that are alike. -/
inductive Supply.Alike : Supply c s w → Supply c s w → Prop
  | missing : Alike .missing .missing
  | shared : Alike .shared .shared
  | fresh {build otherBuild : Session c s w → Filling c s w}
      (filled : ∀ session other : Session c s w, session.salient = other.salient →
        (build session).salient = (otherBuild other).salient) :
      Alike (.fresh build) (.fresh otherBuild)

section Entries

variable {supply otherSupply : Supply c s w}

theorem salient_supplied (ignores : IgnoresDetails perform)
    (same : supply.Alike otherSupply) (background : Option Background)
    (owner : Option Feature) (subject : Scenario) (alike : session.salient = other.salient) :
    (supplied perform supply background owner subject session).salient =
      (supplied perform otherSupply background owner subject other).salient := by
  cases same with
  | missing => exact ScenarioRun.salient_eq_iff.mpr ⟨rfl, rfl, rfl, alike⟩
  | shared => exact salient_scenario ignores background owner subject alike
  | @fresh build otherBuild filled =>
      obtain ⟨registry, world, noted, error⟩ :=
        Filling.salient_eq_iff.mp (filled session other alike)
      have started : (renewed session (build session)).salient =
          (renewed other (otherBuild other)).salient := by
        obtain ⟨-, -, notes⟩ :=
          Session.salient_eq_iff.mp (Session.salient_addNotes alike noted)
        exact Session.salient_eq_iff.mpr ⟨registry, world, notes⟩
      cases built : (build session).error with
      | some failure =>
          have otherBuilt : (otherBuild other).error = some failure := error ▸ built
          simp only [supplied, built, otherBuilt]
          exact ScenarioRun.salient_eq_iff.mpr ⟨rfl, rfl, rfl, started⟩
      | none =>
          rw [supplied_of_built built, supplied_of_built (error ▸ built)]
          exact salient_scenario ignores background owner subject started

theorem salient_entry (ignores : IgnoresDetails perform)
    (same : supply.Alike otherSupply) (parent : Feature) (subject : Entry)
    (alike : session.salient = other.salient) :
    (entry perform supply parent subject session).salient =
      (entry perform otherSupply parent subject other).salient := by
  cases subject with
  | plain scenario | filled _ scenario =>
      exact salient_supplied ignores same parent.background (some parent) scenario alike
  | failed => exact ScenarioRun.salient_eq_iff.mpr ⟨rfl, rfl, rfl, alike⟩

/-- What became of entries, without details. -/
def EntriesRun.salient (run : EntriesRun c s w) : EntriesRun c s w :=
  { run with session := run.session.salient }

theorem EntriesRun.salient_eq_iff {run otherRun : EntriesRun c s w} :
    run.salient = otherRun.salient ↔
      run.results = otherRun.results ∧ run.completed = otherRun.completed ∧
        run.escaped = otherRun.escaped ∧ run.session.salient = otherRun.session.salient := by
  simp only [EntriesRun.salient, EntriesRun.mk.injEq]

theorem salient_entries (ignores : IgnoresDetails perform)
    (same : supply.Alike otherSupply) (parent : Feature) (subjects : List Entry)
    (alike : session.salient = other.salient) :
    (entries perform supply parent subjects session).salient =
      (entries perform otherSupply parent subjects other).salient := by
  induction subjects generalizing session other with
  | nil => exact EntriesRun.salient_eq_iff.mpr ⟨rfl, rfl, rfl, alike⟩
  | cons first rest ih =>
      obtain ⟨result, completed, escaped, left⟩ :=
        ScenarioRun.salient_eq_iff.mp (salient_entry ignores same parent first alike)
      rw [entries, entries, ← result]
      cases (entry perform supply parent first session).result with
      | none => exact EntriesRun.salient_eq_iff.mpr ⟨rfl, completed, escaped, left⟩
      | some done =>
          obtain ⟨results, completedLater, escapedLater, leftLater⟩ :=
            EntriesRun.salient_eq_iff.mp (ih left)
          refine EntriesRun.salient_eq_iff.mpr
            ⟨congrArg (done :: ·) results, ?_, escapedLater, leftLater⟩
          exact congrArg₂ (· ++ ·) completed completedLater

/-! ## Features -/

/-- What became of a feature, without details. -/
def FeatureRun.salient (run : FeatureRun c s w) : FeatureRun c s w :=
  { run with session := run.session.salient }

theorem FeatureRun.salient_eq_iff {run otherRun : FeatureRun c s w} :
    run.salient = otherRun.salient ↔
      run.result = otherRun.result ∧ run.completed = otherRun.completed ∧
        run.escaped = otherRun.escaped ∧ run.session.salient = otherRun.session.salient := by
  simp only [FeatureRun.salient, FeatureRun.mk.injEq]

theorem salient_feature (ignores : IgnoresDetails perform)
    (same : supply.Alike otherSupply) (selection : Selection) (subject : Feature)
    (alike : session.salient = other.salient) :
    (feature perform supply selection subject session).salient =
      (feature perform otherSupply selection subject other).salient := by
  obtain ⟨results, completed, escaped, left⟩ :=
    EntriesRun.salient_eq_iff.mp
      (salient_entries ignores same subject (selection.select subject subject.entries)
        (Session.salient_addNotes alike (rfl : salientNotes subject.expansionNotes = _)))
  rw [feature, feature, ← escaped]
  dsimp only
  split
  · exact FeatureRun.salient_eq_iff.mpr ⟨rfl, completed, rfl, left⟩
  · rw [results]
    exact FeatureRun.salient_eq_iff.mpr ⟨rfl, completed, rfl, Session.salient_addNotes left rfl⟩

/-- What the program runs has the same results, apart from details, when its registries are
filled alike. -/
theorem salient_runFeatures (ignores : IgnoresDetails perform)
    (same : supply.Alike otherSupply) (settings : Settings)
    (features : List LoadedFeature) (alike : session.salient = other.salient) :
    let run := Command.runFeatures perform supply settings features session
    let otherRun := Command.runFeatures perform otherSupply settings features other
    run.results = otherRun.results ∧ run.escaped = otherRun.escaped ∧
      run.session.salient = otherRun.session.salient := by
  induction features generalizing session other with
  | nil => exact ⟨rfl, rfl, alike⟩
  | cons first rest ih =>
      obtain ⟨result, -, escaped, left⟩ :=
        FeatureRun.salient_eq_iff.mp
          (salient_feature ignores same (Command.selectionOf settings first) first.feature alike)
      simp only [Command.runFeatures, ← result]
      split
      · exact ⟨rfl, escaped, left⟩
      · obtain ⟨results, escapedLater, leftLater⟩ := ih left
        exact ⟨congrArg (_ :: ·) results, escapedLater, leftLater⟩

end Entries

end Run

end Gherkin
