import Gherkin.Command
import Gherkin.Proofs.Settings.Environment

/-!
# What becomes of the work of the program

Work ends with a value or with a problem, and leaves what was written until then.  Each way to
put work together has a rule for what becomes of it.
-/

namespace Gherkin.Command

variable {w α β ε : Type}

/-- How work ends, and the progress that it leaves. -/
def Work.outcome (work : Work w α) (progress : Progress w) : Except Problem α × Progress w :=
  work.run.run progress

namespace Work

/-! ## How work is put together -/

@[simp]
theorem outcome_throw (problem : Problem) (progress : Progress w) :
    outcome (throw problem : Work w α) progress = (.error problem, progress) :=
  rfl

theorem outcome_bind (work : Work w α) (next : α → Work w β) (progress : Progress w) :
    outcome (work >>= next) progress =
      match work.outcome progress with
      | (.ok value, reached) => (next value).outcome reached
      | (.error problem, reached) => (.error problem, reached) := by
  rcases ended : work.outcome progress with ⟨_ | _, _⟩ <;>
    · rw [outcome] at ended ⊢
      simp only [ExceptT.run_bind, StateT.run_bind, ended]
      rfl

theorem outcome_bind_of_ok {work : Work w α} {progress reached : Progress w} {value : α}
    (ended : work.outcome progress = (.ok value, reached)) (next : α → Work w β) :
    outcome (work >>= next) progress = (next value).outcome reached := by
  rw [outcome_bind, ended]

theorem outcome_modify (change : Progress w → Progress w) (progress : Progress w) :
    outcome (modify change) progress = (.ok (), change progress) :=
  rfl

@[simp]
theorem outcome_orStop_ok (problem : ε → Problem) (value : α) (progress : Progress w) :
    outcome (orStop problem (.ok value)) progress = (.ok value, progress) :=
  rfl

end Work

/-- What is seen of an outcome that is no error is seen of its value. -/
theorem exists_ok_of_map_toOption {outcome : Except ε α} {view : α → β} {seen : β}
    (isSeen : outcome.toOption.map view = some seen) :
    ∃ value, outcome = .ok value ∧ view value = seen := by
  cases outcome with
  | error error => contradiction
  | ok value => exact ⟨value, rfl, Option.some.inj isSeen⟩

/-! ## Notes -/

/-- Progress with more lines on the error output: the notes that are shown from a level on. -/
def Progress.noted (level : Level) (notes : List Note) (progress : Progress w) : Progress w :=
  { progress with
    written :=
      { progress.written with
        errors :=
          progress.written.errors ++ (notes.filter (·.shownAt level)).map Note.line } }

theorem Progress.noted_append (level : Level) (first later : List Note) (progress : Progress w) :
    progress.noted level (first ++ later) = (progress.noted level first).noted level later := by
  simp only [noted, List.filter_append, List.map_append, List.append_assoc]

@[simp]
theorem Progress.noted_nil (level : Level) (progress : Progress w) :
    progress.noted level [] = progress := by
  simp [noted]

theorem Work.outcome_showNotes (level : Level) (notes : List Note) (progress : Progress w) :
    outcome (showNotes level notes) progress = (.ok (), progress.noted level notes) :=
  rfl

/-! ## Settings -/

/-- The settings of a call, or why there are none. -/
def prepared (read : Yaml.Reader) (arguments : Arguments) (tree : FileTree)
    (environment : Environment) : Except Problem Settings :=
  match (Settings.load read tree arguments.settings).2 with
  | .error error => .error (.settings error)
  | .ok base =>
      match base.withEnvironment tree environment with
      | .error error => .error (.settings error)
      | .ok combined =>
          match arguments.apply tree combined with
          | .error error => .error (.line error)
          | .ok settings => if settings.features.isEmpty then .error .noFeatures else .ok settings

/-- While the settings are prepared, only notes are written. -/
theorem outcome_prepare (read : Yaml.Reader) (arguments : Arguments) (tree : FileTree)
    (environment : Environment) (progress : Progress w) :
    Work.outcome (prepare read arguments tree environment) progress =
      (prepared read arguments tree environment,
        progress.noted arguments.level (Settings.load read tree arguments.settings).1) := by
  rw [prepare, prepared]
  rcases Settings.load read tree arguments.settings with ⟨notes, error | base⟩
  · rfl
  · rw [Work.outcome_bind_of_ok (Work.outcome_showNotes _ _ _),
      Work.outcome_bind_of_ok (Work.outcome_orStop_ok _ _ _)]
    cases combined : base.withEnvironment tree environment with
    | error error =>
        simp only [combined]
        rfl
    | ok withEnvironment =>
        rw [Work.outcome_bind_of_ok (Work.outcome_orStop_ok _ _ _)]
        cases applied : arguments.apply tree withEnvironment with
        | error error =>
            simp only [combined, applied]
            rfl
        | ok settings =>
            simp only [combined, applied]
            rw [Work.outcome_bind_of_ok (Work.outcome_orStop_ok _ _ _)]
            split <;> rfl

/-- Settings that are prepared come from the settings file, then from the environment, and then
from the arguments. -/
theorem stages_of_prepared {read : Yaml.Reader} {arguments : Arguments} {tree : FileTree}
    {environment : Environment} {settings : Settings}
    (ended : prepared read arguments tree environment = .ok settings) :
    ∃ base combined, (Settings.load read tree arguments.settings).2 = .ok base ∧
      base.withEnvironment tree environment = .ok combined ∧
      arguments.apply tree combined = .ok settings := by
  rw [prepared] at ended
  split at ended
  · contradiction
  · rename_i base loaded
    split at ended
    · contradiction
    · rename_i combined withEnvironment
      split at ended
      · contradiction
      · rename_i applied
        split at ended
        · contradiction
        · obtain rfl := Except.ok.inj ended
          exact ⟨base, combined, loaded, withEnvironment, applied⟩

/-- Settings with what the arguments give, when the features have been read. -/
def Arguments.joined (arguments : Arguments) (settings : Settings) (features : List PathSpec) :
    Settings :=
  { settings with
    features
    tags := settings.tags.merge (some (.ofStrings arguments.included arguments.excluded))
    names := NameFilter.extend settings.names arguments.names
    modules :=
      settings.modules ++ arguments.modules.filter fun name => !settings.modules.contains name
    verbose := settings.verbose || arguments.verbose
    reportPath := (arguments.report.filter (!·.isEmpty)).or settings.reportPath }

theorem Arguments.apply_of_no_paths {arguments : Arguments} (none : arguments.paths = [])
    (tree : FileTree) (settings : Settings) :
    arguments.apply tree settings = .ok (arguments.joined settings settings.features) := by
  rw [apply, none]
  rfl

theorem Arguments.apply_of_paths {arguments : Arguments} (some : arguments.paths ≠ [])
    (tree : FileTree) (settings : Settings) :
    arguments.apply tree settings =
      (PathSpec.parseAll tree tree.workingPath arguments.paths).map
        (arguments.joined settings) := by
  rw [apply, List.isEmpty_eq_false_iff.mpr some]
  cases PathSpec.parseAll tree tree.workingPath arguments.paths <;> rfl

/-- Only the features of what is combined with the arguments may be others. -/
theorem Arguments.eq_joined_of_apply {arguments : Arguments} {tree : FileTree}
    {base settings : Settings} (applied : arguments.apply tree base = .ok settings) :
    settings = arguments.joined base settings.features := by
  by_cases none : arguments.paths = []
  · rw [apply_of_no_paths none] at applied
    obtain rfl := Except.ok.inj applied
    rfl
  · rw [apply_of_paths none] at applied
    cases parsed : PathSpec.parseAll tree tree.workingPath arguments.paths with
    | error error =>
        rw [parsed] at applied
        contradiction
    | ok features =>
        rw [parsed] at applied
        obtain rfl := Except.ok.inj applied
        rfl

/-- The step modules of the settings file come first, and then those of the arguments that it does
not name. -/
theorem modules_of_prepared {read : Yaml.Reader} {arguments : Arguments} {tree : FileTree}
    {environment : Environment} {settings : Settings}
    (ended : prepared read arguments tree environment = .ok settings) :
    ∃ base, (Settings.load read tree arguments.settings).2 = .ok base ∧
      settings.modules =
        base.modules ++ arguments.modules.filter fun name => !base.modules.contains name := by
  obtain ⟨base, combined, loaded, withEnvironment, applied⟩ := stages_of_prepared ended
  have modules : combined.modules = base.modules :=
    Settings.modules_of_withEnvironment withEnvironment
  refine ⟨base, loaded, ?_⟩
  rw [Arguments.eq_joined_of_apply applied, ← modules]
  rfl

/-! ## Searching for step modules -/

variable {c s : Type}

/-- The step module of a name, if it can be found. -/
def moduleNamed? (modules : List (StepModule c w)) (name : String) : Option (StepModule c w) :=
  modules.find? fun module => module.name == name

/-- How searching for the modules that are named ends: with all of them, or with the first name
that cannot be found. -/
def searchEnding (modules : List (StepModule c w)) (names : List String) :
    Except Problem (List (StepModule c w)) :=
  match names.find? fun name => (moduleNamed? modules name).isNone with
  | some name => .error (missingModule (fun start => modules.any (·.name == start)) name)
  | none => .ok (names.filterMap (moduleNamed? modules))

theorem searchEnding_cons_of_missing {modules : List (StepModule c w)} {name : String}
    (missing : moduleNamed? modules name = none) (rest : List String) :
    searchEnding modules (name :: rest) =
      .error (missingModule (fun start => modules.any (·.name == start)) name) := by
  simp [searchEnding, missing]

theorem searchEnding_cons_of_found {modules : List (StepModule c w)} {name : String}
    {module : StepModule c w} (found : moduleNamed? modules name = some module)
    (rest : List String) :
    searchEnding modules (name :: rest) = (searchEnding modules rest).map (module :: ·) := by
  rw [searchEnding, searchEnding, List.find?_cons_of_neg (by simp [found]),
    List.filterMap_cons_some found]
  split <;> rfl

/-- While modules are searched for, only details are noted. -/
theorem outcome_findModules (level : Level) (modules : List (StepModule c w)) (names : List String)
    (progress : Progress w) :
    ∃ notes : List Note, (∀ note ∈ notes, note.level = .debug) ∧
      Work.outcome (findModules level modules names) progress =
        (searchEnding modules names, progress.noted level notes) := by
  induction names generalizing progress with
  | nil => exact ⟨[], nofun, congrArg (_, ·) (progress.noted_nil level).symm⟩
  | cons name rest ih =>
      cases found : moduleNamed? modules name with
      | none =>
          refine ⟨[], nofun, ?_⟩
          rw [searchEnding_cons_of_missing found, progress.noted_nil]
          rw [moduleNamed?] at found
          simp only [findModules, found, Work.outcome_throw]
      | some module =>
          let imported : Note :=
            { level := .debug, origin := .command, text := "Imported step module " ++ name }
          obtain ⟨notes, details, ended⟩ := ih (progress.noted level [imported])
          refine ⟨imported :: notes, List.forall_mem_cons.mpr ⟨rfl, details⟩, ?_⟩
          have longer : progress.noted level (imported :: notes) =
              (progress.noted level [imported]).noted level notes :=
            progress.noted_append level [imported] notes
          rw [searchEnding_cons_of_found found, longer]
          rw [moduleNamed?] at found
          simp only [findModules, found]
          rw [Work.outcome_bind_of_ok (Work.outcome_showNotes level [imported] progress),
            Work.outcome_bind, ended]
          cases searchEnding modules rest <;> rfl

/-! ## The stages of a run -/

section Run

variable [Pattern.CharNames] (setup : Setup c s w) (arguments : Arguments) (settings : Settings)

/-- What becomes of the features that were loaded, when every scenario gets a registry that is
filled by the modules. -/
def runOf (modules : List (StepModule c w)) (load : Load) : RunOutcome c s w :=
  runFeatures setup.perform
    (.fresh fun session => Registry.build setup.make [] modules settings.classes session.world)
    settings load.features { world := setup.world }

/-- Run the features that were loaded, and report on them. -/
def runLoaded (modules : List (StepModule c w)) (load : Load) : Work w Nat := do
  let run := runOf setup settings modules load
  modify fun progress => { progress with world := run.session.world }
  showNotes arguments.level run.session.notes
  match run.escaped with
  | some reason => throw (.escape reason)
  | none =>
      let report := reportOf run.results setup.machine.now
      writeReport arguments settings setup.tree setup.machine report
      return runCode load report

/-- Run with the modules that are named. -/
def runNamed (names : List String) : Work w Nat := do
  if names.isEmpty then throw .noModules
  let modules ← findModules arguments.level setup.modules names
  let load ← loadFeatures arguments.level setup.tree settings
  runLoaded setup arguments settings modules load

/-- The settings are prepared, and then the modules that they name are used. -/
theorem runScenarios_eq :
    runScenarios setup arguments =
      prepare setup.read arguments setup.tree setup.machine.environment >>= fun settings =>
        runNamed setup arguments settings settings.modules :=
  rfl

/-- What the program did, from how its work ended. -/
def finish (ended : Except Problem Nat × Progress w) : Outcome w :=
  match ended with
  | (.ok code, progress) => { progress, ending := .ok code }
  | (.error problem, progress) => failed problem progress

theorem call_of_read {texts : List String} (read : Arguments.read texts = .ok arguments)
    (isRun : arguments.action = .run) :
    call setup texts =
      finish ((runScenarios setup arguments).outcome { world := setup.world }) := by
  rw [call, read]
  simp only [perform, isRun]
  rfl

end Run

end Gherkin.Command
