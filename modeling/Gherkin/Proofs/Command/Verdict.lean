import Gherkin.Proofs.Command.Work
import Gherkin.Proofs.Path.Loading
import Gherkin.Proofs.Report.Grouping
import Gherkin.Proofs.Run.Planned

/-!
# The exit code, the report and the results agree

When nothing breaks a run off, its exit code says whether a file was malformed and whether a
scenario failed, and the report holds every result and says the same.  A report that cannot be
written breaks off every run.
-/

namespace Gherkin

/-! ## What can escape from a run -/

namespace Run

variable {c s w : Type} {perform : Perform c s w} {build : Session c s w → Filling c s w}

theorem escaped_entry_ne_noRegistry (parent : Feature) (subject : Entry)
    (session : Session c s w) :
    (entry perform (.fresh build) parent subject session).escaped ≠ some .noRegistry := by
  have ofScenario (scenario : Scenario) :
      (supplied perform (.fresh build) parent.background (some parent) scenario
        session).escaped ≠ some .noRegistry := by
    rw [supplied]
    split
    · rename_i error _
      cases error <;> simp [FillingError.escape]
    · rw [Run.scenario]
      split <;> simp
  cases subject with
  | plain scenario | filled _ scenario => exact ofScenario scenario
  | failed => simp [entry]

theorem escaped_entries_ne_noRegistry (parent : Feature) (subjects : List Entry)
    (session : Session c s w) :
    (entries perform (.fresh build) parent subjects session).escaped ≠ some .noRegistry := by
  induction subjects generalizing session with
  | nil => simp [entries]
  | cons first rest ih =>
      rw [entries]
      dsimp only
      split
      · exact escaped_entry_ne_noRegistry parent first session
      · exact ih _

/-- When every scenario gets a registry, none is missing. -/
theorem escaped_runFeatures_ne_noRegistry (settings : Settings) (features : List LoadedFeature)
    (session : Session c s w) :
    (Command.runFeatures perform (.fresh build) settings features session).escaped ≠
      some .noRegistry := by
  induction features generalizing session with
  | nil => simp [Command.runFeatures]
  | cons first rest ih =>
      rw [Command.runFeatures]
      dsimp only
      split
      · rw [escaped_feature]
        exact escaped_entries_ne_noRegistry first.feature _ _
      · exact ih _

end Run

namespace Command

variable {c s w : Type}

/-! ## What is written -/

/-- What a run prints. -/
def printed (arguments : Arguments) (settings : Settings) (machine : Machine)
    (report : RunReport) : List String :=
  (if arguments.json then [report.render machine] else report.lines settings.verbose) ++
    match settings.reportPath.filter (!·.isEmpty) with
    | some path => if arguments.json then [] else ["", "Report written to: " ++ path]
    | none => []

/-- The report can be written, if one is asked for. -/
def Writable (tree : FileTree) (settings : Settings) : Prop :=
  ∀ path, settings.reportPath.filter (!·.isEmpty) = some path → tree.writeProblem? path = none

/-- Nothing was printed so far, and no report was written. -/
structure Progress.Silent (progress : Progress w) : Prop where
  output : progress.written.output = []
  report : progress.written.report = none

/-- What was printed, and the report that was written, are those of a run. -/
structure Progress.Reports (arguments : Arguments) (settings : Settings) (machine : Machine)
    (report : RunReport) (progress : Progress w) : Prop where
  output : progress.written.output = printed arguments settings machine report
  report : progress.written.report =
    (settings.reportPath.filter (!·.isEmpty)).map (·, report.render machine)

theorem outcome_writeReport (arguments : Arguments) {settings : Settings} {tree : FileTree}
    (writable : Writable tree settings) (machine : Machine) (report : RunReport)
    {progress : Progress w} (silent : progress.Silent) :
    ∃ reached : Progress w, reached.Reports arguments settings machine report ∧
      Work.outcome (writeReport arguments settings tree machine report) progress =
        (.ok (), reached) := by
  obtain ⟨noOutput, noReport⟩ := silent
  rw [writeReport]
  cases given : settings.reportPath.filter (!·.isEmpty) with
  | none =>
      refine ⟨_, ⟨?_, ?_⟩, rfl⟩
      · simp [printed, given, noOutput]
      · simp [given, noReport]
  | some path =>
      have noProblem : tree.writeProblem? path = none := writable path given
      cases json : arguments.json with
      | true =>
          simp only [noProblem]
          refine ⟨_, ⟨?_, ?_⟩, rfl⟩
          · simp [printed, given, json, noOutput]
          · simp [given]
      | false =>
          simp only [noProblem]
          refine ⟨_, ⟨?_, ?_⟩, rfl⟩
          · simp [printed, given, json, noOutput]
          · simp [given]

/-- When the report cannot be written, the program breaks off. -/
theorem outcome_writeReport_of_problem (arguments : Arguments) {settings : Settings}
    {tree : FileTree} {path : String} (given : settings.reportPath.filter (!·.isEmpty) = some path)
    {error : FileError} (problem : tree.writeProblem? path = some error) (machine : Machine)
    (report : RunReport) (progress : Progress w) :
    ∃ reached : Progress w,
      Work.outcome (writeReport arguments settings tree machine report) progress =
        (.error (.report error), reached) := by
  rw [writeReport, given]
  simp only [problem]
  exact ⟨_, rfl⟩

/-- Such a problem is not reported. -/
theorem isReported_writeProblem {tree : FileTree} {path : String} {error : FileError}
    (problem : tree.writeProblem? path = some error) :
    (Problem.report error).isReported = false := by
  rw [FileTree.writeProblem?] at problem
  split at problem
  case h_2 | h_5 => simp at problem
  all_goals
    obtain rfl := Option.some.inj problem
    rfl

theorem outcome_loadFeatures (level : Level) (tree : FileTree) (settings : Settings)
    {progress : Progress w} (silent : progress.Silent) :
    ∃ reached : Progress w, reached.Silent ∧
      Work.outcome (loadFeatures level tree settings) progress =
        ((Load.ofSpecs tree settings.failFast settings.features).2.mapError .load, reached) := by
  rw [loadFeatures]
  rcases Load.ofSpecs tree settings.failFast settings.features with ⟨notes, error | load⟩
  all_goals
    refine ⟨_, ?_, rfl⟩
    exact ⟨silent.output, silent.report⟩

/-! ## What the report says -/

/-- Every result of a run stands in the report once, with the name of its feature. -/
theorem labelled_reportOf (results : List FeatureResult) (now : Timestamp) :
    ((reportOf results now).features.flatMap FeatureResult.labelled).Perm
      (results.flatMap FeatureResult.labelled) := by
  have recorded := Collector.labelled_records_foldl { started := now } results
  exact (Collector.labelled_build _ now).trans (recorded ▸ .rfl)

/-- A report passes exactly when every scenario of the run did. -/
theorem passed_reportOf (results : List FeatureResult) (now : Timestamp) :
    (reportOf results now).passed = results.all FeatureResult.passed := by
  rw [RunReport.passed, ← all_labelled, ← all_labelled]
  exact (labelled_reportOf results now).all_eq

theorem runCode_eq_two_iff (load : Load) (report : RunReport) :
    runCode load report = 2 ↔ ¬ load.ok = true := by
  cases ok : load.ok <;> cases passed : report.passed <;> simp [runCode, ok, passed]

/-! ## Runs that nothing escapes -/

section Run

variable [Pattern.CharNames] {setup : Setup c s w} {arguments : Arguments} {settings : Settings}
  {modules : List (StepModule c w)} {progress : Progress w}

/-- The report on a run of the features that were loaded. -/
def reportOn (setup : Setup c s w) (settings : Settings) (modules : List (StepModule c w))
    (load : Load) : RunReport :=
  reportOf (runOf setup settings modules load).results setup.machine.now

theorem outcome_runLoaded (arguments : Arguments) {load : Load}
    (whole : (runOf setup settings modules load).escaped = none)
    (writable : Writable setup.tree settings) (silent : progress.Silent) :
    ∃ reached : Progress w,
      reached.Reports arguments settings setup.machine (reportOn setup settings modules load) ∧
      Work.outcome (runLoaded setup arguments settings modules load) progress =
        (.ok (runCode load (reportOn setup settings modules load)), reached) := by
  let run := runOf setup settings modules load
  have stillSilent : (Progress.noted arguments.level run.session.notes
      { progress with world := run.session.world }).Silent := ⟨silent.output, silent.report⟩
  obtain ⟨reached, reports, ended⟩ := outcome_writeReport arguments writable setup.machine
    (reportOn setup settings modules load) stillSilent
  refine ⟨reached, reports, ?_⟩
  rw [runLoaded, Work.outcome_bind_of_ok (Work.outcome_modify _ _),
    Work.outcome_bind_of_ok (Work.outcome_showNotes _ _ _)]
  simp only [whole]
  exact Work.outcome_bind_of_ok ended _

theorem outcome_runLoaded_of_problem (arguments : Arguments) {load : Load}
    (whole : (runOf setup settings modules load).escaped = none) {path : String}
    (given : settings.reportPath.filter (!·.isEmpty) = some path) {error : FileError}
    (problem : setup.tree.writeProblem? path = some error) (progress : Progress w) :
    ∃ reached : Progress w,
      Work.outcome (runLoaded setup arguments settings modules load) progress =
        (.error (.report error), reached) := by
  obtain ⟨reached, ended⟩ := outcome_writeReport_of_problem arguments given problem setup.machine
    (reportOn setup settings modules load)
    (Progress.noted arguments.level (runOf setup settings modules load).session.notes
      { progress with world := (runOf setup settings modules load).session.world })
  refine ⟨reached, ?_⟩
  rw [runLoaded, Work.outcome_bind_of_ok (Work.outcome_modify _ _),
    Work.outcome_bind_of_ok (Work.outcome_showNotes _ _ _)]
  simp only [whole]
  rw [Work.outcome_bind]
  simp only [reportOn] at ended
  rw [ended]

theorem outcome_runNamed (arguments : Arguments) (settings : Settings) {names : List String}
    (named : names ≠ [])
    (found : searchEnding setup.modules names = .ok modules) (silent : progress.Silent) :
    ∃ reached : Progress w, reached.Silent ∧
      Work.outcome (runNamed setup arguments settings names) progress =
        match (Load.ofSpecs setup.tree settings.failFast settings.features).2 with
        | .error error => (.error (.load error), reached)
        | .ok load => Work.outcome (runLoaded setup arguments settings modules load) reached := by
  obtain ⟨notes, -, searched⟩ := outcome_findModules arguments.level setup.modules names progress
  rw [found] at searched
  have stillSilent : (progress.noted arguments.level notes).Silent :=
    ⟨silent.output, silent.report⟩
  obtain ⟨reached, silentLater, loaded⟩ :=
    outcome_loadFeatures arguments.level setup.tree settings stillSilent
  refine ⟨reached, silentLater, ?_⟩
  rw [runNamed, if_neg (by simpa using named), Work.outcome_bind_of_ok searched,
    Work.outcome_bind, loaded]
  cases (Load.ofSpecs setup.tree settings.failFast settings.features).2 <;> rfl

/-- What the program says agrees with what became of the features that were loaded. -/
structure Agrees (setup : Setup c s w) (settings : Settings) (load : Load)
    (results : List FeatureResult) (report : RunReport) (code : Nat) : Prop where
  /-- The features are those of the files that hold one. -/
  loaded : load.features.map LoadedFeature.feature =
    (Load.files setup.tree settings.features).filterMap (Batch.featureIn? setup.tree)
  /-- There is a result for every scenario that is selected from them. -/
  selected : List.Forall₂
    (fun loaded result =>
      result.name = loaded.feature.name ∧
        List.Forall₂ (PlannedScenario.FulfilledBy loaded.feature)
          (FeaturePlan.ofFeature (selectionOf settings loaded) loaded.feature).scenarios
          result.scenarios)
    load.features results
  code : code = if load.ok then if results.all FeatureResult.passed then 0 else 1 else 2
  status : (report.toJson setup.machine).stringAt? "status" =
    some (verdict (results.all FeatureResult.passed))
  console : (report.lines settings.verbose).getLast? =
    some ("Status: " ++ verdictLabel (results.all FeatureResult.passed))
  /-- Every result stands in the report once, in the one group of its feature's name. -/
  groups : (report.features.map FeatureResult.name).Nodup
  results : (report.features.flatMap FeatureResult.labelled).Perm
    (results.flatMap FeatureResult.labelled)
  document : ((report.toJson setup.machine).itemsAt "features").flatMap (·.itemsAt "scenarios") =
    (report.features.flatMap FeatureResult.scenarios).map ScenarioResult.toJson

/-- A run that nothing escapes agrees with what it says. -/
theorem agrees_of_whole {load : Load}
    (loaded : load.features.map LoadedFeature.feature =
      (Load.files setup.tree settings.features).filterMap (Batch.featureIn? setup.tree))
    (whole : (runOf setup settings modules load).escaped = none) :
    Agrees setup settings load (runOf setup settings modules load).results
      (reportOn setup settings modules load)
      (runCode load (reportOn setup settings modules load)) where
  loaded := loaded
  selected := by
    refine Run.forall₂_runFeatures (fun loaded session result ran => ⟨?_, ?_⟩) whole
    · obtain ⟨-, rfl⟩ := Run.result_feature_eq_some_iff.mp ran
      rfl
    · exact Run.fulfilled_of_feature ran
  code := by
    rw [runCode, reportOn, passed_reportOf]
    cases load.ok <;> rfl
  status := by
    rw [RunReport.status_toJson, reportOn, passed_reportOf]
  console := by
    rw [RunReport.getLast?_lines, reportOn, passed_reportOf]
  groups := Collector.nodup_names_build _ _
  results := labelled_reportOf _ _
  document := RunReport.scenarios_toJson _ _

/-- Nothing else can escape than what fills registries and what handlers raise. -/
theorem escaped_runOf_eq_none {load : Load}
    (registered : ∀ error, (runOf setup settings modules load).escaped ≠ some (.registration error))
    (contained : ∀ fault, (runOf setup settings modules load).escaped ≠ some (.fault fault)) :
    (runOf setup settings modules load).escaped = none := by
  cases escaped : (runOf setup settings modules load).escaped with
  | none => rfl
  | some reason =>
      cases reason with
      | fault raised => exact absurd escaped (contained raised)
      | registration error => exact absurd escaped (registered error)
      | noRegistry =>
          exact absurd escaped (Run.escaped_runFeatures_ne_noRegistry settings load.features _)

/-- When the settings and the modules of a run are in order, the program goes on to the files,
and from them to the features that it loaded. -/
theorem exists_call_eq (setup : Setup c s w) {texts : List String}
    (read : Arguments.read texts = .ok arguments) (isRun : arguments.action = .run)
    (isPrepared :
      prepared setup.read arguments setup.tree setup.machine.environment = .ok settings)
    (named : settings.modules ≠ [])
    (found : searchEnding setup.modules settings.modules = .ok modules) :
    ∃ reached : Progress w, reached.Silent ∧
      call setup texts = finish
        (match (Load.ofSpecs setup.tree settings.failFast settings.features).2 with
          | .error error => (.error (.load error), reached)
          | .ok load => Work.outcome (runLoaded setup arguments settings modules load) reached) := by
  have start : (Progress.noted arguments.level
      (Settings.load setup.read setup.tree arguments.settings).1
      { world := setup.world }).Silent := ⟨rfl, rfl⟩
  obtain ⟨reached, silent, ran⟩ :=
    outcome_runNamed arguments settings named found start
  refine ⟨reached, silent, ?_⟩
  rw [call_of_read setup arguments read isRun, runScenarios_eq,
    Work.outcome_bind_of_ok (by rw [outcome_prepare, isPrepared]), ran]

/-- When the settings and the modules of a run are in order, the files that are named can be read,
no registration is refused and no fault escapes, the run ends with an exit code if the report can
be written.  If it cannot, the program breaks off, whatever became of the scenarios. -/
theorem call_agrees (setup : Setup c s w) {texts : List String}
    (read : Arguments.read texts = .ok arguments) (isRun : arguments.action = .run)
    (isPrepared :
      prepared setup.read arguments setup.tree setup.machine.environment = .ok settings)
    (named : settings.modules ≠ [])
    (found : searchEnding setup.modules settings.modules = .ok modules)
    (readable : Batch.Readable setup.tree (Load.files setup.tree settings.features))
    (registered : ∀ load error,
      (Load.ofSpecs setup.tree settings.failFast settings.features).2 = .ok load →
        (runOf setup settings modules load).escaped ≠ some (.registration error))
    (contained : ∀ load fault,
      (Load.ofSpecs setup.tree settings.failFast settings.features).2 = .ok load →
        (runOf setup settings modules load).escaped ≠ some (.fault fault)) :
    (Writable setup.tree settings →
      ∃ code, (call setup texts).ending = .ok code ∧
        (code = 2 ↔
          ∃ path ∈ Load.files setup.tree settings.features, Batch.Malformed setup.tree path) ∧
        ((∃ error, (Load.ofSpecs setup.tree settings.failFast settings.features).2 =
              .error (.document error) ∧
            settings.failFast = true ∧ code = 2 ∧ (call setup texts).progress.Silent) ∨
          ∃ load, (Load.ofSpecs setup.tree settings.failFast settings.features).2 = .ok load ∧
            Agrees setup settings load (runOf setup settings modules load).results
              (reportOn setup settings modules load) code ∧
            (call setup texts).progress.Reports arguments settings setup.machine
              (reportOn setup settings modules load))) ∧
      ∀ load path error,
        (Load.ofSpecs setup.tree settings.failFast settings.features).2 = .ok load →
          settings.reportPath.filter (!·.isEmpty) = some path →
            setup.tree.writeProblem? path = some error →
              (call setup texts).ending = .error (.report error) := by
  obtain ⟨reached, silent, called⟩ := exists_call_eq setup read isRun isPrepared named found
  have whole (load : Load)
      (outcome : (Load.ofSpecs setup.tree settings.failFast settings.features).2 = .ok load) :
      (runOf setup settings modules load).escaped = none :=
    escaped_runOf_eq_none (fun error => registered load error outcome)
      fun fault => contained load fault outcome
  constructor
  · intro writable
    rcases Load.ofSpecs_of_readable settings.failFast readable with
      ⟨error, outcome, failFast, malformed⟩ | ⟨load, outcome, loaded, ok⟩
    · rw [called, outcome]
      refine ⟨2, rfl, iff_of_true rfl malformed, Or.inl ⟨error, rfl, failFast, rfl, ?_⟩⟩
      exact ⟨silent.output, silent.report⟩
    · obtain ⟨reached, reports, ended⟩ :=
        outcome_runLoaded arguments (whole load outcome) writable silent
      have finished : call setup texts =
          { progress := reached
            ending := .ok (runCode load (reportOn setup settings modules load)) } := by
        rw [called, outcome]
        simp only [ended]
        rfl
      rw [finished]
      refine ⟨_, rfl, ?_,
        Or.inr ⟨load, outcome, agrees_of_whole loaded (whole load outcome), reports⟩⟩
      rw [runCode_eq_two_iff, ok]
      simp
  · intro load path error outcome given problem
    obtain ⟨reached, ended⟩ :=
      outcome_runLoaded_of_problem arguments (whole load outcome) given problem reached
    rw [called, outcome]
    simp only [ended, finish, failed, isReported_writeProblem problem, Bool.false_eq_true,
      if_false]

end Run

/-! ## Two files with features of one name -/

section Namesakes

attribute [local instance] Pattern.CharNames.empty

/-- A feature in two files; in the second its scenario has a step that is not defined. -/
def namesakeTree : FileTree :=
  { files :=
      [(["a.feature"], "Feature: F\nScenario: S\nGiven a\n".toUTF8),
        (["b.feature"], "Feature: F\nScenario: T\nGiven b\n".toUTF8)]
    directories := [["reports"]] }

/-- A module with a definition for one of the steps. -/
def oneStepModule : StepModule Bool Unit :=
  { name := "steps"
    attributes := [("letter", .definition { pattern := "a", code := true, identity := 0 })] }

/-- What the program works with. -/
def namesakeSetup : Setup Bool Unit Unit :=
  { tree := namesakeTree
    machine := { now := {}, host := "host", platform := "platform", environment := [] }
    read := fun _ => .ok .null
    modules := [oneStepModule]
    make := fun _ world => (.ok { state := () }, world)
    perform := fun _ session => (none, session)
    world := () }

/-- A run of both files. -/
def namesakeTexts : List String :=
  ["run", "a.feature", "b.feature", "--steps", "steps", "--report", "reports/all.json"]

/-- What the texts ask for. -/
def namesakeArguments : Arguments :=
  { action := .run, paths := ["a.feature", "b.feature"], modules := ["steps"],
    report := some "reports/all.json" }

/-- The settings of the run. -/
def namesakeSettings : Settings :=
  { features := [{ path := "/a.feature" }, { path := "/b.feature" }], modules := ["steps"],
    reportPath := some "reports/all.json" }

theorem call_agrees_namesakes :
    (call namesakeSetup namesakeTexts).ending = .ok 1 ∧
      ∃ load, Agrees namesakeSetup namesakeSettings load
          (runOf namesakeSetup namesakeSettings [oneStepModule] load).results
          (reportOn namesakeSetup namesakeSettings [oneStepModule] load) 1 ∧
        (reportOn namesakeSetup namesakeSettings [oneStepModule] load).features.map
          (fun feature => (feature.name, feature.scenarios.map ScenarioResult.passed)) =
            [("F", [true, false])] := by
  have read : Arguments.read namesakeTexts = .ok namesakeArguments := by
    decide +kernel
  have isPrepared : prepared namesakeSetup.read namesakeArguments namesakeTree [] =
      .ok namesakeSettings := rfl
  have found : searchEnding namesakeSetup.modules namesakeSettings.modules = .ok [oneStepModule] :=
    rfl
  have files : Load.files namesakeTree namesakeSettings.features =
      ["/a.feature", "/b.feature"] := by
    decide +kernel
  have readable : Batch.Readable namesakeTree
      (Load.files namesakeTree namesakeSettings.features) := by
    rw [files]
    simp only [Batch.Readable, List.forall_mem_cons]
    exact ⟨⟨_, rfl⟩, ⟨_, rfl⟩, nofun⟩
  have outcomes : (Load.ofSpecs namesakeTree true namesakeSettings.features).2.toOption.map
      (fun load =>
        (load.ok && (runOf namesakeSetup namesakeSettings [oneStepModule] load).escaped.isNone &&
            !(runOf namesakeSetup namesakeSettings [oneStepModule] load).results.all
              FeatureResult.passed,
          (reportOn namesakeSetup namesakeSettings [oneStepModule] load).features.map fun feature =>
            (feature.name, feature.scenarios.map ScenarioResult.passed))) =
        some (true, [("F", [true, false])]) := by
    decide +kernel
  obtain ⟨load, loaded, seen⟩ := exists_ok_of_map_toOption outcomes
  obtain ⟨⟨⟨ok, whole⟩, someFailed⟩, grouped⟩ := by
    simpa only [Prod.mk.injEq, Bool.and_eq_true, Bool.not_eq_true', Option.isNone_iff_eq_none]
      using seen
  have noEscape (other : Load) (reason : Escape)
      (otherLoaded : (Load.ofSpecs namesakeTree true namesakeSettings.features).2 = .ok other) :
      (runOf namesakeSetup namesakeSettings [oneStepModule] other).escaped ≠ some reason := by
    obtain rfl : other = load := Except.ok.inj (otherLoaded.symm.trans loaded)
    rw [whole]
    exact nofun
  have writable : Writable namesakeTree namesakeSettings := by
    intro path given
    obtain rfl := Option.some.inj given
    rfl
  obtain ⟨agreement, -⟩ :=
    call_agrees namesakeSetup read rfl isPrepared (by decide) found readable
      (fun other error => noEscape other (.registration error))
      (fun other fault => noEscape other (.fault fault))
  obtain ⟨code, ending, -, ⟨error, failed, -⟩ | ⟨other, otherLoaded, agrees, -⟩⟩ :=
    agreement writable
  · cases loaded.symm.trans failed
  · obtain rfl : other = load := Except.ok.inj (otherLoaded.symm.trans loaded)
    obtain rfl : code = 1 := by simpa [ok, someFailed] using agrees.code
    exact ⟨ending, other, agrees, grouped⟩

/-- A run that is to write its report where a directory is. -/
def unwritableTexts : List String :=
  ["run", "a.feature", "--steps", "steps", "--report", "reports"]

/-- What the texts ask for. -/
def unwritableArguments : Arguments :=
  { action := .run, paths := ["a.feature"], modules := ["steps"], report := some "reports" }

/-- The settings of the run. -/
def unwritableSettings : Settings :=
  { features := [{ path := "/a.feature" }], modules := ["steps"], reportPath := some "reports" }

/-- When the report cannot be written, a run has no exit code, even if nothing else is wrong and
every scenario passed. -/
theorem call_without_code_of_unwritable :
    Arguments.read unwritableTexts = .ok unwritableArguments ∧
      prepared namesakeSetup.read unwritableArguments namesakeTree [] =
        .ok unwritableSettings ∧
      searchEnding namesakeSetup.modules unwritableSettings.modules = .ok [oneStepModule] ∧
      Batch.Readable namesakeTree (Load.files namesakeTree unwritableSettings.features) ∧
      (∃ load, (Load.ofSpecs namesakeTree true unwritableSettings.features).2 = .ok load ∧
        load.ok = true ∧
        (runOf namesakeSetup unwritableSettings [oneStepModule] load).escaped = none ∧
        (runOf namesakeSetup unwritableSettings [oneStepModule] load).results.all
          FeatureResult.passed = true) ∧
      (call namesakeSetup unwritableTexts).ending.toOption = none := by
  refine ⟨by decide +kernel, rfl, rfl, ?_, ?_, by decide +kernel⟩
  · have files : Load.files namesakeTree unwritableSettings.features = ["/a.feature"] := by
      decide +kernel
    rw [files]
    simp only [Batch.Readable, List.forall_mem_cons]
    exact ⟨⟨_, rfl⟩, nofun⟩
  · have outcome : (Load.ofSpecs namesakeTree true unwritableSettings.features).2.toOption.map
        (fun load =>
          load.ok && (runOf namesakeSetup unwritableSettings [oneStepModule] load).escaped.isNone &&
            (runOf namesakeSetup unwritableSettings [oneStepModule] load).results.all
              FeatureResult.passed) = some true := by
      decide +kernel
    obtain ⟨load, loaded, seen⟩ := exists_ok_of_map_toOption outcome
    refine ⟨load, loaded, ?_⟩
    simpa only [Bool.and_eq_true, Option.isNone_iff_eq_none, and_assoc] using seen

end Namesakes

end Command

end Gherkin
