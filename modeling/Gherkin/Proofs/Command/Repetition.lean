import Gherkin.Proofs.Command.Work
import Gherkin.Proofs.Run.Details
import Gherkin.Proofs.Step.Growth
import Gherkin.Proofs.Step.Renewal

/-!
# Step modules that are named again

The step modules of a run are those of the settings, and then those of the arguments that the
settings do not name.  A name that stands among them again makes no difference when its module
has nothing but definitions.  Otherwise the registries differ: the steps of its classes and of its
hook are registered again, and become ambiguous.
-/

namespace Gherkin.Command

variable {c s w α β γ δ : Type} {level : Level}

/-- Progress that is alike from a level on: only details that are noted differ. -/
structure Progress.Alike (level : Level) (progress other : Progress w) : Prop where
  output : progress.written.output = other.written.output
  report : progress.written.report = other.written.report
  world : progress.world = other.world
  errors : level ≠ .debug → progress.written.errors = other.written.errors

/-- Notes that differ in details only are shown alike. -/
theorem Progress.Alike.noted {progress other : Progress w} (alike : progress.Alike level other)
    {notes otherNotes : List Note} (same : salientNotes notes = salientNotes otherNotes) :
    (progress.noted level notes).Alike level (other.noted level otherNotes) := by
  refine { alike with errors := fun shown => ?_ }
  -- Above the level of details, only salient notes are shown.
  have salient (notes : List Note) :
      notes.filter (·.shownAt level) = (salientNotes notes).filter (·.shownAt level) := by
    rw [salientNotes, List.filter_filter]
    refine List.filter_congr fun note _ => ?_
    cases isDetail : note.level <;> cases level <;> simp_all [Note.shownAt, Level.rank]
  simp only [Progress.noted, salient notes, salient otherNotes, same, alike.errors shown]

/-- Ends that are alike: with values that are related, or with the same problem. -/
inductive EndsAlike (level : Level) (Related : α → β → Prop) :
    Except Problem α × Progress w → Except Problem β × Progress w → Prop
  | ok {value : α} {otherValue : β} {progress other : Progress w}
      (related : Related value otherValue) (alike : progress.Alike level other) :
      EndsAlike level Related (.ok value, progress) (.ok otherValue, other)
  | error (problem : Problem) {progress other : Progress w} (alike : progress.Alike level other) :
      EndsAlike level Related (.error problem, progress) (.error problem, other)

/-- Work that ends alike wherever it starts alike. -/
def Work.Alike (level : Level) (Related : α → β → Prop) (work : Work w α) (other : Work w β) :
    Prop :=
  ∀ progress otherProgress, progress.Alike level otherProgress →
    EndsAlike level Related (work.outcome progress) (other.outcome otherProgress)

namespace Work.Alike

variable {Related : α → β → Prop} {RelatedLater : γ → δ → Prop}

theorem pure {value : α} {otherValue : β} (related : Related value otherValue) :
    Work.Alike level Related (Pure.pure value : Work w α) (Pure.pure otherValue) :=
  fun _ _ alike => .ok related alike

theorem throw (problem : Problem) :
    Work.Alike level Related (MonadExcept.throw problem : Work w α)
      (MonadExcept.throw problem : Work w β) :=
  fun _ _ alike => .error problem alike

theorem bind {work : Work w α} {other : Work w β} {next : α → Work w γ}
    {otherNext : β → Work w δ} (first : Work.Alike level Related work other)
    (later : ∀ value otherValue, Related value otherValue →
      Work.Alike level RelatedLater (next value) (otherNext otherValue)) :
    Work.Alike level RelatedLater (work >>= next) (other >>= otherNext) := by
  intro progress otherProgress alike
  have ended := first progress otherProgress alike
  rw [outcome_bind, outcome_bind]
  generalize work.outcome progress = became at ended ⊢
  generalize other.outcome otherProgress = otherBecame at ended ⊢
  cases ended with
  | ok related reached => exact later _ _ related _ _ reached
  | error problem reached => exact .error problem reached

theorem complain (lines : List String) :
    Work.Alike level Eq (Command.complain lines : Work w Unit) (Command.complain lines) :=
  fun _ _ alike => .ok rfl
    { alike with errors := fun shown => congrArg (· ++ lines) (alike.errors shown) }

theorem printLines (lines : List String) :
    Work.Alike level Eq (Command.printLines lines : Work w Unit) (Command.printLines lines) :=
  fun _ _ alike => .ok rfl { alike with output := congrArg (· ++ lines) alike.output }

theorem keepReport (report : String × String) :
    Work.Alike level Eq
      (write fun written => { written with report := some report } : Work w Unit)
      (write fun written => { written with report := some report }) :=
  fun _ _ alike => .ok rfl { alike with report := rfl }

theorem enter (world : w) :
    Work.Alike level Eq (modify fun progress => { progress with world } : Work w Unit)
      (modify fun progress => { progress with world }) :=
  fun _ _ alike => .ok rfl { alike with world := rfl }

theorem orStop {ε : Type} (problem : ε → Problem) (outcome : Except ε α) :
    Work.Alike level Eq (Command.orStop problem outcome : Work w α)
      (Command.orStop problem outcome) := by
  cases outcome with
  | ok value => exact .pure rfl
  | error error => exact .throw (problem error)

theorem showNotes {notes otherNotes : List Note}
    (same : salientNotes notes = salientNotes otherNotes) :
    Work.Alike level Eq (Command.showNotes level notes : Work w Unit)
      (Command.showNotes level otherNotes) :=
  fun _ _ alike => .ok rfl (alike.noted same)

end Work.Alike

/-- The first item that is allowed is found among the items without repetitions. -/
theorem find?_eraseDups {α : Type} [BEq α] [LawfulBEq α] (allowed : α → Bool) (items : List α) :
    items.eraseDups.find? allowed = items.find? allowed := by
  induction items using eraseDups_induction with
  | nil => rfl
  | cons first rest ih =>
      rw [List.eraseDups_cons, List.find?_cons, List.find?_cons, ih, List.find?_filter]
      cases isAllowed : allowed first with
      | true => rfl
      | false =>
          have others (other : α) :
              decide ((!other == first) = true ∧ allowed other = true) = allowed other := by
            by_cases same : other = first
            · simp [same, isAllowed]
            · simp [same]
          simp only [others]

/-! ## Stages of a run -/

section Run

variable {setup : Setup c s w} {arguments : Arguments} {settings : Settings}

theorem alike_loadFeatures (level : Level) (tree : FileTree) (settings : Settings) :
    Work.Alike level Eq (loadFeatures level tree settings : Work w Load)
      (loadFeatures level tree settings) := by
  refine .bind (.showNotes rfl) fun _ _ _ => .bind (.orStop Problem.load _) ?_
  rintro load _ rfl
  exact .bind (.complain _) fun _ _ _ => .pure rfl

theorem alike_writeReport (arguments : Arguments) (settings : Settings) (tree : FileTree)
    (machine : Machine) (report : RunReport) :
    Work.Alike level Eq (writeReport arguments settings tree machine report : Work w Unit)
      (writeReport arguments settings tree machine report) := by
  refine .bind (.printLines _) fun _ _ _ => ?_
  cases settings.reportPath.filter (!·.isEmpty) with
  | none => exact .pure rfl
  | some path =>
      dsimp only
      cases tree.writeProblem? path with
      | some error => exact .throw (.report error)
      | none =>
          refine .bind (.keepReport (path, report.render machine)) fun _ _ _ => ?_
          split
          · exact .printLines _
          · exact .pure rfl

variable [Pattern.CharNames]

/-- Registries are filled alike by the modules, in every world. -/
def FilledAlike (setup : Setup c s w) (settings : Settings) (modules others : List (StepModule c w)) :
    Prop :=
  ∀ world,
    (Registry.build setup.make [] modules settings.classes world : Filling c s w).salient =
      (Registry.build setup.make [] others settings.classes world).salient

/-- The same becomes of the features, apart from details, when registries are filled alike. -/
theorem runOf_congr (ignores : Run.IgnoresDetails setup.perform)
    {modules otherModules : List (StepModule c w)}
    (same : FilledAlike setup settings modules otherModules) (load : Load) :
    let run := runOf setup settings modules load
    let other := runOf setup settings otherModules load
    run.results = other.results ∧ run.escaped = other.escaped ∧
      run.session.salient = other.session.salient := by
  refine Run.salient_runFeatures ignores (.fresh ?_) settings load.features rfl
  intro session other alike
  obtain ⟨-, world, -⟩ := Session.salient_eq_iff.mp alike
  rw [world]
  exact same other.world

theorem alike_runLoaded (ignores : Run.IgnoresDetails setup.perform)
    {modules otherModules : List (StepModule c w)}
    (same : FilledAlike setup settings modules otherModules) (load : Load) :
    Work.Alike arguments.level Eq (runLoaded setup arguments settings modules load)
      (runLoaded setup arguments settings otherModules load) := by
  obtain ⟨results, escaped, left⟩ := runOf_congr ignores same load
  obtain ⟨-, world, notes⟩ := Session.salient_eq_iff.mp left
  rw [runLoaded, runLoaded, results, escaped, world]
  refine .bind (.enter _) fun _ _ _ => .bind (.showNotes notes) fun _ _ _ => ?_
  split
  · exact .throw _
  · exact .bind (alike_writeReport _ _ _ _ _) fun _ _ _ => .pure rfl

/-- The modules that a run may name again in a world: those that are found have nothing but
definitions. -/
def Repeatable (setup : Setup c s w) (settings : Settings) (names : List String) (world : w) :
    Prop :=
  ∀ name, 1 < names.count name →
    ∀ module, moduleNamed? setup.modules name = some module →
      module.OnlyDefinitions settings.classes world

/-- Registries are filled alike without repetitions of modules that may be named again in every
world. -/
theorem filledAlike_eraseDups {names : List String}
    (repeatable : ∀ world, Repeatable setup settings names world) :
    FilledAlike setup settings (names.filterMap (moduleNamed? setup.modules))
      (names.eraseDups.filterMap (moduleNamed? setup.modules)) := by
  intro world
  rw [Registry.build_filterMap, Registry.build_filterMap]
  have only : ∀ name, 1 < names.count name →
      Registry.Named.Only settings.classes (moduleNamed? setup.modules) (fun _ => True) name :=
    fun name repeated world _ module found => repeatable world name repeated module found
  exact Registry.salient_fill_eraseDups only (fun _ _ _ _ _ _ => trivial) trivial {}

/-- The modules that are named can be found, or the same one is missing, when repetitions are left
out. -/
theorem alike_findModules {names : List String}
    (repeatable : ∀ world, Repeatable setup settings names world) :
    Work.Alike level (FilledAlike setup settings)
      (findModules level setup.modules names : Work w _)
      (findModules level setup.modules names.eraseDups) := by
  intro progress other alike
  obtain ⟨notes, details, ended⟩ := outcome_findModules level setup.modules names progress
  obtain ⟨otherNotes, otherDetails, otherEnded⟩ :=
    outcome_findModules level setup.modules names.eraseDups other
  have noNotes {notes : List Note} (details : ∀ note ∈ notes, note.level = .debug) :
      salientNotes notes = [] :=
    List.filter_eq_nil_iff.mpr fun note member => by simp [details note member]
  have reached : (progress.noted level notes).Alike level (other.noted level otherNotes) :=
    alike.noted ((noNotes details).trans (noNotes otherDetails).symm)
  rw [ended, otherEnded, searchEnding, searchEnding, find?_eraseDups]
  split
  · exact .error _ reached
  · exact .ok (filledAlike_eraseDups repeatable) reached

theorem alike_runNamed (ignores : Run.IgnoresDetails setup.perform) {names : List String}
    (repeatable : ∀ world, Repeatable setup settings names world) :
    Work.Alike arguments.level Eq (runNamed setup arguments settings names)
      (runNamed setup arguments settings names.eraseDups) := by
  have sameEmpty : names.eraseDups.isEmpty = names.isEmpty := by
    cases names <;> simp [List.eraseDups_cons]
  rw [runNamed, runNamed, sameEmpty]
  split
  · exact .throw _
  · refine .bind (alike_findModules repeatable) ?_
    intro modules others same
    refine .bind (alike_loadFeatures _ _ _) ?_
    rintro load _ rfl
    exact alike_runLoaded ignores same load

/-! ## Calls -/

/-- Run as if every step module were named once. -/
def runOnce (setup : Setup c s w) (arguments : Arguments) : Work w Nat :=
  prepare setup.read arguments setup.tree setup.machine.environment >>= fun settings =>
    runNamed setup arguments settings settings.modules.eraseDups

omit [Pattern.CharNames] in
/-- What the program did is alike when its work ended alike. -/
theorem finish_of_endsAlike {ended otherEnded : Except Problem Nat × Progress w}
    (alike : EndsAlike level Eq ended otherEnded) :
    (finish ended).ending = (finish otherEnded).ending ∧
      (finish ended).progress.Alike level (finish otherEnded).progress := by
  cases alike with
  | ok related reached => exact ⟨congrArg Except.ok related, reached⟩
  | error problem reached =>
      simp only [finish, failed]
      split
      · refine ⟨rfl, { reached with errors := fun shown => ?_ }⟩
        exact congrArg (· ++ ["Error: " ++ problem.message]) (reached.errors shown)
      · exact ⟨rfl, reached⟩

/-- When the modules of a run leave the world as it is, the registries that they fill there are the
same with and without repetitions exactly when those that are repeated have nothing but
definitions; and a step is ambiguous when a pattern applies to it that a repeated module
renews. -/
structure Repeats (setup : Setup c s w) (settings : Settings) (world : w) : Prop where
  alike_iff :
    (Registry.build setup.make [] (settings.modules.filterMap (moduleNamed? setup.modules))
          settings.classes world : Filling c s w).salient =
        (Registry.build setup.make []
          (settings.modules.eraseDups.filterMap (moduleNamed? setup.modules)) settings.classes
          world).salient ↔
      Repeatable setup settings settings.modules world
  ambiguous : ∀ name module text keyword, 1 < settings.modules.count name →
    moduleNamed? setup.modules name = some module →
      module.Renews setup.make settings.classes world text keyword →
        ∀ pattern, Pattern.read text = .ok pattern →
          ∀ (step : Step) source, (keyword = none ∨ keyword = some step.resolved) →
            (pattern.fullMatch step.text).isSome → ∃ patterns,
              (Registry.build setup.make []
                (settings.modules.filterMap (moduleNamed? setup.modules)) settings.classes
                world : Filling c s w).registry.resolve step source =
                .error { step, problem := .ambiguous patterns, source }

theorem repeats_of_keep {world : w}
    (keep : Registry.Named.Keep setup.make settings.classes (moduleNamed? setup.modules) world
      settings.modules)
    (built : (Registry.build setup.make []
      (settings.modules.filterMap (moduleNamed? setup.modules)) settings.classes world :
        Filling c s w).error = none) :
    Repeats setup settings world where
  alike_iff := Registry.salient_build_eraseDups_iff keep built
  ambiguous := by
    intro name module text keyword repeated found renews pattern reads step source forStep isMatch
    exact Registry.exists_ambiguous_of_named_twice keep built found repeated renews reads forStep
      isMatch source

/-- The step modules of a run are named in the settings, and then in the arguments as far as the
settings do not name them.  With and without repetitions of them the same becomes of the run when
the repeated modules have nothing but definitions, in whatever world they are registered; where
registering leaves the world as it is, only then are the registries the same. -/
theorem call_alike_of_repeatable (setup : Setup c s w) {texts : List String}
    (read : Arguments.read texts = .ok arguments) (isRun : arguments.action = .run)
    (ignores : Run.IgnoresDetails setup.perform) :
    (∀ settings,
        prepared setup.read arguments setup.tree setup.machine.environment = .ok settings →
          (∃ base, (Settings.load setup.read setup.tree arguments.settings).2 = .ok base ∧
            settings.modules =
              base.modules ++ arguments.modules.filter fun name => !base.modules.contains name) ∧
          ∀ world,
            Registry.Named.Keep setup.make settings.classes (moduleNamed? setup.modules) world
                settings.modules →
              (Registry.build setup.make []
                  (settings.modules.filterMap (moduleNamed? setup.modules)) settings.classes
                  world : Filling c s w).error = none →
                Repeats setup settings world) ∧
      ((∀ settings,
          prepared setup.read arguments setup.tree setup.machine.environment = .ok settings →
            ∀ world, Repeatable setup settings settings.modules world) →
        let once := finish ((runOnce setup arguments).outcome { world := setup.world })
        (call setup texts).ending = once.ending ∧
          (call setup texts).progress.Alike arguments.level once.progress ∧
          ∀ settings,
            prepared setup.read arguments setup.tree setup.machine.environment = .ok settings →
              ∀ load,
                let run := runOf setup settings
                  (settings.modules.filterMap (moduleNamed? setup.modules)) load
                let onceRun := runOf setup settings
                  (settings.modules.eraseDups.filterMap (moduleNamed? setup.modules)) load
                run.results = onceRun.results ∧ run.escaped = onceRun.escaped) := by
  refine ⟨fun settings isPrepared => ⟨modules_of_prepared isPrepared,
    fun world => repeats_of_keep⟩, ?_⟩
  intro repeatable once
  have ended : EndsAlike arguments.level Eq
      ((runScenarios setup arguments).outcome { world := setup.world })
      ((runOnce setup arguments).outcome { world := setup.world }) := by
    have same (progress : Progress w) : progress.Alike arguments.level progress :=
      ⟨rfl, rfl, rfl, fun _ => rfl⟩
    rw [runScenarios_eq, runOnce, Work.outcome_bind, Work.outcome_bind, outcome_prepare]
    cases isPrepared : prepared setup.read arguments setup.tree setup.machine.environment with
    | error problem => exact .error problem (same _)
    | ok settings => exact alike_runNamed ignores (repeatable settings isPrepared) _ _ (same _)
  obtain ⟨ending, progress⟩ := finish_of_endsAlike ended
  rw [call_of_read setup arguments read isRun]
  refine ⟨ending, progress, fun settings isPrepared load => ?_⟩
  obtain ⟨results, escaped, -⟩ :=
    runOf_congr ignores (filledAlike_eraseDups (repeatable settings isPrepared)) load
  exact ⟨results, escaped⟩

end Run

/-! ## A module with a definition, and one with a class -/

section Letters

attribute [local instance] Pattern.CharNames.empty

/-- Handlers that always complete. -/
def complete : Perform Bool Unit Unit :=
  fun _ session => (none, session)

theorem ignoresDetails_complete : Run.IgnoresDetails complete :=
  fun _ _ _ alike => ⟨rfl, alike⟩

/-- A settings file that names a module twice. -/
def namedText : String := "steps: [plain, classes, plain]\n"

/-- What reads that text. -/
def readNamed : Yaml.Reader := fun text =>
  if text = namedText then
    .ok (.mapping
      [(.string "steps", .list [.string "plain", .string "classes", .string "plain"])])
  else .error (.malformed "another text")

/-- A feature of one step, and the settings file. -/
def letterTree : FileTree :=
  { files :=
      [(["a.feature"], "Feature: F\nScenario: S\nGiven a\n".toUTF8),
        (["named.yaml"], namedText.toUTF8)] }

/-- A class with a method for the step. -/
def methodClass : StepClass Bool :=
  { name := "Methods"
    tables := [[("letter", .method "a" none true)], StepClass.root.attributes] }

/-- A module that has a class for the step. -/
def classModule : StepModule Bool Unit :=
  { name := "classes", attributes := [(methodClass.name, .stepClass methodClass true)] }

/-- A module that has a definition for another step. -/
def plainModule : StepModule Bool Unit :=
  { name := "plain"
    attributes := [("other", .definition { pattern := "b", code := true, identity := 0 })] }

/-- What the program works with. -/
def letterSetup : Setup Bool Unit Unit :=
  { tree := letterTree
    machine := { now := {}, host := "host", platform := "platform", environment := [] }
    read := readNamed
    modules := [plainModule, classModule]
    make := fun _ world => (.ok { state := () }, world)
    perform := complete
    world := () }

/-- A run in which the settings file and the arguments name modules again. -/
def namedTexts : List String :=
  ["run", "a.feature", "--config", "named.yaml", "--steps", "classes"]

/-- What the texts ask for. -/
def namedArguments : Arguments :=
  { action := .run, paths := ["a.feature"], settings := some "named.yaml", modules := ["classes"] }

theorem call_alike_of_repeatable_named :
    (call letterSetup namedTexts).ending =
        (finish ((runOnce letterSetup namedArguments).outcome { world := () })).ending ∧
      (call letterSetup namedTexts).ending.toOption = some 0 ∧
      ∃ settings, prepared readNamed namedArguments letterTree [] = .ok settings ∧
        settings.modules = ["plain", "classes", "plain"] ∧ Repeats letterSetup settings () := by
  have read : Arguments.read namedTexts = .ok namedArguments := by
    decide +kernel
  have names : (prepared readNamed namedArguments letterTree []).toOption.map Settings.modules =
      some ["plain", "classes", "plain"] := by
    decide +kernel
  have only (classes : Option NameSet) (world : Unit) :
      plainModule.OnlyDefinitions classes world :=
    { idle := rfl
      unused := by simp [plainModule] }
  obtain ⟨settings, isPrepared, modules⟩ := exists_ok_of_map_toOption names
  have repeatable (others : Settings)
      (othersPrepared : prepared readNamed namedArguments letterTree [] = .ok others) :
      ∀ world, Repeatable letterSetup others others.modules world := by
    obtain rfl : others = settings := Except.ok.inj (othersPrepared.symm.trans isPrepared)
    intro world name repeated module found
    have isPlain : name = "plain" := by
      rw [modules] at repeated
      by_contra other
      simp only [List.count_cons] at repeated
      grind
    subst isPlain
    obtain rfl := Option.some.inj found
    exact only others.classes world
  have keep : Registry.Named.Keep letterSetup.make settings.classes
      (moduleNamed? letterSetup.modules) () settings.modules :=
    fun _ _ _ _ => { hook := rfl, stepClass := fun _ _ _ _ => rfl }
  have built : ((prepared readNamed namedArguments letterTree []).toOption.map fun settings =>
      (Registry.build letterSetup.make []
        (settings.modules.filterMap (moduleNamed? letterSetup.modules)) settings.classes () :
          Filling Bool Unit Unit).error.isNone) = some true := by
    decide +kernel
  rw [isPrepared, Except.toOption, Option.map_some, Option.some.injEq,
    Option.isNone_iff_eq_none] at built
  obtain ⟨exact, alike⟩ :=
    call_alike_of_repeatable letterSetup read rfl ignoresDetails_complete
  obtain ⟨-, repeats⟩ := exact settings isPrepared
  obtain ⟨ending, -⟩ := alike repeatable
  exact ⟨ending, by decide +kernel, settings, isPrepared, modules, repeats () keep built⟩

/-- The arguments name the module with a class twice. -/
def repeatedTexts : List String :=
  ["run", "a.feature", "--steps", "classes", "--steps", "classes"]

/-- What the texts ask for. -/
def repeatedArguments : Arguments :=
  { action := .run, paths := ["a.feature"], modules := ["classes", "classes"] }

/-- When the arguments name a module with a class twice, its step is ambiguous and the run fails;
it passes when the module is named once. -/
theorem call_ne_of_class_named_twice :
    Arguments.read repeatedTexts = .ok repeatedArguments ∧
      (call letterSetup repeatedTexts).ending.toOption = some 1 ∧
      (finish ((runOnce letterSetup repeatedArguments).outcome { world := () })).ending.toOption =
        some 0 := by
  decide +kernel

end Letters

end Gherkin.Command
