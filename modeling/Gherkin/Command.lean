import Gherkin.Command.Help
import Gherkin.Command.Work

/-!
# The program

The actions of the program: to list features, to show the plan of a run, and to
run.  The exit code is 0 when every selected scenario passed, 1 when one failed,
and 2 when the command line, the settings, a step module or a feature file is at
fault.
-/

namespace Gherkin.Command

variable {c s w : Type}

/-- Settings combined with the arguments, which come last.  Paths replace the
features; everything else is added. -/
def Arguments.apply (arguments : Arguments) (tree : FileTree) (settings : Settings) :
    Except Text.IntegerError Settings := do
  let features ←
    if arguments.paths.isEmpty then pure settings.features
    else PathSpec.parseAll tree tree.workingPath arguments.paths
  return { settings with
    features
    tags := settings.tags.merge (some (.ofStrings arguments.included arguments.excluded))
    names :=
      if arguments.names.isEmpty then settings.names
      else some ((NameFilter.ofNames arguments.names).merge settings.names)
    modules :=
      settings.modules ++ arguments.modules.filter fun name => !settings.modules.contains name
    verbose := settings.verbose || arguments.verbose
    reportPath := (arguments.report.filter (!·.isEmpty)).or settings.reportPath }

/-- The settings of a call: the settings file, then the environment, then the
arguments. -/
def prepare (read : Yaml.Reader) (arguments : Arguments) (tree : FileTree)
    (environment : Environment) : Work w Settings := do
  let (notes, outcome) := Settings.load read tree arguments.settings
  showNotes arguments.level notes
  let settings ← orStop .settings outcome
  let settings ← orStop .settings (settings.withEnvironment tree environment)
  let settings ← orStop .line (arguments.apply tree settings)
  if settings.features.isEmpty then throw .noFeatures
  return settings

/-- Load the features, and report the files that cannot be read. -/
def loadFeatures (level : Level) (tree : FileTree) (settings : Settings) : Work w Load := do
  let (notes, outcome) := Load.ofSpecs tree settings.failFast settings.features
  showNotes level notes
  let load ← orStop .load outcome
  complain (load.errors.map fun (_, error) => "Error: " ++ error.message)
  return load

/-- What the settings select from a feature that was loaded. -/
def selectionOf (settings : Settings) (loaded : LoadedFeature) : Selection :=
  { tags := some settings.tags, names := settings.names, lines := loaded.lines }

/-- The exit code for features that were loaded. -/
def loadCode (load : Load) : Nat :=
  if load.ok then 0 else 2

/-- List the features and their entries. -/
def listFeatures (read : Yaml.Reader) (arguments : Arguments) (tree : FileTree)
    (environment : Environment) : Work w Nat := do
  let settings ← prepare read arguments tree environment
  let load ← loadFeatures arguments.level tree settings
  load.features.forM fun loaded => do
    showNotes arguments.level loaded.feature.expansionNotes
    printLines loaded.feature.listing
  return loadCode load

/-- The plans of the features that were loaded. -/
def plansOf (settings : Settings) (load : Load) : List FeaturePlan :=
  load.features.map fun loaded =>
    FeaturePlan.ofFeature (selectionOf settings loaded) loaded.feature

/-- Show the plan of a run. -/
def showPlan (read : Yaml.Reader) (arguments : Arguments) (tree : FileTree)
    (environment : Environment) : Work w Nat := do
  let settings ← prepare read arguments tree environment
  let load ← loadFeatures arguments.level tree settings
  load.features.forM fun loaded =>
    showNotes arguments.level loaded.feature.expansionNotes
  let plans := plansOf settings load
  printLines (if arguments.json then [FeaturePlan.render plans] else FeaturePlan.allLines plans)
  return loadCode load

/-- A dotted name and the names that it continues, the longest first. -/
def dottedStarts (name : String) : List String :=
  let parts := Text.splitAt '.' name.toList
  (List.range parts.length).map fun dropped =>
    String.ofList (Text.join ['.'] (parts.take (parts.length - dropped)))

/-- Why a step module cannot be found. -/
def missingModule (found : String → Bool) (name : String) : Problem :=
  if name.isEmpty then .unnamedModule
  else if name.startsWith "." then .relativeModule name
  else
    let starts := dottedStarts name
    let missing := starts.takeWhile (!found ·)
    .noModule name (missing.getLast?.getD name) (starts.drop missing.length).head?

/-- Find the step modules of the given names, in order. -/
def findModules (level : Level) (modules : List (StepModule c w)) :
    List String → Work w (List (StepModule c w))
  | [] => return []
  | name :: rest => do
      match modules.find? fun module => module.name == name with
      | none => throw (missingModule (fun start => modules.any (·.name == start)) name)
      | some module =>
          showNotes level
            [{ level := .debug, origin := .command
               text := "Imported step module " ++ name }]
          return module :: (← findModules level modules rest)

/-- What became of the features of a run. -/
structure RunOutcome (c s w : Type) where
  results : List FeatureResult
  escaped : Option Escape
  session : Session c s w

/-- Run features one after the other; what escapes ends the run. -/
def runFeatures (perform : Perform c s w) (supply : Run.Supply c s w)
    (settings : Settings) : List LoadedFeature → Session c s w → RunOutcome c s w
  | [], session => { results := [], escaped := none, session }
  | loaded :: rest, session =>
      let run := Run.feature perform supply (selectionOf settings loaded) loaded.feature session
      match run.result with
      | none => { results := [], escaped := run.escaped, session := run.session }
      | some result =>
          let later := runFeatures perform supply settings rest run.session
          { later with results := result :: later.results }

/-- The report of a run. -/
def reportOf (results : List FeatureResult) (now : Timestamp) : RunReport :=
  (results.foldl Collector.recordFeature { started := now }).build now

/-- The exit code of a run. -/
def runCode (load : Load) (report : RunReport) : Nat :=
  if !load.ok then 2 else if report.passed then 0 else 1

/-- Write the report of a run. -/
def writeReport (arguments : Arguments) (settings : Settings) (tree : FileTree)
    (machine : Machine) (report : RunReport) : Work w Unit := do
  printLines
    (if arguments.json then [report.render machine] else report.lines settings.verbose)
  match settings.reportPath.filter (!·.isEmpty) with
  | none => return
  | some path =>
      match tree.writeProblem? path with
      | some error => throw (.report error)
      | none =>
          write fun written => { written with report := some (path, report.render machine) }
          if !arguments.json then printLines ["", "Report written to: " ++ path]

/-- Run the selected scenarios. -/
def runScenarios [Pattern.CharNames] (setup : Setup c s w) (arguments : Arguments) :
    Work w Nat := do
  let settings ← prepare setup.read arguments setup.tree setup.machine.environment
  if settings.modules.isEmpty then throw .noModules
  let modules ← findModules arguments.level setup.modules settings.modules
  let load ← loadFeatures arguments.level setup.tree settings
  let supply : Run.Supply c s w := .fresh fun session =>
    Registry.build setup.make [] modules settings.classes session.world
  let run := runFeatures setup.perform supply settings load.features
    { world := setup.world }
  modify fun progress => { progress with world := run.session.world }
  showNotes arguments.level run.session.notes
  match run.escaped with
  | some reason => throw (.escape reason)
  | none =>
      let report := reportOf run.results setup.machine.now
      writeReport arguments settings setup.tree setup.machine report
      return runCode load report

/-- Carry out an action. -/
def perform [Pattern.CharNames] (setup : Setup c s w) (arguments : Arguments) : Work w Nat :=
  match arguments.action with
  | .list => listFeatures setup.read arguments setup.tree setup.machine.environment
  | .plan => showPlan setup.read arguments setup.tree setup.machine.environment
  | .run => runScenarios setup arguments

/-- What the program did. -/
structure Outcome (w : Type) where
  progress : Progress w
  /-- The exit code, or the problem that broke the program off. -/
  ending : Except Problem Nat

/-- What the program did when its command line stopped it. -/
def stopped (world : w) : Stop → Outcome w
  | .help program =>
      { progress := { written := { output := helpLines program }, world }, ending := .ok 0 }
  | .version =>
      { progress := { written := { output := [versionLine] }, world }, ending := .ok 0 }
  | .misuse program problem =>
      { progress := { written := { errors := [program ++ ": error: " ++ problem] }, world }
        ending := .ok 2 }

/-- What the program did when a problem stopped it. -/
def failed (problem : Problem) (progress : Progress w) : Outcome w :=
  if problem.isReported then
    { progress :=
        { progress with
          written :=
            { progress.written with
              errors := progress.written.errors ++ ["Error: " ++ problem.message] } }
      ending := .ok 2 }
  else { progress, ending := .error problem }

/-- Call the program with arguments. -/
def call [Pattern.CharNames] (setup : Setup c s w) (arguments : List String) : Outcome w :=
  match Arguments.read arguments with
  | .error stop => stopped setup.world stop
  | .ok arguments =>
      match (perform setup arguments).run.run { world := setup.world } with
      | (.ok code, progress) => { progress, ending := .ok code }
      | (.error problem, progress) => failed problem progress

end Gherkin.Command
