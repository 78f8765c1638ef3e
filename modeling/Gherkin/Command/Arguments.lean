import Gherkin.Command.Grammar
import Gherkin.Note

/-!
# Arguments of the program

The program has three actions: it lists features, shows the plan of a run, or
runs.  All of them take paths and a settings file, the last two also filters, and
the last one also step modules and a report.
-/

namespace Gherkin.Command

/-- What the program is to do. -/
inductive Action where
  | list
  | plan
  | run
  deriving Repr, DecidableEq

namespace Action

/-- Every action. -/
def all : List Action := [list, plan, run]

/-- The name of an action. -/
def name : Action → String
  | list => "list"
  | plan => "plan"
  | run => "run"

/-- The action of a name. -/
def ofName? (name : String) : Option Action :=
  all.find? fun action => action.name == name

end Action

/-- The arguments of the program. -/
structure Arguments where
  action : Action
  level : Level := .warning
  paths : List String := []
  settings : Option String := none
  included : Option String := none
  excluded : Option String := none
  names : List String := []
  json : Bool := false
  modules : List String := []
  verbose : Bool := false
  report : Option String := none
  deriving Repr, DecidableEq

/-- The name of the program. -/
def programName : String := "gherkin"

/-- The option that asks for help. -/
def helpRule : OptionRule :=
  { names := ["-h", Grammar.helpName], takesValue := false }

/-- The options of all actions. -/
def commonRules : List OptionRule :=
  [helpRule, { names := ["--config", "-c"] }]

/-- The options of the actions that select. -/
def filterRules : List OptionRule :=
  [{ names := ["--tags"] }, { names := ["--exclude-tags"] }, { names := ["--name"] },
    { names := ["--json"], takesValue := false }]

/-- The options of a run. -/
def runRules : List OptionRule :=
  [{ names := ["--steps", "-s"] }, { names := ["--verbose", "-v"], takesValue := false },
    { names := ["--report"] }]

/-- The grammar of an action. -/
def Action.grammar (action : Action) : Grammar :=
  { program := programName ++ " " ++ action.name
    rules := match action with
      | .list => commonRules
      | .plan => commonRules ++ filterRules
      | .run => commonRules ++ filterRules ++ runRules }

/-- The grammar of the program, up to the action. -/
def mainGrammar : Grammar :=
  { program := programName
    rules :=
      [helpRule, { names := [Grammar.versionName], takesValue := false },
        { names := ["--log-level"], choices := Level.all.map Level.name }]
    firstTakesAll := true }

/-- Put together what was read. -/
def Arguments.ofReadings (action : Action) (outer inner : Reading) : Arguments :=
  { action
    level := ((outer.value? "--log-level").bind Level.ofName?).getD .warning
    paths := inner.words.getD []
    settings := inner.value? "--config"
    included := inner.value? "--tags"
    excluded := inner.value? "--exclude-tags"
    names := inner.values "--name"
    json := inner.has "--json"
    modules := inner.values "--steps"
    verbose := inner.has "--verbose"
    report := inner.value? "--report" }

/-- Refuse arguments that nothing could be done with. -/
def refuseExtras (extras : List String) : Except Stop Unit :=
  if extras.isEmpty then .ok ()
  else mainGrammar.misuse ("unrecognized arguments: " ++ " ".intercalate extras)

/-- Read the arguments of the program.  Without an action it shows help. -/
def Arguments.read (arguments : List String) : Except Stop Arguments := do
  let outer ← mainGrammar.read arguments
  match outer.words with
  | some (name :: rest) =>
      match Action.ofName? name with
      | none =>
          mainGrammar.misuse
            ("argument command: " ++ notAmong name (Action.all.map Action.name))
      | some action =>
          let inner ← action.grammar.read rest
          refuseExtras (outer.extras ++ inner.extras)
          return .ofReadings action outer inner
  | _ =>
      refuseExtras outer.extras
      .error (.help programName)

end Gherkin.Command
