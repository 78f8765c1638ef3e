import Gherkin.Command.Arguments

/-!
# Help

What the program says about itself and about its actions.
-/

namespace Gherkin.Command

/-- The help on the program. -/
def mainHelp : List String :=
  ["usage: gherkin [-h] [--version] [--log-level \x7bDEBUG,INFO,WARNING,ERROR\x7d]",
    "               \x7blist,plan,run\x7d ...",
    "",
    "Parse, plan and run Gherkin feature files",
    "",
    "positional arguments:",
    "  \x7blist,plan,run\x7d       Commands",
    "    list                List features and scenarios",
    "    plan                Show the filtered scenario plan",
    "    run                 Run scenarios",
    "",
    "options:",
    "  -h, --help            show this help message and exit",
    "  --version             show program's version number and exit",
    "  --log-level \x7bDEBUG,INFO,WARNING,ERROR\x7d",
    "                        Logging level (default: WARNING)"]

/-- The help on the arguments of all actions. -/
def commonHelp : List String :=
  ["",
    "positional arguments:",
    "  paths                 Feature files or directories, optionally with :LINE",
    "                        suffixes",
    "",
    "options:",
    "  -h, --help            show this help message and exit",
    "  --config CONFIG, -c CONFIG",
    "                        Path to configuration file (default: gherkin.yaml if",
    "                        present)"]

/-- The help on the options that select. -/
def filterHelp : List String :=
  ["  --tags TAGS           Comma-separated tags to include",
    "  --exclude-tags EXCLUDE_TAGS",
    "                        Comma-separated tags to exclude (wins over --tags)",
    "  --name NAME           Scenario name to run (repeatable, case-insensitive)",
    "  --json                Output JSON"]

/-- The help on the options of a run. -/
def runHelp : List String :=
  ["  --steps STEPS, -s STEPS",
    "                        Importable module providing step definitions",
    "                        (repeatable)",
    "  --verbose, -v         Show step detail for failed scenarios",
    "  --report REPORT       Write JSON report to file"]

/-- How an action is called. -/
def Action.usage : Action → List String
  | list =>
      ["usage: gherkin list [-h] [--config CONFIG] [paths ...]"]
  | plan =>
      ["usage: gherkin plan [-h] [--config CONFIG] [--tags TAGS]",
        "                    [--exclude-tags EXCLUDE_TAGS] [--name NAME] [--json]",
        "                    [paths ...]"]
  | run =>
      ["usage: gherkin run [-h] [--config CONFIG] [--tags TAGS]",
        "                   [--exclude-tags EXCLUDE_TAGS] [--name NAME] [--json]",
        "                   [--steps STEPS] [--verbose] [--report REPORT]",
        "                   [paths ...]"]

/-- The help on an action. -/
def Action.help (action : Action) : List String :=
  action.usage ++ commonHelp ++
    match action with
    | list => []
    | plan => filterHelp
    | run => filterHelp ++ runHelp

/-- The help on the program or on one of its actions. -/
def helpLines (program : String) : List String :=
  match Action.all.find? fun action => action.grammar.program == program with
  | some action => action.help
  | none => mainHelp

/-- The version of the program. -/
def version : String := "0.1.0"

/-- What the program says about its version. -/
def versionLine : String :=
  "gherkin-core " ++ version

end Gherkin.Command
