import Gherkin.Command.Arguments
import Gherkin.Plan
import Gherkin.Report.Document
import Gherkin.Run.Runner
import Gherkin.Settings
import Gherkin.Step.Module

/-!
# The work of the program

What the program writes to its output and to its error output, the report it
makes, and why it may stop early.  A problem that the user can mend is reported;
every other one breaks the program off.
-/

namespace Gherkin.Command

/-- Why the program stops early. -/
inductive Problem where
  /-- There are no paths of features. -/
  | noFeatures
  /-- There are no step modules. -/
  | noModules
  /-- A step module cannot be found: the first part of its name that is missing,
  and the module before it, if there is one. -/
  | noModule (name missing : String) (holder : Option String)
  /-- A step module has no name. -/
  | unnamedModule
  /-- The name of a step module starts with a dot. -/
  | relativeModule (name : String)
  | settings (error : SettingsError)
  /-- A line number cannot be read. -/
  | line (error : Text.IntegerError)
  | load (error : LoadError)
  /-- The report cannot be written. -/
  | report (error : FileError)
  | escape (reason : Escape)

namespace Problem

/-- The wording of a problem. -/
def message : Problem → String
  | noFeatures =>
      "No feature paths given. Pass paths, set GHERKIN_FEATURES, or list " ++
        "'features' in gherkin.yaml."
  | noModules => "No step modules given. Use --steps or list 'steps' in gherkin.yaml."
  | noModule name missing holder =>
      "Cannot import step module '" ++ name ++ "': No module named " ++ Text.quoted missing ++
        match holder with
        | none => ""
        | some holder => "; " ++ Text.quoted holder ++ " is not a package"
  | unnamedModule => "Empty module name"
  | relativeModule name => "relative step module " ++ Text.quoted name
  | settings error => error.message
  | line error => error.message
  | load error => error.message
  | report error => error.message
  | escape reason => reason.message

/-- Whether a problem is reported, and does not break the program off. -/
def isReported : Problem → Bool
  | noFeatures | noModules | noModule _ _ _ => true
  | unnamedModule | relativeModule _ => false
  | settings error =>
      match error with
      | .unnamedKey | .unshown | .line _ => false
      | .raised fault => fault.isMendable
      | .file (.missing _) => true
      | .file _ => false
      | _ => true
  | line _ => false
  | load error =>
      match error with
      | .document _ | .file (.missing _) => true
      | .file _ => false
  | report error =>
      match error with
      | .missing _ => true
      | _ => false
  | escape reason =>
      match reason with
      | .registration (.pattern { problem := .hugeRepetition, .. })
      | .registration (.pattern { problem := .incompatibleFlags, .. }) => false
      | .registration (.pattern _) => true
      | .fault raised => raised.isMendable
      | _ => false

end Problem

/-- What the program has written so far, by lines. -/
structure Written where
  output : List String := []
  errors : List String := []
  /-- The report: its path and its text. -/
  report : Option (String × String) := none

/-- What the program has written so far, and the world of the handlers. -/
structure Progress (w : Type) where
  written : Written := {}
  world : w

/-- Work that writes, and may stop early. -/
abbrev Work (w : Type) := ExceptT Problem (StateM (Progress w))

variable {w : Type}

/-- Change what is written. -/
def write (change : Written → Written) : Work w Unit :=
  modify fun progress => { progress with written := change progress.written }

/-- Write lines to the output. -/
def printLines (lines : List String) : Work w Unit :=
  write fun written => { written with output := written.output ++ lines }

/-- Write lines to the error output. -/
def complain (lines : List String) : Work w Unit :=
  write fun written => { written with errors := written.errors ++ lines }

/-- Write the notes that are shown from a level on. -/
def showNotes (level : Level) (notes : List Note) : Work w Unit :=
  complain ((notes.filter (·.shownAt level)).map Note.line)

/-- Stop with a problem, if there is one. -/
def orStop {ε α : Type} (problem : ε → Problem) : Except ε α → Work w α
  | .ok value => return value
  | .error error => throw (problem error)

/-- What the program works with. -/
structure Setup (c s w : Type) where
  tree : FileTree
  machine : Machine
  /-- What reads the text of a settings file. -/
  read : Yaml.Reader
  /-- The step modules that can be found. -/
  modules : List (StepModule c w)
  /-- What makes instances of step classes. -/
  make : Construct c s w
  perform : Perform c s w
  /-- The world that the handlers begin with. -/
  world : w

end Gherkin.Command
