/-!
# Notes

What the program reports beside its results: each note has a level, names the
part of the program that made it, and says something in one line.
-/

namespace Gherkin

/-- How important a note is, from details to errors. -/
inductive Level where
  | debug
  | info
  | warning
  | error
  deriving Repr, DecidableEq

namespace Level

/-- Every level, from details to errors. -/
def all : List Level := [debug, info, warning, error]

/-- The name of a level. -/
def name : Level → String
  | debug => "DEBUG"
  | info => "INFO"
  | warning => "WARNING"
  | error => "ERROR"

/-- Levels from details to errors, as numbers. -/
def rank : Level → Nat
  | debug => 0
  | info => 1
  | warning => 2
  | error => 3

/-- The level of a name. -/
def ofName? (name : String) : Option Level :=
  all.find? fun level => level.name == name

end Level

/-- A part of the program that makes notes. -/
inductive Origin where
  | document
  | outline
  | paths
  | registry
  | run
  | config
  | command
  deriving Repr, DecidableEq

/-- The name under which a part of the program makes its notes. -/
def Origin.name : Origin → String
  | document => "gherkin_core.parser"
  | outline => "gherkin_core.outline"
  | paths => "gherkin_core.paths"
  | registry => "gherkin_core.registry"
  | run => "gherkin_core.runner"
  | config => "gherkin_core.config"
  | command => "gherkin_core.cli"

/-- One note. -/
structure Note where
  level : Level
  origin : Origin
  text : String
  deriving Repr, DecidableEq

/-- A note as a line of the program's log. -/
def Note.line (note : Note) : String :=
  note.level.name ++ " " ++ note.origin.name ++ ": " ++ note.text

/-- Whether a note is shown from the given level on. -/
def Note.shownAt (note : Note) (level : Level) : Bool :=
  level.rank ≤ note.level.rank

end Gherkin
