import Gherkin.Tag.Filter
import Gherkin.Text.LowerCase

/-!
# Selecting by name

A name filter selects scenarios by their whole name, without regard to case
and to white space around the name.
-/

namespace Gherkin

/-- The form in which names are compared: trimmed and in lower case. -/
def foldName (name : String) : String :=
  String.ofList (Text.lower (Text.trim name.toList))

/-- The names to select, in the form in which they are compared. -/
structure NameFilter where
  names : NameSet := .empty
  deriving DecidableEq

namespace NameFilter

/-- A filter for the given names. -/
def ofNames (names : List String) : NameFilter :=
  { names := .ofList (names.map foldName) }

/-- Whether a scenario of the given name is selected. -/
def selects (filter : NameFilter) (name : String) : Bool :=
  filter.names.contains (foldName name)

/-- Unite the names of two filters. -/
def merge (filter : NameFilter) : Option NameFilter → NameFilter
  | none => filter
  | some other => ofNames (filter.names.union other.names).toList

end NameFilter

/-- The trimmed items of a comma-separated list, empty ones left out. -/
def listedNames (text : String) : List String :=
  ((Text.splitAt ',' text.toList).map Text.trim).filterMap fun name =>
    if name.isEmpty then none else some (String.ofList name)

/-- The variable that scenario names are read from. -/
def NameFilter.namesVariable : String := "GHERKIN_SCENARIOS"

/-- The name filter of the environment; `none` when it gives no name. -/
def NameFilter.ofEnvironment (environment : Environment) : Option NameFilter :=
  match environment.find? NameFilter.namesVariable with
  | none => none
  | some text =>
      let names := listedNames text
      if names.isEmpty then none else some (ofNames names)

/-- The variable that the names of step classes are read from. -/
def stepClassVariable : String := "GHERKIN_STEP_DEFINITIONS"

/-- The names of the step classes to use; `none` when all are used. -/
def stepClassesOfEnvironment (environment : Environment) : Option NameSet :=
  match environment.find? stepClassVariable with
  | none => none
  | some text =>
      let names := listedNames text
      if names.isEmpty then none else some (.ofList names)

end Gherkin
