/-!
# Records of named values

A record pairs names with values in the order in which the names were first
given.  Giving a name again changes its value and keeps its place.
-/

namespace Gherkin

/-- Names with values, in order of their first appearance. -/
abbrev Record (α : Type) := List (String × α)

namespace Record

variable {α : Type}

/-- The value of a name. -/
def find? (record : Record α) (name : String) : Option α :=
  record.lookup name

/-- Give a name a value. -/
def set : Record α → String → α → Record α
  | [], name, value => [(name, value)]
  | (key, old) :: rest, name, value =>
      if key = name then (key, value) :: rest
      else (key, old) :: set rest name value

/-- Give each name its value, one after the other. -/
def ofPairs (pairs : List (String × α)) : Record α :=
  pairs.foldl (fun record pair => record.set pair.1 pair.2) []

end Record

end Gherkin
