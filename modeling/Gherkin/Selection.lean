import Gherkin.NameFilter
import Gherkin.Outline.Expansion

/-!
# Selecting entries

Entries are selected by their tags, by their names, and by lines of the source.
A line selects the definition that starts at or last before it, with every row
of an outline.
-/

namespace Gherkin

/-- The greatest of the numbers that are not above a bound. -/
def lastUpTo (bound : Int) : List Int → Option Int
  | [] => none
  | n :: rest =>
      match lastUpTo bound rest with
      | none => if n ≤ bound then some n else none
      | some m => if n ≤ bound ∧ m < n then some n else some m

namespace Feature

/-- The line at which the definition that contains a line starts. -/
def startOf (feature : Feature) (line : Int) : Option Int :=
  lastUpTo line (feature.definitions.map Definition.line)

/-- Whether one of the lines lies in a definition that starts at the given
line. -/
def matchesLines (feature : Feature) (start : Int) (lines : List Int) : Bool :=
  lines.any fun line => feature.startOf line == some start

end Feature

/-- What is to be selected from a feature. -/
structure Selection where
  tags : Option Tag.Filter := none
  names : Option NameFilter := none
  /-- Lines of the source; no lines select everything. -/
  lines : List Int := []

namespace Selection

/-- Whether the tag filter selects an entry. -/
def allowsTags (selection : Selection) (feature : Feature) (entry : Entry) : Bool :=
  selection.tags.all fun filter => filter.selects (entry.tags feature)

/-- Whether the name filter selects an entry. -/
def allowsName (selection : Selection) (entry : Entry) : Bool :=
  selection.names.all fun filter => filter.selects entry.name

/-- Whether the lines select an entry. -/
def allowsLine (selection : Selection) (feature : Feature) (entry : Entry) : Bool :=
  selection.lines.isEmpty || feature.matchesLines entry.line selection.lines

/-- Whether an entry is selected. -/
def allows (selection : Selection) (feature : Feature) (entry : Entry) : Bool :=
  selection.allowsTags feature entry && selection.allowsName entry &&
    selection.allowsLine feature entry

/-- The selected entries, in their order. -/
def select (selection : Selection) (feature : Feature) (entries : List Entry) :
    List Entry :=
  entries.filter (selection.allows feature)

end Selection

end Gherkin
