import Gherkin.NameSet
import Gherkin.Record
import Gherkin.Text.Blank
import Gherkin.Text.Search

/-!
# Selecting by tags

A tag filter holds the tags that include and the tags that exclude.  Something
with an excluding tag is never selected; otherwise it is selected if it has an
including tag, or if the filter names no including tags at all.
-/

namespace Gherkin

/-- The values of the variables a program is started with. -/
abbrev Environment := Record String

namespace Tag

/-- A tag without the at signs before it. -/
def bare (tag : List Char) : List Char :=
  tag.dropWhile (· == '@')

/-- The tags of a comma-separated list, in order. -/
def listed (text : String) : List String :=
  ((Text.splitAt ',' text.toList).map fun item => bare (Text.trim item)).filterMap
    fun tag => if tag.isEmpty then none else some (String.ofList tag)

/-- Read a comma-separated list of tags; spaces around a tag and at signs
before it are dropped. -/
def parseList (text : Option String) : NameSet :=
  match text with
  | none => .empty
  | some text => .ofList (listed text)

/-- Tags as they are given to a filter. -/
inductive Names where
  /-- One tag an item. -/
  | each (tags : List String)
  /-- A comma-separated list. -/
  | text (text : String)

/-- The set of the given tags, without at signs. -/
def Names.toSet : Names → NameSet
  | each items => .ofList (items.map fun tag => String.ofList (bare tag.toList))
  | text list => parseList (some list)

/-- Tags that include and tags that exclude. -/
structure Filter where
  included : NameSet := .empty
  excluded : NameSet := .empty
  deriving DecidableEq

namespace Filter

/-- A filter from the given tags. -/
def ofNames (included excluded : Names) : Filter :=
  { included := included.toSet, excluded := excluded.toSet }

/-- A filter from comma-separated lists. -/
def ofStrings (included excluded : Option String) : Filter :=
  ofNames (.each (parseList included).toList) (.each (parseList excluded).toList)

/-- A filter that names no tags. -/
def isEmpty (filter : Filter) : Bool :=
  filter.included.isEmpty && filter.excluded.isEmpty

/-- Whether something with the given tags is selected. -/
def selects (filter : Filter) (tags : List String) : Bool :=
  !tags.any filter.excluded.contains &&
    (filter.included.isEmpty || tags.any filter.included.contains)

/-- Unite the including and the excluding tags of two filters. -/
def merge (filter : Filter) : Option Filter → Filter
  | none => filter
  | some other =>
      ofNames (.each (filter.included.union other.included).toList)
        (.each (filter.excluded.union other.excluded).toList)

/-- The variables that tags are read from. -/
def includedVariable : String := "GHERKIN_TAGS"

/-- The variable that excluding tags are read from. -/
def excludedVariable : String := "GHERKIN_EXCLUDE_TAGS"

/-- The filter of the environment; `none` when neither variable is set. -/
def ofEnvironment (environment : Environment) : Option Filter :=
  match environment.find? includedVariable, environment.find? excludedVariable with
  | none, none => none
  | included, excluded => some (ofStrings included excluded)

end Filter

end Tag

end Gherkin
