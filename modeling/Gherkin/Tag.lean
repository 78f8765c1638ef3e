/-!
# Tags

Uniting lists of tags.  A tag keeps the place of its first occurrence.
-/

namespace Gherkin.Tag

/-- Add the tags that are not there yet, in their order. -/
def addNew (seen : List String) : List String → List String
  | [] => seen
  | tag :: tags =>
      if tag ∈ seen then addNew seen tags else addNew (seen ++ [tag]) tags

/-- The tags of several groups without repetition, in the order of their first
occurrence. -/
def combine (groups : List (List String)) : List String :=
  groups.foldl addNew []

end Gherkin.Tag
