import Gherkin.Proofs.NameSet
import Gherkin.Tag.Filter
import Mathlib.Data.List.DropRight

/-!
# Laws of tag filters

The tags of a filter have no at signs before them, whichever way it was made.  Filters unite to
the filter of all their tags, and a filter united with another one twice is the same as once.
-/

namespace Gherkin.Tag

/-! ## Tags without at signs -/

/-- A tag as a filter keeps it. -/
def bareTag (tag : String) : String :=
  String.ofList (bare tag.toList)

/-- At signs are dropped once and for all. -/
theorem bare_bare (tag : List Char) : bare (bare tag) = bare tag :=
  List.dropWhile_idempotent _ _

theorem bareTag_ofList_bare (tag : List Char) :
    bareTag (String.ofList (bare tag)) = String.ofList (bare tag) := by
  rw [bareTag, String.toList_ofList, bare_bare]

theorem bareTag_bareTag (tag : String) : bareTag (bareTag tag) = bareTag tag :=
  bareTag_ofList_bare tag.toList

/-- Tags that no at sign stands before. -/
def Bare (set : NameSet) : Prop :=
  ∀ tag ∈ set, bareTag tag = tag

theorem bareTag_of_mem_listed {text tag : String} (member : tag ∈ listed text) :
    bareTag tag = tag := by
  rw [listed, List.mem_filterMap] at member
  obtain ⟨cs, inList, kept⟩ := member
  obtain ⟨item, -, rfl⟩ := List.mem_map.mp inList
  split at kept
  · contradiction
  · obtain rfl := Option.some.inj kept
    exact bareTag_ofList_bare (Text.trim item)

theorem mem_parseList_iff {text : Option String} {tag : String} :
    tag ∈ parseList text ↔ ∃ list ∈ text, tag ∈ listed list := by
  cases text with
  | none => simp [parseList]
  | some text => simp [parseList]

theorem bare_parseList (text : Option String) : Bare (parseList text) := by
  intro tag member
  obtain ⟨list, -, listedThere⟩ := mem_parseList_iff.mp member
  exact bareTag_of_mem_listed listedThere

theorem mem_toSet_each_iff {tags : List String} {tag : String} :
    tag ∈ (Names.each tags).toSet ↔ ∃ given ∈ tags, bareTag given = tag := by
  rw [Names.toSet, NameSet.mem_ofList, List.mem_map]
  rfl

/-- A list that was read is kept as it is. -/
theorem toSet_parseList (text : Option String) :
    (Names.each (parseList text).toList).toSet = parseList text := by
  refine NameSet.ext fun tag => ?_
  rw [mem_toSet_each_iff]
  constructor
  · rintro ⟨given, member, rfl⟩
    exact (bare_parseList text given member).symm ▸ member
  · intro member
    exact ⟨tag, member, bare_parseList text tag member⟩

theorem bare_toSet (names : Names) : Bare names.toSet := by
  cases names with
  | each tags =>
      intro tag member
      obtain ⟨given, -, rfl⟩ := mem_toSet_each_iff.mp member
      exact bareTag_bareTag given
  | text list => exact bare_parseList (some list)

/-! ## Uniting -/

/-- The tags of two sets, as a filter keeps them. -/
def unite (a b : NameSet) : NameSet :=
  (Names.each (a.union b).toList).toSet

theorem mem_unite_iff {a b : NameSet} {tag : String} :
    tag ∈ unite a b ↔ ∃ given, (given ∈ a ∨ given ∈ b) ∧ bareTag given = tag := by
  rw [unite, mem_toSet_each_iff]
  refine exists_congr fun given => and_congr_left fun _ => ?_
  rw [← NameSet.mem_def, NameSet.mem_union]

/-- Tags without at signs are united as they are. -/
theorem mem_unite_of_bare {a b : NameSet} (first : Bare a) (second : Bare b) {tag : String} :
    tag ∈ unite a b ↔ tag ∈ a ∨ tag ∈ b := by
  rw [mem_unite_iff]
  constructor
  · rintro ⟨given, member | member, rfl⟩
    · exact Or.inl ((first given member).symm ▸ member)
    · exact Or.inr ((second given member).symm ▸ member)
  · rintro (member | member)
    · exact ⟨tag, Or.inl member, first tag member⟩
    · exact ⟨tag, Or.inr member, second tag member⟩

theorem bare_unite (a b : NameSet) : Bare (unite a b) :=
  bare_toSet _

theorem unite_empty {set : NameSet} (own : Bare set) : unite set .empty = set := by
  have none : Bare .empty := fun tag member => absurd member (NameSet.not_mem_empty tag)
  apply NameSet.ext
  intro tag
  rw [mem_unite_of_bare own none, or_iff_left (NameSet.not_mem_empty tag)]

namespace Filter

/-- A filter of tags that no at sign stands before. -/
structure Normal (filter : Filter) : Prop where
  included : Bare filter.included
  excluded : Bare filter.excluded

theorem normal_ofNames (included excluded : Names) : (ofNames included excluded).Normal :=
  ⟨bare_toSet included, bare_toSet excluded⟩

theorem normal_ofStrings (included excluded : Option String) :
    (ofStrings included excluded).Normal :=
  normal_ofNames _ _

/-- A filter of the environment is that of the lists of its variables. -/
theorem eq_ofStrings_of_ofEnvironment {environment : Environment} {filter : Filter}
    (made : ofEnvironment environment = some filter) :
    filter = ofStrings (environment.find? includedVariable)
      (environment.find? excludedVariable) := by
  rw [ofEnvironment] at made
  split at made
  · contradiction
  · exact (Option.some.inj made).symm

theorem normal_ofEnvironment {environment : Environment} {filter : Filter}
    (made : ofEnvironment environment = some filter) : filter.Normal := by
  rw [eq_ofStrings_of_ofEnvironment made]
  exact normal_ofStrings _ _

theorem merge_some (filter other : Filter) :
    filter.merge (some other) =
      { included := unite filter.included other.included
        excluded := unite filter.excluded other.excluded } :=
  rfl

theorem ofStrings_eq (included excluded : Option String) :
    ofStrings included excluded =
      { included := parseList included, excluded := parseList excluded } := by
  rw [ofStrings, ofNames, toSet_parseList, toSet_parseList]

theorem mem_included_merge_some {filter other : Filter} (normal : filter.Normal)
    (otherNormal : other.Normal) {tag : String} :
    tag ∈ (filter.merge (some other)).included ↔ tag ∈ filter.included ∨ tag ∈ other.included :=
  mem_unite_of_bare normal.included otherNormal.included

theorem mem_excluded_merge_some {filter other : Filter} (normal : filter.Normal)
    (otherNormal : other.Normal) {tag : String} :
    tag ∈ (filter.merge (some other)).excluded ↔ tag ∈ filter.excluded ∨ tag ∈ other.excluded :=
  mem_unite_of_bare normal.excluded otherNormal.excluded

theorem Normal.merge {filter : Filter} (normal : filter.Normal) (other : Option Filter) :
    (filter.merge other).Normal := by
  cases other with
  | none => exact normal
  | some other => exact ⟨bare_unite _ _, bare_unite _ _⟩

end Filter

end Gherkin.Tag
