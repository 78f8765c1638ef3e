import Gherkin.NameFilter
import Gherkin.Proofs.NameSet
import Gherkin.Proofs.Text.LowerCase

/-!
# Laws of name filters

A name that was folded stays as it is, so filters unite to the filter of all their names, which
selects what one of them selects.
-/

namespace Gherkin

/-- Names are folded once and for all. -/
theorem foldName_foldName (name : String) : foldName (foldName name) = foldName name := by
  have trimmed : Text.trim (Text.lower (Text.trim name.toList)) =
      Text.lower (Text.trim name.toList) :=
    (Text.trimmed_trim name.toList).lower
  rw [foldName, foldName, String.toList_ofList, trimmed, Text.lower_lower]

/-- The names that a variable of the environment lists. -/
def listedIn (environment : Environment) (key : String) : List String :=
  (environment.find? key).elim [] listedNames

namespace NameFilter

theorem ofEnvironment_eq (environment : Environment) :
    ofEnvironment environment =
      if (listedIn environment namesVariable).isEmpty then none
      else some (ofNames (listedIn environment namesVariable)) := by
  rw [ofEnvironment, listedIn]
  cases environment.find? namesVariable <;> rfl

/-- A filter of names that are folded. -/
def Folded (filter : NameFilter) : Prop :=
  ∀ name ∈ filter.names, foldName name = name

theorem mem_names_ofNames {names : List String} {name : String} :
    name ∈ (ofNames names).names ↔ ∃ given ∈ names, foldName given = name := by
  rw [ofNames, NameSet.mem_ofList, List.mem_map]

theorem folded_ofNames (names : List String) : (ofNames names).Folded := by
  intro name member
  obtain ⟨given, -, rfl⟩ := mem_names_ofNames.mp member
  exact foldName_foldName given

theorem mem_names_merge_some {filter other : NameFilter} {name : String} :
    name ∈ (filter.merge (some other)).names ↔
      ∃ given, (given ∈ filter.names ∨ given ∈ other.names) ∧ foldName given = name := by
  rw [merge, mem_names_ofNames]
  refine exists_congr fun given => and_congr_left fun _ => ?_
  rw [← NameSet.mem_def, NameSet.mem_union]

/-- Names that are folded are united as they are. -/
theorem mem_names_merge {filter other : NameFilter} (folded : filter.Folded)
    (otherFolded : other.Folded) {name : String} :
    name ∈ (filter.merge (some other)).names ↔ name ∈ filter.names ∨ name ∈ other.names := by
  rw [mem_names_merge_some]
  constructor
  · rintro ⟨given, member | member, rfl⟩
    · exact Or.inl ((folded given member).symm ▸ member)
    · exact Or.inr ((otherFolded given member).symm ▸ member)
  · rintro (member | member)
    · exact ⟨name, Or.inl member, folded name member⟩
    · exact ⟨name, Or.inr member, otherFolded name member⟩

theorem Folded.merge {filter : NameFilter} (folded : filter.Folded)
    (other : Option NameFilter) : (filter.merge other).Folded := by
  cases other with
  | none => exact folded
  | some other => exact folded_ofNames _

/-- A filter is known by its names. -/
theorem eq_of_mem_iff {filter other : NameFilter}
    (same : ∀ name, name ∈ filter.names ↔ name ∈ other.names) : filter = other := by
  cases filter
  cases other
  exact congrArg mk (NameSet.ext same)

/-- A filter of given names selects what is folded like one of them. -/
theorem selects_ofNames_iff {names : List String} {name : String} :
    (ofNames names).selects name = true ↔ ∃ given ∈ names, foldName given = foldName name := by
  rw [selects, NameSet.contains_eq_true_iff, mem_names_ofNames]

/-- The filters of two lists unite to the filter of both lists. -/
theorem ofNames_merge_ofNames (names others : List String) :
    (ofNames names).merge (some (ofNames others)) = ofNames (names ++ others) := by
  apply eq_of_mem_iff
  intro name
  rw [mem_names_merge (folded_ofNames names) (folded_ofNames others), mem_names_ofNames,
    mem_names_ofNames, mem_names_ofNames]
  simp only [List.mem_append, or_and_right, exists_or]

/-- A filter does not depend on the order and the number of the names that are given. -/
theorem ofNames_congr {names others : List String} (same : ∀ name, name ∈ names ↔ name ∈ others) :
    ofNames names = ofNames others := by
  apply eq_of_mem_iff
  intro name
  simp only [mem_names_ofNames, same]

/-- Filters of given names unite in any order, grouping and number to one that selects what one of
them selects.  Each of them selects the names that agree with a given name when both are trimmed and
in lower case. -/
theorem merge_selects_either (names others more : List String) :
    (∀ name, ((ofNames names).merge (some (ofNames others))).selects name = true ↔
        (ofNames names).selects name = true ∨ (ofNames others).selects name = true) ∧
      (ofNames names).merge (some (ofNames others)) =
        (ofNames others).merge (some (ofNames names)) ∧
      ((ofNames names).merge (some (ofNames others))).merge (some (ofNames more)) =
        (ofNames names).merge (some ((ofNames others).merge (some (ofNames more)))) ∧
      (ofNames names).merge (some (ofNames names)) = ofNames names ∧
      ∀ name, (ofNames names).selects name = true ↔ ∃ given ∈ names,
        Text.lower (Text.trim given.toList) = Text.lower (Text.trim name.toList) := by
  simp only [ofNames_merge_ofNames]
  refine ⟨?_, ?_, ?_, ?_, ?_⟩
  · intro name
    simp only [selects_ofNames_iff, List.mem_append, or_and_right, exists_or]
  · apply ofNames_congr
    intro name
    rw [List.mem_append, List.mem_append, or_comm]
  · rw [List.append_assoc]
  · apply ofNames_congr
    intro name
    rw [List.mem_append, or_self]
  · intro name
    simp only [selects_ofNames_iff, foldName, String.ofList_inj]

/-! ## Filters that may be absent -/

/-- The names of the filter, if there is one, and names that are given besides. -/
def extend (filter : Option NameFilter) (given : List String) : Option NameFilter :=
  if given.isEmpty then filter else some ((ofNames given).merge filter)

/-- There is a filter, and it has the name. -/
def Has (filter : Option NameFilter) (name : String) : Prop :=
  ∃ own ∈ filter, name ∈ own.names

end NameFilter

end Gherkin
