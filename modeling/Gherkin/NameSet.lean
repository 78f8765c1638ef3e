/-!
# Finite sets of names

A set of names is kept as its strictly increasing list, so that two sets with
the same members are equal, and listing a set is sorted by code point.
-/

namespace Gherkin

/-- A finite set of names. -/
structure NameSet where
  /-- The names, in increasing order. -/
  toList : List String := []
  sorted : toList.Pairwise (· < ·) := by simp
  deriving DecidableEq

namespace NameSet

/-- Put a name into its place in an increasing list. -/
def insertSorted (name : String) : List String → List String
  | [] => [name]
  | head :: rest =>
      if name < head then name :: head :: rest
      else if name = head then head :: rest
      else head :: insertSorted name rest

theorem mem_insertSorted {name other : String} {names : List String} :
    other ∈ insertSorted name names ↔ other = name ∨ other ∈ names := by
  induction names with
  | nil => simp [insertSorted]
  | cons head rest ih =>
      by_cases smaller : name < head
      · simp [insertSorted, smaller]
      · by_cases same : name = head
        · simp [insertSorted, same]
        · simp only [insertSorted, smaller, same, if_false, List.mem_cons, ih]
          grind

theorem sorted_insertSorted {name : String} {names : List String}
    (sorted : names.Pairwise (· < ·)) : (insertSorted name names).Pairwise (· < ·) := by
  induction names with
  | nil => simp [insertSorted]
  | cons head rest ih =>
      have parts := List.pairwise_cons.mp sorted
      by_cases smaller : name < head
      · simp only [insertSorted, smaller, if_true]
        refine List.pairwise_cons.mpr ⟨?_, sorted⟩
        intro other member
        rcases List.mem_cons.mp member with rfl | inRest
        · exact smaller
        · exact String.lt_trans smaller (parts.1 other inRest)
      · by_cases same : name = head
        · simpa [insertSorted, same, String.lt_irrefl] using sorted
        · simp only [insertSorted, smaller, same, if_false]
          refine List.pairwise_cons.mpr ⟨?_, ih parts.2⟩
          intro other member
          rcases mem_insertSorted.mp member with rfl | inRest
          · rcases Std.lt_trichotomy other head with less | equal | greater
            · exact absurd less smaller
            · exact absurd equal same
            · exact greater
          · exact parts.1 other inRest

/-- A set with one more name. -/
def insert (set : NameSet) (name : String) : NameSet :=
  ⟨insertSorted name set.toList, sorted_insertSorted set.sorted⟩

/-- The set without names. -/
def empty : NameSet := {}

/-- The set of the names of a list. -/
def ofList (names : List String) : NameSet :=
  names.foldl insert empty

/-- The names of either set. -/
def union (a b : NameSet) : NameSet :=
  b.toList.foldl insert a

/-- Whether a name is in the set. -/
def contains (set : NameSet) (name : String) : Bool :=
  set.toList.contains name

/-- Whether a set has no names. -/
def isEmpty (set : NameSet) : Bool :=
  set.toList.isEmpty

instance : Membership String NameSet :=
  ⟨fun set name => name ∈ set.toList⟩

theorem mem_def {name : String} {set : NameSet} : name ∈ set ↔ name ∈ set.toList :=
  Iff.rfl

@[simp]
theorem contains_eq_true_iff {name : String} {set : NameSet} :
    set.contains name = true ↔ name ∈ set := by
  simp [contains, mem_def]

@[simp]
theorem mem_insert {name other : String} {set : NameSet} :
    other ∈ set.insert name ↔ other = name ∨ other ∈ set :=
  mem_insertSorted

theorem mem_foldl_insert {other : String} {names : List String} {set : NameSet} :
    other ∈ names.foldl insert set ↔ other ∈ set ∨ other ∈ names := by
  induction names generalizing set with
  | nil => simp
  | cons name rest ih =>
      simp only [List.foldl_cons, ih, mem_insert, List.mem_cons]
      grind

@[simp]
theorem mem_ofList {name : String} {names : List String} :
    name ∈ ofList names ↔ name ∈ names := by
  rw [ofList, mem_foldl_insert]
  simp [empty, mem_def]

@[simp]
theorem mem_union {name : String} {a b : NameSet} :
    name ∈ a.union b ↔ name ∈ a ∨ name ∈ b :=
  mem_foldl_insert

end NameSet

end Gherkin
