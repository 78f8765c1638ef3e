import Gherkin.NameSet
import Mathlib.Data.List.Perm.Basic
import Mathlib.Data.List.Sort

/-!
# Laws of sets of names

A set of names is known by its members.
-/

namespace Gherkin.NameSet

theorem nodup_toList (set : NameSet) : set.toList.Nodup :=
  set.sorted.imp fun less => by
    rintro rfl
    exact String.lt_irrefl _ less

/-- Sets with the same members are one set. -/
theorem ext {a b : NameSet} (same : ∀ name, name ∈ a ↔ name ∈ b) : a = b := by
  have permuted : a.toList.Perm b.toList :=
    (List.perm_ext_iff_of_nodup a.nodup_toList b.nodup_toList).mpr same
  have listed : a.toList = b.toList :=
    permuted.eq_of_pairwise (fun _ _ _ _ less greater => absurd greater (String.lt_asymm less))
      a.sorted b.sorted
  cases a
  cases b
  cases listed
  rfl

@[simp]
theorem not_mem_empty (name : String) : name ∉ empty :=
  List.not_mem_nil

theorem isEmpty_eq_true_iff {set : NameSet} : set.isEmpty = true ↔ ∀ name, name ∉ set := by
  rw [isEmpty, List.isEmpty_iff, List.eq_nil_iff_forall_not_mem]
  rfl

end Gherkin.NameSet
