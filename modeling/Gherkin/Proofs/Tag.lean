import Gherkin.Tag
import Mathlib.Data.List.Basic
import Mathlib.Data.List.Induction
import Mathlib.Data.List.Nodup

/-!
# Uniting tags

United tags are the tags of all groups one after the other, each kept where it stands
first.
-/

namespace Gherkin.Tag

/-- What is added are the tags that were not seen, each once. -/
theorem addNew_eq (seen tags : List String) :
    addNew seen tags = seen ++ (tags.filter (· ∉ seen)).eraseDups := by
  induction tags generalizing seen with
  | nil => simp [addNew]
  | cons tag tags ih =>
      by_cases known : tag ∈ seen
      · rw [addNew, if_pos known, ih, List.filter_cons_of_neg (by simpa using known)]
      · have later : tags.filter (· ∉ seen ++ [tag]) =
            (tags.filter (· ∉ seen)).filter fun other => !other == tag := by
          rw [List.filter_filter]
          apply List.filter_congr
          intro other _
          by_cases equal : other = tag <;> simp [equal]
        rw [addNew, if_neg known, ih, later, List.filter_cons_of_pos (by simpa using known),
          List.eraseDups_cons, List.append_assoc, List.singleton_append]

theorem addNew_eraseDups (before tags : List String) :
    addNew before.eraseDups tags = (before ++ tags).eraseDups := by
  have unseen : tags.filter (· ∉ before.eraseDups) = tags.removeAll before := by
    apply List.filter_congr
    intro tag _
    simp
  rw [addNew_eq, unseen, List.eraseDups_append]

/-- United tags are all tags in order, each kept where it stands first. -/
theorem combine_eq_eraseDups (groups : List (List String)) :
    combine groups = groups.flatten.eraseDups := by
  have united (before : List String) (groups : List (List String)) :
      groups.foldl addNew before.eraseDups = (before ++ groups.flatten).eraseDups := by
    induction groups generalizing before with
    | nil => simp
    | cons group groups ih =>
        rw [List.foldl_cons, addNew_eraseDups, ih, List.flatten_cons, List.append_assoc]
  exact united [] groups

theorem nodup_addNew {seen : List String} (once : seen.Nodup) (tags : List String) :
    (addNew seen tags).Nodup := by
  induction tags generalizing seen with
  | nil => exact once
  | cons tag tags ih =>
      rw [addNew]
      split
      · exact ih once
      · rename_i unknown
        exact ih (List.nodup_append_comm.mp (List.nodup_cons.mpr ⟨unknown, once⟩))

theorem nodup_combine (groups : List (List String)) : (combine groups).Nodup := by
  have united (seen : List String) (once : seen.Nodup) (groups : List (List String)) :
      (groups.foldl addNew seen).Nodup := by
    induction groups generalizing seen with
    | nil => exact once
    | cons group groups ih => exact ih _ (nodup_addNew once group)
  exact united [] List.nodup_nil groups

/-! ## Uniting united tags -/

theorem mem_addNew {seen tags : List String} {tag : String} :
    tag ∈ addNew seen tags ↔ tag ∈ seen ∨ tag ∈ tags := by
  by_cases known : tag ∈ seen <;> simp [addNew_eq, known]

theorem addNew_append (seen before after : List String) :
    addNew seen (before ++ after) = addNew (addNew seen before) after := by
  induction before generalizing seen with
  | nil => rfl
  | cons tag tags ih =>
      rw [List.cons_append, addNew, addNew]
      split
      · exact ih seen
      · exact ih (seen ++ [tag])

/-- Tags that are already united are united with others as they are. -/
theorem addNew_addNew (seen before tags : List String) :
    addNew seen (addNew before tags) = addNew (addNew seen before) tags := by
  induction tags generalizing before with
  | nil => rfl
  | cons tag tags ih =>
      rw [addNew]
      split
      · rename_i known
        rw [ih, addNew, if_pos (mem_addNew.mpr (Or.inr known))]
      · rw [ih, addNew_append, ← addNew_append, List.singleton_append]

/-- It does not matter whether groups of tags are united before others join them. -/
theorem combine_combine (before groups after : List (List String)) :
    combine (before ++ combine groups :: after) = combine (before ++ groups ++ after) := by
  have united (seen : List String) : addNew seen (combine groups) = groups.foldl addNew seen := by
    induction groups using List.reverseRecOn with
    | nil => rfl
    | append_singleton groups last ih =>
        rw [combine, List.foldl_concat, List.foldl_concat, addNew_addNew, ← ih]
        rfl
  calc
    combine (before ++ combine groups :: after) =
        after.foldl addNew (addNew (before.foldl addNew []) (combine groups)) :=
      List.foldl_append
    _ = combine (before ++ groups ++ after) := by
      rw [united, combine, List.foldl_append, List.foldl_append]

end Gherkin.Tag
