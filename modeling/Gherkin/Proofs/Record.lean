import Gherkin.Record
import Mathlib.Data.List.Basic
import Mathlib.Data.List.Induction
import Mathlib.Data.List.Nodup
import Mathlib.Data.List.Perm.Basic

/-!
# Laws of records

A name has the value that it was given last.  Names that are given once each can be given
in any order.  A new name comes last, and names are kept where they stand first.
-/

namespace Gherkin

/-! ## Names in order -/

/-- A name that comes last is kept when it is new. -/
theorem eraseDups_concat (names : List String) (name : String) :
    (names ++ [name]).eraseDups =
      if name ∈ names then names.eraseDups else names.eraseDups ++ [name] := by
  rw [List.eraseDups_append]
  split
  · rename_i known
    simp [List.removeAll, known]
  · rename_i unknown
    have kept : [name].removeAll names = [name] := by simp [List.removeAll, unknown]
    rw [kept]
    rfl

/-- Names that are kept where they stand first stand there once. -/
theorem nodup_eraseDups (names : List String) : names.eraseDups.Nodup := by
  induction names using List.reverseRecOn with
  | nil => exact List.nodup_nil
  | append_singleton names name ih =>
      rw [eraseDups_concat]
      split
      · exact ih
      · rename_i unknown
        have new : name ∉ names.eraseDups := List.mem_eraseDups.not.mpr unknown
        exact List.nodup_append_comm.mp (List.nodup_cons.mpr ⟨new, ih⟩)

end Gherkin

namespace Gherkin.Record

/-! ## Values -/

variable {α : Type}

theorem find?_cons (entry : String × α) (rest : Record α) (name : String) :
    find? (entry :: rest) name = if name = entry.1 then some entry.2 else find? rest name := by
  by_cases same : name = entry.1
  · rw [find?, same, if_pos rfl]
    exact List.lookup_cons_self
  · rw [find?, List.lookup_cons, if_neg same, beq_false_of_ne same, find?]

theorem find?_append (first second : Record α) (name : String) :
    find? (first ++ second) name = (first.find? name).or (second.find? name) :=
  List.lookup_append

theorem find?_set (record : Record α) (key : String) (value : α) (name : String) :
    (record.set key value).find? name = if name = key then some value else record.find? name := by
  induction record with
  | nil => exact find?_cons (key, value) [] name
  | cons entry rest ih =>
      rcases entry with ⟨first, old⟩
      rw [set]
      split
      · rename_i same
        subst key
        rw [find?_cons, find?_cons]
        split <;> rfl
      · rename_i differs
        rw [find?_cons, find?_cons, ih]
        by_cases here : name = first
        · subst first
          rw [if_pos rfl, if_pos rfl, if_neg differs]
        · rw [if_neg here, if_neg here]

/-- A new name comes last. -/
theorem set_of_new {record : Record α} {name : String} (new : name ∉ record.map Prod.fst)
    (value : α) : record.set name value = record ++ [(name, value)] := by
  induction record with
  | nil => rfl
  | cons entry rest ih =>
      rw [List.map_cons, List.mem_cons, not_or] at new
      rw [set, if_neg (Ne.symm new.1), ih new.2, List.cons_append]

/-- What was there is overwritten by what is given, and that by what is given later. -/
theorem find?_foldl_set (record : Record α) (pairs : List (String × α)) (name : String) :
    find? (pairs.foldl (fun record pair => record.set pair.1 pair.2) record) name =
      (find? pairs.reverse name).or (record.find? name) := by
  induction pairs generalizing record with
  | nil => rfl
  | cons pair rest ih =>
      rw [List.foldl_cons, ih, find?_set, List.reverse_cons, find?_append, Option.or_assoc,
        find?_cons]
      split <;> rfl

/-- A name has the value that it was given last. -/
theorem find?_ofPairs (pairs : List (String × α)) (name : String) :
    (ofPairs pairs).find? name = find? pairs.reverse name := by
  rw [ofPairs, find?_foldl_set]
  exact Option.or_none

/-- The value of a name is found where the name is given last. -/
theorem exists_last_of_find?_reverse {pairs : List (String × α)} {name : String} {value : α}
    (found : find? pairs.reverse name = some value) :
    ∃ i : Nat, pairs[i]? = some (name, value) ∧
      ∀ j : Nat, i < j → ∀ pair ∈ pairs[j]?, pair.1 ≠ name := by
  induction pairs using List.reverseRecOn with
  | nil => contradiction
  | append_singleton pairs last ih =>
      rw [List.reverse_append, List.reverse_singleton, List.singleton_append, find?_cons] at found
      split at found
      · rename_i same
        obtain rfl := Option.some.inj found
        refine ⟨pairs.length, ?_, ?_⟩
        · rw [List.getElem?_concat_length, same]
        · intro j after pair present
          rw [List.getElem?_eq_none (by simpa [Nat.succ_le_iff] using after)] at present
          contradiction
      · rename_i differs
        rcases ih found with ⟨i, here, later⟩
        refine ⟨i, ?_, ?_⟩
        · rwa [List.getElem?_append_left (List.getElem?_eq_some_iff.mp here).1]
        · intro j after pair present
          rw [List.getElem?_append] at present
          split at present
          · exact later j after pair present
          · have isLast : pair = last := List.mem_singleton.mp (List.mem_of_getElem? present)
            rw [isLast]
            exact Ne.symm differs

theorem find?_eq_none_iff {record : Record α} {name : String} :
    record.find? name = none ↔ name ∉ record.map Prod.fst := by
  induction record with
  | nil => simp [find?]
  | cons entry rest ih =>
      rw [find?_cons, List.map_cons, List.mem_cons, not_or]
      by_cases same : name = entry.1
      · simp [same]
      · simp [same, ih]

theorem mem_of_find? {record : Record α} {name : String} {value : α}
    (found : record.find? name = some value) : (name, value) ∈ record := by
  induction record with
  | nil => contradiction
  | cons entry rest ih =>
      rw [find?_cons] at found
      split at found
      · rename_i same
        obtain rfl := Option.some.inj found
        exact same ▸ List.mem_cons_self
      · exact List.mem_cons_of_mem entry (ih found)

/-- The names of a record are those that were given a value. -/
theorem find?_ofPairs_eq_none_iff {pairs : List (String × α)} {name : String} :
    (ofPairs pairs).find? name = none ↔ name ∉ pairs.map Prod.fst := by
  rw [find?_ofPairs, find?_eq_none_iff, List.map_reverse, List.mem_reverse]

/-- A name that is given once has that value. -/
theorem find?_eq_some_iff_of_nodup {record : Record α} (once : (record.map Prod.fst).Nodup)
    {name : String} {value : α} : record.find? name = some value ↔ (name, value) ∈ record := by
  induction record with
  | nil => simp [find?]
  | cons entry rest ih =>
      rcases entry with ⟨key, first⟩
      rw [List.map_cons, List.nodup_cons] at once
      rw [find?_cons, List.mem_cons, Prod.mk.injEq]
      by_cases same : name = key
      · subst key
        have absent : (name, value) ∉ rest := fun member =>
          once.1 (List.mem_map.mpr ⟨_, member, rfl⟩)
        simp [absent, eq_comm]
      · simp [same, ih once.2]

/-- Names that are given once each can be given in any order. -/
theorem find?_ofPairs_perm {pairs other : List (String × α)} (reordered : pairs.Perm other)
    (once : (pairs.map Prod.fst).Nodup) (name : String) :
    (ofPairs pairs).find? name = (ofPairs other).find? name := by
  have onceReversed {list : List (String × α)} (nodup : (list.map Prod.fst).Nodup) :
      (list.reverse.map Prod.fst).Nodup := by
    rwa [List.map_reverse, List.nodup_reverse]
  have otherOnce : (other.map Prod.fst).Nodup := (reordered.map Prod.fst).nodup_iff.mp once
  rw [find?_ofPairs, find?_ofPairs]
  apply Option.ext
  intro value
  rw [find?_eq_some_iff_of_nodup (onceReversed once),
    find?_eq_some_iff_of_nodup (onceReversed otherOnce), List.mem_reverse, List.mem_reverse,
    reordered.mem_iff]

end Gherkin.Record
