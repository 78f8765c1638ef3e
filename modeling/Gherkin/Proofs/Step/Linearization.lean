import Gherkin.Step.Class
import Mathlib.Data.List.Induction
import Mathlib.Data.List.Perm.Subperm
import Mathlib.Logic.Relation

/-!
# Laws of the order of classes

The order of a class begins with the class, and has all of its ancestors, each once.  Every class
in it comes before its bases, which keep the order in which they are given, and the orders of the
ancestors are kept as well.
-/

namespace Gherkin.Linearization

/-! ## Merging orders -/

variable {lists : List (List Nat)} {head : Nat}

/-- An order of the entries of several lists, each once, that keeps the order of each list. -/
structure Merged (lists : List (List Nat)) (merged : List Nat) : Prop where
  keeps : ∀ list ∈ lists, list.Sublist merged
  covers : ∀ i ∈ merged, ∃ list ∈ lists, i ∈ list
  once : merged.Nodup

theorem exists_head_of_candidate? (found : candidate? lists = some head) :
    ∃ list ∈ lists, list.head? = some head :=
  List.mem_filterMap.mp (List.mem_of_find?_eq_some found)

theorem not_mem_tail_of_candidate? (found : candidate? lists = some head) {list : List Nat}
    (member : list ∈ lists) : head ∉ list.tail := by
  have inNone : ¬∃ list ∈ lists, head ∈ list.tail := by
    simpa using List.find?_some found
  exact fun inTail => inNone ⟨list, member, inTail⟩

/-- A list after the head was removed from the lists. -/
def without (head : Nat) (list : List Nat) : List Nat :=
  if list.head? = some head then list.tail else list

theorem without_sublist (head : Nat) (list : List Nat) : (without head list).Sublist list := by
  rw [without]
  split
  · exact list.tail_sublist
  · exact .refl list

theorem sublist_cons_without (head : Nat) (list : List Nat) :
    list.Sublist (head :: without head list) := by
  rw [without]
  split
  · rename_i first
    rw [List.cons_head?_tail first]
  · exact List.sublist_cons_self head list

/-- When the head is in no tail, it is gone from every list. -/
theorem not_mem_without {list : List Nat} (notLater : head ∉ list.tail) :
    head ∉ without head list := by
  rw [without]
  split
  · exact notLater
  · rename_i notFirst
    cases list with
    | nil => exact List.not_mem_nil
    | cons first rest =>
        rw [List.mem_cons, not_or]
        exact ⟨fun same => notFirst (congrArg some same.symm), notLater⟩

theorem merged_of_empty (empty : lists.all List.isEmpty) : Merged lists [] where
  keeps := by
    intro list member
    rw [List.isEmpty_iff.mp (List.all_eq_true.mp empty list member)]
  covers := nofun
  once := List.nodup_nil

/-- Taking a candidate away leaves a smaller merge. -/
theorem Merged.cons {rest : List Nat} (found : candidate? lists = some head)
    (merged : Merged (removeHead head lists) rest) : Merged lists (head :: rest) where
  keeps := by
    intro list member
    have kept : (without head list).Sublist rest :=
      merged.keeps _ (List.mem_map_of_mem member)
    exact (sublist_cons_without head list).trans (kept.cons_cons head)
  covers := by
    refine List.forall_mem_cons.mpr ⟨?_, fun i member => ?_⟩
    · obtain ⟨list, member, first⟩ := exists_head_of_candidate? found
      exact ⟨list, member, List.mem_of_head? first⟩
    · obtain ⟨_, remaining, inside⟩ := merged.covers i member
      obtain ⟨list, inLists, rfl⟩ := List.mem_map.mp remaining
      exact ⟨list, inLists, (without_sublist head list).subset inside⟩
  once := by
    refine List.nodup_cons.mpr ⟨fun again => ?_, merged.once⟩
    obtain ⟨_, remaining, inside⟩ := merged.covers head again
    obtain ⟨list, inLists, rfl⟩ := List.mem_map.mp remaining
    exact not_mem_without (not_mem_tail_of_candidate? found inLists) inside

theorem merged_mergeAux {fuel : Nat} {merged : List Nat}
    (ended : mergeAux fuel lists = some merged) : Merged lists merged := by
  induction fuel generalizing lists merged with
  | zero =>
      rw [mergeAux] at ended
      split at ended
      · rename_i empty
        obtain rfl := Option.some.inj ended
        exact merged_of_empty empty
      · contradiction
  | succ fuel ih =>
      rw [mergeAux] at ended
      split at ended
      · rename_i empty
        obtain rfl := Option.some.inj ended
        exact merged_of_empty empty
      · split at ended
        · contradiction
        · rename_i head found
          obtain ⟨rest, later, rfl⟩ := Option.map_eq_some_iff.mp ended
          exact (ih later).cons found

/-- A merge keeps the order of every list, and has their entries once each. -/
theorem merged_merge {merged : List Nat} (ended : merge lists = some merged) :
    Merged lists merged :=
  merged_mergeAux ended

/-! ## Orders of declared classes -/

variable {c : Type}

/-- The order of the class at a position, if there is one. -/
def orderAt? (declarations : List (ClassDeclaration c)) (position : Nat) : Option (List Nat) :=
  ((ofDeclarations declarations)[position]?).join

theorem ofDeclarations_concat (before : List (ClassDeclaration c)) (next : ClassDeclaration c) :
    ofDeclarations (before ++ [next]) = extend (ofDeclarations before) next :=
  List.foldl_concat ..

theorem length_ofDeclarations (declarations : List (ClassDeclaration c)) :
    (ofDeclarations declarations).length = declarations.length := by
  induction declarations using List.reverseRecOn with
  | nil => rfl
  | append_singleton before next ih =>
      rw [ofDeclarations_concat, extend, List.length_append, ih, List.length_append]
      rfl

/-- Later declarations change no order. -/
theorem orderAt?_append (before after : List (ClassDeclaration c)) {position : Nat}
    (inside : position < before.length) :
    orderAt? (before ++ after) position = orderAt? before position := by
  induction after using List.reverseRecOn with
  | nil => rw [List.append_nil]
  | append_singleton after next ih =>
      have early : position < (ofDeclarations (before ++ after)).length := by
        rw [length_ofDeclarations, List.length_append]
        omega
      rw [← ih, orderAt?, orderAt?, ← List.append_assoc, ofDeclarations_concat, extend,
        List.getElem?_append_left early]

/-- Values that are found for a list are those of its entries. -/
theorem values_of_mapM {α β : Type} {f : α → Option β} {list : List α} {values : List β}
    (ended : list.mapM f = some values) :
    (∀ a ∈ list, ∃ b ∈ values, f a = some b) ∧ ∀ b ∈ values, ∃ a ∈ list, f a = some b := by
  induction list generalizing values with
  | nil =>
      obtain rfl := Option.some.inj ended
      exact ⟨nofun, nofun⟩
  | cons first rest ih =>
      rw [List.mapM_cons] at ended
      obtain ⟨value, ofFirst, ended⟩ := Option.bind_eq_some_iff.mp ended
      obtain ⟨later, ofRest, ended⟩ := Option.bind_eq_some_iff.mp ended
      obtain rfl := Option.some.inj ended
      obtain ⟨found, given⟩ := ih ofRest
      simp only [List.exists_mem_cons_iff, List.forall_mem_cons]
      exact ⟨⟨.inl ofFirst, fun a member => .inr (found a member)⟩,
        .inl ofFirst, fun b member => .inr (given b member)⟩

variable {declarations : List (ClassDeclaration c)} {position : Nat} {order : List Nat}

/-- The order of a class is the class followed by the merge of the orders of its bases, which are
declared before, and of the bases. -/
structure Extends (declarations : List (ClassDeclaration c)) (position : Nat)
    (declaration : ClassDeclaration c) (inherited : List (List Nat)) (merged : List Nat) :
    Prop where
  declared : declarations[position]? = some declaration
  found : ∀ base ∈ declaration.bases,
    base < position ∧ ∃ own ∈ inherited, orderAt? declarations base = some own
  given : ∀ own ∈ inherited, ∃ base ∈ declaration.bases, orderAt? declarations base = some own
  merged : Merged (inherited ++ [declaration.bases]) merged

theorem orderAt?_concat (before : List (ClassDeclaration c)) (next : ClassDeclaration c) :
    orderAt? (before ++ [next]) before.length =
      ((next.bases.mapM (orderAt? before)).bind fun inherited =>
        merge (inherited ++ [next.bases])).map (before.length :: ·) := by
  rw [orderAt?, ofDeclarations_concat, extend, ← length_ofDeclarations,
    List.getElem?_concat_length]
  rfl

theorem lt_of_orderAt? (found : orderAt? declarations position = some order) :
    position < declarations.length := by
  by_contra outside
  rw [orderAt?, List.getElem?_eq_none (by rw [length_ofDeclarations]; exact Nat.not_lt.mp outside)]
    at found
  contradiction

theorem exists_extends (found : orderAt? declarations position = some order) :
    ∃ declaration inherited merged,
      Extends declarations position declaration inherited merged ∧ order = position :: merged := by
  have inside := lt_of_orderAt? found
  obtain ⟨before, next, after, rfl, rfl⟩ : ∃ before next after,
      declarations = before ++ [next] ++ after ∧ before.length = position :=
    ⟨declarations.take position, declarations[position], declarations.drop (position + 1),
      by simp, List.length_take_of_le (Nat.le_of_lt inside)⟩
  rw [orderAt?_append _ _ (by simp), orderAt?_concat] at found
  obtain ⟨merged, ended, rfl⟩ := Option.map_eq_some_iff.mp found
  obtain ⟨inherited, ofBases, ended⟩ := Option.bind_eq_some_iff.mp ended
  have kept {base : Nat} {own : List Nat} (isOrder : orderAt? before base = some own) :
      orderAt? (before ++ [next] ++ after) base = some own := by
    rw [List.append_assoc, orderAt?_append before _ (lt_of_orderAt? isOrder), isOrder]
  obtain ⟨found, given⟩ := values_of_mapM ofBases
  refine ⟨next, inherited, merged, ⟨by simp, fun base member => ?_, fun own member => ?_,
    merged_merge ended⟩, rfl⟩
  · obtain ⟨own, inInherited, isOrder⟩ := found base member
    exact ⟨lt_of_orderAt? isOrder, own, inInherited, kept isOrder⟩
  · obtain ⟨base, isBase, isOrder⟩ := given own member
    exact ⟨base, isBase, kept isOrder⟩

theorem mem_self_of_orderAt? (found : orderAt? declarations position = some order) :
    position ∈ order := by
  obtain ⟨declaration, inherited, merged, -, rfl⟩ := exists_extends found
  exact List.mem_cons_self

section Extends

variable {declaration : ClassDeclaration c} {inherited : List (List Nat)} {merged : List Nat}

/-- The order of a base is kept. -/
theorem Extends.exists_order
    (extended : Extends declarations position declaration inherited merged) {base : Nat}
    (member : base ∈ declaration.bases) :
    base < position ∧ ∃ own, orderAt? declarations base = some own ∧ own.Sublist merged := by
  obtain ⟨early, own, inInherited, isOrder⟩ := extended.found base member
  exact ⟨early, own, isOrder, extended.merged.keeps own (List.mem_append_left _ inInherited)⟩

/-- What comes after a class in its order comes from a base. -/
theorem Extends.mem_merged_iff
    (extended : Extends declarations position declaration inherited merged) {i : Nat} :
    i ∈ merged ↔
      ∃ base ∈ declaration.bases, ∃ own, orderAt? declarations base = some own ∧ i ∈ own := by
  constructor
  · intro member
    obtain ⟨list, inLists, inside⟩ := extended.merged.covers i member
    rcases List.mem_append.mp inLists with inInherited | isBases
    · obtain ⟨base, isBase, isOrder⟩ := extended.given list inInherited
      exact ⟨base, isBase, list, isOrder, inside⟩
    · obtain rfl := List.mem_singleton.mp isBases
      obtain ⟨-, own, isOrder, -⟩ := extended.exists_order inside
      exact ⟨i, inside, own, isOrder, mem_self_of_orderAt? isOrder⟩
  · rintro ⟨base, isBase, own, isOrder, inside⟩
    obtain ⟨-, other, isOther, kept⟩ := extended.exists_order isBase
    obtain rfl := Option.some.inj (isOther.symm.trans isOrder)
    exact kept.subset inside

end Extends

/-- Ancestors are declared before. -/
theorem le_of_mem_orderAt? (found : orderAt? declarations position = some order) {i : Nat}
    (member : i ∈ order) : i ≤ position := by
  induction position using Nat.strongRecOn generalizing order with
  | ind position ih =>
      obtain ⟨declaration, inherited, merged, extended, rfl⟩ := exists_extends found
      rcases List.mem_cons.mp member with rfl | later
      · exact Nat.le_refl i
      · obtain ⟨base, isBase, own, isOrder, inside⟩ := extended.mem_merged_iff.mp later
        have early := (extended.exists_order isBase).1
        exact Nat.le_trans (ih base early isOrder inside) (Nat.le_of_lt early)

/-! ## The order of a class -/

/-- The class has the other one as a base. -/
def HasBase (declarations : List (ClassDeclaration c)) (position base : Nat) : Prop :=
  ∃ declaration, declarations[position]? = some declaration ∧ base ∈ declaration.bases

/-- The class is the other one, or inherits from it. -/
def Inherits (declarations : List (ClassDeclaration c)) : Nat → Nat → Prop :=
  Relation.ReflTransGen (HasBase declarations)

/-- An order in which the attributes of a class are looked up: it begins with the class and has all
ancestors, each once; every class comes before its bases, which keep their order; and the orders of
the ancestors are kept. -/
structure Linear (declarations : List (ClassDeclaration c)) (position : Nat) (order : List Nat) :
    Prop where
  first : order.head? = some position
  once : order.Nodup
  members : ∀ i, i ∈ order ↔ Inherits declarations position i
  respects : ∀ i ∈ order, ∀ declaration, declarations[i]? = some declaration →
    (i :: declaration.bases).Sublist order
  monotone : ∀ i ∈ order, ∀ own, orderAt? declarations i = some own → own.Sublist order

theorem inherits_iff {i : Nat} :
    Inherits declarations position i ↔
      i = position ∨
        ∃ base, HasBase declarations position base ∧ Inherits declarations base i := by
  rw [Inherits, Relation.ReflTransGen.cases_head_iff]
  exact or_congr_left eq_comm

/-- The order of a class is linear. -/
theorem linear_of_orderAt? (found : orderAt? declarations position = some order) :
    Linear declarations position order := by
  -- Bases are declared before, so the induction is on the position.
  induction position using Nat.strongRecOn generalizing order with
  | ind position ih =>
      obtain ⟨declaration, inherited, merged, extended, rfl⟩ := exists_extends found
      have same {other : ClassDeclaration c} (declared : declarations[position]? = some other) :
          other = declaration :=
        Option.some.inj (declared.symm.trans extended.declared)
      constructor
      case first => rfl
      case once =>
        refine List.nodup_cons.mpr ⟨fun again => ?_, extended.merged.once⟩
        obtain ⟨base, isBase, own, isOrder, inside⟩ := extended.mem_merged_iff.mp again
        have early := (extended.exists_order isBase).1
        exact absurd (le_of_mem_orderAt? isOrder inside) (Nat.not_le.mpr early)
      case members =>
        intro i
        rw [List.mem_cons, inherits_iff, extended.mem_merged_iff]
        refine or_congr_right ⟨?_, ?_⟩
        · rintro ⟨base, isBase, own, isOrder, inside⟩
          have early := (extended.exists_order isBase).1
          exact ⟨base, ⟨declaration, extended.declared, isBase⟩,
            ((ih base early isOrder).members i).mp inside⟩
        · rintro ⟨base, ⟨other, declared, isBase⟩, inherits⟩
          obtain rfl := same declared
          obtain ⟨early, own, isOrder, -⟩ := extended.exists_order isBase
          exact ⟨base, isBase, own, isOrder, ((ih base early isOrder).members i).mpr inherits⟩
      case respects =>
        intro i member other declared
        rcases List.mem_cons.mp member with rfl | later
        · obtain rfl := same declared
          exact (extended.merged.keeps _ (by simp)).cons_cons i
        · obtain ⟨base, isBase, own, isOrder, inside⟩ := extended.mem_merged_iff.mp later
          obtain ⟨early, kept, isKept, sublist⟩ := extended.exists_order isBase
          obtain rfl := Option.some.inj (isKept.symm.trans isOrder)
          have inOwn := (ih base early isOrder).respects i inside other declared
          exact (inOwn.trans sublist).cons position
      case monotone =>
        intro i member own isOwn
        rcases List.mem_cons.mp member with rfl | later
        · obtain rfl := Option.some.inj (isOwn.symm.trans found)
          exact .refl _
        · obtain ⟨base, isBase, ofBase, isOrder, inside⟩ := extended.mem_merged_iff.mp later
          obtain ⟨early, kept, isKept, sublist⟩ := extended.exists_order isBase
          obtain rfl := Option.some.inj (isKept.symm.trans isOrder)
          have inBase := (ih base early isOrder).monotone i inside own isOwn
          exact (inBase.trans sublist).cons position

/-- A class with one base comes before the order of the base. -/
theorem orderAt?_of_single (found : orderAt? declarations position = some order)
    {declaration : ClassDeclaration c} (declared : declarations[position]? = some declaration)
    {base : Nat} (single : declaration.bases = [base]) :
    ∃ inherited, orderAt? declarations base = some inherited ∧ order = position :: inherited := by
  obtain ⟨other, lists, merged, extended, rfl⟩ := exists_extends found
  obtain rfl := Option.some.inj (extended.declared.symm.trans declared)
  have isBase : base ∈ other.bases := by simp [single]
  obtain ⟨-, inherited, isOrder, kept⟩ := extended.exists_order isBase
  refine ⟨inherited, isOrder, ?_⟩
  have inside : merged ⊆ inherited := by
    intro i member
    obtain ⟨_, isBase, own, isOwn, inOwn⟩ := extended.mem_merged_iff.mp member
    rw [single, List.mem_singleton] at isBase
    subst isBase
    obtain rfl := Option.some.inj (isOwn.symm.trans isOrder)
    exact inOwn
  have short := (List.subperm_of_subset extended.merged.once inside).length_le
  rw [kept.eq_of_length_le short]

end Gherkin.Linearization
