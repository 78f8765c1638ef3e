import Gherkin.Text.Lines
import Gherkin.Text.Search
import Mathlib.Data.List.Basic

/-!
# Laws of finding and cutting

A prefix is dropped exactly when it is there, the pieces of a text put together
again give the text, and replacing walks over the text from left to right.
-/

namespace Gherkin.Text

/-! ## Prefixes -/

theorem dropPrefix?_eq_some_iff {front cs rest : List Char} :
    dropPrefix? front cs = some rest ↔ cs = front ++ rest := by
  induction front generalizing cs with
  | nil => simp [dropPrefix?]
  | cons p ps ih =>
      cases cs with
      | nil => simp [dropPrefix?]
      | cons c cs =>
          by_cases equal : p = c
          · simp [dropPrefix?, equal, ih]
          · simp [dropPrefix?, equal, Ne.symm equal]

@[simp]
theorem dropPrefix?_append (front rest : List Char) :
    dropPrefix? front (front ++ rest) = some rest :=
  dropPrefix?_eq_some_iff.mpr rfl

theorem dropPrefix?_eq_none_iff {front cs : List Char} :
    dropPrefix? front cs = none ↔ ¬front <+: cs := by
  constructor
  · rintro missing ⟨rest, rfl⟩
    simp at missing
  · intro differs
    cases found : dropPrefix? front cs with
    | none => rfl
    | some rest => exact absurd ⟨rest, (dropPrefix?_eq_some_iff.mp found).symm⟩ differs

theorem isSome_dropPrefix?_iff {front cs : List Char} :
    (dropPrefix? front cs).isSome ↔ front <+: cs := by
  rw [Option.isSome_iff_ne_none, Ne, dropPrefix?_eq_none_iff, not_not]

/-- A separator is not found in a text that lacks one of its characters. -/
theorem before_eq_self_of_not_mem {separator cs : List Char} {c : Char}
    (inSeparator : c ∈ separator) (absent : c ∉ cs) : before separator cs = cs := by
  induction cs with
  | nil => rfl
  | cons d ds ih =>
      have differs : ¬separator <+: d :: ds := fun found => absent (found.subset inSeparator)
      rw [before, if_neg (mt isSome_dropPrefix?_iff.mp differs),
        ih fun later => absent (List.mem_cons_of_mem d later)]

/-! ## Joined texts -/

theorem join_eq_intercalate (separator : List Char) (list : List (List Char)) :
    join separator list = separator.intercalate list := by
  induction list with
  | nil => rfl
  | cons text rest ih =>
      cases rest with
      | nil => exact List.intercalate_singleton.symm
      | cons next later => rw [List.intercalate_cons_cons, ← ih]; rfl

/-- Texts that are joined end as one of them does. -/
theorem exists_getLast?_join (separator : List Char) {list : List (List Char)}
    (nonempty : list ≠ []) (each : ∀ text ∈ list, text ≠ []) :
    ∃ text ∈ list, (join separator list).getLast? = text.getLast? := by
  induction list with
  | nil => contradiction
  | cons text rest ih =>
      cases rest with
      | nil => exact ⟨text, List.mem_cons_self, rfl⟩
      | cons next later =>
          obtain ⟨-, eachLater⟩ := List.forall_mem_cons.mp each
          obtain ⟨last, member, same⟩ := ih (List.cons_ne_nil next later) eachLater
          refine ⟨last, List.mem_cons_of_mem text member, ?_⟩
          have someLast := List.getLast?_eq_some_getLast (eachLater last member)
          have whole : join separator (text :: next :: later) =
              text ++ separator ++ join separator (next :: later) := rfl
          rw [whole, List.getLast?_append, same, someLast]
          rfl

/-! ## Pieces -/

/-- A text is its pieces with the separator between them. -/
theorem join_splitAt (separator : Char) (cs : List Char) :
    join [separator] (splitAt separator cs) = cs := by
  induction cs with
  | nil => rfl
  | cons c cs ih =>
      have someFirst := splitAt_ne_nil separator cs
      cases pieces : splitAt separator cs with
      | nil => exact absurd pieces someFirst
      | cons piece pieces' =>
          rw [pieces] at ih
          by_cases equal : c = separator
          · simp only [splitAt, pieces, equal, if_true, join, List.nil_append,
              List.singleton_append, ih]
          · simp only [splitAt, pieces, equal, if_false]
            cases pieces' with
            | nil => simpa [join] using ih
            | cons next later => simpa [join] using ih

/-- No piece holds the separator. -/
theorem not_mem_of_mem_splitAt {separator : Char} {cs piece : List Char}
    (found : piece ∈ splitAt separator cs) : separator ∉ piece := by
  induction cs generalizing piece with
  | nil =>
      simp only [splitAt, List.mem_singleton] at found
      simp [found]
  | cons c cs ih =>
      by_cases equal : c = separator
      · simp only [splitAt, equal, if_true, List.mem_cons] at found
        rcases found with rfl | found
        · simp
        · exact ih found
      · simp only [splitAt, equal, if_false] at found
        cases pieces : splitAt separator cs with
        | nil => exact absurd pieces (splitAt_ne_nil separator cs)
        | cons first later =>
            simp only [pieces, List.mem_cons] at found ih
            rcases found with rfl | found
            · have absent := ih (Or.inl rfl)
              simp [absent, Ne.symm equal]
            · exact ih (Or.inr found)

theorem splitAt_of_not_mem {separator : Char} {piece : List Char}
    (absent : separator ∉ piece) : splitAt separator piece = [piece] := by
  induction piece with
  | nil => rfl
  | cons c cs ih =>
      simp only [List.mem_cons, not_or] at absent
      simp [splitAt, Ne.symm absent.1, ih absent.2]

theorem splitAt_append_cons {separator : Char} {piece : List Char}
    (absent : separator ∉ piece) (rest : List Char) :
    splitAt separator (piece ++ separator :: rest) = piece :: splitAt separator rest := by
  induction piece with
  | nil => simp [splitAt]
  | cons c cs ih =>
      simp only [List.mem_cons, not_or] at absent
      simp [splitAt, Ne.symm absent.1, ih absent.2]

/-- Pieces without the separator are found again. -/
theorem splitAt_join {separator : Char} {pieces : List (List Char)} (nonempty : pieces ≠ [])
    (absent : ∀ piece ∈ pieces, separator ∉ piece) :
    splitAt separator (join [separator] pieces) = pieces := by
  induction pieces with
  | nil => exact absurd rfl nonempty
  | cons piece pieces ih =>
      have first := absent piece List.mem_cons_self
      cases pieces with
      | nil => exact splitAt_of_not_mem first
      | cons next later =>
          have rest := ih (by simp) fun other member =>
            absent other (List.mem_cons_of_mem piece member)
          have unfolded : join [separator] (piece :: next :: later) =
              piece ++ separator :: join [separator] (next :: later) := by
            simp [join]
          rw [unfolded, splitAt_append_cons first, rest]

/-! ## Replacing -/

theorem replaceAux_eq_drop (pattern replacement : List Char) (skip : Nat) (cs : List Char) :
    replaceAux pattern replacement skip cs = replace pattern replacement (cs.drop skip) := by
  induction skip generalizing cs with
  | zero => rfl
  | succ skip ih =>
      cases cs with
      | nil => simp [replaceAux, replace]
      | cons c cs => rw [replaceAux, ih, List.drop_succ_cons]

@[simp]
theorem replace_nil (pattern replacement : List Char) : replace pattern replacement [] = [] :=
  rfl

/-- The pattern at the front is replaced. -/
theorem replace_append {pattern : List Char} (nonempty : pattern ≠ [])
    (replacement cs : List Char) :
    replace pattern replacement (pattern ++ cs) =
      replacement ++ replace pattern replacement cs := by
  cases pattern with
  | nil => exact absurd rfl nonempty
  | cons p ps =>
      have found : (dropPrefix? (p :: ps) (p :: (ps ++ cs))).isSome :=
        isSome_dropPrefix?_iff.mpr (List.prefix_append (p :: ps) cs)
      rw [List.cons_append, replace, replaceAux, if_pos found, replaceAux_eq_drop]
      simp

/-- A character at which the pattern does not begin is kept. -/
theorem replace_cons_of_no_match {pattern cs : List Char} {c : Char}
    (differs : ¬pattern <+: c :: cs) (replacement : List Char) :
    replace pattern replacement (c :: cs) = c :: replace pattern replacement cs := by
  rw [replace, replaceAux, if_neg (mt isSome_dropPrefix?_iff.mp differs), replace]

/-- A property of all replacements, by walking over the text: the pattern is met,
or a character is passed over. -/
theorem replace_induction {pattern replacement : List Char} (nonempty : pattern ≠ [])
    {motive : List Char → List Char → Prop} (nil : motive [] [])
    (met : ∀ cs, motive cs (replace pattern replacement cs) →
      motive (pattern ++ cs) (replacement ++ replace pattern replacement cs))
    (passed : ∀ c cs, motive cs (replace pattern replacement cs) →
      motive (c :: cs) (c :: replace pattern replacement cs))
    (cs : List Char) : motive cs (replace pattern replacement cs) := by
  induction length : cs.length using Nat.strongRecOn generalizing cs with
  | ind n ih =>
    by_cases found : pattern <+: cs
    · obtain ⟨rest, rfl⟩ := found
      have shorter : rest.length < n := by
        have := List.length_pos_iff.mpr nonempty
        rw [List.length_append] at length
        omega
      rw [replace_append nonempty]
      exact met rest (ih rest.length shorter rest rfl)
    · cases cs with
      | nil => exact nil
      | cons c cs =>
          rw [replace_cons_of_no_match found]
          exact passed c cs (ih cs.length (by simp [← length]) cs rfl)

/-- Replacing brings in no other characters than those of the replacement. -/
theorem mem_of_mem_replace {pattern replacement cs : List Char} (nonempty : pattern ≠ [])
    {c : Char} (member : c ∈ replace pattern replacement cs) : c ∈ replacement ∨ c ∈ cs := by
  revert member
  refine replace_induction nonempty
    (motive := fun cs result => c ∈ result → c ∈ replacement ∨ c ∈ cs) (by simp) ?_ ?_ cs
  · intro rest ih member
    rcases List.mem_append.mp member with inReplacement | later
    · exact Or.inl inReplacement
    · exact (ih later).imp_right fun inRest => List.mem_append_right pattern inRest
  · intro d rest ih member
    rcases List.mem_cons.mp member with rfl | later
    · exact Or.inr List.mem_cons_self
    · exact (ih later).imp_right fun inRest => List.mem_cons_of_mem d inRest

/-- Replacing keeps the number of a character that it neither takes nor brings. -/
theorem count_replace {pattern replacement : List Char} (nonempty : pattern ≠ []) {c : Char}
    (taken : c ∉ pattern) (brought : c ∉ replacement) (cs : List Char) :
    (replace pattern replacement cs).count c = cs.count c := by
  refine replace_induction nonempty (motive := fun cs result => result.count c = cs.count c)
    rfl ?_ ?_ cs
  · intro rest ih
    rw [List.count_append, List.count_append, ih, List.count_eq_zero_of_not_mem taken,
      List.count_eq_zero_of_not_mem brought]
  · intro d rest ih
    rw [List.count_cons, List.count_cons, ih]

/-- Replacing keeps the last character when pattern and replacement share theirs. -/
theorem getLast?_replace {pattern replacement : List Char} (nonempty : pattern ≠ [])
    (same : replacement.getLast? = pattern.getLast?) (cs : List Char) :
    (replace pattern replacement cs).getLast? = cs.getLast? := by
  refine replace_induction nonempty
    (motive := fun cs result => result.getLast? = cs.getLast?) rfl ?_ ?_ cs
  · intro rest ih
    rw [List.getLast?_append, List.getLast?_append, ih, same]
  · intro d rest ih
    rw [List.getLast?_cons, List.getLast?_cons, ih]

end Gherkin.Text
