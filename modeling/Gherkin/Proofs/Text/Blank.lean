import Gherkin.Proofs.Text.Lines
import Gherkin.Text.Blank
import Mathlib.Data.List.DropRight

/-!
# Laws of white space

A text is trimmed when trimming leaves it as it is, which is the case exactly
when neither its first nor its last character is white space.  White space put
around a text does not change what trimming makes of it, and words with a space
between them are found again.
-/

namespace Gherkin.Text

/-- A text that neither begins nor ends with white space. -/
def Trimmed (cs : List Char) : Prop :=
  trim cs = cs

instance (cs : List Char) : Decidable (Trimmed cs) :=
  inferInstanceAs (Decidable (trim cs = cs))

theorem trimEnd_eq_rdropWhile (cs : List Char) : trimEnd cs = cs.rdropWhile isBlank :=
  rfl

@[simp]
theorem trimEnd_nil : trimEnd [] = [] :=
  rfl

theorem trimEnd_concat_of_blank {c : Char} (blank : isBlank c) (cs : List Char) :
    trimEnd (cs ++ [c]) = trimEnd cs :=
  List.rdropWhile_concat_pos isBlank cs c blank

theorem trimEnd_concat_of_not_blank {c : Char} (solid : ¬isBlank c) (cs : List Char) :
    trimEnd (cs ++ [c]) = cs ++ [c] :=
  List.rdropWhile_concat_neg isBlank cs c solid

theorem trimEnd_append_of_blank (cs : List Char) {back : List Char}
    (blank : ∀ c ∈ back, isBlank c) : trimEnd (cs ++ back) = trimEnd cs := by
  have reversed : ∀ c ∈ back.reverse, isBlank c := by simpa using blank
  rw [trimEnd, List.reverse_append, List.dropWhile_append_of_pos reversed, trimEnd]

theorem trimEnd_eq_nil_iff {cs : List Char} : trimEnd cs = [] ↔ ∀ c ∈ cs, isBlank c :=
  List.rdropWhile_eq_nil_iff

/-- What is trimmed away at the back is white space. -/
theorem exists_eq_trimEnd_append (cs : List Char) :
    ∃ back, cs = trimEnd cs ++ back ∧ ∀ c ∈ back, isBlank c := by
  induction cs using List.reverseRecOn with
  | nil => exact ⟨[], rfl, nofun⟩
  | append_singleton cs c ih =>
      by_cases blank : isBlank c
      · rcases ih with ⟨back, whole, blanks⟩
        rw [trimEnd_concat_of_blank blank]
        refine ⟨back ++ [c], ?_, ?_⟩
        · rw [← List.append_assoc, ← whole]
        · simpa [or_imp, forall_and, blank] using blanks
      · rw [trimEnd_concat_of_not_blank blank]
        exact ⟨[], by rw [List.append_nil], nofun⟩

/-- The two ends of a text can be trimmed in either order. -/
theorem trimStart_trimEnd (cs : List Char) :
    trimStart (trimEnd cs) = trimEnd (trimStart cs) := by
  induction cs using List.reverseRecOn with
  | nil => rfl
  | append_singleton cs c ih =>
      have start_concat : trimStart (cs ++ [c]) =
          if (trimStart cs).isEmpty then trimStart [c] else trimStart cs ++ [c] :=
        List.dropWhile_append
      have single : trimEnd [c] = if isBlank c then [] else [c] :=
        List.rdropWhile_singleton isBlank c
      by_cases blank : isBlank c
      · rw [trimEnd_concat_of_blank blank, ih, start_concat]
        split
        · rename_i empty
          rw [List.isEmpty_iff.mp empty, trimStart, List.dropWhile_cons_of_pos blank]
          rfl
        · rw [trimEnd_concat_of_blank blank]
      · rw [trimEnd_concat_of_not_blank blank, start_concat]
        split
        · rw [trimStart, List.dropWhile_cons_of_neg blank, single, if_neg blank]
        · rw [trimEnd_concat_of_not_blank blank]

theorem trim_eq_trimEnd_trimStart (cs : List Char) : trim cs = trimEnd (trimStart cs) :=
  trimStart_trimEnd cs

@[simp]
theorem trim_nil : trim [] = [] :=
  rfl

theorem trimEnd_trimEnd (cs : List Char) : trimEnd (trimEnd cs) = trimEnd cs :=
  List.rdropWhile_idempotent isBlank cs

theorem trimStart_trimStart (cs : List Char) : trimStart (trimStart cs) = trimStart cs :=
  List.dropWhile_idempotent isBlank cs

/-- What trimming leaves is trimmed. -/
theorem trimmed_trim (cs : List Char) : Trimmed (trim cs) := by
  unfold Trimmed
  calc
    trim (trim cs) = trimEnd (trimStart (trimStart (trimEnd cs))) :=
      trim_eq_trimEnd_trimStart _
    _ = trimEnd (trimEnd (trimStart cs)) := by rw [trimStart_trimStart, trimStart_trimEnd]
    _ = trim cs := by rw [trimEnd_trimEnd, trim_eq_trimEnd_trimStart]

theorem blank_spaces (n : Nat) : ∀ c ∈ List.replicate n ' ', isBlank c := by
  intro c member
  rw [List.eq_of_mem_replicate member]
  decide

/-- White space in front of a text is trimmed away. -/
theorem trim_append_of_blank {front : List Char} (blank : ∀ c ∈ front, isBlank c)
    (cs : List Char) : trim (front ++ cs) = trim cs := by
  rw [trim_eq_trimEnd_trimStart, trim_eq_trimEnd_trimStart, trimStart, trimStart,
    List.dropWhile_append_of_pos blank]

/-- White space behind a text is trimmed away. -/
theorem trim_concat_of_blank {c : Char} (blank : isBlank c) (cs : List Char) :
    trim (cs ++ [c]) = trim cs := by
  rw [trim, trimEnd_concat_of_blank blank, trim]

/-- All white space behind a text is trimmed away. -/
theorem trim_append_back_of_blank {back : List Char} (blank : ∀ c ∈ back, isBlank c)
    (cs : List Char) : trim (cs ++ back) = trim cs := by
  rw [trim, trimEnd_append_of_blank cs blank, trim]

/-- A carriage return that a line loses to its break was trimmed away in any case. -/
theorem trim_dropReturn (line : List Char) : trim (dropReturn line) = trim line := by
  rcases eq_dropReturn_or line with same | lost
  · rw [← same]
  · conv_rhs => rw [lost]
    exact (trim_concat_of_blank (by decide) _).symm

theorem trim_cons_of_blank {c : Char} (blank : isBlank c) (cs : List Char) :
    trim (c :: cs) = trim cs := by
  have front : ∀ d ∈ [c], isBlank d := by simpa using blank
  exact trim_append_of_blank front cs

/-! ## First and last characters -/

theorem trimStart_eq_self_iff {cs : List Char} :
    trimStart cs = cs ↔ ∀ c, cs.head? = some c → ¬isBlank c := by
  cases cs with
  | nil => simp [trimStart]
  | cons c cs => simp [trimStart, List.dropWhile_eq_self_iff]

theorem trimEnd_eq_self_iff {cs : List Char} :
    trimEnd cs = cs ↔ ∀ c, cs.getLast? = some c → ¬isBlank c := by
  rw [trimEnd_eq_rdropWhile, List.rdropWhile_eq_self_iff]
  cases cs using List.reverseRecOn with
  | nil => simp
  | append_singleton cs c => simp

/-- A text that is not empty is trimmed when its ends are solid. -/
theorem trimmed_iff (cs : List Char) :
    Trimmed cs ↔
      (∀ c, cs.head? = some c → ¬isBlank c) ∧ ∀ c, cs.getLast? = some c → ¬isBlank c := by
  rw [← trimStart_eq_self_iff, ← trimEnd_eq_self_iff]
  constructor
  · intro trimmed
    constructor
    · calc
        trimStart cs = trimStart (trim cs) := congrArg trimStart trimmed.symm
        _ = trim cs := by rw [trim, trimStart_trimStart]
        _ = cs := trimmed
    · calc
        trimEnd cs = trimEnd (trim cs) := congrArg trimEnd trimmed.symm
        _ = trim cs := by rw [trim_eq_trimEnd_trimStart, trimEnd_trimEnd]
        _ = cs := trimmed
  · rintro ⟨start, finish⟩
    rw [Trimmed, trim, finish, start]

theorem trimmed_nil : Trimmed [] :=
  rfl

/-- What stands between two trimmed texts does not matter. -/
theorem Trimmed.append {front back : List Char} (frontTrimmed : Trimmed front)
    (frontNonempty : front ≠ []) (backTrimmed : Trimmed back) (backNonempty : back ≠ [])
    (middle : List Char) : Trimmed (front ++ (middle ++ back)) := by
  rw [trimmed_iff] at *
  constructor
  · intro c first
    rw [List.head?_append_of_ne_nil front frontNonempty] at first
    exact frontTrimmed.1 c first
  · intro c last
    rw [List.getLast?_append_of_ne_nil _ (by simp [backNonempty]),
      List.getLast?_append_of_ne_nil _ backNonempty] at last
    exact backTrimmed.2 c last

/-- A space and a trimmed text behind a word: without the text the space is
trimmed away. -/
theorem trim_append_space {word text : List Char} (wordTrimmed : Trimmed word)
    (wordNonempty : word ≠ []) (textTrimmed : Trimmed text) :
    trim (word ++ ' ' :: text) = if text = [] then word else word ++ ' ' :: text := by
  by_cases empty : text = []
  · rw [if_pos empty, empty, trim_concat_of_blank (by decide)]
    exact wordTrimmed
  · rw [if_neg empty]
    exact wordTrimmed.append wordNonempty textTrimmed empty [' ']

theorem trimEnd_cons_of_solid {c : Char} (solid : ¬isBlank c) (cs : List Char) :
    trimEnd (c :: cs) = c :: trimEnd cs := by
  induction cs using List.reverseRecOn with
  | nil => exact trimEnd_concat_of_not_blank solid []
  | append_singleton cs d ih =>
      rw [← List.cons_append]
      by_cases blank : isBlank d
      · rw [trimEnd_concat_of_blank blank, trimEnd_concat_of_blank blank, ih]
      · rw [trimEnd_concat_of_not_blank blank, trimEnd_concat_of_not_blank blank,
          List.cons_append]

/-- Trimming keeps a solid character at the front. -/
theorem trim_cons_of_solid {c : Char} (solid : ¬isBlank c) (cs : List Char) :
    ∃ rest, trim (c :: cs) = c :: rest := by
  have start : trimStart (c :: cs) = c :: cs := List.dropWhile_cons_of_neg solid
  rw [trim_eq_trimEnd_trimStart, start, trimEnd_cons_of_solid solid]
  exact ⟨trimEnd cs, rfl⟩

theorem head?_of_head?_trimEnd {cs : List Char} {c : Char} (head : (trimEnd cs).head? = some c) :
    cs.head? = some c := by
  rcases exists_eq_trimEnd_append cs with ⟨back, whole, -⟩
  rw [whole, List.head?_append, head]
  rfl

theorem trim_eq_nil_iff {cs : List Char} : trim cs = [] ↔ ∀ c ∈ cs, isBlank c := by
  constructor
  · intro empty c member
    rcases exists_eq_trimEnd_append cs with ⟨back, whole, blank⟩
    rw [whole, List.mem_append] at member
    rcases member with inFront | inBack
    · exact List.dropWhile_eq_nil_iff.mp empty c inFront
    · exact blank c inBack
  · intro blank
    rw [trim, trimEnd_eq_nil_iff.mpr blank]
    rfl

theorem trimEnd_isPrefixOf (cs : List Char) : trimEnd cs <+: cs :=
  List.rdropWhile_prefix isBlank cs

theorem trim_sublist (cs : List Char) : (trim cs).Sublist cs :=
  (List.dropWhile_sublist isBlank).trans (trimEnd_isPrefixOf cs).sublist

theorem mem_of_mem_trim {c : Char} {cs : List Char} (member : c ∈ trim cs) : c ∈ cs :=
  (trim_sublist cs).subset member

/-- Letters and digits are no white space. -/
theorem not_isBlank_of_isAlphanum {c : Char} (isWordChar : c.isAlphanum) : ¬isBlank c := by
  have range : 48 ≤ c.toNat ∧ c.toNat ≤ 57 ∨ 65 ≤ c.toNat ∧ c.toNat ≤ 90 ∨
      97 ≤ c.toNat ∧ c.toNat ≤ 122 := by
    delta Char.isAlphanum Char.isAlpha Char.isUpper Char.isLower Char.isDigit at isWordChar
    simp only [ge_iff_le, UInt32.le_iff_toNat_le, Bool.or_eq_true, Bool.and_eq_true,
      decide_eq_true_eq] at isWordChar
    simp at isWordChar
    omega
  rw [isBlank, Ranges.contains_eq_true_iff]
  rintro ⟨blanks, member, within⟩
  simp only [blankRanges, List.mem_cons, List.not_mem_nil, or_false] at member
  rcases member with rfl | rfl | rfl | rfl | rfl | rfl | rfl | rfl | rfl | rfl <;>
    simp only at within <;> omega

/-! ## Words -/

theorem join_cons_cons (word next : List Char) (rest : List (List Char)) :
    join [' '] (word :: next :: rest) = word ++ ' ' :: join [' '] (next :: rest) := by
  simp [join]

theorem mem_of_mem_join {c : Char} {list : List (List Char)} (member : c ∈ join [' '] list) :
    c = ' ' ∨ ∃ word ∈ list, c ∈ word := by
  induction list with
  | nil => simp [join] at member
  | cons word list ih =>
      cases list with
      | nil => exact Or.inr ⟨word, List.mem_cons_self, member⟩
      | cons next rest =>
          rw [join_cons_cons, List.mem_append, List.mem_cons] at member
          rcases member with inWord | space | later
          · exact Or.inr ⟨word, List.mem_cons_self, inWord⟩
          · exact Or.inl space
          · rcases ih later with space | ⟨other, found, inOther⟩
            · exact Or.inl space
            · exact Or.inr ⟨other, List.mem_cons_of_mem word found, inOther⟩

theorem trimmed_of_solid {word : List Char} (solid : ∀ c ∈ word, ¬isBlank c) : Trimmed word :=
  (trimmed_iff word).mpr
    ⟨fun c first => solid c (List.mem_of_head? first),
      fun c last => solid c (List.mem_of_getLast? last)⟩

/-- Words with a space between them form a trimmed text. -/
theorem trimmed_join {list : List (List Char)}
    (isWord : ∀ word ∈ list, word ≠ [] ∧ ∀ c ∈ word, ¬isBlank c) :
    Trimmed (join [' '] list) := by
  induction list with
  | nil => exact trimmed_nil
  | cons word list ih =>
      obtain ⟨nonempty, solid⟩ := isWord word List.mem_cons_self
      cases list with
      | nil => exact trimmed_of_solid solid
      | cons next rest =>
          have later := ih fun other member => isWord other (List.mem_cons_of_mem word member)
          have laterNonempty : join [' '] (next :: rest) ≠ [] := by
            have := (isWord next (by simp)).1
            cases rest <;> simp [join, this]
          rw [join_cons_cons]
          exact (trimmed_of_solid solid).append nonempty later laterNonempty [' ']

theorem words_eq (cs : List Char) :
    words cs =
      if (wordsAux cs).1.isEmpty then (wordsAux cs).2
      else (wordsAux cs).1 :: (wordsAux cs).2 :=
  rfl

theorem wordsAux_cons_of_blank {c : Char} (blank : isBlank c) (cs : List Char) :
    wordsAux (c :: cs) = ([], words cs) := by
  simp [wordsAux, words_eq, blank]

theorem wordsAux_append {word : List Char} (solid : ∀ c ∈ word, ¬isBlank c) (cs : List Char) :
    wordsAux (word ++ cs) = (word ++ (wordsAux cs).1, (wordsAux cs).2) := by
  induction word with
  | nil => rfl
  | cons c word ih =>
      have first := solid c List.mem_cons_self
      have later := ih fun d member => solid d (List.mem_cons_of_mem c member)
      simp [wordsAux, later, first]

/-- A word ends at a space. -/
theorem words_append_space {word : List Char} (nonempty : word ≠ [])
    (solid : ∀ c ∈ word, ¬isBlank c) (cs : List Char) :
    words (word ++ ' ' :: cs) = word :: words cs := by
  rw [words_eq, wordsAux_append solid, wordsAux_cons_of_blank (by decide)]
  simp [nonempty]

theorem words_of_solid {word : List Char} (nonempty : word ≠ [])
    (solid : ∀ c ∈ word, ¬isBlank c) : words word = [word] := by
  have whole := wordsAux_append solid []
  rw [List.append_nil] at whole
  simp [words_eq, whole, wordsAux, nonempty]

/-- Words with a space between them are found again. -/
theorem words_join {list : List (List Char)}
    (isWord : ∀ word ∈ list, word ≠ [] ∧ ∀ c ∈ word, ¬isBlank c) :
    words (join [' '] list) = list := by
  induction list with
  | nil => rfl
  | cons word list ih =>
      obtain ⟨nonempty, solid⟩ := isWord word List.mem_cons_self
      have later := ih fun other member => isWord other (List.mem_cons_of_mem word member)
      cases list with
      | nil => exact words_of_solid nonempty solid
      | cons next rest =>
          rw [join_cons_cons, words_append_space nonempty solid, later]

theorem words_ne_nil_of_solid {c : Char} (solid : ¬isBlank c) (cs : List Char) :
    words (c :: cs) ≠ [] := by
  simp [words, wordsAux, solid]

end Gherkin.Text
