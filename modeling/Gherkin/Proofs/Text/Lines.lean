import Gherkin.Text.Lines
import Mathlib.Data.List.Basic
import Mathlib.Data.List.Induction

/-!
# Laws of cutting into lines

Lines that were written one under the other are found again, except that a
carriage return at the end of a line is taken for a part of the break.
-/

namespace Gherkin.Text

/-- A line as it is found in front of a line feed: a carriage return at its
end belongs to the break. -/
def dropReturn (line : List Char) : List Char :=
  if line.getLast? = some '\r' then line.dropLast else line

theorem dropReturn_cons {c : Char} {cs : List Char} (nonempty : cs ≠ []) :
    dropReturn (c :: cs) = c :: dropReturn cs := by
  have last : (c :: cs).getLast? = cs.getLast? := List.getLast?_cons_of_ne_nil nonempty
  rw [dropReturn, dropReturn, last, List.dropLast_cons_of_ne_nil nonempty]
  split <;> rfl

/-- A line either stands as it is or has lost the carriage return at its
end. -/
theorem eq_dropReturn_or (line : List Char) :
    line = dropReturn line ∨ line = dropReturn line ++ ['\r'] := by
  rw [dropReturn]
  split
  · rename_i last
    obtain ⟨front, rfl⟩ := List.getLast?_eq_some_iff.mp last
    simp
  · exact Or.inl rfl

theorem dropReturn_eq_self {line : List Char} (last : line.getLast? ≠ some '\r') :
    dropReturn line = line :=
  if_neg last

/-- What stands in front of a text keeps its last character. -/
theorem dropReturn_append {front : List Char} (last : front.getLast? ≠ some '\r')
    (cs : List Char) : dropReturn (front ++ cs) = front ++ dropReturn cs := by
  by_cases empty : cs = []
  · subst cs
    rw [List.append_nil, dropReturn_eq_self last]
    simp [dropReturn]
  · rw [dropReturn, dropReturn, List.getLast?_append_of_ne_nil front empty,
      List.dropLast_append_of_ne_nil empty]
    split <;> rfl

/-- A character that begins no break belongs to the first line. -/
theorem splitLines_cons {c : Char} {cs : List Char} (feed : c ≠ '\n')
    (alone : c = '\r' → cs.head? ≠ some '\n') :
    ∃ line later, splitLines cs = line :: later ∧
      splitLines (c :: cs) = (c :: line) :: later := by
  cases lines : splitLines cs with
  | nil => exact absurd lines (splitLines_ne_nil cs)
  | cons line later =>
      refine ⟨line, later, rfl, ?_⟩
      rw [splitLines]
      · rw [lines]
      · exact feed
      · rintro rest rfl rfl
        exact alone rfl rfl

/-- The first line of a text ends at its first line feed. -/
theorem splitLines_append_cons {line : List Char} (noFeed : '\n' ∉ line) (rest : List Char) :
    splitLines (line ++ '\n' :: rest) = dropReturn line :: splitLines rest := by
  induction line with
  | nil => rfl
  | cons c cs ih =>
      simp only [List.mem_cons, not_or] at noFeed
      cases cs with
      | nil =>
          by_cases carriage : c = '\r'
          · subst c
            rfl
          · have alone : c = '\r' → ('\n' :: rest).head? ≠ some '\n' :=
              fun equal => absurd equal carriage
            obtain ⟨first, later, lines, whole⟩ := splitLines_cons (Ne.symm noFeed.1) alone
            have parts : first = [] ∧ later = splitLines rest := by
              simpa [splitLines, eq_comm] using lines
            rw [List.singleton_append, whole, parts.1, parts.2,
              dropReturn_eq_self (by simpa using carriage)]
      | cons d ds =>
          have inner : ((d :: ds) ++ '\n' :: rest).head? ≠ some '\n' := by
            have := noFeed.2
            simp only [List.mem_cons, not_or] at this
            simpa using Ne.symm this.1
          obtain ⟨first, later, lines, whole⟩ :=
            splitLines_cons (Ne.symm noFeed.1) fun _ => inner
          rw [ih noFeed.2] at lines
          obtain ⟨rfl, rfl⟩ := List.cons.inj lines
          rw [List.cons_append, whole, dropReturn_cons (List.cons_ne_nil d ds)]

/-- Lines under one another are found again in front of any text. -/
theorem splitLines_flatMap_append {written : List (List Char)}
    (noFeed : ∀ line ∈ written, '\n' ∉ line) (rest : List Char) :
    splitLines (written.flatMap (· ++ ['\n']) ++ rest) =
      written.map dropReturn ++ splitLines rest := by
  induction written with
  | nil => rfl
  | cons line later ih =>
      have laterFound := ih fun other member => noFeed other (List.mem_cons_of_mem line member)
      rw [List.flatMap_cons, List.append_assoc, List.append_assoc, List.singleton_append,
        splitLines_append_cons (noFeed line List.mem_cons_self), laterFound]
      rfl

/-- Lines under one another are found again. -/
theorem lines_flatMap {written : List (List Char)} (noFeed : ∀ line ∈ written, '\n' ∉ line) :
    lines (written.flatMap (· ++ ['\n'])) = written.map dropReturn := by
  have all := splitLines_flatMap_append noFeed []
  rw [List.append_nil, splitLines] at all
  rw [lines, all]
  simp

/-- The lines of a text are those between its breaks, and no empty one at its end. -/
theorem splitLines_eq_lines_or (cs : List Char) :
    splitLines cs = lines cs ∨ splitLines cs = lines cs ++ [[]] := by
  rw [lines]
  split
  · rename_i last
    exact Or.inr (List.dropLast_append_getLast? [] last).symm
  · exact Or.inl rfl

/-- No line holds a line feed. -/
theorem not_mem_of_mem_splitLines {cs line : List Char} (found : line ∈ splitLines cs) :
    '\n' ∉ line := by
  fun_induction splitLines cs generalizing line with
  | case1 => simp_all
  | case2 cs ih =>
      rcases List.mem_cons.mp found with rfl | found
      · simp
      · exact ih found
  | case3 cs ih =>
      rcases List.mem_cons.mp found with rfl | found
      · simp
      · exact ih found
  | case4 c cs _ _ empty => exact absurd empty (splitLines_ne_nil cs)
  | case5 c cs feed _ first later lines ih =>
      rw [lines] at ih
      rcases List.mem_cons.mp found with rfl | found
      · have := ih List.mem_cons_self
        simp only [List.mem_cons, not_or]
        exact ⟨Ne.symm feed, this⟩
      · exact ih (List.mem_cons_of_mem first found)

theorem mem_splitLines_of_mem_lines {cs line : List Char} (found : line ∈ lines cs) :
    line ∈ splitLines cs := by
  rw [lines] at found
  split at found
  · exact List.dropLast_subset _ found
  · exact found

theorem not_mem_of_mem_lines {cs line : List Char} (found : line ∈ lines cs) :
    '\n' ∉ line :=
  not_mem_of_mem_splitLines (mem_splitLines_of_mem_lines found)

/-! ## Texts under one another -/

/-- A text without a line feed is one line. -/
theorem splitLines_of_not_mem {line : List Char} (noFeed : '\n' ∉ line) :
    splitLines line = [line] := by
  induction line with
  | nil => rfl
  | cons c cs ih =>
      simp only [List.mem_cons, not_or] at noFeed
      have alone : c = '\r' → cs.head? ≠ some '\n' := by
        intro _ follows
        exact noFeed.2 (List.mem_of_head? follows)
      obtain ⟨first, later, lines, whole⟩ := splitLines_cons (Ne.symm noFeed.1) alone
      rw [ih noFeed.2] at lines
      obtain ⟨rfl, rfl⟩ := List.cons.inj lines
      exact whole

/-- Every text is made of ended lines and of what stands after the last line feed. -/
theorem exists_eq_flatMap_append (cs : List Char) :
    ∃ (written : List (List Char)) (last : List Char),
      (∀ line ∈ written, '\n' ∉ line) ∧ '\n' ∉ last ∧
      cs = written.flatMap (· ++ ['\n']) ++ last := by
  induction cs with
  | nil => exact ⟨[], [], by simp⟩
  | cons c cs ih =>
      obtain ⟨written, last, noFeed, lastNoFeed, rfl⟩ := ih
      by_cases feed : c = '\n'
      · subst c
        exact ⟨[] :: written, last, by simpa using noFeed, lastNoFeed, rfl⟩
      · cases written with
        | nil => exact ⟨[], c :: last, noFeed, by simp [Ne.symm feed, lastNoFeed], rfl⟩
        | cons line written =>
            rw [List.forall_mem_cons] at noFeed
            exact ⟨(c :: line) :: written, last, by simpa [Ne.symm feed] using noFeed,
              lastNoFeed, rfl⟩

/-- Every line of the text has been ended. -/
def Ended (cs : List Char) : Prop :=
  ∀ c ∈ cs.getLast?, c = '\n'

instance (cs : List Char) : Decidable (Ended cs) :=
  decidable_of_iff (cs.getLast?.all (· == '\n')) (by simp [Ended, Option.all_eq_true])

theorem ended_iff_exists {cs : List Char} :
    Ended cs ↔ ∃ written : List (List Char), (∀ line ∈ written, '\n' ∉ line) ∧
      cs = written.flatMap (· ++ ['\n']) := by
  constructor
  · intro ended
    obtain ⟨written, last, noFeed, lastNoFeed, rfl⟩ := exists_eq_flatMap_append cs
    have empty : last = [] := by
      by_contra nonempty
      rw [Ended, List.getLast?_append_of_ne_nil _ nonempty] at ended
      have final := ended _ (List.getLast?_eq_some_getLast nonempty)
      exact lastNoFeed (final ▸ List.getLast_mem nonempty)
    subst last
    exact ⟨written, noFeed, List.append_nil _⟩
  · rintro ⟨written, -, rfl⟩ c last
    induction written using List.reverseRecOn with
    | nil => simp at last
    | append_singleton written line => simpa [eq_comm] using last

theorem splitLines_append {first : List Char} (ended : Ended first) (rest : List Char) :
    splitLines (first ++ rest) = lines first ++ splitLines rest := by
  obtain ⟨written, noFeed, rfl⟩ := ended_iff_exists.mp ended
  rw [splitLines_flatMap_append noFeed, lines_flatMap noFeed]

/-- The lines of a text that is written under another. -/
theorem lines_append {first : List Char} (ended : Ended first) (rest : List Char) :
    lines (first ++ rest) = lines first ++ lines rest := by
  rw [lines, splitLines_append ended,
    List.getLast?_append_of_ne_nil _ (splitLines_ne_nil rest),
    List.dropLast_append_of_ne_nil (splitLines_ne_nil rest)]
  split
  · rename_i last
    have restLines : lines rest = (splitLines rest).dropLast := if_pos last
    rw [restLines]
  · rename_i last
    have restLines : lines rest = splitLines rest := if_neg last
    rw [restLines]

theorem Ended.append {first rest : List Char} (firstEnded : Ended first) (restEnded : Ended rest) :
    Ended (first ++ rest) := by
  rw [ended_iff_exists] at *
  obtain ⟨firstLines, firstNoFeed, rfl⟩ := firstEnded
  obtain ⟨restLines, restNoFeed, rfl⟩ := restEnded
  refine ⟨firstLines ++ restLines, ?_, List.flatMap_append.symm⟩
  intro line member
  exact (List.mem_append.mp member).elim (firstNoFeed line) (restNoFeed line)

/-! ## Breaks -/

/-- A line break. -/
def IsBreak (cs : List Char) : Prop :=
  cs = ['\n'] ∨ cs = ['\r', '\n']

/-- What can follow a line: a break, or nothing when it is the last. -/
def EndsLine (cs : List Char) : Prop :=
  cs = [] ∨ ∃ ending rest, IsBreak ending ∧ cs = ending ++ rest

/-- A line as it is found in a text: a carriage return at its end may have been taken for
a part of the break. -/
def FoundAs (line kept : List Char) : Prop :=
  kept = line ∨ kept = dropReturn line

/-- A line is found in front of a break. -/
theorem splitLines_append_break {line ending : List Char} (noFeed : '\n' ∉ line)
    (isBreak : IsBreak ending) (rest : List Char) :
    ∃ kept, FoundAs line kept ∧
      splitLines (line ++ (ending ++ rest)) = kept :: splitLines rest := by
  rcases isBreak with rfl | rfl
  · exact ⟨dropReturn line, Or.inr rfl, splitLines_append_cons noFeed rest⟩
  · have whole : line ++ (['\r', '\n'] ++ rest) = (line ++ ['\r']) ++ '\n' :: rest := by simp
    have stillNoFeed : '\n' ∉ line ++ ['\r'] := by simpa using noFeed
    refine ⟨line, Or.inl rfl, ?_⟩
    rw [whole, splitLines_append_cons stillNoFeed]
    simp [dropReturn]

/-- The lines below a line do not depend on it. -/
theorem exists_splitLines_append {after : List Char} (endsLine : EndsLine after) :
    ∃ later, ∀ line, '\n' ∉ line →
      ∃ kept, FoundAs line kept ∧ splitLines (line ++ after) = kept :: later := by
  rcases endsLine with rfl | ⟨ending, rest, isBreak, rfl⟩
  · refine ⟨[], fun line noFeed => ⟨line, Or.inl rfl, ?_⟩⟩
    rw [List.append_nil, splitLines_of_not_mem noFeed]
  · exact ⟨splitLines rest, fun line noFeed => splitLines_append_break noFeed isBreak rest⟩

/-- A break may be written in either way. -/
theorem splitLines_widen {before : List Char} (single : before.getLast? ≠ some '\r')
    (after : List Char) :
    splitLines (before ++ '\r' :: '\n' :: after) = splitLines (before ++ '\n' :: after) := by
  obtain ⟨written, last, noFeed, lastNoFeed, rfl⟩ := exists_eq_flatMap_append before
  have lastSingle : last.getLast? ≠ some '\r' := by
    intro final
    apply single
    have nonempty : last ≠ [] := by
      rintro rfl
      simp at final
    rw [List.getLast?_append_of_ne_nil _ nonempty, final]
  have whole : last ++ '\r' :: '\n' :: after = (last ++ ['\r']) ++ '\n' :: after := by simp
  have stillNoFeed : '\n' ∉ last ++ ['\r'] := by simpa using lastNoFeed
  rw [List.append_assoc, List.append_assoc, splitLines_flatMap_append noFeed,
    splitLines_flatMap_append noFeed, whole, splitLines_append_cons stillNoFeed,
    splitLines_append_cons lastNoFeed, dropReturn_eq_self lastSingle]
  simp [dropReturn]

end Gherkin.Text
