import Gherkin.Proofs.Text.Lines
import Mathlib.Data.List.Forall2

/-!
# Texts made of lines

Lines that are written with a break behind each of them are found again.  A text can be
cut in two wherever its lines can.
-/

namespace Gherkin.Text

/-- A text made of lines, each with a break behind it. -/
inductive Lined : List (List Char) → List Char → Prop
  | nil : Lined [] []
  | cons {line ending text : List Char} {rest : List (List Char)} (isBreak : IsBreak ending)
      (later : Lined rest text) : Lined (line :: rest) (line ++ (ending ++ text))

/-- A line that a break behind it does not change. -/
structure IsPlainLine (line : List Char) : Prop where
  noFeed : '\n' ∉ line
  noReturn : line.getLast? ≠ some '\r'

theorem ended_append_break {ending : List Char} (isBreak : IsBreak ending) (line : List Char) :
    Ended (line ++ ending) := by
  intro c last
  rcases isBreak with rfl | rfl
  · simpa [eq_comm] using last
  · simpa [eq_comm] using last

/-- A line with its break is found as one line. -/
theorem lines_append_break {line ending : List Char} (noFeed : '\n' ∉ line)
    (isBreak : IsBreak ending) : ∃ kept, FoundAs line kept ∧ lines (line ++ ending) = [kept] := by
  rcases splitLines_append_break noFeed isBreak [] with ⟨kept, found, split⟩
  refine ⟨kept, found, ?_⟩
  rw [List.append_nil, splitLines] at split
  rw [lines, split]
  rfl

/-- The lines of a text are found again, but for carriage returns at their ends. -/
theorem Lined.found {written : List (List Char)} {text : List Char} (lined : Lined written text)
    (noFeed : ∀ line ∈ written, '\n' ∉ line) :
    Ended text ∧ List.Forall₂ FoundAs written (lines text) := by
  induction lined with
  | nil =>
      constructor
      · intro c last
        contradiction
      · exact List.Forall₂.nil
  | @cons line ending text rest isBreak later ih =>
      rw [List.forall_mem_cons] at noFeed
      rcases ih noFeed.2 with ⟨ended, found⟩
      rcases lines_append_break noFeed.1 isBreak with ⟨kept, keptFound, first⟩
      have firstEnded : Ended (line ++ ending) := ended_append_break isBreak line
      rw [← List.append_assoc]
      refine ⟨firstEnded.append ended, ?_⟩
      rw [lines_append firstEnded, first]
      exact List.Forall₂.cons keptFound found

theorem eq_of_foundAs {line kept : List Char} (plain : IsPlainLine line)
    (found : FoundAs line kept) : kept = line := by
  rwa [FoundAs, dropReturn_eq_self plain.noReturn, or_self] at found

/-- Plain lines are found as they are. -/
theorem Lined.lines_eq {written : List (List Char)} {text : List Char}
    (lined : Lined written text) (plain : ∀ line ∈ written, IsPlainLine line) :
    Ended text ∧ lines text = written := by
  rcases lined.found fun line member => (plain line member).noFeed with ⟨ended, found⟩
  refine ⟨ended, ?_⟩
  clear lined ended
  generalize lines text = kept at found ⊢
  induction found with
  | nil => rfl
  | cons first _ ih =>
      rw [List.forall_mem_cons] at plain
      rw [eq_of_foundAs plain.1 first, ih plain.2]

/-- A text can be cut between two of its lines. -/
theorem exists_cut_of_lines {cs : List Char} {first second : List (List Char)}
    (whole : lines cs = first ++ second) (more : second ≠ []) :
    ∃ front back, cs = front ++ back ∧ Ended front ∧ lines front = first ∧ lines back = second := by
  rcases exists_eq_flatMap_append cs with ⟨written, last, noFeed, lastNoFeed, rfl⟩
  have endedOf {list : List (List Char)} (noFeed : ∀ line ∈ list, '\n' ∉ line) :
      Ended (list.flatMap (· ++ ['\n'])) := ended_iff_exists.mpr ⟨list, noFeed, rfl⟩
  have frontNoFeed : ∀ line ∈ written.take first.length, '\n' ∉ line :=
    fun line member => noFeed line (List.mem_of_mem_take member)
  have backNoFeed : ∀ line ∈ written.drop first.length, '\n' ∉ line :=
    fun line member => noFeed line (List.mem_of_mem_drop member)
  have lastShort : (lines last).length ≤ 1 := by
    rw [lines, splitLines_of_not_mem lastNoFeed]
    split <;> simp
  rw [lines_append (endedOf noFeed), lines_flatMap noFeed] at whole
  have enough : first.length ≤ written.length := by
    have lengths := congrArg List.length whole
    have secondLong := List.length_pos_of_ne_nil more
    simp only [List.length_append, List.length_map] at lengths
    omega
  rw [← List.take_append_drop first.length written, List.map_append, List.append_assoc] at whole
  have sameLength : ((written.take first.length).map dropReturn).length = first.length := by
    rw [List.length_map, List.length_take, Nat.min_eq_left enough]
  rcases List.append_inj whole sameLength with ⟨frontLines, backLines⟩
  refine ⟨(written.take first.length).flatMap (· ++ ['\n']),
    (written.drop first.length).flatMap (· ++ ['\n']) ++ last, ?_, endedOf frontNoFeed, ?_, ?_⟩
  · rw [← List.append_assoc, ← List.flatMap_append, List.take_append_drop]
  · rw [lines_flatMap frontNoFeed, frontLines]
  · rw [lines_append (endedOf backNoFeed), lines_flatMap backNoFeed, backLines]

end Gherkin.Text
