import Gherkin.Proofs.Text.Lines
import Gherkin.Proofs.Text.Search

/-!
# Laws of line breaks in files

When every kind of line break is read as a line feed, a carriage return that stands
alone ends a line, while it would otherwise be content.  Nothing else changes.
-/

namespace Gherkin.Text

/-- Every carriage return stands in front of a line feed. -/
def NoLoneReturn (cs : List Char) : Prop :=
  ∀ front back, cs = front ++ '\r' :: back → back.head? = some '\n'

theorem noLoneReturn_nil : NoLoneReturn [] := by
  simp [NoLoneReturn]

theorem noLoneReturn_cons_iff {c : Char} {cs : List Char} :
    NoLoneReturn (c :: cs) ↔ (c = '\r' → cs.head? = some '\n') ∧ NoLoneReturn cs := by
  constructor
  · intro none
    constructor
    · rintro rfl
      exact none [] cs rfl
    · rintro front back rfl
      exact none (c :: front) back rfl
  · rintro ⟨first, later⟩ front back split
    cases front with
    | nil =>
        obtain ⟨rfl, rfl⟩ := List.cons.inj split
        exact first rfl
    | cons d front =>
        obtain ⟨rfl, rfl⟩ := List.cons.inj split
        exact later front back rfl

/-- A text has no lone carriage return when none is left on its lines. -/
theorem noLoneReturn_iff_lines {cs : List Char} :
    NoLoneReturn cs ↔ ∀ line ∈ splitLines cs, '\r' ∉ line := by
  fun_induction splitLines cs with
  | case1 => simp [noLoneReturn_nil]
  | case2 cs ih => simp [noLoneReturn_cons_iff, ih]
  | case3 cs ih => simp [noLoneReturn_cons_iff, ih]
  | case4 c cs _ _ empty => exact absurd empty (splitLines_ne_nil cs)
  | case5 c cs feed alone line later lines ih =>
      rw [noLoneReturn_cons_iff, ih, lines]
      have never : (c = '\r' → cs.head? = some '\n') ↔ c ≠ '\r' := by
        constructor
        · rintro follows rfl
          obtain ⟨rest, rfl⟩ := List.head?_eq_some_iff.mp (follows rfl)
          exact alone rest rfl rfl
        · exact fun other same => absurd same other
      rw [never, List.forall_mem_cons, List.forall_mem_cons, List.mem_cons, not_or, and_assoc,
        ne_comm]

theorem normalizeBreaks_cons {c : Char} (other : c ≠ '\r') (cs : List Char) :
    normalizeBreaks (c :: cs) = c :: normalizeBreaks cs := by
  rw [normalizeBreaks]
  · exact fun _ same _ => other same
  · exact other

/-- A lone carriage return cuts a line where every break is a line feed. -/
theorem splitLines_normalizeBreaks (cs : List Char) :
    splitLines (normalizeBreaks cs) = (splitLines cs).flatMap (splitAt '\r') := by
  fun_induction normalizeBreaks cs with
  | case1 => rfl
  | case2 cs ih =>
      rw [splitLines, ih]
      rfl
  | case3 cs alone ih =>
      have noFeed : '\r' = '\r' → cs.head? ≠ some '\n' := by
        intro _ follows
        obtain ⟨rest, rfl⟩ := List.head?_eq_some_iff.mp follows
        exact alone rest rfl
      obtain ⟨line, later, lines, whole⟩ := splitLines_cons (by decide) noFeed
      rw [splitLines, ih, whole, lines, List.flatMap_cons, List.flatMap_cons, splitAt, if_pos rfl]
      rfl
  | case4 c cs _ other ih =>
      by_cases feed : c = '\n'
      · subst c
        rw [splitLines, splitLines, ih]
        rfl
      · obtain ⟨line, later, lines, whole⟩ :=
          splitLines_cons feed
            (show c = '\r' → cs.head? ≠ some '\n' from fun same => absurd same other)
        obtain ⟨first, rest, readLines, readWhole⟩ :=
          splitLines_cons feed
            (show c = '\r' → (normalizeBreaks cs).head? ≠ some '\n' from
              fun same => absurd same other)
        rw [lines, List.flatMap_cons, readLines] at ih
        rw [readWhole, whole, List.flatMap_cons, splitAt, if_neg other]
        cases pieces : splitAt '\r' line with
        | nil => exact absurd pieces (splitAt_ne_nil '\r' line)
        | cons piece pieces =>
            rw [pieces] at ih
            obtain ⟨rfl, rfl⟩ := List.cons.inj ih
            rfl

theorem mem_lines_of_ne_nil {cs line : List Char} (found : line ∈ splitLines cs)
    (nonempty : line ≠ []) : line ∈ lines cs := by
  rw [lines]
  split
  · rename_i last
    obtain ⟨front, whole⟩ := List.getLast?_eq_some_iff.mp last
    rw [whole, List.dropLast_concat]
    rw [whole] at found
    exact (List.mem_append.mp found).resolve_right fun empty =>
      nonempty (List.mem_singleton.mp empty)
  · exact found

/-- A text has the same lines whether or not other breaks are read as line feeds,
exactly when it has no lone carriage return. -/
theorem lines_normalizeBreaks_eq_iff {cs : List Char} :
    lines (normalizeBreaks cs) = lines cs ↔ NoLoneReturn cs := by
  rw [noLoneReturn_iff_lines]
  constructor
  · intro same line found inLine
    have kept : line ∈ lines (normalizeBreaks cs) :=
      same ▸ mem_lines_of_ne_nil found (List.ne_nil_of_mem inLine)
    have cut := mem_splitLines_of_mem_lines kept
    rw [splitLines_normalizeBreaks] at cut
    obtain ⟨other, -, piece⟩ := List.mem_flatMap.mp cut
    exact not_mem_of_mem_splitAt piece inLine
  · intro none
    have same : splitLines (normalizeBreaks cs) = splitLines cs := by
      rw [splitLines_normalizeBreaks]
      calc
        (splitLines cs).flatMap (splitAt '\r') = (splitLines cs).flatMap fun line => [line] :=
          List.flatMap_congr fun line found => splitAt_of_not_mem (none line found)
        _ = splitLines cs := by simp
    rw [lines, lines, same]

/-- A byte-order mark can be dropped before or after breaks are read. -/
theorem dropMark_normalizeBreaks (cs : List Char) :
    dropMark (normalizeBreaks cs) = normalizeBreaks (dropMark cs) := by
  fun_cases normalizeBreaks cs with
  | case1 => rfl
  | case2 cs => simp [dropMark, normalizeBreaks]
  | case3 cs alone => simp [dropMark, normalizeBreaks]
  | case4 c cs _ other =>
      rw [dropMark, dropMark]
      split
      · rfl
      · exact (normalizeBreaks_cons other cs).symm

theorem noLoneReturn_dropMark {cs : List Char} :
    NoLoneReturn (dropMark cs) ↔ NoLoneReturn cs := by
  cases cs with
  | nil => rfl
  | cons c cs =>
      rw [dropMark]
      split
      · rename_i mark
        have other : c ≠ '\r' := by
          rintro rfl
          exact absurd mark (by decide)
        simp [noLoneReturn_cons_iff, other]
      · rfl

end Gherkin.Text
