import Gherkin.Document.Line
import Gherkin.Proofs.Text.Blank
import Gherkin.Proofs.Text.Search

/-!
# Fences inside doc strings

A fence in a line of content is written with a backslash before each of its
characters.  An escaped fence that stood in the line from the start is then read
as a fence too, unless its last character opened a fence itself.  So writing and
reading a line gives it back exactly when every escaped fence in it is of that
kind.
-/

namespace Gherkin.Document.Fence

open Gherkin.Text

variable (fence : Fence)

/-- A line of content as it is written: fences are escaped. -/
abbrev escape (line : List Char) : List Char :=
  replace fence.text fence.escaped line

/-- A line of content as it is read: escaped fences stand for fences. -/
abbrev unescape (line : List Char) : List Char :=
  replace fence.escaped fence.text line

/-- A line whose escaped fences all overlap a fence: each is followed by the
two characters that complete its last character to a fence. -/
def Escapable (line : List Char) : Prop :=
  ∀ front back, line = front ++ (fence.escaped ++ back) →
    [fence.char, fence.char] <+: back

theorem char_ne_backslash : fence.char ≠ '\\' := by
  cases fence <;> decide

theorem text_ne_nil : fence.text ≠ [] :=
  List.cons_ne_nil _ _

theorem escaped_ne_nil : fence.escaped ≠ [] :=
  List.cons_ne_nil _ _

theorem escape_text_append (rest : List Char) :
    fence.escape (fence.text ++ rest) = fence.escaped ++ fence.escape rest :=
  replace_append fence.text_ne_nil _ _

theorem unescape_escaped_append (rest : List Char) :
    fence.unescape (fence.escaped ++ rest) = fence.text ++ fence.unescape rest :=
  replace_append fence.escaped_ne_nil _ _

/-- Escaping keeps the last character, since fences end as they are escaped. -/
theorem getLast?_escape (line : List Char) : (fence.escape line).getLast? = line.getLast? := by
  have same : fence.escaped.getLast? = fence.text.getLast? := rfl
  exact getLast?_replace fence.text_ne_nil same line

variable {fence}

theorem escape_cons {c : Char} {cs : List Char} (differs : ¬fence.text <+: c :: cs) :
    fence.escape (c :: cs) = c :: fence.escape cs :=
  replace_cons_of_no_match differs _

theorem unescape_cons {c : Char} {cs : List Char} (differs : ¬fence.escaped <+: c :: cs) :
    fence.unescape (c :: cs) = c :: fence.unescape cs :=
  replace_cons_of_no_match differs _

/-- A fence character at the front of an escaped line stood there before. -/
theorem of_escape_eq_char_cons {cs rest : List Char}
    (written : fence.escape cs = fence.char :: rest) :
    ∃ cs', cs = fence.char :: cs' ∧ ¬fence.text <+: cs ∧ rest = fence.escape cs' := by
  cases cs with
  | nil => simp at written
  | cons c cs =>
      by_cases opens : fence.text <+: c :: cs
      · obtain ⟨tail, tailEq⟩ := opens
        rw [← tailEq, escape_text_append] at written
        exact absurd (List.cons.inj written).1.symm fence.char_ne_backslash
      · rw [escape_cons opens] at written
        obtain ⟨rfl, rfl⟩ := List.cons.inj written
        exact ⟨cs, rfl, opens, rfl⟩

/-- A fence character and a backslash at the front of an escaped line stood
there before, since a fence after the character would have begun with it. -/
theorem of_escape_eq_pair {cs rest : List Char}
    (written : fence.escape cs = fence.char :: '\\' :: rest) :
    ∃ cs', cs = fence.char :: '\\' :: cs' ∧ rest = fence.escape cs' := by
  obtain ⟨ds, rfl, opens, tail⟩ := of_escape_eq_char_cons written
  cases ds with
  | nil => simp at tail
  | cons d ds =>
      have later : ¬fence.text <+: d :: ds := by
        rintro ⟨more, moreEq⟩
        refine opens ⟨fence.char :: more, ?_⟩
        rw [← moreEq]
        rfl
      rw [escape_cons later] at tail
      obtain ⟨rfl, rfl⟩ := List.cons.inj tail
      exact ⟨ds, rfl, rfl⟩

/-- No fence stands at the front of an escaped line. -/
theorem not_text_prefix_escape (cs : List Char) : ¬fence.text <+: fence.escape cs := by
  rintro ⟨rest, restEq⟩
  obtain ⟨cs₁, rfl, opens, written₁⟩ := of_escape_eq_char_cons restEq.symm
  obtain ⟨cs₂, rfl, -, written₂⟩ := of_escape_eq_char_cons written₁.symm
  obtain ⟨cs₃, rfl, -, -⟩ := of_escape_eq_char_cons written₂.symm
  exact opens ⟨cs₃, rfl⟩

theorem not_isBlank_char : ¬isBlank fence.char := by
  cases fence <;> decide

/-- Escaping leaves the white space in front of a line alone. -/
theorem trimStart_escape (cs : List Char) :
    trimStart (fence.escape cs) = fence.escape (trimStart cs) := by
  induction cs with
  | nil => rfl
  | cons c cs ih =>
      by_cases blank : isBlank c
      · have differs : ¬fence.text <+: c :: cs := by
          rintro ⟨rest, restEq⟩
          exact not_isBlank_char ((List.cons.inj restEq).1 ▸ blank)
        have dropped : ∀ ds, trimStart (c :: ds) = trimStart ds :=
          fun ds => List.dropWhile_cons_of_pos blank
        rw [escape_cons differs, dropped, dropped, ih]
      · have kept : ∀ {d : Char} (ds), ¬isBlank d → trimStart (d :: ds) = d :: ds :=
          fun ds solid => List.dropWhile_cons_of_neg solid
        rw [kept cs blank]
        by_cases opens : fence.text <+: c :: cs
        · obtain ⟨rest, restEq⟩ := opens
          rw [← restEq, escape_text_append]
          exact kept _ (by decide)
        · rw [escape_cons opens, kept _ blank]

/-- An escaped line is never taken for a fence. -/
theorem trim_escape_ne_text (cs : List Char) : trim (fence.escape cs) ≠ fence.text := by
  intro closes
  rw [trim_eq_trimEnd_trimStart, trimStart_escape] at closes
  exact not_text_prefix_escape (trimStart cs) (closes ▸ trimEnd_isPrefixOf _)

theorem escape_char_backslash (cs : List Char) :
    fence.escape (fence.char :: '\\' :: cs) = fence.char :: '\\' :: fence.escape cs := by
  have first : ¬fence.text <+: fence.char :: '\\' :: cs := by
    simp [text, List.cons_prefix_cons, fence.char_ne_backslash]
  have second : ¬fence.text <+: '\\' :: cs := by
    simp [text, List.cons_prefix_cons, fence.char_ne_backslash]
  rw [escape_cons first, escape_cons second]

/-- After escaping, an escaped fence stands where a backslash was exactly when
one stood there before that overlaps no fence. -/
theorem escaped_prefix_backslash_escape_iff {cs : List Char} :
    fence.escaped <+: '\\' :: fence.escape cs ↔
      ∃ back, '\\' :: cs = fence.escaped ++ back ∧ ¬[fence.char, fence.char] <+: back := by
  constructor
  · rintro ⟨rest, restEq⟩
    obtain ⟨cs₁, rfl, written₁⟩ := of_escape_eq_pair (List.cons.inj restEq).2.symm
    obtain ⟨cs₂, rfl, written₂⟩ := of_escape_eq_pair written₁.symm
    obtain ⟨back, rfl, opens, -⟩ := of_escape_eq_char_cons written₂.symm
    refine ⟨back, rfl, fun overlaps => opens ?_⟩
    simpa [text, List.cons_prefix_cons] using overlaps
  · rintro ⟨back, whole, apart⟩
    obtain ⟨-, rfl⟩ := List.cons.inj whole
    have opens : ¬fence.text <+: fence.char :: back := by
      simpa [text, List.cons_prefix_cons] using apart
    have written : fence.escape
        (fence.char :: '\\' :: fence.char :: '\\' :: fence.char :: back) =
          fence.char :: '\\' :: fence.char :: '\\' :: fence.char :: fence.escape back := by
      rw [escape_char_backslash, escape_char_backslash, escape_cons opens]
    exact ⟨fence.escape back, congrArg ('\\' :: ·) written.symm⟩

theorem escapable_nil : fence.Escapable [] := by
  intro front back whole
  simp [escaped] at whole

/-- In front of a line only its first character decides anew. -/
theorem escapable_cons_iff {c : Char} {cs : List Char} :
    fence.Escapable (c :: cs) ↔
      (∀ back, c :: cs = fence.escaped ++ back → [fence.char, fence.char] <+: back) ∧
        fence.Escapable cs := by
  constructor
  · intro escapable
    exact ⟨fun back whole => escapable [] back whole, fun front back whole =>
      escapable (c :: front) back (by rw [whole, List.cons_append])⟩
  · rintro ⟨first, later⟩ front back whole
    cases front with
    | nil => exact first back whole
    | cons d ds =>
        obtain ⟨rfl, rfl⟩ := List.cons.inj whole
        exact later ds back rfl

theorem escapable_text_append_iff {rest : List Char} :
    fence.Escapable (fence.text ++ rest) ↔ fence.Escapable rest := by
  have skip : ∀ cs, fence.Escapable (fence.char :: cs) ↔ fence.Escapable cs := by
    intro cs
    rw [escapable_cons_iff, and_iff_right]
    intro back whole
    exact absurd (List.cons.inj whole).1 fence.char_ne_backslash
  simp only [text, List.cons_append, List.nil_append, skip]

/-- Writing a line and reading it gives it back exactly when its escaped fences
overlap fences. -/
theorem unescape_escape_eq_iff (line : List Char) :
    fence.unescape (fence.escape line) = line ↔ fence.Escapable line := by
  induction length : line.length using Nat.strongRecOn generalizing line with
  | ind n ih =>
    by_cases opens : fence.text <+: line
    · obtain ⟨rest, rfl⟩ := opens
      have shorter : rest.length < n := by
        simp only [← length, text, List.length_append, List.length_cons]
        omega
      rw [escape_text_append, unescape_escaped_append, List.append_right_inj,
        escapable_text_append_iff]
      exact ih rest.length shorter rest rfl
    · cases line with
      | nil => simp [escapable_nil]
      | cons c cs =>
          have shorter : cs.length < n := by
            simp [← length]
          rw [escape_cons opens]
          by_cases reads : fence.escaped <+: c :: fence.escape cs
          · -- A fence is read in place of the backslash that stood in the line.
            have first : c = '\\' := by
              obtain ⟨tail, tailEq⟩ := reads
              exact (List.cons.inj tailEq).1.symm
            subst c
            obtain ⟨back, whole, apart⟩ := escaped_prefix_backslash_escape_iff.mp reads
            obtain ⟨tail, tailEq⟩ := reads
            constructor
            · intro same
              rw [← tailEq, unescape_escaped_append] at same
              exact absurd (List.cons.inj same).1 fence.char_ne_backslash
            · intro escapable
              exact absurd (escapable [] back whole) apart
          · rw [unescape_cons reads, List.cons.injEq, ih cs.length shorter cs rfl,
              escapable_cons_iff]
            simp only [true_and]
            refine ⟨fun later => ⟨fun back whole => ?_, later⟩, And.right⟩
            by_contra apart
            obtain rfl : c = '\\' := (List.cons.inj whole).1
            exact reads (escaped_prefix_backslash_escape_iff.mpr ⟨back, whole, apart⟩)

instance (line : List Char) : Decidable (fence.Escapable line) :=
  decidable_of_iff _ (unescape_escape_eq_iff line)

end Gherkin.Document.Fence
