import Gherkin.Proofs.Document.Line
import Gherkin.Proofs.Document.Reader
import Gherkin.Proofs.Document.Row

/-!
# Where a row ends

Read from left to right, a backslash escapes the character behind it.  A row is cut at the bars
that are not escaped, and nothing that can be seen may stand behind the last of them.  Escapes are
resolved before white space is trimmed away, so an escaped line feed is not seen there, and a row
may end with one.
-/

namespace Gherkin.Document.Row

open Gherkin.Text

/-! ## Glyphs -/

/-- A character of a row, with or without a backslash that escapes it. -/
inductive Glyph where
  | plain (c : Char)
  | escaped (c : Char)
  deriving Repr, DecidableEq

/-- The glyphs of a row from left to right.  A backslash at its end escapes nothing. -/
def glyphs : List Char → List Glyph
  | [] => []
  | '\\' :: c :: cs => .escaped c :: glyphs cs
  | c :: cs => .plain c :: glyphs cs

namespace Glyph

/-- A bar that is not escaped. -/
def bar : Glyph :=
  plain '|'

/-- The character itself. -/
def char : Glyph → Char
  | plain c | escaped c => c

/-- What a glyph stands for in a cell. -/
def chars : Glyph → List Char
  | plain c => [c]
  | escaped '|' => ['|']
  | escaped 'n' => ['\n']
  | escaped '\\' => ['\\']
  | escaped c => ['\\', c]

/-- What is made of a glyph when escapes are resolved. -/
def marks (glyph : Glyph) : List Mark :=
  if glyph = bar then [.border] else glyph.chars.map .content

/-- Nothing is seen of the glyph at the end of a row. -/
def Blank : Glyph → Prop
  | plain c => isBlank c
  | escaped c => c = 'n'

theorem blank_iff (glyph : Glyph) : glyph.Blank ↔ ∀ c ∈ glyph.chars, isBlank c := by
  cases glyph with
  | plain c => simp [Blank, chars]
  | escaped c =>
      have backslash : ¬isBlank '\\' := by decide
      have feed : isBlank '\n' := by decide
      have vertical : ¬isBlank '|' := by decide
      rw [Blank, chars.eq_def]
      split <;> simp_all

theorem not_blank_bar : ¬bar.Blank :=
  show ¬isBlank '|' by decide

end Glyph

/-! ## Resolving escapes -/

theorem marks_cons_of_plain {c : Char} (noBackslash : c ≠ '\\') (noBar : c ≠ '|')
    (cs : List Char) : marks (c :: cs) = .content c :: marks cs := by
  rw [marks]
  all_goals simp_all

theorem marks_escaped (c : Char) (cs : List Char) :
    marks ('\\' :: c :: cs) = (Glyph.escaped c).chars.map .content ++ marks cs := by
  by_cases vertical : c = '|'
  · subst c
    rfl
  by_cases feed : c = 'n'
  · subst c
    rfl
  by_cases backslash : c = '\\'
  · subst c
    rfl
  · -- Before any other character the backslash stands for itself.
    have kept : (Glyph.escaped c).chars = ['\\', c] := by
      rw [Glyph.chars] <;> simp_all
    have first : marks ('\\' :: c :: cs) = .content '\\' :: marks (c :: cs) := by
      rw [marks] <;> simp_all
    rw [kept, first, marks_cons_of_plain backslash vertical]
    rfl

/-- Escapes are resolved glyph by glyph. -/
theorem marks_eq_flatMap_glyphs (cs : List Char) : marks cs = (glyphs cs).flatMap Glyph.marks := by
  induction cs using glyphs.induct with
  | case1 => rfl
  | case2 c cs ih => rw [glyphs, List.flatMap_cons, marks_escaped, ih, Glyph.marks, if_neg nofun]
  | case3 c cs noEscape ih =>
      rw [glyphs.eq_3 c cs noEscape, List.flatMap_cons, ← ih]
      by_cases backslash : c = '\\'
      · have last : cs = [] := by
          cases cs with
          | nil => rfl
          | cons d ds => exact absurd rfl (noEscape d ds backslash)
        subst c last
        rfl
      by_cases vertical : c = '|'
      · subst c
        rfl
      · have inCell : Glyph.plain c ≠ Glyph.bar := fun same => vertical (Glyph.plain.inj same)
        rw [marks_cons_of_plain backslash vertical, Glyph.marks, if_neg inCell]
        rfl

/-! ## Cutting -/

/-- How the bars cut a row: the texts that are closed by a bar, and what stands behind the last
bar. -/
structure CutAtBars (row : List Glyph) (texts : List (List Glyph)) (rest : List Glyph) :
    Prop where
  whole : row = texts.flatMap (· ++ [.bar]) ++ rest
  inTexts : ∀ text ∈ texts, .bar ∉ text
  inRest : .bar ∉ rest

/-- Every row is cut at its bars. -/
theorem exists_cutAtBars (row : List Glyph) : ∃ texts rest, CutAtBars row texts rest := by
  induction row with
  | nil => exact ⟨[], [], rfl, nofun, nofun⟩
  | cons glyph row ih =>
      rcases ih with ⟨texts, rest, cutting⟩
      -- A bar closes a text of its own; any other glyph joins the text behind it.
      by_cases border : glyph = .bar
      · refine ⟨[] :: texts, rest, ?_, ?_, cutting.inRest⟩
        · simp [cutting.whole, border]
        · simpa using cutting.inTexts
      cases texts with
      | nil =>
          refine ⟨[], glyph :: rest, ?_, nofun, ?_⟩
          · simp [cutting.whole]
          · simpa [Ne.symm border] using cutting.inRest
      | cons text texts =>
          refine ⟨(glyph :: text) :: texts, rest, ?_, ?_, cutting.inRest⟩
          · simp [cutting.whole]
          · simpa [Ne.symm border] using cutting.inTexts

/-- Texts that are closed have one bar each. -/
theorem count_bar_closed {texts : List (List Glyph)} (noBar : ∀ text ∈ texts, .bar ∉ text) :
    (texts.flatMap (· ++ [.bar])).count .bar = texts.length := by
  induction texts with
  | nil => rfl
  | cons text texts ih =>
      obtain ⟨first, later⟩ := List.forall_mem_cons.mp noBar
      rw [List.flatMap_cons, List.count_append, List.count_append, List.count_singleton_self,
        List.count_eq_zero_of_not_mem first, ih later, List.length_cons]
      omega

/-- There are as many texts as bars. -/
theorem CutAtBars.count_bar {row rest : List Glyph} {texts : List (List Glyph)}
    (cutting : CutAtBars row texts rest) : row.count .bar = texts.length := by
  rw [cutting.whole, List.count_append, List.count_eq_zero_of_not_mem cutting.inRest,
    count_bar_closed cutting.inTexts, Nat.add_zero]

/-- Without a bar, all of a text is content. -/
theorem flatMap_marks_of_no_bar {text : List Glyph} (noBar : .bar ∉ text) :
    text.flatMap Glyph.marks = (text.flatMap Glyph.chars).map .content := by
  rw [List.map_flatMap]
  apply List.flatMap_congr
  intro glyph member
  rw [Glyph.marks, if_neg (ne_of_mem_of_not_mem member noBar)]

theorem cut_content (rest : List Char) : cut (rest.map .content) = ([], rest) := by
  induction rest with
  | nil => rfl
  | cons c rest ih => rw [List.map_cons, cut, ih]

theorem cut_closed {texts : List (List Glyph)} (noBar : ∀ text ∈ texts, .bar ∉ text)
    (rest : List Char) :
    cut ((texts.flatMap (· ++ [.bar])).flatMap Glyph.marks ++ rest.map .content) =
      (texts.map (·.flatMap Glyph.chars), rest) := by
  induction texts with
  | nil => exact cut_content rest
  | cons text texts ih =>
      obtain ⟨first, later⟩ := List.forall_mem_cons.mp noBar
      have marked : Glyph.bar.marks = [.border] := rfl
      rw [List.flatMap_cons, List.flatMap_append, List.flatMap_append, List.flatMap_singleton,
        flatMap_marks_of_no_bar first, marked, List.append_assoc, List.append_assoc,
        List.singleton_append, cut_content_append, ih later]
      rfl

/-- The cells of a row are the texts that a bar closes. -/
theorem CutAtBars.cut_marks {cs : List Char} {texts : List (List Glyph)} {rest : List Glyph}
    (cutting : CutAtBars (glyphs cs) texts rest) :
    cut (marks cs) = (texts.map (·.flatMap Glyph.chars), rest.flatMap Glyph.chars) := by
  rw [marks_eq_flatMap_glyphs, cutting.whole, List.flatMap_append,
    flatMap_marks_of_no_bar cutting.inRest, cut_closed cutting.inTexts]

/-! ## Rows that are accepted -/

/-- A row is read when a bar closes some text and nothing is seen behind the last bar; its cells
are then the texts that are closed. -/
theorem CutAtBars.read?_eq_some_iff {cs : List Char} {texts : List (List Glyph)}
    {rest : List Glyph} {cells : List String} (cutting : CutAtBars (glyphs cs) texts rest) :
    read? cs = some cells ↔
      texts ≠ [] ∧ (∀ glyph ∈ rest, glyph.Blank) ∧
        texts.map (fun text => String.ofList (trim (text.flatMap Glyph.chars))) = cells := by
  have unseen : trim (rest.flatMap Glyph.chars) = [] ↔ ∀ glyph ∈ rest, glyph.Blank := by
    simp only [trim_eq_nil_iff, List.forall_mem_flatMap, Glyph.blank_iff]
  rw [read?, cutting.cut_marks, ← unseen]
  cases texts with
  | nil => simp
  | cons text texts =>
      by_cases empty : trim (rest.flatMap Glyph.chars) = [] <;>
        simp [empty, Function.comp_def]

/-- A row is accepted exactly when nothing is seen behind one of its bars. -/
theorem isSome_read?_iff {cs : List Char} :
    (read? cs).isSome ↔
      ∃ front back, glyphs cs = front ++ .bar :: back ∧ ∀ glyph ∈ back, glyph.Blank := by
  constructor
  · intro accepted
    obtain ⟨cells, read⟩ := Option.isSome_iff_exists.mp accepted
    rcases exists_cutAtBars (glyphs cs) with ⟨texts, rest, cutting⟩
    obtain ⟨nonempty, blank, -⟩ := cutting.read?_eq_some_iff.mp read
    refine ⟨texts.dropLast.flatMap (· ++ [.bar]) ++ texts.getLast nonempty, rest, ?_, blank⟩
    rw [cutting.whole]
    conv_lhs => rw [← List.dropLast_append_getLast nonempty]
    simp
  · rintro ⟨front, back, whole, blank⟩
    -- A blank glyph is no bar, so the bar in the middle is the last one.
    rcases exists_cutAtBars front with ⟨texts, text, cutting⟩
    have cuttingAll : CutAtBars (glyphs cs) (texts ++ [text]) back := by
      refine ⟨?_, ?_, fun member => Glyph.not_blank_bar (blank .bar member)⟩
      · simp [whole, cutting.whole]
      · rw [List.forall_mem_append, List.forall_mem_singleton]
        exact ⟨cutting.inTexts, cutting.inRest⟩
    rw [Option.isSome_iff_exists]
    exact ⟨_, cuttingAll.read?_eq_some_iff.mpr ⟨by simp, blank, rfl⟩⟩

/-- The last character of a row is a bar that is not escaped, and not the bar at its front. -/
def EndsAtBar (row : List Char) : Prop :=
  ∃ front, front ≠ [] ∧ glyphs row = front ++ [.bar]

/-- The last characters of a row are an escaped line feed, and there is only white space and
further escaped line feeds between it and a bar that is not the bar at the front. -/
def EndsInFeed (row : List Char) : Prop :=
  ∃ front back, front ≠ [] ∧ glyphs row = front ++ .bar :: (back ++ [.escaped 'n']) ∧
    ∀ glyph ∈ back, glyph.Blank

theorem glyphs_bar_cons (cs : List Char) : glyphs ('|' :: cs) = .bar :: glyphs cs :=
  rfl

/-- The last glyph of a row is its last character, with or without a backslash. -/
theorem getLast?_eq_map_char (cs : List Char) :
    cs.getLast? = (glyphs cs).getLast?.map Glyph.char := by
  induction cs using glyphs.induct with
  | case1 => rfl
  | case2 c cs ih =>
      rw [glyphs, List.getLast?_cons, List.getLast?_cons, List.getLast?_cons, ih]
      cases (glyphs cs).getLast? <;> rfl
  | case3 c cs noEscape ih =>
      rw [glyphs.eq_3 c cs noEscape, List.getLast?_cons, List.getLast?_cons, ih]
      cases (glyphs cs).getLast? <;> rfl

/-- What ends a trimmed row can be seen, unless it is an escaped line feed. -/
theorem getLast?_of_blank {row : List Char} (trimmed : Trimmed row) {glyph : Glyph}
    (last : (glyphs row).getLast? = some glyph) (blank : glyph.Blank) : glyph = .escaped 'n' := by
  cases glyph with
  | plain c =>
      have lastChar : row.getLast? = some c := by rw [getLast?_eq_map_char, last]; rfl
      exact absurd blank (((trimmed_iff row).mp trimmed).2 c lastChar)
  | escaped c => exact congrArg Glyph.escaped blank

/-- A trimmed row is accepted when it ends at a bar or with an escaped line feed behind one. -/
theorem isSome_read?_iff_ends {cs : List Char} (trimmed : Trimmed ('|' :: cs)) :
    (read? cs).isSome ↔ EndsAtBar ('|' :: cs) ∨ EndsInFeed ('|' :: cs) := by
  rw [isSome_read?_iff]
  constructor
  · rintro ⟨front, back, whole, blank⟩
    have row : glyphs ('|' :: cs) = .bar :: front ++ .bar :: back := by
      rw [glyphs_bar_cons, whole, List.cons_append]
    cases back using List.reverseRecOn with
    | nil => exact Or.inl ⟨.bar :: front, List.cons_ne_nil _ _, row⟩
    | append_singleton back last =>
        obtain ⟨backBlank, lastBlank⟩ := List.forall_mem_append.mp blank
        have isLast : (glyphs ('|' :: cs)).getLast? = some last := by
          rw [row, ← List.cons_append, ← List.append_assoc, List.getLast?_concat]
        obtain rfl := getLast?_of_blank trimmed isLast (lastBlank last List.mem_cons_self)
        exact Or.inr ⟨.bar :: front, back, List.cons_ne_nil _ _, row, backBlank⟩
  · rintro (⟨front, nonempty, row⟩ | ⟨front, back, nonempty, row, blank⟩)
    · obtain ⟨first, front, rfl⟩ := List.exists_cons_of_ne_nil nonempty
      exact ⟨front, [], (List.cons.inj row).2, nofun⟩
    · obtain ⟨first, front, rfl⟩ := List.exists_cons_of_ne_nil nonempty
      refine ⟨front, back ++ [.escaped 'n'], (List.cons.inj row).2, ?_⟩
      rw [List.forall_mem_append, List.forall_mem_singleton]
      exact ⟨blank, rfl⟩

theorem EndsInFeed.not_endsAtBar {row : List Char} (feed : EndsInFeed row) : ¬EndsAtBar row := by
  rintro ⟨front, -, atBar⟩
  rcases feed with ⟨before, back, -, inFeed, -⟩
  have last := congrArg List.getLast? (inFeed.symm.trans atBar)
  rw [List.getLast?_concat, ← List.cons_append, ← List.append_assoc,
    List.getLast?_concat] at last
  contradiction

/-- A row that is read has one cell less than bars. -/
theorem length_of_read? {cs : List Char} {cells : List String} (read : read? cs = some cells) :
    cells.length + 1 = (glyphs ('|' :: cs)).count .bar := by
  rcases exists_cutAtBars (glyphs cs) with ⟨texts, rest, cutting⟩
  obtain ⟨-, -, rfl⟩ := cutting.read?_eq_some_iff.mp read
  rw [glyphs_bar_cons, List.count_cons_self, cutting.count_bar, List.length_map]

theorem checkRow_ne_openRow (line : Int) (cells : List String) (rows : List (List String)) :
    Reader.checkRow line cells rows ≠ .error { cause := .openRow, line } := by
  cases rows with
  | nil => exact nofun
  | cons first rows =>
      rw [Reader.checkRow]
      split
      · exact nofun
      · simp

/-- A row that is not accepted is refused where it stands, and no other row is refused as one
that does not end at a bar. -/
theorem next_eq_openRow_iff {reader : Reader} (outside : reader.place.inDocString = false)
    {raw cs : List Char} (trimmed : trim raw = '|' :: cs) (line : Int) :
    reader.next line raw = .error { cause := .openRow, line } ↔ read? cs = none := by
  have row : reader.next line raw = reader.readRow line cs := by
    rw [Reader.next_eq_readLine outside, Line.classify_of_trim_eq_bar trimmed]
    rfl
  rw [row, Reader.readRow]
  cases read : read? cs with
  | none => simp
  | some cells =>
      simp only [reduceCtorEq, iff_false]
      -- A row that is read can be refused only for its place or for its width.
      split
      · rw [map_eq_error_iff]
        exact checkRow_ne_openRow line cells _
      · split
        · simp
        · rw [map_eq_error_iff]
          exact checkRow_ne_openRow line cells _
      · simp

/-- A trimmed row is accepted exactly when its last character is a bar that is not escaped and not
the bar at its front, or an escaped line feed stands at its end with nothing to be seen between it
and such a bar; any other row is refused where it stands.  A row that is accepted has one cell less
than bars that are not escaped, and its cells are trimmed. -/
theorem accepted_iff_ends {cs : List Char} (trimmed : Trimmed ('|' :: cs)) :
    ((read? cs).isSome ↔ EndsAtBar ('|' :: cs) ∨ EndsInFeed ('|' :: cs)) ∧
      (EndsInFeed ('|' :: cs) → ¬EndsAtBar ('|' :: cs)) ∧
      (∀ cells, read? cs = some cells →
        cells.length + 1 = (glyphs ('|' :: cs)).count .bar ∧
          ∀ cell ∈ cells, Trimmed cell.toList) ∧
      ∀ (reader : Reader) (line : Int) (raw : List Char),
        reader.place.inDocString = false → trim raw = '|' :: cs →
          (reader.next line raw = .error { cause := .openRow, line } ↔
            ¬(EndsAtBar ('|' :: cs) ∨ EndsInFeed ('|' :: cs))) := by
  have accepted := isSome_read?_iff_ends trimmed
  refine ⟨accepted, EndsInFeed.not_endsAtBar, ?_, ?_⟩
  · intro cells read
    exact ⟨length_of_read? read, (of_read?_eq_some read).2⟩
  · intro reader line raw outside row
    rw [next_eq_openRow_iff outside row, ← accepted, Option.not_isSome_iff_eq_none]

/-- A row with an escaped bar inside a cell, and with a cell that is an escaped backslash. -/
theorem accepted_iff_ends_escaped :
    Trimmed "| a \\| b |\\\\|".toList ∧ EndsAtBar "| a \\| b |\\\\|".toList ∧
      read? " a \\| b |\\\\|".toList = some ["a | b", "\\"] ∧
      2 + 1 = (glyphs "| a \\| b |\\\\|".toList).count .bar ∧
      ({} : Reader).next 4 "  | a \\| b |\\\\|".toList ≠
        .error { cause := .openRow, line := 4 } := by
  have trimmed : Trimmed "| a \\| b |\\\\|".toList := by decide
  have read : read? " a \\| b |\\\\|".toList = some ["a | b", "\\"] := by decide
  have atBar : EndsAtBar "| a \\| b |\\\\|".toList :=
    ⟨(glyphs "| a \\| b |\\\\|".toList).dropLast, by decide, by decide⟩
  obtain ⟨-, -, cells, refused⟩ := accepted_iff_ends trimmed
  refine ⟨trimmed, atBar, read, (cells _ read).1, fun failed => ?_⟩
  exact (refused {} 4 "  | a \\| b |\\\\|".toList rfl (by decide)).mp failed (Or.inl atBar)

/-- A row that ends with an escaped line feed instead of a bar. -/
theorem accepts_feed_behind_bar :
    Trimmed "|a|\\n".toList ∧ ¬EndsAtBar "|a|\\n".toList ∧
      read? "a|\\n".toList = some ["a"] := by
  have feed : EndsInFeed "|a|\\n".toList :=
    ⟨[.bar, .plain 'a'], [], by decide, by decide, nofun⟩
  exact ⟨by decide, feed.not_endsAtBar, by decide⟩

end Gherkin.Document.Row
