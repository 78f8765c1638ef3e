import Gherkin.Proofs.Document.Line
import Gherkin.Proofs.Document.Renumbered
import Gherkin.Proofs.Text.Lines

/-!
# Layout outside doc strings

Outside doc strings a document can be laid out freely.  Blank lines and comments can be
put in anywhere, lines can be indented in another way, and breaks can be written in
another way: the same is read, with the numbers that the lines have then.
-/

namespace Gherkin.Document

open Gherkin.Text

/-! ## Where doc strings are open -/

/-- The fence that has to be closed after a line, given the one that had to be closed
before it. -/
def fenceAfter : Option Fence → List Char → Option Fence
  | none, raw =>
      match Line.classify raw with
      | .fence mark _ _ => some mark
      | _ => none
  | some mark, raw => if trim raw = mark.text then none else some mark

/-- The fence that has to be closed after lines. -/
def openFence (lines : List (List Char)) : Option Fence :=
  lines.foldl fenceAfter none

/-- The fence of the doc string that is being read. -/
def Place.openFence : Place → Option Fence
  | .docString _ _ _ doc => some doc.fence
  | _ => none

@[simp]
theorem Place.openFence_endTable (place : Place) : place.endTable.openFence = place.openFence := by
  cases place <;> rfl

theorem Place.openFence_eq_none_iff {place : Place} :
    place.openFence = none ↔ place.inDocString = false := by
  cases place <;> simp [Place.openFence, Place.inDocString]

/-- An empty line neither opens nor closes a doc string. -/
theorem fenceAfter_nil (fence : Option Fence) : fenceAfter fence [] = fence := by
  rcases fence with - | - | - <;> rfl

/-- Outside doc strings only an opening fence opens one. -/
theorem Taken.openFence {reader after : Reader} {line : Int} {raw : List Char}
    (outside : reader.place.openFence = none)
    (taken : Taken line reader (Line.classify raw) after) :
    after.place.openFence = fenceAfter none raw := by
  rw [fenceAfter]
  generalize Line.classify raw = kind at taken
  cases taken with
  | blank => exact outside
  | tags => exact (Place.openFence_endTable _).trans outside
  | definition => rfl
  | _ => rfl

namespace Reader

variable {reader after : Reader} {line : Int}

/-- The reader is in the doc string whose fence has to be closed. -/
theorem openFence_next {raw : List Char} (read : reader.next line raw = .ok after) :
    after.place.openFence = fenceAfter reader.place.openFence raw := by
  obtain ⟨place, pending⟩ := reader
  cases place with
  | docString feature block step doc =>
      obtain rfl := Except.ok.inj read
      change _ = fenceAfter (some doc.fence) raw
      rw [readDocLine, fenceAfter]
      split <;> rfl
  | _ => exact (taken_of_readLine read).openFence rfl

theorem openFence_readLines {lines : List (List Char)}
    (read : reader.readLines line lines = .ok after) :
    after.place.openFence = lines.foldl fenceAfter reader.place.openFence := by
  induction lines generalizing reader line with
  | nil =>
      obtain rfl := Except.ok.inj read
      rfl
  | cons raw rest ih =>
      rw [readLines] at read
      split at read
      · simp at read
      · rename_i next first
        rw [ih read, openFence_next first]
        rfl

end Reader

/-! ## Lines that can be laid out in another way

A line is an opening fence, or stands in a doc string, exactly when a fence has to be
closed after it. -/

/-- Only the indentation of an opening fence matters. -/
theorem classify_congr {line other : List Char} (trimmed : trim other = trim line)
    (noFence : fenceAfter none line = none) : Line.classify other = Line.classify line := by
  simp only [Line.classify, trimmed]
  split
  · rfl
  · rfl
  · rfl
  · rfl
  · rename_i comment row tags
    have plain : Line.fence? (trim line) = none := by
      by_contra found
      obtain ⟨⟨mark, contentType⟩, found⟩ := Option.ne_none_iff_exists'.mp found
      simp [fenceAfter, Line.classify, Line.classifyWords, *] at noFence
    simp only [Line.classifyWords, plain]

/-- Space around a line does not change how it is read, unless it is an opening fence or
stands in a doc string. -/
theorem Reader.next_congr {reader : Reader} {number : Int} {line other : List Char}
    (trimmed : trim other = trim line)
    (outside : fenceAfter reader.place.openFence line = none) :
    reader.next number other = reader.next number line := by
  obtain ⟨place, pending⟩ := reader
  cases place with
  | docString feature block step doc =>
      have closes : trim line = doc.fence.text := by
        by_contra stays
        exact Option.some_ne_none _ ((if_neg stays).symm.trans outside)
      change Except.ok (Reader.readDocLine _ _ _ _ doc other) =
        .ok (Reader.readDocLine _ _ _ _ doc line)
      rw [Reader.readDocLine, Reader.readDocLine, trimmed, if_pos closes, if_pos closes]
  | _ => exact congrArg (Reader.readLine _ number) (classify_congr trimmed outside)

/-! ## Changing the lines of a document -/

/-- Lines that lead to a place at which the given feature is complete. -/
def ReadAs (lines : List (List Char)) (feature : OpenFeature) : Prop :=
  ∃ place, ({} : Reader).readLines 1 lines = .ok (.start place) ∧
    place.close = .ok (some feature)

/-- A line that is put in below the given number of lines moves those below it. -/
def makeRoom (count : Nat) (number : Int) : Int :=
  if number ≤ count then number else number + 1

theorem makeRoom_above (count : Nat) : Moves (makeRoom count) 1 1 count := by
  intro offset bound
  exact if_pos (by omega)

theorem makeRoom_below (count rest : Nat) :
    Moves (makeRoom count) (1 + count) (1 + count + 1) rest := by
  intro offset _
  rw [makeRoom, if_neg (by omega)]
  omega

variable {feature : OpenFeature} {above below : List (List Char)}

/-- A blank line or a comment can be put in outside doc strings. -/
theorem ReadAs.insert {blank : List Char} (outside : openFence above = none)
    (isBlank : Line.classify blank = .blank) (read : ReadAs (above ++ below) feature) :
    ReadAs (above ++ blank :: below) (feature.renumber (makeRoom above.length)) := by
  obtain ⟨place, lines, closes⟩ := read
  obtain ⟨middle, aboveRead, belowRead⟩ := Reader.readLines_append_eq_ok_iff.mp lines
  -- The lines above keep their numbers, and so does all that is held below them.
  have middleKept : middle.renumber (makeRoom above.length) = middle := by
    have moved := Reader.readLines_renumber (makeRoom_above above.length) aboveRead
    exact Except.ok.inj (moved.symm.trans aboveRead)
  have belowMoved := Reader.readLines_renumber
    (makeRoom_below above.length below.length) belowRead
  have skipped : middle.next (1 + above.length) blank = .ok middle := by
    have noDocString : middle.place.openFence = none :=
      (Reader.openFence_readLines aboveRead).trans outside
    rw [Reader.next_eq_readLine (Place.openFence_eq_none_iff.mp noDocString), isBlank]
    rfl
  refine ⟨place.renumber (makeRoom above.length), ?_, Place.close_renumber closes⟩
  rw [Reader.readLines_append_of_ok aboveRead, Reader.readLines_cons_of_next skipped]
  rw [middleKept] at belowMoved
  exact belowMoved

/-- Space around a line can be changed, unless it is an opening fence or stands in a doc
string. -/
theorem ReadAs.respace {line other : List Char} (trimmed : trim other = trim line)
    (outside : fenceAfter (openFence above) line = none)
    (read : ReadAs (above ++ line :: below) feature) :
    ReadAs (above ++ other :: below) feature := by
  obtain ⟨place, lines, closes⟩ := read
  obtain ⟨middle, aboveRead, belowRead⟩ := Reader.readLines_append_eq_ok_iff.mp lines
  refine ⟨place, ?_, closes⟩
  have middleOutside : fenceAfter middle.place.openFence line = none :=
    (congrArg (fenceAfter · line) (Reader.openFence_readLines aboveRead)).trans outside
  rw [Reader.readLines_append_of_ok aboveRead, Reader.readLines,
    Reader.next_congr trimmed middleOutside]
  exact belowRead

/-- Nothing is read from an empty last line. -/
theorem readAs_concat_nil : ReadAs (above ++ [[]]) feature ↔ ReadAs above feature := by
  constructor
  · rintro ⟨place, lines, closes⟩
    obtain ⟨middle, aboveRead, lastRead⟩ := Reader.readLines_append_eq_ok_iff.mp lines
    rw [Reader.readLines] at lastRead
    split at lastRead
    · simp at lastRead
    · rename_i after step
      obtain rfl := Except.ok.inj lastRead
      have noDocString : middle.place.openFence = none := by
        rw [← fenceAfter_nil middle.place.openFence, ← Reader.openFence_next step]
        exact Place.openFence_eq_none_iff.mpr (Place.not_inDocString_of_close closes)
      rw [Reader.next_eq_readLine (Place.openFence_eq_none_iff.mp noDocString)] at step
      obtain rfl := Except.ok.inj step
      exact ⟨place, aboveRead, closes⟩
  · rintro ⟨place, lines, closes⟩
    have skipped : (Reader.start place).next (1 + above.length) [] = .ok (.start place) :=
      Reader.next_eq_readLine (Place.not_inDocString_of_close closes) _ _
    refine ⟨place, ?_, closes⟩
    rw [Reader.readLines_append_of_ok lines, Reader.readLines_cons_of_next skipped]
    rfl

/-- No doc string is open at the end of a document. -/
theorem ReadAs.openFence {lines : List (List Char)} (read : ReadAs lines feature) :
    openFence lines = none := by
  obtain ⟨place, linesRead, closes⟩ := read
  rw [Document.openFence]
  apply (Reader.openFence_readLines linesRead).symm.trans
  exact Place.openFence_eq_none_iff.mpr (Place.not_inDocString_of_close closes)

/-! ## Editing a text -/

/-- Spaces and tabs. -/
def IsSpacing (cs : List Char) : Prop :=
  ∀ c ∈ cs, c = ' ' ∨ c = '\t'

/-- A change to the layout of a text outside doc strings, with the numbers that its
lines have afterwards. -/
inductive Edit : List Char → List Char → (Int → Int) → Prop
  /-- Put a blank line or a comment in above a line, or under the last break. -/
  | insert {before line ending after : List Char} (started : Ended before)
      (outside : openFence (lines before) = none) (isBlank : Line.classify line = .blank)
      (noFeed : '\n' ∉ line) (ends : IsBreak ending ∨ ending ++ after = []) :
      Edit (before ++ after) (before ++ (line ++ (ending ++ after)))
        (makeRoom (lines before).length)
  /-- Put a blank line or a comment under a last line that has no break. -/
  | append {text ending line : List Char} (unended : ¬Ended text) (isBreak : IsBreak ending)
      (isBlank : Line.classify line = .blank) (noFeed : '\n' ∉ line) :
      Edit text (text ++ (ending ++ line)) (makeRoom (lines text).length)
  /-- Change the spaces and tabs around a line that neither opens nor is in a doc string. -/
  | respace {before front core back otherFront otherBack after : List Char}
      (started : Ended before) (noFeed : '\n' ∉ core) (endsLine : EndsLine after)
      (outside : fenceAfter (openFence (lines before)) (front ++ core ++ back) = none)
      (spacing : IsSpacing (front ++ back)) (otherSpacing : IsSpacing (otherFront ++ otherBack)) :
      Edit (before ++ (front ++ core ++ back ++ after))
        (before ++ (otherFront ++ core ++ otherBack ++ after)) id
  /-- Put a carriage return in front of a line feed that has none. -/
  | widen {before after : List Char} (single : before.getLast? ≠ some '\r') :
      Edit (before ++ '\n' :: after) (before ++ '\r' :: '\n' :: after) id

/-- Changes one after the other. -/
inductive Edits : List Char → List Char → (Int → Int) → Prop
  | none (text : List Char) : Edits text text id
  | cons {text middle edited : List Char} {first rest : Int → Int}
      (edit : Edit text middle first) (edits : Edits middle edited rest) :
      Edits text edited (rest ∘ first)

namespace IsSpacing

variable {front back : List Char}

theorem trim_append (spacing : IsSpacing (front ++ back)) (core : List Char) :
    trim (front ++ core ++ back) = trim core := by
  have blank : ∀ c ∈ front ++ back, isBlank c := by
    intro c member
    rcases spacing c member with rfl | rfl <;> rfl
  rw [List.forall_mem_append] at blank
  rw [trim_append_back_of_blank blank.2, trim_append_of_blank blank.1]

theorem not_mem (spacing : IsSpacing (front ++ back)) {core : List Char} (noFeed : '\n' ∉ core) :
    '\n' ∉ front ++ core ++ back := by
  have spacingNoFeed : '\n' ∉ front ++ back := by
    intro member
    rcases spacing _ member with equal | equal <;> simp at equal
  simp only [List.mem_append, not_or] at spacingNoFeed ⊢
  exact ⟨⟨spacingNoFeed.1, noFeed⟩, spacingNoFeed.2⟩

end IsSpacing

/-! ### Lines as they are found -/

section Found

variable {line kept : List Char}

theorem trim_of_foundAs (found : FoundAs line kept) : trim kept = trim line := by
  rcases found with rfl | rfl
  · rfl
  · exact trim_dropReturn line

theorem classify_of_foundAs (found : FoundAs line kept) :
    Line.classify kept = Line.classify line := by
  rcases found with rfl | rfl
  · rfl
  · exact Line.classify_dropReturn line

theorem fenceAfter_of_foundAs (found : FoundAs line kept) (fence : Option Fence) :
    fenceAfter fence kept = fenceAfter fence line := by
  cases fence with
  | none => rw [fenceAfter, fenceAfter, classify_of_foundAs found]
  | some mark => rw [fenceAfter, fenceAfter, trim_of_foundAs found]

end Found

/-! ### What is read after an edit -/

/-- A blank line or a comment can be put under a last line that has no break. -/
theorem readAs_append {text ending line : List Char} {feature : OpenFeature}
    (unended : ¬Ended text) (isBreak : IsBreak ending) (isBlank : Line.classify line = .blank)
    (noFeed : '\n' ∉ line) (read : ReadAs (splitLines text) feature) :
    ReadAs (splitLines (text ++ (ending ++ line)))
      (feature.renumber (makeRoom (lines text).length)) := by
  obtain ⟨written, last, writtenNoFeed, lastNoFeed, rfl⟩ := exists_eq_flatMap_append text
  have started : Ended (written.flatMap (· ++ ['\n'])) :=
    ended_iff_exists.mpr ⟨written, writtenNoFeed, rfl⟩
  generalize written.flatMap (· ++ ['\n']) = head at *
  have nonempty : last ≠ [] := by
    rintro rfl
    exact unended (by rwa [List.append_nil])
  have lastLines : lines last = [last] := by
    rw [lines, splitLines_of_not_mem lastNoFeed]
    simp [nonempty]
  rw [splitLines_append started, splitLines_of_not_mem lastNoFeed] at read
  have outside : fenceAfter (openFence (lines head)) last = none := by
    have whole := read.openFence
    rwa [openFence, List.foldl_append] at whole
  obtain ⟨kept, found, split⟩ := splitLines_append_break lastNoFeed isBreak line
  -- The last line may lose a carriage return to the break that is put behind it.
  have keptRead := read.respace (trim_of_foundAs found) outside
  have keptOutside := keptRead.openFence
  rw [← List.append_nil (lines head ++ [kept])] at keptRead
  have inserted := keptRead.insert keptOutside isBlank
  rw [List.append_assoc, splitLines_append started, split, splitLines_of_not_mem noFeed,
    lines_append started, lastLines]
  simpa using inserted

/-- What was read from a text is read from it after a change to its layout. -/
theorem Edit.readAs {text edited : List Char} {number : Int → Int} {feature : OpenFeature}
    (edit : Edit text edited number) (read : ReadAs (splitLines text) feature) :
    ReadAs (splitLines edited) (feature.renumber number) := by
  cases edit with
  | @insert before line ending after started outside isBlank noFeed ends =>
      rw [splitLines_append started] at read ⊢
      rcases ends with isBreak | empty
      · obtain ⟨kept, found, split⟩ := splitLines_append_break noFeed isBreak after
        rw [split]
        exact read.insert outside ((classify_of_foundAs found).trans isBlank)
      · -- Under the last break the new line takes the place of an empty one.
        obtain ⟨rfl, rfl⟩ := List.append_eq_nil_iff.mp empty
        rw [List.append_nil, List.append_nil, splitLines_of_not_mem noFeed]
        apply readAs_concat_nil.mp
        rw [List.append_assoc]
        exact read.insert outside isBlank
  | append unended isBreak isBlank noFeed =>
      exact readAs_append unended isBreak isBlank noFeed read
  | @respace before front core back otherFront otherBack after started noFeed endsLine outside
      spacing otherSpacing =>
      rw [splitLines_append started] at read ⊢
      obtain ⟨later, search⟩ := exists_splitLines_append endsLine
      obtain ⟨kept, found, split⟩ := search _ (spacing.not_mem noFeed)
      obtain ⟨other, otherFound, otherSplit⟩ := search _ (otherSpacing.not_mem noFeed)
      rw [split] at read
      rw [OpenFeature.renumber_id, otherSplit]
      apply read.respace
      · calc
          trim other = trim (otherFront ++ core ++ otherBack) := trim_of_foundAs otherFound
          _ = trim core := otherSpacing.trim_append core
          _ = trim (front ++ core ++ back) := (spacing.trim_append core).symm
          _ = trim kept := (trim_of_foundAs found).symm
      · exact (fenceAfter_of_foundAs found _).trans outside
  | widen single =>
      rw [OpenFeature.renumber_id, splitLines_widen single]
      exact read

/-! ## Byte-order marks

A mark is read over at the front of a text only, and no edit moves one there. -/

/-- A text that does not begin with a byte-order mark. -/
def Unmarked (cs : List Char) : Prop :=
  cs.head? ≠ some '\uFEFF'

theorem dropMark_of_unmarked {cs : List Char} (unmarked : Unmarked cs) : dropMark cs = cs := by
  cases cs with
  | nil => rfl
  | cons c cs =>
      rw [dropMark, if_neg]
      intro mark
      apply unmarked
      have same : c = '\uFEFF' := Char.toNat_inj.mp mark
      rw [same]
      rfl

/-- What stands in front of a text decides whether it begins with a mark. -/
theorem Unmarked.replace {before after other : List Char} (unmarked : Unmarked (before ++ after))
    (starts : before = [] → Unmarked other) : Unmarked (before ++ other) := by
  cases before with
  | nil => exact starts rfl
  | cons c cs => exact unmarked

/-- A line begins with a mark only when the trimmed line does. -/
theorem unmarked_line {line after : List Char} (noMark : Unmarked (trim line))
    (endsLine : EndsLine after) : Unmarked (line ++ after) := by
  cases line with
  | nil =>
      rcases endsLine with rfl | ⟨ending, rest, rfl | rfl, rfl⟩ <;> simp [Unmarked]
  | cons c cs =>
      intro first
      obtain rfl : c = '\uFEFF' := Option.some.inj first
      obtain ⟨rest, trimmed⟩ := trim_cons_of_solid (by decide : ¬isBlank '\uFEFF') cs
      rw [Unmarked, trimmed] at noMark
      exact noMark rfl

/-- No line that can be read before the feature begins with a mark. -/
theorem unmarked_of_taken {line : Int} {raw : List Char} {pending : Option PendingTags}
    {after : Reader} (taken : Taken line ⟨.outside, pending⟩ (Line.classify raw) after) :
    Unmarked (trim raw) := by
  have described := Line.describes_classify raw
  generalize Line.classify raw = kind at taken described
  cases taken with
  | blank =>
      rcases described with empty | ⟨rest, comment⟩
      · simp [Unmarked, empty]
      · simp [Unmarked, comment]
  | tags =>
      obtain ⟨rest, trimmed, -⟩ := described
      simp [Unmarked, trimmed]
  | feature =>
      obtain ⟨known, rest, trimmed, -⟩ := described
      obtain rfl : _ = "Feature:" := by simpa [Header.keywords] using known
      rw [trimmed]
      simp [Unmarked]
  | definition opens closes => simp [Place.close] at closes

/-- The first line of a document does not begin with a mark. -/
theorem ReadAs.unmarked {line : List Char} {feature : OpenFeature}
    {below : List (List Char)} (read : ReadAs (line :: below) feature) : Unmarked (trim line) := by
  obtain ⟨place, lines, -⟩ := read
  rw [Reader.readLines] at lines
  split at lines
  · simp at lines
  · rename_i after first
    exact unmarked_of_taken (Reader.taken_of_readLine first)

/-- No edit of a document puts a mark at its front. -/
theorem Edit.unmarked {text edited : List Char} {number : Int → Int} {feature : OpenFeature}
    (edit : Edit text edited number) (read : ReadAs (splitLines text) feature)
    (unmarked : Unmarked text) : Unmarked edited := by
  cases edit with
  | @insert before line ending after started outside isBlank noFeed ends =>
      apply unmarked.replace
      rintro rfl
      have described := Line.describes_classify line
      rw [isBlank] at described
      apply unmarked_line
      · rcases described with empty | ⟨rest, comment⟩
        · simp [Unmarked, empty]
        · simp [Unmarked, comment]
      · rcases ends with isBreak | empty
        · exact Or.inr ⟨ending, after, isBreak, rfl⟩
        · exact Or.inl empty
  | @append text ending line unended isBreak isBlank noFeed =>
      cases text with
      | nil => exact absurd (by simp [Ended]) unended
      | cons c cs => exact unmarked
  | @respace before front core back otherFront otherBack after started noFeed endsLine outside
      spacing otherSpacing =>
      apply unmarked.replace
      rintro rfl
      apply unmarked_line _ endsLine
      obtain ⟨later, search⟩ := exists_splitLines_append endsLine
      obtain ⟨kept, found, split⟩ := search _ (spacing.not_mem noFeed)
      rw [List.nil_append, split] at read
      have noMark := read.unmarked
      rw [trim_of_foundAs found, spacing.trim_append] at noMark
      rw [otherSpacing.trim_append]
      exact noMark
  | widen single =>
      apply unmarked.replace
      intro _
      simp [Unmarked]

/-- What was read from a text is read from it after changes to its layout. -/
theorem Edits.readAs {text edited : List Char} {number : Int → Int}
    (edits : Edits text edited number) {feature : OpenFeature} (unmarked : Unmarked text)
    (read : ReadAs (splitLines text) feature) :
    Unmarked edited ∧ ReadAs (splitLines edited) (feature.renumber number) := by
  induction edits generalizing feature with
  | none text =>
      rw [OpenFeature.renumber_id]
      exact ⟨unmarked, read⟩
  | cons edit _ ih =>
      rw [← OpenFeature.renumber_renumber]
      exact ih (edit.unmarked read unmarked) (edit.readAs read)

theorem readAs_splitLines {cs : List Char} {feature : OpenFeature} :
    ReadAs (splitLines cs) feature ↔ ReadAs (lines cs) feature := by
  rcases splitLines_eq_lines_or cs with same | more
  · rw [same]
  · rw [more, readAs_concat_nil]

theorem read_eq_ok_iff_readAs {text : String} {source : Option String} {feature : Feature}
    (unmarked : Unmarked text.toList) :
    read text source = .ok feature ↔
      ∃ openFeature, ReadAs (splitLines text.toList) openFeature ∧
        openFeature.complete source = feature := by
  rw [read_eq_ok_iff, dropMark_of_unmarked unmarked]
  constructor
  · rintro ⟨place, openFeature, lines, closes, complete⟩
    exact ⟨openFeature, readAs_splitLines.mpr ⟨place, lines, closes⟩, complete⟩
  · rintro ⟨openFeature, readAs, complete⟩
    obtain ⟨place, lines, closes⟩ := readAs_splitLines.mp readAs
    exact ⟨place, openFeature, lines, closes, complete⟩

/-- The layout of a document outside doc strings does not matter.  After any number of
edits the same is read as before, with the numbers that its lines have then. -/
theorem read_edits {text edited : String} {source : Option String} {feature : Feature}
    {number : Int → Int} (unmarked : text.toList.head? ≠ some '\uFEFF')
    (edits : Edits text.toList edited.toList number) (readText : read text source = .ok feature) :
    read edited source = .ok (feature.renumber number) := by
  obtain ⟨openFeature, readAs, rfl⟩ := (read_eq_ok_iff_readAs unmarked).mp readText
  obtain ⟨editedUnmarked, editedReadAs⟩ := edits.readAs unmarked readAs
  exact (read_eq_ok_iff_readAs editedUnmarked).mpr ⟨_, editedReadAs, rfl⟩

/-- The header of a scenario. -/
def scenarioText : String :=
  "Feature: F\nScenario: S\n"

/-- What is read from a step with a doc string under it, when the step stands at a line. -/
def docStringFeature (line : Int) : Feature :=
  { name := "F"
    definitions :=
      [.scenario
        { name := "S", line := 2
          steps :=
            [{ keyword := .context, text := "a", resolved := .context, line
               doc := some { content := "x", contentType := none } }] }] }

theorem read_edits_docString :
    read (scenarioText ++ "Given a\n\"\"\"\nx\n\"\"\"") = .ok (docStringFeature 3) ∧
      read (scenarioText ++ "#\nGiven a\n\"\"\"\nx\r\n\t\"\"\" \n#") =
        .ok (docStringFeature 4) := by
  have insert : Edit (scenarioText ++ "Given a\n\"\"\"\nx\n\"\"\"").toList
      (scenarioText ++ "#\nGiven a\n\"\"\"\nx\n\"\"\"").toList (makeRoom 2) :=
    @Edit.insert scenarioText.toList "#".toList ['\n'] "Given a\n\"\"\"\nx\n\"\"\"".toList
      (by decide +kernel) (by decide +kernel) (by decide +kernel) (by decide) (Or.inl (Or.inl rfl))
  have widen : Edit (scenarioText ++ "#\nGiven a\n\"\"\"\nx\n\"\"\"").toList
      (scenarioText ++ "#\nGiven a\n\"\"\"\nx\r\n\"\"\"").toList id :=
    @Edit.widen (scenarioText ++ "#\nGiven a\n\"\"\"\nx").toList "\"\"\"".toList (by decide)
  have respace : Edit (scenarioText ++ "#\nGiven a\n\"\"\"\nx\r\n\"\"\"").toList
      (scenarioText ++ "#\nGiven a\n\"\"\"\nx\r\n\t\"\"\" ").toList id :=
    @Edit.respace (scenarioText ++ "#\nGiven a\n\"\"\"\nx\r\n").toList
      [] "\"\"\"".toList [] ['\t'] [' '] [] (by decide +kernel) (by decide) (Or.inl rfl)
      (by decide +kernel) (by simp [IsSpacing]) (by simp [IsSpacing])
  have append : Edit (scenarioText ++ "#\nGiven a\n\"\"\"\nx\r\n\t\"\"\" ").toList
      (scenarioText ++ "#\nGiven a\n\"\"\"\nx\r\n\t\"\"\" \n#").toList (makeRoom 7) :=
    @Edit.append _ ['\n'] "#".toList (by decide +kernel) (Or.inl rfl) (by decide +kernel)
      (by decide)
  have edits := Edits.cons insert (.cons widen (.cons respace (.cons append (.none _))))
  have before : read (scenarioText ++ "Given a\n\"\"\"\nx\n\"\"\"") = .ok (docStringFeature 3) := by
    decide +kernel
  have after := read_edits (by decide) edits before
  exact ⟨before, after.trans (by decide +kernel)⟩

end Gherkin.Document
