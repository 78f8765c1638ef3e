import Gherkin.Proofs.Document.Printable
import Gherkin.Proofs.Text.Lines

/-!
# The text of a written feature

No line that is written for a part of a feature holds a line feed: one in a cell is
escaped, and one in a doc string ends a line.  The lines of the text are thus the
lines that were written.
-/

namespace Gherkin.Document

open Gherkin.Text

/-- Lines that hold no break. -/
def Unbroken (lines : Lines) : Prop :=
  ∀ line ∈ lines, '\n' ∉ line

@[simp]
theorem unbroken_nil : Unbroken [] := by
  simp [Unbroken]

@[simp]
theorem unbroken_cons {line : List Char} {lines : Lines} :
    Unbroken (line :: lines) ↔ '\n' ∉ line ∧ Unbroken lines := by
  simp [Unbroken]

@[simp]
theorem unbroken_append {first second : Lines} :
    Unbroken (first ++ second) ↔ Unbroken first ∧ Unbroken second := by
  simp only [Unbroken, List.mem_append, or_imp, forall_and]

@[simp]
theorem feed_mem_indented {level : Nat} {text : List Char} :
    '\n' ∈ indented level text ↔ '\n' ∈ text := by
  simp [indented]

theorem unbroken_tagLines {tags : List String} (valid : ∀ tag ∈ tags, IsTag tag) (level : Nat) :
    Unbroken (tagLines level tags) := by
  rw [tagLines]
  split
  · exact unbroken_nil
  · simp only [unbroken_cons, feed_mem_indented, unbroken_nil, and_true]
    intro member
    rcases mem_of_mem_join member with space | ⟨word, found, inWord⟩
    · exact absurd space (by decide)
    · exact absurd (by decide) ((tagWordsOf_isWord valid word found).2 '\n' inWord)

theorem feed_not_mem_escapeChar (c : Char) : '\n' ∉ Row.escapeChar c := by
  rw [Row.escapeChar]
  split
  · decide
  · split
    · decide
    · split
      · decide
      · rename_i feed _
        simpa using Ne.symm feed

theorem unbroken_rowLines (level : Nat) (rows : List (List String)) :
    Unbroken (rowLines level rows) := by
  intro line member
  obtain ⟨row, -, rfl⟩ := List.mem_map.mp member
  simp [Row.write, feed_not_mem_escapeChar]

theorem unbroken_docLines {doc : DocString} (valid : IsContentType doc.contentType)
    (level : Nat) : Unbroken (docLines level doc) := by
  have opening : '\n' ∉ (doc.contentType.getD "").toList := by
    cases contentType : doc.contentType with
    | none => simp
    | some name =>
        rw [contentType] at valid
        exact valid.1.oneLine
  have content : Unbroken ((splitAt '\n' doc.content.toList).map (docLine level)) := by
    intro line member
    obtain ⟨piece, found, rfl⟩ := List.mem_map.mp member
    rw [docLine, feed_mem_indented]
    intro inEscaped
    rcases mem_of_mem_replace Fence.quotes.text_ne_nil inEscaped with inFence | inPiece
    · exact absurd inFence (by decide)
    · exact not_mem_of_mem_splitAt found inPiece
  have fence : '\n' ∉ Fence.quotes.text := by
    decide
  simp [docLines, opening, content, fence]

theorem unbroken_stepLines {step : Step} (valid : IsStep step) : Unbroken (stepLines step) := by
  have word : '\n' ∉ step.keyword.word.toList := by
    cases step.keyword <;> decide
  have text := valid.title.oneLine
  have doc : Unbroken ((step.doc.map (docLines 3)).getD []) := by
    cases docEq : step.doc with
    | none => simp
    | some doc => exact unbroken_docLines (valid.doc doc docEq) 3
  simp [stepLines, word, text, doc, unbroken_rowLines]

theorem unbroken_stepsLines {steps : List Step} (valid : ∀ step ∈ steps, IsStep step) :
    Unbroken (stepsLines steps) := by
  intro line member
  obtain ⟨step, found, inStep⟩ := List.mem_flatMap.mp member
  exact unbroken_stepLines (valid step found) line inStep

theorem unbroken_partsFrom {α : Type} {write : Int → α → Lines} {parts : List α}
    (each : ∀ part ∈ parts, ∀ line, Unbroken (write line part)) (line : Int) :
    Unbroken (partsFrom write line parts) := by
  induction parts generalizing line with
  | nil => exact unbroken_nil
  | cons part parts ih =>
      rw [partsFrom, unbroken_append]
      exact ⟨each part List.mem_cons_self line,
        ih (fun other member => each other (List.mem_cons_of_mem part member)) _⟩

theorem feed_not_mem_word (kind : Header) (second : Bool) : '\n' ∉ (kind.word second).toList := by
  obtain ⟨-, -, -, -, -, -, -, -, noFeed⟩ := header_word_facts (kind.word_mem_keywords second)
  exact noFeed

theorem unbroken_examplesLines {examples : Examples} (valid : IsExamples examples)
    (choice : WordChoice) (line : Int) : Unbroken (examplesLines choice line examples) := by
  simp [examplesLines, unbroken_tagLines valid.tags, unbroken_rowLines, feed_not_mem_word]

theorem feed_not_mem_headerLine {title : String} (valid : IsTitle title) (level : Nat)
    (kind : Header) (second : Bool) : '\n' ∉ headerLine level (kind.word second) title := by
  simp [headerLine, feed_not_mem_word, valid.oneLine]

theorem unbroken_definitionLines {definition : Definition} (valid : IsDefinition definition)
    (choice : WordChoice) (line : Int) : Unbroken (definitionLines choice line definition) := by
  have examples : ∀ line, Unbroken
      (partsFrom (examplesLines choice) line (examplesOf definition)) :=
    unbroken_partsFrom fun block member =>
      unbroken_examplesLines (valid.examples block member) choice
  simp [definitionLines, unbroken_tagLines valid.tags, feed_not_mem_headerLine valid.name,
    unbroken_stepsLines valid.steps.each, examples]

theorem unbroken_featureHead {feature : Feature} (valid : WellFormed feature) :
    Unbroken (featureHead feature) := by
  have description : Unbroken (feature.description.map fun line => indented 1 line.toList) := by
    intro line member
    obtain ⟨text, found, rfl⟩ := List.mem_map.mp member
    rw [feed_mem_indented]
    exact (valid.description text found).oneLine
  have background : Unbroken ((feature.background.map backgroundLines).getD []) := by
    cases backgroundEq : feature.background with
    | none => exact unbroken_nil
    | some background =>
        have steps := unbroken_stepsLines (valid.background background backgroundEq).each
        simp [backgroundLines, feed_not_mem_word, steps]
  simp only [featureHead, unbroken_append, unbroken_cons]
  exact ⟨unbroken_tagLines valid.tags 0, feed_not_mem_headerLine valid.name 0 _ _, description,
    background⟩

theorem unbroken_linesOf {feature : Feature} (valid : WellFormed feature) (choice : WordChoice) :
    Unbroken (linesOf choice feature) := by
  rw [linesOf, unbroken_append]
  constructor
  · exact unbroken_featureHead valid
  · apply unbroken_partsFrom
    intro definition member
    exact unbroken_definitionLines (valid.definitions definition member) choice

/-- A written feature begins with a tag or with its header, not with a mark. -/
theorem dropMark_write (feature : Feature) (choice : WordChoice) :
    dropMark (write feature choice).toList = (write feature choice).toList := by
  have begins : ∃ c rest, (write feature choice).toList = c :: rest ∧ c.toNat ≠ 0xFEFF := by
    rw [write, String.toList_ofList, linesOf, featureHead]
    cases tags : feature.tags with
    | nil => exact ⟨'F', _, rfl, by decide⟩
    | cons tag rest => cases rest <;> exact ⟨'@', _, rfl, by decide⟩
  obtain ⟨c, rest, text, noMark⟩ := begins
  rw [text, dropMark, if_neg noMark]

/-- The lines of a written feature, up to carriage returns at their ends. -/
theorem lines_write {feature : Feature} (valid : WellFormed feature) (choice : WordChoice) :
    lines (dropMark (write feature choice).toList) =
      (linesOf choice feature).map dropReturn := by
  rw [dropMark_write, write, String.toList_ofList, lines_flatMap (unbroken_linesOf valid choice)]

end Gherkin.Document
