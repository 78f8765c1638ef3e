import Gherkin.Proofs.Document.Taken

/-!
# Line numbers are only carried along

A reader keeps the numbers of the lines it reads, and never looks at them.  When the
lines of a document are given other numbers, the same is read with these numbers.
-/

namespace Gherkin

/-! ## Features with other line numbers -/

variable (number : Int → Int)

/-- A step whose line has another number. -/
def Step.renumber (step : Step) : Step :=
  { step with line := number step.line }

/-- Examples whose line has another number. -/
def Examples.renumber (examples : Examples) : Examples :=
  { examples with line := number examples.line }

/-- A background with other line numbers. -/
def Background.renumber (background : Background) : Background :=
  { steps := background.steps.map (Step.renumber number), line := number background.line }

/-- A definition with other line numbers. -/
def Definition.renumber : Definition → Definition
  | .scenario s =>
      .scenario { s with steps := s.steps.map (Step.renumber number), line := number s.line }
  | .outline o =>
      .outline
        { o with
          steps := o.steps.map (Step.renumber number)
          examples := o.examples.map (Examples.renumber number)
          line := number o.line }

/-- A feature with other line numbers. -/
def Feature.renumber (feature : Feature) : Feature :=
  { feature with
    background := feature.background.map (Background.renumber number)
    definitions := feature.definitions.map (Definition.renumber number) }

/-! ### Numbers that are kept, and numbers given twice -/

theorem Step.renumber_id : Step.renumber id = id :=
  rfl

theorem Examples.renumber_id : Examples.renumber id = id :=
  rfl

theorem Background.renumber_id : Background.renumber id = id := by
  funext background
  simp [renumber, Step.renumber_id]

theorem Definition.renumber_id : Definition.renumber id = id := by
  funext definition
  cases definition <;> simp [renumber, Step.renumber_id, Examples.renumber_id]

variable (other : Int → Int)

theorem Step.renumber_comp :
    Step.renumber (other ∘ number) = Step.renumber other ∘ Step.renumber number :=
  rfl

theorem Examples.renumber_comp :
    Examples.renumber (other ∘ number) = Examples.renumber other ∘ Examples.renumber number :=
  rfl

theorem Background.renumber_comp :
    Background.renumber (other ∘ number) =
      Background.renumber other ∘ Background.renumber number := by
  funext background
  simp [renumber, Step.renumber_comp]

theorem Definition.renumber_comp :
    Definition.renumber (other ∘ number) =
      Definition.renumber other ∘ Definition.renumber number := by
  funext definition
  cases definition <;> simp [renumber, Step.renumber_comp, Examples.renumber_comp]

namespace Document

/-! ## Readers with other line numbers -/

/-- An open step whose line has another number. -/
def OpenStep.renumber (openStep : OpenStep) : OpenStep :=
  { openStep with step := openStep.step.renumber number }

/-- Open examples whose line has another number. -/
def OpenExamples.renumber (table : OpenExamples) : OpenExamples :=
  { table with line := number table.line }

/-- An open doc string whose line has another number. -/
def OpenDocString.renumber (doc : OpenDocString) : OpenDocString :=
  { doc with line := number doc.line }

/-- An open block with other line numbers. -/
def Block.renumber (block : Block) : Block :=
  { block with
    line := number block.line
    settled := block.settled.map (Step.renumber number)
    last := block.last.map (OpenStep.renumber number)
    examples := block.examples.map (Examples.renumber number) }

/-- An open feature with other line numbers. -/
def OpenFeature.renumber (feature : OpenFeature) : OpenFeature :=
  { feature with
    line := number feature.line
    background := feature.background.map (Background.renumber number)
    definitions := feature.definitions.map (Definition.renumber number) }

theorem OpenFeature.renumber_id (feature : OpenFeature) : feature.renumber id = feature := by
  simp [renumber, Background.renumber_id, Definition.renumber_id]

theorem OpenFeature.renumber_renumber (feature : OpenFeature) :
    (feature.renumber number).renumber other = feature.renumber (other ∘ number) := by
  simp [renumber, Background.renumber_comp, Definition.renumber_comp]

/-- A place with other line numbers. -/
def Place.renumber : Place → Place
  | .outside => .outside
  | .intro feature => .intro (feature.renumber number)
  | .steps feature block => .steps (feature.renumber number) (block.renumber number)
  | .examples feature block table =>
      .examples (feature.renumber number) (block.renumber number) (table.renumber number)
  | .docString feature block step doc =>
      .docString (feature.renumber number) (block.renumber number) (step.renumber number)
        (doc.renumber number)

/-- Waiting tags whose line has another number. -/
def PendingTags.renumber (pending : PendingTags) : PendingTags :=
  { pending with line := number pending.line }

/-- A reader with other line numbers. -/
def Reader.renumber (reader : Reader) : Reader :=
  { place := reader.place.renumber number
    pending := reader.pending.map (PendingTags.renumber number) }

/-! ## What renumbering commutes with -/

variable {number}

@[simp]
theorem close_renumber_step (openStep : OpenStep) :
    (openStep.renumber number).close = openStep.close.renumber number := by
  by_cases empty : openStep.rows = []
  · simp [OpenStep.close, OpenStep.renumber, empty]
  · simp [OpenStep.close, OpenStep.renumber, Step.renumber, empty]

namespace Block

@[simp]
theorem steps_renumber (block : Block) :
    (block.renumber number).steps = block.steps.map (Step.renumber number) := by
  cases last : block.last <;> simp [steps, renumber, last]

@[simp]
theorem endTable_renumber (block : Block) :
    (block.renumber number).endTable = block.endTable.renumber number := by
  cases last : block.last with
  | none => simp [endTable, renumber, last]
  | some openStep =>
      by_cases empty : openStep.rows = []
      · simp [endTable, renumber, last, OpenStep.renumber, empty]
      · have rows : (openStep.renumber number).rows = openStep.rows := rfl
        simp [endTable, renumber, last, rows, empty]

@[simp]
theorem previous_renumber (block : Block) :
    (block.renumber number).previous = block.previous := by
  rw [previous, steps_renumber, List.getLast?_map, Option.map_map]
  rfl

@[simp]
theorem settle_renumber (block : Block) :
    (block.renumber number).settle = block.settle.renumber number := by
  rw [settle, steps_renumber]
  rfl

@[simp]
theorem addStep_renumber (block : Block) (step : Step) :
    (block.renumber number).addStep (step.renumber number) =
      (block.addStep step).renumber number := by
  rw [addStep, steps_renumber]
  rfl

/-- The examples of a block with those that were open. -/
theorem addExamples_renumber (block : Block) (table : OpenExamples) :
    ({ block.renumber number with
        examples := (block.renumber number).examples ++ [(table.renumber number).close] } : Block) =
      ({ block with examples := block.examples ++ [table.close] } : Block).renumber number := by
  simp [renumber, OpenExamples.close, OpenExamples.renumber, Examples.renumber]

end Block

@[simp]
theorem close_renumber_doc (doc : OpenDocString) : (doc.renumber number).close = doc.close :=
  rfl

theorem addBlock_renumber {feature after : OpenFeature} {block : Block}
    (closes : feature.addBlock block = .ok after) :
    (feature.renumber number).addBlock (block.renumber number) = .ok (after.renumber number) := by
  have kind : (block.renumber number).kind = block.kind := rfl
  rw [OpenFeature.addBlock] at closes ⊢
  rw [kind, Block.steps_renumber]
  split at closes
  · obtain rfl := Except.ok.inj closes
    rfl
  · obtain rfl := Except.ok.inj closes
    simp [OpenFeature.renumber, Definition.renumber, Block.renumber]
  · have examples : (block.renumber number).examples.isEmpty = block.examples.isEmpty :=
      List.isEmpty_map
    split at closes
    · simp at closes
    · rename_i filled
      obtain rfl := Except.ok.inj closes
      rw [if_neg (examples ▸ filled)]
      simp [OpenFeature.renumber, Definition.renumber, Block.renumber]

namespace Place

@[simp]
theorem endTable_renumber (place : Place) :
    (place.renumber number).endTable = place.endTable.renumber number := by
  cases place <;> simp [endTable, renumber]

/-- What can be closed can be closed with other line numbers. -/
theorem close_renumber {place : Place} {result : Option OpenFeature}
    (closes : place.close = .ok result) :
    (place.renumber number).close = .ok (result.map (OpenFeature.renumber number)) := by
  cases place with
  | outside | intro =>
      obtain rfl := Except.ok.inj closes
      rfl
  | steps feature block =>
      obtain ⟨after, added, rfl⟩ := map_eq_ok_iff.mp closes
      rw [renumber, close, addBlock_renumber added]
      rfl
  | examples feature block table =>
      obtain ⟨after, added, rfl⟩ := map_eq_ok_iff.mp closes
      rw [renumber, close, Block.addExamples_renumber, addBlock_renumber added]
      rfl
  | docString => simp [close] at closes

end Place

/-! ## Reading with other line numbers -/

/-- Whether a row fits under others does not depend on where it stands. -/
theorem checkRow_of_checkRow {line other : Int} {cells : List String} {rows : List (List String)}
    (even : Reader.checkRow line cells rows = .ok ()) :
    Reader.checkRow other cells rows = .ok () := by
  cases rows with
  | nil => rfl
  | cons first rows =>
      rw [Reader.checkRow] at even ⊢
      split at even
      · rename_i fits
        exact if_pos fits
      · simp at even

/-- A line that is taken is taken with another number. -/
theorem Taken.renumber {reader after : Reader} {line : Int} {kind : Line}
    (taken : Taken line reader kind after) :
    Taken (number line) (reader.renumber number) kind (after.renumber number) := by
  cases taken with
  | blank => exact .blank _
  | @tags place pending words tags read =>
      change Taken _ _ _ ⟨place.endTable.renumber number, _⟩
      rw [← Place.endTable_renumber]
      cases pending <;> exact .tags read
  | @stepRow feature block openStep pending rest cells last read even =>
      have lastEq : (block.renumber number).last = some (openStep.renumber number) := by
        simp [Block.renumber, last]
      exact .stepRow lastEq read (checkRow_of_checkRow even)
  | examplesRow read even => exact .examplesRow read (checkRow_of_checkRow even)
  | @fence feature block step pending fence indent contentType last =>
      have lastEq : (block.renumber number).last = some { step := step.renumber number } := by
        simp [Block.renumber, last, OpenStep.renumber]
      exact .fence lastEq
  | @feature pending word name named => cases pending <;> exact .feature named
  | background => exact .background
  | @definition place pending feature header kind word name opens closes =>
      cases pending <;> exact .definition opens (Place.close_renumber closes)
  | @firstExamples feature block pending word title outline =>
      change Taken _ _ _ (.start (.examples _ (block.settle.renumber number) _))
      rw [← Block.settle_renumber]
      cases pending <;> exact .firstExamples outline
  | @nextExamples feature block table pending word title =>
      change Taken _ _ _ (.start (.examples _
        (Block.renumber number { block with examples := block.examples ++ [table.close] }) _))
      rw [← Block.addExamples_renumber]
      cases pending <;> exact .nextExamples
  | @step feature block keyword text whole =>
      change Taken _ _ _ (.start (.steps _ ((block.addStep _).renumber number)))
      rw [← Block.addStep_renumber, ← block.previous_renumber]
      exact .step
  | description => exact .description
  | @blockText feature block pending whole fresh =>
      have stillFresh : (block.renumber number).steps = [] := by simp [fresh]
      exact .blockText stillFresh
  | examplesText fresh => exact .examplesText fresh

/-- The numbers from one line on are given to the lines from another on. -/
def Moves (number : Int → Int) (line other : Int) (count : Nat) : Prop :=
  ∀ offset : Nat, offset < count → number (line + offset) = other + offset

theorem Moves.first {line other : Int} {count : Nat} (moves : Moves number line other (count + 1)) :
    number line = other := by
  simpa using moves 0 (Nat.succ_pos count)

theorem Moves.rest {line other : Int} {count : Nat} (moves : Moves number line other (count + 1)) :
    Moves number (line + 1) (other + 1) count := by
  intro offset bound
  have next := moves (offset + 1) (Nat.succ_lt_succ bound)
  rw [Int.natCast_add, Int.natCast_one, Int.add_comm (offset : Int) 1] at next
  rw [Int.add_assoc, next, Int.add_assoc]

namespace Reader

variable {reader after : Reader}

/-- A line that is read is read with another number. -/
theorem next_renumber {line : Int} {raw : List Char} (read : reader.next line raw = .ok after) :
    (reader.renumber number).next (number line) raw = .ok (after.renumber number) := by
  obtain ⟨place, pending⟩ := reader
  cases place with
  | docString feature block step doc =>
      obtain rfl := Except.ok.inj read
      have contentLine : (doc.renumber number).contentLine raw = doc.contentLine raw := rfl
      change Except.ok (Reader.readDocLine _ _ _ _ (doc.renumber number) raw) = _
      rw [readDocLine, readDocLine, contentLine]
      by_cases closes : Text.trim raw = doc.fence.text
      · have stillCloses : Text.trim raw = (doc.renumber number).fence.text := closes
        rw [if_pos closes, if_pos stillCloses]
        simp [Reader.renumber, Place.renumber, Block.renumber, Step.renumber]
      · have stillOpen : Text.trim raw ≠ (doc.renumber number).fence.text := closes
        rw [if_neg closes, if_neg stillOpen]
        rfl
  | _ => exact readLine_of_taken (taken_of_readLine read).renumber

/-- Lines that are read are read in the same way when they stand elsewhere. -/
theorem readLines_renumber {line other : Int} {lines : List (List Char)}
    (moves : Moves number line other lines.length)
    (read : reader.readLines line lines = .ok after) :
    (reader.renumber number).readLines other lines = .ok (after.renumber number) := by
  induction lines generalizing reader line other with
  | nil =>
      obtain rfl := Except.ok.inj read
      rfl
  | cons raw rest ih =>
      rw [readLines] at read
      split at read
      · simp at read
      · rename_i middle first
        have firstMoved : (reader.renumber number).next other raw = .ok (middle.renumber number) :=
          moves.first ▸ next_renumber first
        rw [readLines_cons_of_next firstMoved]
        exact ih moves.rest read

end Reader

end Document

end Gherkin
