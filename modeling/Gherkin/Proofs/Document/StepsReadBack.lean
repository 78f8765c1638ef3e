import Gherkin.Proofs.Document.Printable
import Gherkin.Proofs.Document.Reader

/-!
# Written steps are read back

The lines of a step are read as the step at its first line.  Only the content of a
doc string may differ from what was written: each of its lines is what remains
after a carriage return at its end is lost and its escaped fences are read.
-/

namespace Gherkin

namespace Document

open Gherkin.Text

/-! ## What comes back -/

/-- A line of a doc string after it was written and read. -/
def rereadLine (line : List Char) : List Char :=
  Fence.quotes.unescape (dropReturn (Fence.quotes.escape line))

/-- The content of a doc string after it was written and read. -/
def rereadContent (content : String) : String :=
  String.ofList (join ['\n'] ((splitAt '\n' content.toList).map rereadLine))

end Document

open Document

/-- A doc string after it was written and read. -/
def DocString.reread (doc : DocString) : DocString :=
  { doc with content := rereadContent doc.content }

/-- A step after it was written and read. -/
def Step.reread (step : Step) : Step :=
  { step with doc := step.doc.map DocString.reread }

namespace Document

open Gherkin.Text

/-! ## Rows -/

theorem checkRow_eq_ok {row : List String} {before after : List (List String)}
    (grid : IsGrid (before ++ row :: after)) (line : Int) :
    Reader.checkRow line row before = .ok () := by
  cases before with
  | nil => rfl
  | cons first before =>
      have even : row.length = first.length := grid.even row (by simp)
      simp [Reader.checkRow, even]

/-- Rows are taken one after the other wherever each row can be taken. -/
theorem readLines_rowLines (place : List (List String) → Place)
    (outside : ∀ rows, (place rows).inDocString = false)
    (takes : ∀ before row line, Reader.checkRow line row before = .ok () →
      Row.read? (Row.body row) = some row →
      (Reader.start (place before)).readRow line (Row.body row) =
        .ok (Reader.start (place (before ++ [row]))))
    (level : Nat) (rows before : List (List String)) (grid : IsGrid (before ++ rows))
    (line : Int) :
    (Reader.start (place before)).readLines line ((rowLines level rows).map dropReturn) =
      .ok (Reader.start (place (before ++ rows))) := by
  induction rows generalizing before line with
  | nil => simp [rowLines]
  | cons row rows ih =>
      have rowMember : row ∈ before ++ row :: rows := by simp
      have rowNonempty := grid.nonempty row rowMember
      have read : (Reader.start (place before)).next line
          (dropReturn (indented level (Row.write row))) =
            .ok (Reader.start (place (before ++ [row]))) := by
        rw [Reader.next_eq_readLine (outside before), Line.classify_dropReturn,
          classify_rowLine rowNonempty]
        exact takes before row line (checkRow_eq_ok grid line)
          (Row.read?_body rowNonempty (grid.trimmed row rowMember))
      rw [rowLines, List.map_cons, List.map_cons, Reader.readLines_cons_of_next read, ← rowLines,
        ih _ (by simpa using grid)]
      simp

/-- Rows are taken by the open step they stand under. -/
theorem readLines_stepRows (feature : OpenFeature) (block : Block) (step : Step) (level : Nat)
    {rows : List (List String)} (grid : IsGrid rows) (line : Int) :
    (Reader.start (.steps feature { block with last := some { step } })).readLines line
        ((rowLines level rows).map dropReturn) =
      .ok (Reader.start (.steps feature { block with last := some { step, rows } })) := by
  apply readLines_rowLines
    (fun rows => .steps feature { block with last := some { step, rows } })
    (fun _ => rfl) _ level rows [] grid line
  intro before row line even read
  simp only [Reader.readRow, read, Reader.start, even]
  rfl

/-! ## Doc strings -/

theorem indent_getLast? (level : Nat) :
    (List.replicate (2 * level) ' ').getLast? ≠ some '\r' := by
  intro last
  exact absurd (List.eq_of_mem_replicate (List.mem_of_getLast? last)) (by decide)

/-- A written line of a doc string does not close it. -/
theorem trim_docLine_ne_fence (level : Nat) (piece : List Char) :
    trim (dropReturn (docLine level piece)) ≠ Fence.quotes.text := by
  rw [trim_dropReturn, docLine, trim_indented]
  exact Fence.trim_escape_ne_text piece

/-- A written line of a doc string loses its indentation again. -/
theorem contentLine_docLine {doc : OpenDocString} {level : Nat} (fence : doc.fence = .quotes)
    (indent : doc.indent = List.replicate (2 * level) ' ') (piece : List Char) :
    doc.contentLine (dropReturn (docLine level piece)) = rereadLine piece := by
  rw [docLine, indented, dropReturn_append (indent_getLast? level), OpenDocString.contentLine,
    indent, dropPrefix?_append, fence]
  rfl

/-- Lines of content are gathered. -/
theorem readLines_docContent (feature : OpenFeature) (block : Block) (step : Step) {level : Nat}
    (pieces : List (List Char)) (doc : OpenDocString) (line : Int) (fence : doc.fence = .quotes)
    (indent : doc.indent = List.replicate (2 * level) ' ') :
    (Reader.start (.docString feature block step doc)).readLines line
        ((pieces.map (docLine level)).map dropReturn) =
      .ok (Reader.start (.docString feature block step
        { doc with content := doc.content ++ pieces.map rereadLine })) := by
  induction pieces generalizing doc line with
  | nil => simp
  | cons piece pieces ih =>
      have read : (Reader.start (.docString feature block step doc)).next line
          (dropReturn (docLine level piece)) =
            .ok (Reader.start (.docString feature block step
              { doc with content := doc.content ++ [rereadLine piece] })) := by
        simp only [Reader.next, Reader.start, Reader.readDocLine, fence,
          if_neg (trim_docLine_ne_fence level piece), contentLine_docLine fence indent]
      rw [List.map_cons, List.map_cons, Reader.readLines_cons_of_next read]
      have later := ih { doc with content := doc.content ++ [rereadLine piece] } (line + 1)
        fence indent
      rw [later]
      simp

/-- A doc string is taken by the open step it stands under. -/
theorem readLines_docLines (feature : OpenFeature) (block : Block) (level : Nat)
    (doc : DocString) (step : Step) (line : Int) (last : block.last = some { step })
    (valid : IsContentType doc.contentType) :
    (Reader.start (.steps feature block)).readLines line
        ((docLines level doc).map dropReturn) =
      .ok (Reader.start (.steps feature
        { block with
          settled := block.settled ++ [{ step with doc := some doc.reread }]
          last := none })) := by
  have opened : (Reader.start (.steps feature block)).next line
      (dropReturn
        (indented level (Fence.quotes.text ++ (doc.contentType.getD "").toList))) =
        .ok (Reader.start (.docString feature { block with last := none } step
          { fence := .quotes
            indent := List.replicate (2 * level) ' '
            contentType := doc.contentType
            line })) := by
    rw [Reader.next_eq_readLine rfl, Line.classify_dropReturn, classify_fenceLine valid]
    simp [Reader.readLine, Reader.readOther, Reader.readFence, Reader.start, Place.endTable,
      Block.endTable, last]
  have closes : trim (dropReturn (indented level Fence.quotes.text)) = Fence.quotes.text := by
    rw [trim_dropReturn, trim_indented]
    rfl
  rw [docLines, List.cons_append, List.map_cons, Reader.readLines_cons_of_next opened,
    List.map_append,
    Reader.readLines_append_of_ok (readLines_docContent feature _ step _ _ _ rfl rfl)]
  simp only [List.map_cons, List.map_nil, Reader.readLines, Reader.next, Reader.start,
    Reader.readDocLine, closes, if_true, List.nil_append]
  rfl

/-! ## Steps -/

/-- A step at a line, without its argument. -/
def bareStep (step : Step) (line : Int) : Step :=
  { keyword := step.keyword, text := step.text, resolved := step.resolved, line }

/-- The line of a step opens it. -/
theorem next_stepLine (feature : OpenFeature) (block : Block) {step : Step} (valid : IsStep step)
    (resolved : step.resolved = step.keyword.resolve block.previous) (level : Nat) (line : Int) :
    (Reader.start (.steps feature block)).next line
        (dropReturn (indented level (step.keyword.word.toList ++ ' ' :: step.text.toList))) =
      .ok (Reader.start (.steps feature (block.addStep (bareStep step line)))) := by
  rw [Reader.next_eq_readLine rfl, Line.classify_dropReturn,
    classify_stepLine valid.title valid.nonempty]
  simp [Reader.readLine, Reader.readOther, Reader.readStep, Reader.start, Place.endTable, resolved,
    bareStep]

/-- A block that was changed in its steps alone. -/
theorem Block.settle_of_steps_eq {after block : Block} {steps : List Step}
    (head : { block with settled := after.settled, last := after.last } = after)
    (same : after.steps = steps) : after.settle = { block.settle with settled := steps } := by
  rw [Block.settle, same, ← head]
  rfl

/-- A step is read back at its line, behind the steps that were there. -/
theorem readLines_stepLines (feature : OpenFeature) (block : Block) {step : Step}
    (valid : IsStep step) (resolved : step.resolved = step.keyword.resolve block.previous)
    (line : Int) :
    ∃ after : Block,
      (Reader.start (.steps feature block)).readLines line
          ((stepLines step).map dropReturn) =
        .ok (Reader.start (.steps feature after)) ∧
      after.settle =
        { block.settle with
          settled := block.steps ++ [({ step with line } : Step).reread] } := by
  have opened := next_stepLine feature block valid resolved 2 line
  rw [stepLines, List.map_cons, Reader.readLines_cons_of_next opened]
  cases tableEq : step.table with
  | some table =>
      have docEq : step.doc = none := by
        rcases valid.oneArgument with absent | absent
        · simp [tableEq] at absent
        · exact absent
      obtain ⟨rowsNonempty, grid⟩ := valid.table table tableEq
      refine ⟨{ block.addStep (bareStep step line) with
        last := some { step := bareStep step line, rows := table.rows } }, ?_,
        Block.settle_of_steps_eq rfl ?_⟩
      · simp only [docEq, Option.map_some, Option.getD_some, Option.map_none, Option.getD_none,
          List.append_nil]
        exact readLines_stepRows feature (block.addStep (bareStep step line))
          (bareStep step line) 3 grid (line + 1)
      · simp [Block.steps, Block.addStep, OpenStep.close, rowsNonempty, Step.reread, bareStep,
          docEq]
  | none =>
      cases docEq : step.doc with
      | none =>
          refine ⟨_, rfl, Block.settle_of_steps_eq rfl ?_⟩
          simp [Block.steps_addStep, Step.reread, bareStep]
      | some doc =>
          have read := readLines_docLines feature (block.addStep (bareStep step line)) 3 doc
            (bareStep step line) (line + 1) rfl (valid.doc doc docEq)
          refine ⟨_, by simpa [rowLines] using read, Block.settle_of_steps_eq rfl ?_⟩
          simp [Block.steps, Block.addStep, Step.reread, bareStep]

/-- Steps are read back at their lines, behind the steps that were there. -/
theorem readLines_stepsLines (feature : OpenFeature) (block : Block) {steps : List Step}
    (valid : ∀ step ∈ steps, IsStep step) (resolved : ResolvedFrom block.previous steps)
    (line : Int) :
    ∃ after : Block,
      (Reader.start (.steps feature block)).readLines line
          ((stepsLines steps).map dropReturn) =
        .ok (Reader.start (.steps feature after)) ∧
      after.settle =
        { block.settle with
          settled := block.steps ++ (placeSteps line steps).map Step.reread } := by
  induction steps generalizing block line with
  | nil =>
      refine ⟨block, rfl, ?_⟩
      simp [placeSteps, placeFrom, Block.settle]
  | cons step steps ih =>
      obtain ⟨middle, first, middleEq⟩ :=
        readLines_stepLines feature block (valid step List.mem_cons_self) resolved.1 line
      have middleSteps : middle.steps =
          block.steps ++ [({ step with line } : Step).reread] := by
        rw [← Block.steps_settle, middleEq]
        simp [Block.steps, Block.settle]
      have previous : middle.previous = some step.resolved := by
        rw [Block.previous, middleSteps]
        simp [Step.reread]
      obtain ⟨after, rest, afterEq⟩ :=
        ih middle (fun other member => valid other (List.mem_cons_of_mem step member))
          (previous ▸ resolved.2) (line + (stepLines step).length)
      refine ⟨after, ?_, ?_⟩
      · rw [stepsLines, List.flatMap_cons, List.map_append, Reader.readLines_append_of_ok first,
          List.length_map]
        exact rest
      · rw [afterEq, middleSteps, middleEq]
        simp [placeSteps, placeFrom]

end Document

end Gherkin
