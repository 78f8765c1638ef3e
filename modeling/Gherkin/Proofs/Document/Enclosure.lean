import Gherkin.Proofs.Document.Fence
import Gherkin.Proofs.Document.Layout
import Gherkin.Proofs.Document.LineOrder
import Gherkin.Proofs.Document.Reread
import Gherkin.Proofs.Document.Settled
import Mathlib.Data.List.Nodup

/-!
# Doc strings among lines

A doc string stands between the line of its opening fence and the first line that closes
it.  What is read from the lines between them is held by one step, which was opened above
the fence, and nothing else that is read depends on it.
-/

namespace Gherkin

/-! ## Steps with another content -/

/-- A step with another content in its doc string, if it is the one at a line. -/
def Step.withContent (line : Int) (content : String) (step : Step) : Step :=
  if step.line = line then { step with doc := step.doc.map fun doc => { doc with content } }
  else step

/-- A feature with another content in the doc string of the step at a line. -/
def Feature.withContent (line : Int) (content : String) (feature : Feature) : Feature :=
  feature.mapSteps (Step.withContent line content)

namespace Document

open Gherkin.Text

theorem changesAbove_withContent {limit line : Int} (inside : line ≤ limit) (content : String) :
    ChangesAbove (Step.withContent line content) limit where
  resolved step := by
    rw [Step.withContent]
    split <;> rfl
  below step below := by
    have differs : step.line ≠ line := by omega
    exact if_neg differs

/-! ## Lines of steps -/

/-- The lines of the steps are among those of all pieces. -/
theorem map_line_steps_sublist (pieces : List Piece) :
    ((pieces.filterMap Piece.step?).map fun step => step.2.2).Sublist
      (pieces.filterMap Piece.line?) := by
  induction pieces with
  | nil => exact List.Sublist.refl []
  | cons piece rest ih =>
      cases piece with
      | step => exact ih.cons_cons _
      | header => exact ih.cons _
      | feature | row | doc => exact ih

theorem map_line_allSteps_sublist (feature : Feature) :
    (feature.allSteps.map Step.line).Sublist feature.lines := by
  have inPieces := map_line_steps_sublist feature.pieces
  rw [Feature.filterMap_step?_pieces, Feature.filterMap_line?_pieces, List.map_map] at inPieces
  exact inPieces

theorem Block.filterMap_line?_pieces (block : Block) :
    block.pieces.filterMap Piece.line? =
      block.line :: (block.steps.map Step.line ++ block.examples.map Examples.line) := by
  have header : Piece.line? (.header block.kind.header block.name block.line) = some block.line :=
    rfl
  rw [pieces, List.filterMap_cons_some header, List.filterMap_append, List.filterMap_flatMap,
    List.filterMap_flatMap]
  simp only [Step.filterMap_line?_pieces, Examples.filterMap_line?_pieces, List.map_eq_flatMap]

/-- Steps that were read stand at different lines. -/
theorem eq_of_line_eq {text : String} {source : Option String} {feature : Feature}
    (readText : read text source = .ok feature) {step other : Step}
    (member : step ∈ feature.allSteps) (otherMember : other ∈ feature.allSteps)
    (same : other.line = step.line) : other = step := by
  have grows := (lines_of_read readText).sublist (map_line_allSteps_sublist feature)
  have once : (feature.allSteps.map Step.line).Nodup := grows.imp Int.ne_of_lt
  exact List.inj_on_of_nodup_map once otherMember member same

/-- The lines of what a reader holds grow. -/
theorem Reader.pairwise_lines {lines : Lines} (noFeed : ∀ raw ∈ lines, '\n' ∉ raw)
    {after : Reader} (read : ({} : Reader).readLines 1 lines = .ok after)
    (outside : after.place.openDoc = none) :
    (after.place.pieces.filterMap Piece.line?).Pairwise (· < ·) := by
  have start : Reader.Sound {} := ⟨trivial, by simp [Reader.pendingTags]⟩
  have starts : ∀ start ∈ (none : Option OpenDocString).map OpenDocString.line, start < 1 := by
    simp
  rw [(held_of_readLines noFeed outside read start trivial).2.1]
  exact (growFrom_itemsFrom starts).grow.sublist (lines_pieces_sublist _)

/-- A feature none of whose steps is changed. -/
theorem OpenFeature.mapSteps_eq_self {change : Step → Step} {feature : OpenFeature}
    (kept : ∀ step ∈ (feature.complete none).allSteps, change step = step) :
    feature.mapSteps change = feature := by
  have background : feature.background.map (Background.mapSteps change) = feature.background := by
    cases present : feature.background with
    | none => rfl
    | some background =>
        have steps : background.steps.map change = background.steps := by
          apply map_eq_self_iff.mpr
          intro step member
          apply kept
          apply List.mem_append_left
          simpa [Feature.backgroundSteps, OpenFeature.complete, present] using member
        rw [Option.map_some, Background.mapSteps, steps]
  have definitions : feature.definitions.map (Definition.mapSteps change) =
      feature.definitions := by
    apply map_eq_self_iff.mpr
    intro definition inFeature
    have steps : definition.steps.map change = definition.steps := by
      apply map_eq_self_iff.mpr
      intro step member
      apply kept
      exact List.mem_append_right _ (List.mem_flatMap.mpr ⟨definition, inFeature, member⟩)
    cases definition with
    | scenario s => exact congrArg (fun steps => Definition.scenario { s with steps }) steps
    | outline o => exact congrArg (fun steps => Definition.outline { o with steps }) steps
  rw [mapSteps, background, definitions]

/-! ## What is read from a line of a doc string -/

/-- A line of a doc string as it is read: without the indentation of the opening fence, or
without all of its own where it has another, and with fences in place of escaped ones. -/
def contentOf (fence : Fence) (indent raw : List Char) : List Char :=
  fence.unescape (if indent <+: raw then raw.drop indent.length else trimStart raw)

theorem getD_dropPrefix? (front cs other : List Char) :
    (dropPrefix? front cs).getD other = if front <+: cs then cs.drop front.length else other := by
  split
  · rename_i starts
    rcases starts with ⟨rest, rfl⟩
    rw [dropPrefix?_append, List.drop_left, Option.getD_some]
  · rename_i differs
    rw [dropPrefix?_eq_none_iff.mpr differs, Option.getD_none]

theorem contentLine_eq_contentOf (doc : OpenDocString) (raw : List Char) :
    doc.contentLine raw = contentOf doc.fence doc.indent raw := by
  rw [OpenDocString.contentLine, getD_dropPrefix?, contentOf]

/-! ## Numbers below a line -/

/-- The numbers when so many lines are added below some lines. -/
def moveBelow (count : Nat) (added : Int) (number : Int) : Int :=
  if number ≤ count then number else number + added

theorem moves_moveBelow {count first : Nat} (inside : count ≤ first) (height other rest : Nat) :
    Moves (moveBelow count (other - height)) (1 + (first + height)) (1 + (first + other)) rest := by
  intro offset _
  rw [moveBelow, if_neg (by omega)]
  omega

/-- All numbers that a reader holds are those of lines that it has read. -/
theorem Reader.renumber_of_readLines {number : Int → Int} {lines : Lines} {reader : Reader}
    (read : ({} : Reader).readLines 1 lines = .ok reader)
    (kept : ∀ line : Int, line ≤ lines.length → number line = line) :
    reader.renumber number = reader := by
  have moves : Moves number 1 1 lines.length := by
    intro offset bound
    exact kept _ (by omega)
  have moved := Reader.readLines_renumber moves read
  exact Except.ok.inj (moved.symm.trans read)

/-! ## A doc string and what is above it -/

/-- The opening fence of a doc string, the lines above it, and what is held there. -/
structure Enclosure where
  above : Lines
  opening : List Char
  fence : Fence
  contentType : Option String
  feature : OpenFeature
  block : Block
  pending : Option PendingTags
  step : Step

namespace Enclosure

variable (site : Enclosure)

/-- The fence stands under a step that can take a doc string. -/
structure Opens : Prop where
  read : ({} : Reader).readLines 1 site.above = .ok ⟨.steps site.feature site.block, site.pending⟩
  last : site.block.last = some { step := site.step }
  fence : Line.classify site.opening =
    .fence site.fence (Line.indentOf site.opening) site.contentType

/-- None of the lines closes the doc string. -/
def Keeps (content : Lines) : Prop :=
  ∀ raw ∈ content, trim raw ≠ site.fence.text

/-- The doc string has its place among the lines: below its own lines stands one that
closes it. -/
structure Encloses (content below lines : Lines) : Prop where
  opens : site.Opens
  keeps : site.Keeps content
  closes : ∃ closing rest, below = closing :: rest ∧ trim closing = site.fence.text
  whole : lines = site.above ++ site.opening :: (content ++ below)

/-- The doc string while it is open, below lines of it. -/
def docOf (content : Lines) : OpenDocString :=
  { fence := site.fence
    indent := Line.indentOf site.opening
    contentType := site.contentType
    line := 1 + site.above.length
    content := content.map (contentOf site.fence (Line.indentOf site.opening)) }

/-- The reader below lines of the doc string. -/
def opened (content : Lines) : Reader :=
  ⟨.docString site.feature { site.block with last := none } site.step (site.docOf content),
    site.pending⟩

/-- What is read from all lines of the doc string. -/
def contentFrom (content : Lines) : String :=
  String.ofList (join ['\n'] (content.map (contentOf site.fence (Line.indentOf site.opening))))

/-- The step with the doc string. -/
def stepWith (content : Lines) : Step :=
  { site.step with
    doc := some { content := site.contentFrom content, contentType := site.contentType } }

/-- The reader below the closing fence. -/
def closed (content : Lines) : Reader :=
  ⟨.steps site.feature
    { site.block with settled := site.block.settled ++ [site.stepWith content], last := none },
    site.pending⟩

/-- The doc string with one more line. -/
theorem docOf_concat (content : Lines) (raw : List Char) :
    { site.docOf content with
      content := (site.docOf content).content ++ [(site.docOf content).contentLine raw] } =
      site.docOf (content ++ [raw]) := by
  simp only [docOf, contentLine_eq_contentOf, List.map_append, List.map_cons, List.map_nil]

variable {site}

theorem next_opening (opens : site.Opens) :
    Reader.next ⟨.steps site.feature site.block, site.pending⟩ (1 + site.above.length)
      site.opening = .ok (site.opened []) := by
  rw [Reader.next_eq_readLine rfl, opens.fence]
  exact Reader.readLine_of_taken (.fence opens.last)

theorem next_content {content : Lines} {raw : List Char} (stays : trim raw ≠ site.fence.text)
    (line : Int) : (site.opened content).next line raw = .ok (site.opened (content ++ [raw])) := by
  change Except.ok (Reader.readDocLine _ _ _ _ (site.docOf content) raw) = _
  have staysOpen : trim raw ≠ (site.docOf content).fence.text := stays
  rw [Reader.readDocLine, if_neg staysOpen, docOf_concat]
  rfl

theorem next_closing {content : Lines} {closing : List Char}
    (closes : trim closing = site.fence.text) (line : Int) :
    (site.opened content).next line closing = .ok (site.closed content) := by
  change Except.ok (Reader.readDocLine _ _ _ _ (site.docOf content) closing) = _
  have closesDoc : trim closing = (site.docOf content).fence.text := closes
  rw [Reader.readDocLine, if_pos closesDoc]
  rfl

/-- The lines of a doc string are only gathered. -/
theorem readLines_content {before content : Lines} (keeps : site.Keeps content) (line : Int) :
    (site.opened before).readLines line content = .ok (site.opened (before ++ content)) := by
  induction content generalizing before line with
  | nil => rw [List.append_nil, Reader.readLines_nil]
  | cons raw rest ih =>
      rw [Keeps, List.forall_mem_cons] at keeps
      rw [Reader.readLines_cons_of_next (next_content keeps.1 line), ih keeps.2,
        List.append_assoc, List.singleton_append]

theorem readLines_opened (opens : site.Opens) {content : Lines} (keeps : site.Keeps content) :
    ({} : Reader).readLines 1 (site.above ++ site.opening :: content) =
      .ok (site.opened content) := by
  rw [Reader.readLines_append_of_ok opens.read,
    Reader.readLines_cons_of_next (next_opening opens), readLines_content keeps, List.nil_append]

theorem readLines_closed (opens : site.Opens) {content : Lines} (keeps : site.Keeps content)
    {closing : List Char} (closes : trim closing = site.fence.text) :
    ({} : Reader).readLines 1 (site.above ++ site.opening :: (content ++ [closing])) =
      .ok (site.closed content) := by
  rw [← List.cons_append, ← List.append_assoc,
    Reader.readLines_append_of_ok (readLines_opened opens keeps),
    Reader.readLines_cons_of_next (next_closing closes _), Reader.readLines_nil]

/-! ### What is held above the fence -/

/-- What is held above the fence has the numbers of the lines above it. -/
theorem renumber_above (opens : site.Opens) {number : Int → Int}
    (kept : ∀ line : Int, line ≤ site.above.length → number line = line) :
    site.feature.renumber number = site.feature ∧ site.block.renumber number = site.block ∧
      site.step.renumber number = site.step ∧
        site.pending.map (PendingTags.renumber number) = site.pending := by
  have held := Reader.renumber_of_readLines opens.read kept
  have feature : site.feature.renumber number = site.feature := by
    injection congrArg Reader.place held
  have block : site.block.renumber number = site.block := by
    injection congrArg Reader.place held
  have last : (site.block.renumber number).last = some { step := site.step } := by
    rw [block, opens.last]
  rw [Block.renumber, opens.last] at last
  exact ⟨feature, block, congrArg OpenStep.step (Option.some.inj last),
    congrArg Reader.pending held⟩

theorem renumber_closed (opens : site.Opens) {number : Int → Int}
    (kept : ∀ line : Int, line ≤ site.above.length → number line = line) (content : Lines) :
    (site.closed content).renumber number = site.closed content := by
  rcases renumber_above opens kept with ⟨feature, block, step, pending⟩
  have withDoc : (site.stepWith content).renumber number = site.stepWith content :=
    congrArg (fun step : Step => { step with doc := (site.stepWith content).doc }) step
  have closedBlock : ({ site.block with
      settled := site.block.settled ++ [site.stepWith content], last := none } : Block).renumber
        number =
      { site.block.renumber number with
        settled := (site.block.renumber number).settled ++ [(site.stepWith content).renumber number]
        last := none } := by
    simp [Block.renumber]
  rw [block, withDoc] at closedBlock
  rw [Reader.renumber, closed, Place.renumber, feature, closedBlock, pending]

theorem stepLine_le (opens : site.Opens) : site.step.line ≤ site.above.length := by
  have kept : ∀ line : Int, line ≤ site.above.length →
      moveBelow site.above.length 1 line = line := fun line inside => if_pos inside
  have number : moveBelow site.above.length 1 site.step.line = site.step.line :=
    congrArg Step.line (renumber_above opens kept).2.2.1
  by_contra below
  rw [moveBelow, if_neg below] at number
  omega

/-- The step stands below all steps that were read before it. -/
theorem line_lt_stepLine (opens : site.Opens) (noFeed : ∀ raw ∈ site.above, '\n' ∉ raw)
    {other : Step}
    (member : other ∈ (site.feature.complete none).allSteps ++ site.block.settled) :
    other.line < site.step.line := by
  have lines := Reader.pairwise_lines noFeed opens.read rfl
  have blockSteps : site.block.steps = site.block.settled ++ [site.step] := by
    rw [Block.steps, opens.last]
    rfl
  rw [Place.pieces, List.filterMap_append, Feature.filterMap_line?_pieces,
    Block.filterMap_line?_pieces, blockSteps] at lines
  have steps : (((site.feature.complete none).allSteps ++
      (site.block.settled ++ [site.step])).map Step.line).Pairwise (· < ·) := by
    refine lines.sublist ?_
    rw [List.map_append]
    apply (map_line_allSteps_sublist _).append
    exact (List.sublist_append_left _ _).cons _
  rw [← List.append_assoc, List.map_append, List.pairwise_append] at steps
  exact steps.2.2 other.line (List.mem_map_of_mem member) site.step.line List.mem_cons_self

/-- Other lines in the doc string change nothing of what is held but its content. -/
theorem mapSettled_closed (opens : site.Opens) (noFeed : ∀ raw ∈ site.above, '\n' ∉ raw)
    (content written : Lines) :
    (site.closed content).mapSettled
        (Step.withContent site.step.line (site.contentFrom written)) = site.closed written := by
  have kept : ∀ other ∈ (site.feature.complete none).allSteps ++ site.block.settled,
      other.withContent site.step.line (site.contentFrom written) = other := by
    intro other member
    exact if_neg (Int.ne_of_lt (line_lt_stepLine opens noFeed member))
  rw [List.forall_mem_append] at kept
  have feature := OpenFeature.mapSteps_eq_self kept.1
  have settled := map_eq_self_iff.mpr kept.2
  have changed : (site.stepWith content).withContent site.step.line (site.contentFrom written) =
      site.stepWith written := if_pos rfl
  rw [Reader.mapSettled, closed, Place.mapSettled, feature, Block.mapSettled, List.map_append,
    settled, List.map_singleton, changed]
  rfl

/-- With other lines in a doc string the same is read as before, with the content that they
have and with the numbers that the lines below have then. -/
theorem readAs_withContent {content written below lines : Lines}
    (encloses : site.Encloses content below lines) (noFeed : ∀ raw ∈ site.above, '\n' ∉ raw)
    (writtenKeeps : site.Keeps written) {feature : OpenFeature} (read : ReadAs lines feature) :
    ReadAs (site.above ++ site.opening :: (written ++ below))
      ((feature.mapSteps (Step.withContent site.step.line (site.contentFrom written))).renumber
        (moveBelow (site.above.length + 1) (written.length - content.length))) := by
  rcases encloses with ⟨opens, keeps, ⟨closing, below, rfl, closes⟩, rfl⟩
  rcases read with ⟨place, lines, placeCloses⟩
  have cut (between : Lines) : site.above ++ site.opening :: (between ++ closing :: below) =
      (site.above ++ site.opening :: (between ++ [closing])) ++ below := by simp
  have height (between : Lines) :
      (1 : Int) + (site.above ++ site.opening :: (between ++ [closing])).length =
        1 + ((site.above.length + 1 + 1 : Nat) + between.length) := by simp; omega
  have changes := changesAbove_withContent (stepLine_le opens) (site.contentFrom written)
  -- Below the doc string nothing is open, so that what is read there does not depend on it.
  rw [cut content, Reader.readLines_append_of_ok (readLines_closed opens keeps closes)] at lines
  have nothingOpen : (site.closed content).place.OpenBelow site.above.length := by
    intro step member
    contradiction
  have belowFence : (site.above.length : Int) <
      1 + (site.above ++ site.opening :: (content ++ [closing])).length := by
    rw [height]
    omega
  rcases Reader.readLines_mapSettled changes nothingOpen belowFence lines with ⟨placeBelow, changed⟩
  rw [mapSettled_closed opens noFeed, height content] at changed
  have inside : site.above.length + 1 ≤ site.above.length + 1 + 1 := Nat.le_succ _
  have moved := Reader.readLines_renumber
    (moves_moveBelow inside content.length written.length below.length) changed
  have kept : ∀ line : Int, line ≤ site.above.length →
      moveBelow (site.above.length + 1) (written.length - content.length) line = line := by
    intro line above
    exact if_pos (by omega)
  rw [renumber_closed opens kept] at moved
  refine ⟨_, ?_, Place.close_renumber (Place.close_mapSettled changes placeBelow placeCloses)⟩
  rw [cut written, Reader.readLines_append_of_ok (readLines_closed opens writtenKeeps closes),
    height written]
  exact moved

end Enclosure

end Document

end Gherkin
