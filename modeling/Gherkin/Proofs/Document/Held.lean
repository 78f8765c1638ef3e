import Gherkin.Proofs.Document.Items
import Gherkin.Proofs.Document.WellRead

/-!
# What a reader holds

A reader holds tags and pieces of a feature in several places: in what is complete,
in the block, the step and the table that are open, and in tags that wait.  Read in
one order they grow at the end: each line that is taken adds what stands on it.
-/

namespace Gherkin.Document

open Gherkin.Text

/-! ## What a reader holds -/

/-- The header that opens a kind of block. -/
def BlockKind.header : BlockKind → Header
  | .background => .background
  | .scenario => .scenario
  | .outline => .outline

namespace Block

/-- The header of a block, its steps and its examples. -/
def pieces (block : Block) : List Piece :=
  .header block.kind.header block.name block.line ::
    (block.steps.flatMap Step.pieces ++ block.examples.flatMap Examples.pieces)

/-- The tags of a block and of its examples. -/
def allTags (block : Block) : List String :=
  block.tags ++ block.examples.flatMap Examples.tags

end Block

namespace Place

/-- The pieces held at a place. -/
def pieces : Place → List Piece
  | .outside => []
  | .intro feature => (feature.complete none).pieces
  | .steps feature block => (feature.complete none).pieces ++ block.pieces
  | .examples feature block table =>
      (feature.complete none).pieces ++ (block.pieces ++ table.close.pieces)
  | .docString feature block step _ =>
      (feature.complete none).pieces ++ (block.pieces ++ step.pieces)

/-- The tags held at a place. -/
def allTags : Place → List String
  | .outside => []
  | .intro feature => (feature.complete none).allTags
  | .steps feature block | .docString feature block _ _ =>
      (feature.complete none).allTags ++ block.allTags
  | .examples feature block table =>
      (feature.complete none).allTags ++ (block.allTags ++ table.tags)

/-- The doc string that is open. -/
def openDoc : Place → Option OpenDocString
  | .docString _ _ _ doc => some doc
  | _ => none

/-- A background comes before the definitions, and examples come after the steps of
an outline, none of which is open any more. -/
def Ordered : Place → Prop
  | .outside => True
  | .intro feature => feature.background = none ∧ feature.definitions = []
  | .steps feature block | .docString feature block _ _ =>
      block.examples = [] ∧
        (block.kind = .background →
          feature.background = none ∧ feature.definitions = [] ∧ block.name = "" ∧
            block.tags = [])
  | .examples _ block _ => block.kind = .outline ∧ block.last = none

end Place

/-- The tags that a reader holds, those that wait for a header last. -/
def Reader.allTags (reader : Reader) : List String :=
  reader.place.allTags ++ reader.pendingTags

/-! ## What the ends of tables and blocks keep -/

@[simp]
theorem Block.pieces_endTable (block : Block) : block.endTable.pieces = block.pieces := by
  rw [pieces, steps_endTable, endTable_eq, pieces]

@[simp]
theorem Block.pieces_settle (block : Block) : block.settle.pieces = block.pieces := by
  rw [pieces, steps_settle, settle, pieces]

@[simp]
theorem Block.allTags_endTable (block : Block) : block.endTable.allTags = block.allTags := by
  rw [allTags, endTable_eq, allTags]

namespace Place

@[simp]
theorem pieces_endTable (place : Place) : place.endTable.pieces = place.pieces := by
  cases place <;> simp [endTable, pieces]

@[simp]
theorem allTags_endTable (place : Place) : place.endTable.allTags = place.allTags := by
  cases place <;> simp [endTable, allTags]

theorem openDoc_endTable (place : Place) : place.endTable.openDoc = place.openDoc := by
  cases place <;> rfl

/-- A doc string has been closed where everything else can be. -/
theorem openDoc_of_close {place : Place} {result : Option OpenFeature}
    (closes : place.close = .ok result) : place.openDoc = none := by
  cases place with
  | docString => simp [close] at closes
  | _ => rfl

theorem Ordered.endTable {place : Place} (ordered : place.Ordered) : place.endTable.Ordered := by
  cases place with
  | steps feature block =>
      rw [Place.endTable, Block.endTable_eq]
      exact ordered
  | _ => exact ordered

end Place

/-- A feature with another definition. -/
theorem pieces_concat (feature : OpenFeature) (definition : Definition) :
    (({ feature with
      definitions := feature.definitions ++ [definition] } : OpenFeature).complete none).pieces =
      (feature.complete none).pieces ++ definition.pieces := by
  simp [Feature.pieces, OpenFeature.complete]

theorem allTags_concat (feature : OpenFeature) (definition : Definition) :
    (({ feature with
      definitions := feature.definitions ++ [definition] } : OpenFeature).complete none).allTags =
      (feature.complete none).allTags ++ definition.allTags := by
  simp [Feature.allTags, OpenFeature.complete]

/-- A block that is closed is held by the feature at its end. -/
theorem held_addBlock {feature after : OpenFeature} {block : Block}
    (bare : block.kind ≠ .outline → block.examples = [])
    (early : block.kind = .background →
      feature.background = none ∧ feature.definitions = [] ∧ block.name = "" ∧ block.tags = [])
    (closes : feature.addBlock block = .ok after) :
    (after.complete none).pieces = (feature.complete none).pieces ++ block.pieces ∧
      (after.complete none).allTags = (feature.complete none).allTags ++ block.allTags := by
  rw [OpenFeature.addBlock] at closes
  split at closes
  · rename_i kind
    obtain ⟨noBackground, noDefinitions, noName, noTags⟩ := early kind
    obtain rfl := Except.ok.inj closes
    have noExamples := bare (by simp [kind])
    simp [Feature.pieces, Feature.allTags, OpenFeature.complete, Block.pieces, Block.allTags,
      Background.pieces, BlockKind.header, kind, noBackground, noDefinitions, noName, noTags,
      noExamples]
  · rename_i kind
    obtain rfl := Except.ok.inj closes
    have noExamples := bare (by simp [kind])
    rw [pieces_concat, allTags_concat]
    simp [Definition.pieces, Definition.allTags, Block.pieces, Block.allTags, BlockKind.header,
      kind, noExamples, headerOf, examplesOf, Definition.name, Definition.line, Definition.steps,
      Definition.tags]
  · rename_i kind
    split at closes
    · simp at closes
    · obtain rfl := Except.ok.inj closes
      rw [pieces_concat, allTags_concat]
      simp [Definition.pieces, Definition.allTags, Block.pieces, Block.allTags, BlockKind.header,
        kind, headerOf, examplesOf, Definition.name, Definition.line, Definition.steps,
        Definition.tags]

/-- Examples that are closed are held by their block. -/
theorem pieces_addExamples (block : Block) (examples : Examples) :
    ({ block with examples := block.examples ++ [examples] } : Block).pieces =
      block.pieces ++ examples.pieces := by
  simp [Block.pieces, Block.steps]

theorem allTags_addExamples (block : Block) (examples : Examples) :
    ({ block with examples := block.examples ++ [examples] } : Block).allTags =
      block.allTags ++ examples.tags := by
  simp [Block.allTags]

/-- A feature that is closed holds what was held at the place. -/
theorem held_close {place : Place} (ordered : place.Ordered) {feature : OpenFeature}
    (closes : place.close = .ok (some feature)) :
    (feature.complete none).pieces = place.pieces ∧
      (feature.complete none).allTags = place.allTags := by
  cases place with
  | outside => simp [Place.close] at closes
  | intro before =>
      obtain rfl : before = feature := by simpa [Place.close] using closes
      exact ⟨rfl, rfl⟩
  | steps before block =>
      obtain ⟨_, added, same⟩ := map_eq_ok_iff.mp closes
      obtain rfl := Option.some.inj same
      exact held_addBlock (fun _ => ordered.1) ordered.2 added
  | examples before block table =>
      obtain ⟨_, added, same⟩ := map_eq_ok_iff.mp closes
      obtain rfl := Option.some.inj same
      have kind : block.kind = .outline := ordered.1
      have held := held_addBlock (by simp [kind]) (by simp [kind]) added
      rw [pieces_addExamples, allTags_addExamples] at held
      exact held
  | docString => simp [Place.close] at closes

/-! ## What a line adds -/

theorem words_eq_of_tagNames {words tags : List String} (read : tagNames words = .ok tags) :
    words = tagTokens tags := by
  induction words generalizing tags with
  | nil =>
      obtain rfl := Except.ok.inj read
      rfl
  | cons word words ih =>
      rw [tagNames] at read
      split at read
      · simp at read
      · rename_i name first
        obtain ⟨later, laterRead, rfl⟩ := map_eq_ok_iff.mp read
        have spelled : word = "@" ++ name := by
          rw [← String.toList_inj, (tagName?_eq_some_iff.mp first).1, String.toList_append]
          rfl
        rw [spelled, ih laterRead]
        rfl

theorem tagTokens_append (first second : List String) :
    tagTokens (first ++ second) = tagTokens first ++ tagTokens second :=
  List.map_append

/-- A step that is opened is held behind the steps before it. -/
theorem Block.pieces_addStep {block : Block} (noExamples : block.examples = []) (step : Step) :
    (block.addStep step).pieces = block.pieces ++ step.pieces := by
  have examples : (block.addStep step).examples = [] := noExamples
  rw [pieces, steps_addStep, examples, pieces, noExamples]
  simp [addStep]

theorem OpenStep.pieces_close (openStep : OpenStep) (bare : IsBareStep openStep.step) :
    openStep.close.pieces =
      .step openStep.step.keyword openStep.step.text openStep.step.line ::
        openStep.rows.map fun cells => .row (some cells) := by
  rw [OpenStep.close]
  split
  · rename_i empty
    simp [Step.pieces, Step.rows, bare.table, bare.doc, List.isEmpty_iff.mp empty]
  · simp [Step.pieces, Step.rows, bare.doc]

/-- A row that is taken by a step is held behind the rows before it. -/
theorem Block.pieces_addRow {block : Block} (noExamples : block.examples = [])
    {openStep : OpenStep} (last : block.last = some openStep) (bare : IsBareStep openStep.step)
    (cells : List String) :
    ({ block with
      last := some { openStep with rows := openStep.rows ++ [cells] } } : Block).pieces =
      block.pieces ++ [.row (some cells)] := by
  have grown := OpenStep.pieces_close { openStep with rows := openStep.rows ++ [cells] } bare
  simp [Block.pieces, Block.steps, noExamples, last, openStep.pieces_close bare, grown]

/-- A row that is taken by examples is held behind the rows before it. -/
theorem OpenExamples.pieces_addRow {table : OpenExamples} {cells : List String}
    (nonempty : ∀ row ∈ table.rows ++ [cells], row ≠ []) :
    ({ table with rows := table.rows ++ [cells] } : OpenExamples).close.pieces =
      table.close.pieces ++ [.row (some cells)] := by
  have before : ∀ row ∈ table.rows, row ≠ [] := fun row member => nonempty row (by simp [member])
  rw [Examples.pieces, Examples.pieces, examplesRows_close nonempty, examplesRows_close before,
    List.map_append]
  rfl

/-- The header of examples is held before any of their rows. -/
theorem pieces_close_fresh (tags : List String) (line : Int) :
    ({ tags, line } : OpenExamples).close.pieces = [.header .examples "" line] :=
  rfl

/-- A block whose header was just read. -/
theorem pieces_fresh (kind : BlockKind) (name : String) (tags : List String) (line : Int) :
    ({ kind, name, tags, line } : Block).pieces = [.header kind.header name line] :=
  rfl

theorem allTags_fresh (kind : BlockKind) (name : String) (tags : List String) (line : Int) :
    ({ kind, name, tags, line } : Block).allTags = tags := by
  simp [Block.allTags]

@[simp]
theorem allTags_mk (place : Place) (pending : Option PendingTags) :
    (⟨place, pending⟩ : Reader).allTags =
      place.allTags ++ (pending.map PendingTags.tags).getD [] :=
  rfl

@[simp]
theorem allTags_start (place : Place) : (Reader.start place).allTags = place.allTags :=
  List.append_nil _

/-- What a line that is taken holds is added at the end of what the reader holds. -/
theorem held_of_taken {reader after : Reader} {line : Int} {kind : Line} (sound : reader.Sound)
    (ordered : reader.place.Ordered) (taken : Taken line reader kind after) :
    after.place.Ordered ∧
      after.place.pieces = reader.place.pieces ++ ((Item.line kind).piece? line).toList ∧
        tagTokens after.allTags = tagTokens reader.allTags ++ (Item.line kind).tags := by
  cases taken with
  | blank => simp [ordered, Item.piece?, Item.tags]
  | tags read =>
      refine ⟨ordered.endTable, by simp [Item.piece?], ?_⟩
      rw [Item.tags, words_eq_of_tagNames read, ← tagTokens_append]
      simp
  | stepRow last read even =>
      have bare := (sound.place.2.last _ last).bare
      refine ⟨ordered, ?_, (List.append_nil _).symm⟩
      rw [Place.pieces, Block.pieces_addRow ordered.1 last bare]
      simp [Item.piece?, Place.pieces, read]
  | examplesRow read even =>
      obtain ⟨-, -, tableSound⟩ := sound.place
      refine ⟨ordered, ?_, (List.append_nil _).symm⟩
      rw [Place.pieces, OpenExamples.pieces_addRow (tableSound.grid.concat read even).nonempty]
      simp [Item.piece?, Place.pieces, read]
  | @fence feature block step _ _ _ _ last =>
      have whole : block.steps = block.settled ++ [step] := by
        simp [Block.steps, last, OpenStep.close]
      refine ⟨ordered, ?_, (List.append_nil _).symm⟩
      simp only [Place.pieces, Block.pieces, whole, Item.piece?, ordered.1]
      simp [Block.steps]
  | feature named =>
      refine ⟨⟨rfl, rfl⟩, rfl, ?_⟩
      simp [Item.tags, Place.allTags, Feature.allTags, OpenFeature.complete, Reader.start]
  | background =>
      refine ⟨⟨rfl, fun _ => ⟨ordered.1, ordered.2, rfl, rfl⟩⟩, rfl, ?_⟩
      simp [Item.tags, Place.allTags, allTags_fresh]
  | definition opens closes =>
      obtain ⟨piecesEq, tagsEq⟩ := held_close ordered closes
      refine ⟨?_, ?_, ?_⟩
      · cases opens <;> exact ⟨rfl, by simp⟩
      · simp only [Reader.start, Place.pieces, pieces_fresh, piecesEq]
        cases opens <;> rfl
      · cases opens <;> simp [Item.tags, Place.allTags, allTags_fresh, tagsEq]
  | @firstExamples feature block pending _ _ outline =>
      have tags : block.settle.allTags = block.allTags := rfl
      refine ⟨⟨outline, rfl⟩, ?_, ?_⟩
      · simp [Reader.start, Place.pieces, pieces_close_fresh, Item.piece?]
      · simp [Item.tags, Place.allTags, tags]
  | nextExamples =>
      refine ⟨ordered, ?_, ?_⟩
      · simp [Reader.start, Place.pieces, pieces_close_fresh, pieces_addExamples, Item.piece?]
      · simp [Item.tags, Place.allTags, allTags_addExamples, OpenExamples.close]
  | step =>
      refine ⟨ordered, ?_, ?_⟩
      · simp [Reader.start, Place.pieces, Block.pieces_addStep ordered.1, Step.pieces, Step.rows,
          Item.piece?]
      · simp [Item.tags, Place.allTags, Block.addStep, Block.allTags]
  | description =>
      exact ⟨ordered, (List.append_nil _).symm, (List.append_nil _).symm⟩
  | blockText fresh => simp [ordered, Item.piece?, Item.tags]
  | examplesText fresh => simp [ordered, Item.piece?, Item.tags]

end Gherkin.Document
