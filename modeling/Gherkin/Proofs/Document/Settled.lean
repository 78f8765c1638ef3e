import Gherkin.Proofs.Document.Taken

/-!
# Settled steps are only carried along

A reader keeps the steps that take no further argument.  It looks at nothing of them but
what the last one stands for.  When something else of them is changed, the same is read
with the changed steps.
-/

namespace Gherkin

/-! ## Features with changed steps -/

variable (change : Step → Step)

/-- A background with changed steps. -/
def Background.mapSteps (background : Background) : Background :=
  { background with steps := background.steps.map change }

/-- A definition with changed steps. -/
def Definition.mapSteps : Definition → Definition
  | .scenario s => .scenario { s with steps := s.steps.map change }
  | .outline o => .outline { o with steps := o.steps.map change }

/-- A feature with changed steps. -/
def Feature.mapSteps (feature : Feature) : Feature :=
  { feature with
    background := feature.background.map (Background.mapSteps change)
    definitions := feature.definitions.map (Definition.mapSteps change) }

namespace Document

/-! ## Readers with changed steps -/

/-- An open feature with changed steps. -/
def OpenFeature.mapSteps (feature : OpenFeature) : OpenFeature :=
  { feature with
    background := feature.background.map (Background.mapSteps change)
    definitions := feature.definitions.map (Definition.mapSteps change) }

/-- An open block whose settled steps are changed. -/
def Block.mapSettled (block : Block) : Block :=
  { block with settled := block.settled.map change }

/-- A place at which the settled steps are changed. -/
def Place.mapSettled : Place → Place
  | .outside => .outside
  | .intro feature => .intro (feature.mapSteps change)
  | .steps feature block => .steps (feature.mapSteps change) (block.mapSettled change)
  | .examples feature block table =>
      .examples (feature.mapSteps change) (block.mapSettled change) table
  | .docString feature block step doc =>
      .docString (feature.mapSteps change) (block.mapSettled change) step doc

/-- A reader whose settled steps are changed. -/
def Reader.mapSettled (reader : Reader) : Reader :=
  { reader with place := reader.place.mapSettled change }

/-! ## Steps that may still change -/

/-- The steps at a place that can still take something. -/
def Place.openSteps : Place → List Step
  | .outside | .intro _ => []
  | .steps _ block | .examples _ block _ => (block.last.map OpenStep.step).toList
  | .docString _ block step _ => (block.last.map OpenStep.step).toList ++ [step]

/-- All steps that can still take something stand below a line. -/
def Place.OpenBelow (limit : Int) (place : Place) : Prop :=
  ∀ step ∈ place.openSteps, limit < step.line

/-- The last step of a block is below a line, if it can still take something. -/
def Block.OpenBelow (limit : Int) (block : Block) : Prop :=
  ∀ openStep ∈ block.last, limit < openStep.step.line

/-- A change that leaves alone what steps stand for, and all steps below a line. -/
structure ChangesAbove (limit : Int) : Prop where
  resolved : ∀ step, (change step).resolved = step.resolved
  below : ∀ step, limit < step.line → change step = step

variable {limit : Int}

theorem Place.openBelow_steps {feature : OpenFeature} {block : Block} :
    (Place.steps feature block).OpenBelow limit ↔ block.OpenBelow limit := by
  rw [Place.OpenBelow, Block.OpenBelow, openSteps]
  cases block.last <;> simp

theorem Place.openBelow_examples {feature : OpenFeature} {block : Block} {table : OpenExamples} :
    (Place.examples feature block table).OpenBelow limit ↔ block.OpenBelow limit := by
  rw [Place.OpenBelow, Block.OpenBelow, openSteps]
  cases block.last <;> simp

theorem Block.OpenBelow.endTable {block : Block} (below : block.OpenBelow limit) :
    block.endTable.OpenBelow limit := by
  intro openStep last
  exact below openStep (Block.last_endTable_eq_some_iff.mp last).1

theorem Place.OpenBelow.endTable {place : Place} (below : place.OpenBelow limit) :
    place.endTable.OpenBelow limit := by
  cases place with
  | steps feature block =>
      exact openBelow_steps.mpr (openBelow_steps.mp below).endTable
  | _ => exact below

/-- The steps that a line opens stand at that line. -/
theorem Taken.openBelow {reader after : Reader} {line : Int} {kind : Line}
    (below : reader.place.OpenBelow limit) (later : limit < line)
    (taken : Taken line reader kind after) : after.place.OpenBelow limit := by
  cases taken with
  | tags read => exact below.endTable
  | @stepRow feature block openStep pending rest cells last read even =>
      have stepBelow : limit < openStep.step.line := Place.openBelow_steps.mp below _ last
      apply Place.openBelow_steps.mpr
      rintro _ ⟨⟩
      exact stepBelow
  | fence last =>
      rintro step member
      obtain rfl := List.mem_singleton.mp member
      exact Place.openBelow_steps.mp below _ last
  | step =>
      rintro step member
      obtain rfl := List.mem_singleton.mp member
      exact later
  | feature | background | definition | firstExamples =>
      intro step member
      contradiction
  | _ => exact below

theorem Reader.openBelow_next {reader after : Reader} {line : Int} {raw : List Char}
    (below : reader.place.OpenBelow limit) (later : limit < line)
    (read : reader.next line raw = .ok after) : after.place.OpenBelow limit := by
  rcases reader with ⟨place, pending⟩
  cases place with
  | docString feature block step doc =>
      obtain rfl := Except.ok.inj read
      rw [readDocLine]
      split
      · intro step member
        exact below step (List.mem_append_left _ member)
      · exact below
  | _ => exact (taken_of_readLine read).openBelow below later

/-! ## What a change commutes with -/

section Commutes

variable {change : Step → Step} (changes : ChangesAbove change limit)

include changes

namespace Block

variable {block : Block}

theorem steps_mapSettled (below : block.OpenBelow limit) :
    (block.mapSettled change).steps = block.steps.map change := by
  have last : (block.mapSettled change).last = block.last := rfl
  rw [steps, steps, last, List.map_append]
  cases present : block.last with
  | none => rfl
  | some openStep =>
      have sameLine : openStep.close.line = openStep.step.line := by
        rw [OpenStep.close]
        split <;> rfl
      have kept : change openStep.close = openStep.close :=
        changes.below _ (sameLine ▸ below _ present)
      rw [Option.map_some, Option.toList_some, List.map_singleton, kept]
      rfl

theorem endTable_mapSettled (below : block.OpenBelow limit) :
    (block.mapSettled change).endTable = block.endTable.mapSettled change := by
  have last : (block.mapSettled change).last = block.last := rfl
  cases present : block.last with
  | none => rw [endTable, last, endTable, present]
  | some openStep =>
      have steps := steps_mapSettled changes below
      simp only [Block.steps, last, present] at steps
      rw [endTable, last, endTable, present]
      simp only
      split
      · rfl
      · exact congrArg (fun settled => { block with settled, last := none }) steps

theorem previous_mapSettled (below : block.OpenBelow limit) :
    (block.mapSettled change).previous = block.previous := by
  rw [previous, steps_mapSettled changes below, List.getLast?_map, Option.map_map, previous]
  congr 1
  funext step
  exact changes.resolved step

theorem settle_mapSettled (below : block.OpenBelow limit) :
    (block.mapSettled change).settle = block.settle.mapSettled change := by
  rw [settle, steps_mapSettled changes below]
  rfl

theorem addStep_mapSettled (below : block.OpenBelow limit) (step : Step) :
    (block.mapSettled change).addStep step = (block.addStep step).mapSettled change := by
  rw [addStep, steps_mapSettled changes below]
  rfl

end Block

theorem addBlock_mapSteps {feature after : OpenFeature} {block : Block}
    (below : block.OpenBelow limit) (closes : feature.addBlock block = .ok after) :
    (feature.mapSteps change).addBlock (block.mapSettled change) =
      .ok (after.mapSteps change) := by
  have kind : (block.mapSettled change).kind = block.kind := rfl
  have examples : (block.mapSettled change).examples = block.examples := rfl
  rw [OpenFeature.addBlock] at closes ⊢
  rw [kind, examples, Block.steps_mapSettled changes below]
  split at closes
  · obtain rfl := Except.ok.inj closes
    rfl
  · obtain rfl := Except.ok.inj closes
    simp [OpenFeature.mapSteps, Definition.mapSteps, Block.mapSettled]
  · split at closes
    · contradiction
    · rename_i filled
      obtain rfl := Except.ok.inj closes
      rw [if_neg filled]
      simp [OpenFeature.mapSteps, Definition.mapSteps, Block.mapSettled]

namespace Place

theorem endTable_mapSettled {place : Place} (below : place.OpenBelow limit) :
    (place.mapSettled change).endTable = place.endTable.mapSettled change := by
  cases place with
  | steps feature block =>
      exact congrArg _ (Block.endTable_mapSettled changes (openBelow_steps.mp below))
  | _ => rfl

theorem close_mapSettled {place : Place} {result : Option OpenFeature}
    (below : place.OpenBelow limit) (closes : place.close = .ok result) :
    (place.mapSettled change).close = .ok (result.map (OpenFeature.mapSteps change)) := by
  cases place with
  | outside | intro =>
      obtain rfl := Except.ok.inj closes
      rfl
  | steps feature block =>
      rcases map_eq_ok_iff.mp closes with ⟨after, added, rfl⟩
      rw [mapSettled, close, addBlock_mapSteps changes (openBelow_steps.mp below) added]
      rfl
  | examples feature block table =>
      rcases map_eq_ok_iff.mp closes with ⟨after, added, rfl⟩
      have blockBelow : block.OpenBelow limit := openBelow_examples.mp below
      have grownBelow : Block.OpenBelow limit
          { block with examples := block.examples ++ [table.close] } := blockBelow
      exact congrArg (Except.map some) (addBlock_mapSteps changes grownBelow added)
  | docString => contradiction

end Place

/-! ## Reading with changed steps -/

/-- A line that is taken is taken when settled steps are changed. -/
theorem Taken.mapSettled {reader after : Reader} {line : Int} {kind : Line}
    (below : reader.place.OpenBelow limit) (taken : Taken line reader kind after) :
    Taken line (reader.mapSettled change) kind (after.mapSettled change) := by
  cases taken with
  | blank => exact .blank _
  | tags read =>
      change Taken _ _ _ ⟨Place.mapSettled change (Place.endTable _), _⟩
      rw [← Place.endTable_mapSettled changes below]
      exact .tags read
  | stepRow last read even => exact .stepRow last read even
  | examplesRow read even => exact .examplesRow read even
  | fence last => exact .fence last
  | feature named => exact .feature named
  | background => exact .background
  | definition opens closes =>
      exact .definition opens (Place.close_mapSettled changes below closes)
  | @firstExamples feature block pending word title outline =>
      change Taken _ _ _ (.start (.examples _ (block.settle.mapSettled change) _))
      rw [← Block.settle_mapSettled changes (Place.openBelow_steps.mp below)]
      exact .firstExamples outline
  | nextExamples => exact .nextExamples
  | @step feature block keyword text whole =>
      have blockBelow := Place.openBelow_steps.mp below
      change Taken _ _ _ (.start (.steps _ ((block.addStep _).mapSettled change)))
      rw [← Block.addStep_mapSettled changes blockBelow,
        ← Block.previous_mapSettled changes blockBelow]
      exact .step
  | description => exact .description
  | @blockText feature block pending whole fresh =>
      have stillFresh : (block.mapSettled change).steps = [] := by
        rw [Block.steps_mapSettled changes (Place.openBelow_steps.mp below), fresh]
        rfl
      exact .blockText stillFresh
  | examplesText fresh => exact .examplesText fresh

namespace Reader

variable {reader after : Reader} {line : Int}

/-- A line that is read is read when settled steps are changed. -/
theorem next_mapSettled {raw : List Char} (below : reader.place.OpenBelow limit)
    (read : reader.next line raw = .ok after) :
    (reader.mapSettled change).next line raw = .ok (after.mapSettled change) := by
  rcases reader with ⟨place, pending⟩
  cases place with
  | docString feature block step doc =>
      obtain rfl := Except.ok.inj read
      have stepBelow : limit < step.line := below step (List.mem_append_right _ (by simp))
      have kept : change { step with doc := some doc.close } =
          { step with doc := some doc.close } :=
        changes.below _ stepBelow
      change Except.ok (readDocLine _ _ _ step doc raw) = _
      rw [readDocLine, readDocLine]
      split
      · simp [Reader.mapSettled, Place.mapSettled, Block.mapSettled, kept]
      · rfl
  | _ => exact readLine_of_taken ((taken_of_readLine read).mapSettled changes below)

/-- Lines that are read are read in the same way when settled steps are changed. -/
theorem readLines_mapSettled {lines : List (List Char)} (below : reader.place.OpenBelow limit)
    (later : limit < line) (read : reader.readLines line lines = .ok after) :
    after.place.OpenBelow limit ∧
      (reader.mapSettled change).readLines line lines = .ok (after.mapSettled change) := by
  induction lines generalizing reader line with
  | nil =>
      obtain rfl := Except.ok.inj read
      exact ⟨below, rfl⟩
  | cons raw rest ih =>
      rw [readLines] at read
      split at read
      · contradiction
      · rename_i middle first
        rw [readLines_cons_of_next (next_mapSettled changes below first)]
        exact ih (openBelow_next below later first) (Int.lt_trans later (Int.lt_succ line)) read

end Reader

end Commutes

end Document

end Gherkin
