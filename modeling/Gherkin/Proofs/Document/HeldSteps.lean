import Gherkin.Proofs.Document.Held

/-!
# The steps that a reader holds

A step takes its doc string when it is closed.  No other line gives a doc string to a step
that is held, and none takes such a step away.
-/

namespace Gherkin.Document

/-- The steps held at a place, except for one whose doc string is still open. -/
def Place.allSteps : Place → List Step
  | .outside => []
  | .intro feature => (feature.complete none).allSteps
  | .steps feature block | .examples feature block _ | .docString feature block _ _ =>
      (feature.complete none).allSteps ++ block.steps

/-! ## What the ends of tables and blocks keep -/

theorem OpenStep.doc_close (openStep : OpenStep) : openStep.close.doc = openStep.step.doc := by
  rw [close]
  split <;> rfl

theorem Place.allSteps_endTable (place : Place) : place.endTable.allSteps = place.allSteps := by
  cases place <;> simp [endTable, allSteps]

theorem allSteps_addBlock {feature after : OpenFeature} {block : Block}
    (early : block.kind = .background → feature.background = none ∧ feature.definitions = [])
    (closes : feature.addBlock block = .ok after) :
    (after.complete none).allSteps = (feature.complete none).allSteps ++ block.steps := by
  rw [OpenFeature.addBlock] at closes
  split at closes
  · rename_i kind
    rcases early kind with ⟨noBackground, noDefinitions⟩
    obtain rfl := Except.ok.inj closes
    simp [Feature.allSteps, Feature.backgroundSteps, OpenFeature.complete, noBackground,
      noDefinitions]
  · obtain rfl := Except.ok.inj closes
    simp [Feature.allSteps, Feature.backgroundSteps, OpenFeature.complete, Definition.steps]
  · split at closes
    · contradiction
    · obtain rfl := Except.ok.inj closes
      simp [Feature.allSteps, Feature.backgroundSteps, OpenFeature.complete, Definition.steps]

/-- A feature that is closed holds the steps that were held at the place. -/
theorem allSteps_close {place : Place} (ordered : place.Ordered) {feature : OpenFeature}
    (closes : place.close = .ok (some feature)) :
    (feature.complete none).allSteps = place.allSteps := by
  cases place with
  | outside | docString => simp [Place.close] at closes
  | intro before =>
      obtain rfl := Option.some.inj (Except.ok.inj closes)
      rfl
  | steps before block =>
      rcases map_eq_ok_iff.mp closes with ⟨_, added, same⟩
      obtain rfl := Option.some.inj same
      apply allSteps_addBlock _ added
      intro kind
      exact ⟨(ordered.2 kind).1, (ordered.2 kind).2.1⟩
  | examples before block table =>
      rcases map_eq_ok_iff.mp closes with ⟨_, added, same⟩
      obtain rfl := Option.some.inj same
      have kind : block.kind = .outline := ordered.1
      have held := allSteps_addBlock (by simp [kind]) added
      exact held

/-! ## Steps with doc strings -/

section DocStrings

variable {step : Step} (present : step.doc ≠ none)

include present

/-- A line outside doc strings keeps the steps that have one. -/
theorem mem_allSteps_of_taken {reader after : Reader} {line : Int} {kind : Line}
    (sound : reader.Sound) (ordered : reader.place.Ordered) (taken : Taken line reader kind after) :
    step ∈ after.place.allSteps ↔ step ∈ reader.place.allSteps := by
  cases taken with
  | tags read => rw [Place.allSteps_endTable]
  | @stepRow feature block openStep pending rest cells last read even =>
      have bare : openStep.step.doc = none := (sound.place.2.last _ last).bare.doc
      have other {openStep : OpenStep} (bare : openStep.step.doc = none) :
          step ≠ openStep.close := by
        rintro rfl
        exact present ((OpenStep.doc_close openStep).trans bare)
      have before : step ≠ openStep.close := other bare
      have grown : step ≠ OpenStep.close { openStep with rows := openStep.rows ++ [cells] } :=
        other bare
      simp [Place.allSteps, Block.steps, last, before, grown]
  | @fence feature block openStep pending fence indent contentType last =>
      have bare : openStep.doc = none := (sound.place.2.last _ last).bare.doc
      have other : step ≠ openStep := by
        rintro rfl
        exact present bare
      simp [Place.allSteps, Block.steps, last, OpenStep.close, other]
  | definition opens closes =>
      rw [← allSteps_close ordered closes]
      simp [Reader.start, Place.allSteps, Block.steps]
  | @step feature block keyword text whole =>
      have other {opened : Step} (bare : opened.doc = none) : step ≠ opened := by
        rintro rfl
        exact present bare
      simp [Reader.start, Place.allSteps, Block.steps_addStep, other]
  | _ => simp [Reader.start, Place.allSteps, Block.steps, Feature.allSteps, Feature.backgroundSteps,
      OpenFeature.complete, Block.settle]

end DocStrings

/-- A doc string that is closed is held by the step that it was open under. -/
theorem mem_allSteps_closeDoc {feature : OpenFeature} {block : Block} {step : Step}
    {doc : OpenDocString} {pending : Option PendingTags}
    (sound : Reader.Sound ⟨.docString feature block step doc, pending⟩) {other : Step} :
    other ∈ (Place.steps feature
        { block with settled := block.settled ++ [{ step with doc := some doc.close }] }).allSteps ↔
      other ∈ (Place.docString feature block step doc).allSteps ∨
        other = { step with doc := some doc.close } := by
  rcases sound.place with ⟨-, -, -, -, last, -⟩
  simp [Place.allSteps, Block.steps, last, or_assoc]

/-- What the next line keeps. -/
theorem next_keeps {reader after : Reader} {line : Int} {raw : List Char}
    (read : reader.next line raw = .ok after) (noFeed : '\n' ∉ raw) (sound : reader.Sound)
    (ordered : reader.place.Ordered) :
    after.Sound ∧ after.place.Ordered ∧ ∀ step ∈ reader.place.allSteps, step.doc ≠ none →
      step ∈ after.place.allSteps := by
  refine ⟨sound.next noFeed read, ?_⟩
  rcases reader with ⟨place, pending⟩
  cases place with
  | docString feature block step doc =>
      obtain rfl := Except.ok.inj read
      rw [Reader.readDocLine]
      split
      · exact ⟨ordered, fun other member _ => (mem_allSteps_closeDoc sound).mpr (Or.inl member)⟩
      · exact ⟨ordered, fun other member _ => member⟩
  | _ =>
      have taken := Reader.taken_of_readLine read
      refine ⟨(held_of_taken sound ordered taken).1, ?_⟩
      intro step member present
      exact (mem_allSteps_of_taken present sound ordered taken).mpr member

/-- Steps with doc strings stay. -/
theorem mem_allSteps_of_readLines {reader after : Reader} {line : Int} {lines : Lines}
    (noFeed : ∀ raw ∈ lines, '\n' ∉ raw) (read : reader.readLines line lines = .ok after)
    (sound : reader.Sound) (ordered : reader.place.Ordered) {step : Step}
    (member : step ∈ reader.place.allSteps) (present : step.doc ≠ none) :
    after.place.Ordered ∧ step ∈ after.place.allSteps := by
  have kept : after.Sound ∧ after.place.Ordered ∧ step ∈ after.place.allSteps := by
    apply Reader.readLines_induction (motive := fun _ reader =>
      reader.Sound ∧ reader.place.Ordered ∧ step ∈ reader.place.allSteps) ?_
      ⟨sound, ordered, member⟩ read
    rintro line reader raw after inLines ⟨sound, ordered, member⟩ next
    rcases next_keeps next (noFeed raw inLines) sound ordered with ⟨nextSound, nextOrdered, keeps⟩
    exact ⟨nextSound, nextOrdered, keeps step member present⟩
  exact kept.2

end Gherkin.Document
