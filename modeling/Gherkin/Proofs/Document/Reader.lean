import Gherkin.Document.Reader

/-!
# Laws of the reader

Reading lines one after the other can be cut at any line.  Ending the table under
a step changes neither the steps of its block nor what closing the block gives, so
a reader may be thought of up to the ends of its tables.
-/

namespace Gherkin.Document

/-! ## Blocks -/

namespace Block

/-- Ending a table keeps the steps. -/
@[simp]
theorem steps_endTable (block : Block) : block.endTable.steps = block.steps := by
  rw [endTable]
  split
  · rename_i openStep last
    split
    · rfl
    · simp [steps, last]
  · rfl

/-- Ending a table changes nothing but where the last step is kept. -/
theorem endTable_eq (block : Block) :
    block.endTable =
      { block with settled := block.endTable.settled, last := block.endTable.last } := by
  rw [endTable]
  split
  · split <;> rfl
  · rfl

@[simp]
theorem endTable_endTable (block : Block) : block.endTable.endTable = block.endTable := by
  cases last : block.last with
  | none => simp [endTable, last]
  | some openStep =>
      by_cases empty : openStep.rows.isEmpty
      · have same : block.endTable = block := by
          simp [endTable, last, empty]
        rw [same, same]
      · simp [endTable, last, empty]

@[simp]
theorem previous_endTable (block : Block) : block.endTable.previous = block.previous := by
  rw [previous, steps_endTable, previous]

theorem steps_addStep (block : Block) (step : Step) :
    (block.addStep step).steps = block.steps ++ [step] :=
  rfl

/-- The table under a step has ended when the next step begins. -/
@[simp]
theorem addStep_endTable (block : Block) (step : Step) :
    block.endTable.addStep step = block.addStep step := by
  rw [addStep, steps_endTable, endTable_eq, addStep]

/-- The block with all its steps settled. -/
def settle (block : Block) : Block :=
  { block with settled := block.steps, last := none }

@[simp]
theorem steps_settle (block : Block) : block.settle.steps = block.steps := by
  simp [settle, steps]

@[simp]
theorem settle_endTable (block : Block) : block.endTable.settle = block.settle := by
  rw [settle, steps_endTable, endTable_eq, settle]

end Block

/-- What a feature makes of a block depends on the block's steps alone. -/
@[simp]
theorem OpenFeature.addBlock_endTable (feature : OpenFeature) (block : Block) :
    feature.addBlock block.endTable = feature.addBlock block := by
  rw [addBlock, Block.steps_endTable, Block.endTable_eq, addBlock]

@[simp]
theorem OpenFeature.addBlock_settle (feature : OpenFeature) (block : Block) :
    feature.addBlock block.settle = feature.addBlock block := by
  rw [addBlock, Block.steps_settle, Block.settle, addBlock]

/-- A block that is added changes nothing of a feature but what it is added to. -/
theorem OpenFeature.addBlock_eq {feature after : OpenFeature} {block : Block}
    (closes : feature.addBlock block = .ok after) :
    after =
      { feature with background := after.background, definitions := after.definitions } := by
  rw [addBlock] at closes
  split at closes
  · obtain rfl := Except.ok.inj closes
    rfl
  · obtain rfl := Except.ok.inj closes
    rfl
  · split at closes
    · simp at closes
    · obtain rfl := Except.ok.inj closes
      rfl

/-! ## Places -/

theorem map_eq_ok_iff {ε α β : Type} {f : α → β} {result : Except ε α} {value : β} :
    result.map f = .ok value ↔ ∃ inner, result = .ok inner ∧ f inner = value := by
  cases result <;> simp [Except.map]

theorem map_eq_error_iff {ε α β : Type} {f : α → β} {result : Except ε α} {error : ε} :
    result.map f = .error error ↔ result = .error error := by
  cases result <;> simp [Except.map]

namespace Place

/-- The feature that is open at a place. -/
def feature? : Place → Option OpenFeature
  | .outside => none
  | .intro feature | .steps feature _ | .examples feature _ _ | .docString feature _ _ _ =>
      some feature

/-- What is closed at a place is the feature that is open there, but for what the last
block is added to. -/
theorem feature?_of_close {place : Place} {after : OpenFeature}
    (closes : place.close = .ok (some after)) :
    ∃ before, place.feature? = some before ∧
      after = { before with background := after.background, definitions := after.definitions } := by
  cases place with
  | outside => simp [close] at closes
  | intro feature =>
      obtain rfl : feature = after := by simpa [close] using closes
      exact ⟨feature, rfl, rfl⟩
  | steps feature block | examples feature block table =>
      obtain ⟨_, added, same⟩ := map_eq_ok_iff.mp closes
      obtain rfl := Option.some.inj same
      exact ⟨feature, rfl, OpenFeature.addBlock_eq added⟩
  | docString => simp [close] at closes

@[simp]
theorem endTable_endTable (place : Place) : place.endTable.endTable = place.endTable := by
  cases place <;> simp [endTable]

@[simp]
theorem close_endTable (place : Place) : place.endTable.close = place.close := by
  cases place <;> simp [endTable, close]

/-- Whether the place is in a doc string. -/
def inDocString : Place → Bool
  | .docString _ _ _ _ => true
  | _ => false

@[simp]
theorem inDocString_endTable (place : Place) :
    place.endTable.inDocString = place.inDocString := by
  cases place <;> rfl

/-- A doc string has to be closed before anything else can be. -/
theorem not_inDocString_of_close {place : Place} {result : Option OpenFeature}
    (closes : place.close = .ok result) : place.inDocString = false := by
  cases place with
  | docString => simp [close] at closes
  | _ => rfl

end Place

/-! ## Lines -/

namespace Reader

/-- Outside doc strings a line is read by its kind. -/
theorem next_eq_readLine {reader : Reader} (outside : reader.place.inDocString = false)
    (line : Int) (raw : List Char) :
    reader.next line raw = reader.readLine line (Line.classify raw) := by
  rw [next]
  split
  · rename_i inside
    simp [Place.inDocString, inside] at outside
  · rfl

@[simp]
theorem readLines_nil (reader : Reader) (line : Int) : reader.readLines line [] = .ok reader :=
  rfl

theorem readLines_cons_of_next {reader after : Reader} {line : Int} {raw : List Char}
    (read : reader.next line raw = .ok after) (rest : List (List Char)) :
    reader.readLines line (raw :: rest) = after.readLines (line + 1) rest := by
  rw [readLines, read]

/-- Reading on after the first lines. -/
theorem readLines_append_of_ok {reader after : Reader} {line : Int} {first : List (List Char)}
    (read : reader.readLines line first = .ok after) (rest : List (List Char)) :
    reader.readLines line (first ++ rest) = after.readLines (line + first.length) rest := by
  induction first generalizing reader line with
  | nil =>
      obtain rfl := Except.ok.inj read
      simp
  | cons raw first ih =>
      rw [readLines] at read
      cases step : reader.next line raw with
      | error error =>
          rw [step] at read
          simp at read
      | ok middle =>
          rw [step] at read
          rw [List.cons_append, readLines_cons_of_next step, ih read, List.length_cons]
          congr 1
          omega

/-- Lines are read one after the other. -/
theorem readLines_append_eq_ok_iff {reader after : Reader} {line : Int}
    {first rest : List (List Char)} :
    reader.readLines line (first ++ rest) = .ok after ↔
      ∃ middle, reader.readLines line first = .ok middle ∧
        middle.readLines (line + first.length) rest = .ok after := by
  constructor
  · intro read
    induction first generalizing reader line with
    | nil => exact ⟨reader, rfl, by simpa using read⟩
    | cons raw first ih =>
        rw [List.cons_append, readLines] at read
        split at read
        · simp at read
        · rename_i next step
          obtain ⟨middle, firstRead, restRead⟩ := ih read
          refine ⟨middle, (readLines_cons_of_next step first).trans firstRead, ?_⟩
          rw [List.length_cons, Int.natCast_succ, Int.add_comm (first.length : Int) 1,
            ← Int.add_assoc]
          exact restRead
  · rintro ⟨middle, firstRead, restRead⟩
    exact (readLines_append_of_ok firstRead rest).trans restRead

/-- No document ends where tags wait. -/
theorem finish_of_pending {place : Place} (outside : place.inDocString = false)
    (pending : PendingTags) (count : Nat) :
    finish ⟨place, some pending⟩ count =
      .error { cause := .danglingTags, line := pending.line } := by
  cases place with
  | docString => simp [Place.inDocString] at outside
  | _ => rfl

theorem finish_of_no_pending {place : Place} (outside : place.inDocString = false)
    (count : Nat) :
    finish ⟨place, none⟩ count =
      match place.close with
      | .error error => .error error
      | .ok none => .error { cause := .noFeature, line := max count 1 }
      | .ok (some feature) => .ok feature := by
  cases place with
  | docString => simp [Place.inDocString] at outside
  | _ => rfl

/-- A document ends where no tags wait and everything open can be closed. -/
theorem finish_eq_ok_iff {reader : Reader} {count : Nat} {feature : OpenFeature} :
    reader.finish count = .ok feature ↔
      reader.pending = none ∧ reader.place.close = .ok (some feature) := by
  obtain ⟨place, pending⟩ := reader
  cases place with
  | docString => simp [finish, Place.close]
  | _ =>
      cases pending with
      | some pending => simp [finish]
      | none =>
          simp only [finish, true_and]
          split <;> simp_all

end Reader

/-! ## Documents -/

/-- A feature whose end has been seen. -/
def OpenFeature.complete (feature : OpenFeature) (source : Option String) : Feature :=
  { name := feature.name, description := feature.description, tags := feature.tags,
    background := feature.background, definitions := feature.definitions, source }

/-- A document is read when its lines lead to a place that can be closed. -/
theorem read_eq_ok_iff {text : String} {source : Option String} {feature : Feature} :
    read text source = .ok feature ↔
      ∃ place openFeature,
        ({} : Reader).readLines 1 (Text.lines (Text.dropMark text.toList)) =
          .ok (Reader.start place) ∧
        place.close = .ok (some openFeature) ∧ openFeature.complete source = feature := by
  constructor
  · intro whole
    rw [read] at whole
    split at whole
    · simp at whole
    · rename_i openFeature document
      rw [readDocument] at document
      split at document
      · simp at document
      · rename_i reader lines
        obtain ⟨pending, closes⟩ := Reader.finish_eq_ok_iff.mp document
        have start : reader = Reader.start reader.place := by
          rw [Reader.start, ← pending]
        exact ⟨reader.place, openFeature, start ▸ lines, closes, Except.ok.inj whole⟩
  · rintro ⟨place, openFeature, lines, closes, rfl⟩
    have document : readDocument (Text.lines (Text.dropMark text.toList)) = .ok openFeature := by
      rw [readDocument, lines]
      exact Reader.finish_eq_ok_iff.mpr ⟨rfl, closes⟩
    rw [read, document]
    rfl

/-- The source that is given is kept. -/
theorem source_of_read {text : String} {source : Option String} {feature : Feature}
    (read : read text source = .ok feature) : feature.source = source := by
  obtain ⟨-, -, -, -, rfl⟩ := read_eq_ok_iff.mp read
  rfl

end Gherkin.Document
