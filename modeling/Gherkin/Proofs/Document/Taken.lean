import Gherkin.Proofs.Document.Reader

/-!
# The lines that are taken

A document that is read is one in which every line is taken.  The relation lists
what a reader takes where, and what it holds afterwards; what is kept by every line
taken is kept by all of them.
-/

namespace Gherkin.Document

/-- The header that opens a block of steps other than the background. -/
inductive DefinitionHeader : Header → BlockKind → Prop
  | scenario : DefinitionHeader .scenario .scenario
  | outline : DefinitionHeader .outline .outline

/-- The lines outside doc strings that a reader takes at a line number, each with
the reader after it. -/
inductive Taken (line : Int) : Reader → Line → Reader → Prop
  | blank (reader : Reader) : Taken line reader .blank reader
  | tags {place : Place} {pending : Option PendingTags} {words tags : List String}
      (read : tagNames words = .ok tags) :
      Taken line ⟨place, pending⟩ (.tags words)
        ⟨place.endTable, some
          { line := (pending.map PendingTags.line).getD line
            tags := (pending.map PendingTags.tags).getD [] ++ tags }⟩
  | stepRow {feature : OpenFeature} {block : Block} {openStep : OpenStep}
      {pending : Option PendingTags} {rest : List Char} {cells : List String}
      (last : block.last = some openStep) (read : Row.read? rest = some cells)
      (even : Reader.checkRow line cells openStep.rows = .ok ()) :
      Taken line ⟨.steps feature block, pending⟩ (.row rest)
        ⟨.steps feature
          { block with last := some { openStep with rows := openStep.rows ++ [cells] } },
          pending⟩
  | examplesRow {feature : OpenFeature} {block : Block} {table : OpenExamples}
      {pending : Option PendingTags} {rest : List Char} {cells : List String}
      (read : Row.read? rest = some cells)
      (even : Reader.checkRow line cells table.rows = .ok ()) :
      Taken line ⟨.examples feature block table, pending⟩ (.row rest)
        ⟨.examples feature block { table with rows := table.rows ++ [cells] }, pending⟩
  | fence {feature : OpenFeature} {block : Block} {step : Step} {pending : Option PendingTags}
      {fence : Fence} {indent : List Char} {contentType : Option String}
      (last : block.last = some { step }) :
      Taken line ⟨.steps feature block, pending⟩ (.fence fence indent contentType)
        ⟨.docString feature { block with last := none } step
          { fence, indent, contentType, line }, pending⟩
  | feature {pending : Option PendingTags} {word name : String} (named : name.toList ≠ []) :
      Taken line ⟨.outside, pending⟩ (.header .feature word name)
        (.start (.intro
          { name, line, tags := (pending.map PendingTags.tags).getD [] }))
  | background {feature : OpenFeature} {word title : String} :
      Taken line ⟨.intro feature, none⟩ (.header .background word title)
        (.start (.steps feature { kind := .background, name := "", tags := [], line }))
  | definition {place : Place} {pending : Option PendingTags} {feature : OpenFeature}
      {header : Header} {kind : BlockKind} {word name : String}
      (opens : DefinitionHeader header kind) (closes : place.close = .ok (some feature)) :
      Taken line ⟨place, pending⟩ (.header header word name)
        (.start (.steps feature
          { kind, name, tags := (pending.map PendingTags.tags).getD [], line }))
  | firstExamples {feature : OpenFeature} {block : Block} {pending : Option PendingTags}
      {word title : String} (outline : block.kind = .outline) :
      Taken line ⟨.steps feature block, pending⟩ (.header .examples word title)
        (.start (.examples feature block.settle
          { tags := (pending.map PendingTags.tags).getD [], line }))
  | nextExamples {feature : OpenFeature} {block : Block} {table : OpenExamples}
      {pending : Option PendingTags} {word title : String} :
      Taken line ⟨.examples feature block table, pending⟩ (.header .examples word title)
        (.start (.examples feature { block with examples := block.examples ++ [table.close] }
          { tags := (pending.map PendingTags.tags).getD [], line }))
  | step {feature : OpenFeature} {block : Block} {keyword : Keyword} {text whole : String} :
      Taken line ⟨.steps feature block, none⟩ (.step keyword text whole)
        (.start (.steps feature
          (block.addStep { keyword, text, resolved := keyword.resolve block.previous, line })))
  | description {feature : OpenFeature} {pending : Option PendingTags} {whole : String} :
      Taken line ⟨.intro feature, pending⟩ (.text whole)
        ⟨.intro { feature with description := feature.description ++ [whole] }, pending⟩
  | blockText {feature : OpenFeature} {block : Block} {pending : Option PendingTags}
      {whole : String} (fresh : block.steps = []) :
      Taken line ⟨.steps feature block, pending⟩ (.text whole) ⟨.steps feature block, pending⟩
  | examplesText {feature : OpenFeature} {block : Block} {table : OpenExamples}
      {pending : Option PendingTags} {whole : String} (fresh : table.rows = []) :
      Taken line ⟨.examples feature block table, pending⟩ (.text whole)
        ⟨.examples feature block table, pending⟩

namespace Block

theorem steps_eq_nil_iff {block : Block} :
    block.steps = [] ↔ block.settled = [] ∧ block.last = none := by
  simp [steps]

theorem endTable_of_steps_eq_nil {block : Block} (fresh : block.steps = []) :
    block.endTable = block := by
  rw [endTable, (steps_eq_nil_iff.mp fresh).2]

/-- After the end of a table only a step without rows is open. -/
theorem last_endTable_eq_some_iff {block : Block} {openStep : OpenStep} :
    block.endTable.last = some openStep ↔ block.last = some openStep ∧ openStep.rows = [] := by
  cases last : block.last with
  | none => simp [endTable, last]
  | some other =>
      by_cases bare : other.rows = []
      · simp only [endTable, last, bare, List.isEmpty_nil, if_true, Option.some.injEq]
        constructor
        · rintro rfl
          exact ⟨rfl, bare⟩
        · exact And.left
      · simp only [endTable, last, List.isEmpty_iff, bare, if_false, reduceCtorEq, false_iff,
          Option.some.injEq, not_and]
        rintro rfl
        exact bare

theorem endTable_of_last {block : Block} {step : Step} (last : block.last = some { step }) :
    block.endTable = block := by
  simp [endTable, last]

end Block

namespace Reader

variable {reader after : Reader} {line : Int}

theorem taken_of_readTags {words : List String}
    (read : { reader with place := reader.place.endTable }.readTags line words = .ok after) :
    Taken line reader (.tags words) after := by
  rw [readTags] at read
  split at read
  · simp at read
  · rename_i tags valid
    obtain rfl := Except.ok.inj read
    exact .tags valid

theorem taken_of_readRow {rest : List Char} (read : reader.readRow line rest = .ok after) :
    Taken line reader (.row rest) after := by
  obtain ⟨place, pending⟩ := reader
  rw [readRow] at read
  split at read
  · simp at read
  · rename_i cells rowRead
    cases place with
    | examples feature block table =>
        obtain ⟨_, even, rfl⟩ := map_eq_ok_iff.mp read
        exact .examplesRow rowRead even
    | steps feature block =>
        simp only at read
        split at read
        · simp at read
        · rename_i openStep last
          obtain ⟨_, even, rfl⟩ := map_eq_ok_iff.mp read
          exact .stepRow last rowRead even
    | _ => simp at read

theorem taken_of_readFence {fence : Fence} {indent : List Char} {contentType : Option String}
    (read : { reader with place := reader.place.endTable }.readFence line fence indent contentType
      = .ok after) :
    Taken line reader (.fence fence indent contentType) after := by
  obtain ⟨place, pending⟩ := reader
  cases place with
  | steps feature block =>
      simp only [readFence, Place.endTable] at read
      split at read
      · simp at read
      · rename_i openStep last
        obtain ⟨last, bare⟩ := Block.last_endTable_eq_some_iff.mp last
        obtain ⟨step, rows⟩ := openStep
        obtain rfl : rows = [] := bare
        rw [Block.endTable_of_last last] at read
        obtain rfl := Except.ok.inj read
        exact .fence last
  | _ => simp [readFence, Place.endTable] at read

theorem taken_of_readFeature {word name : String}
    (read : { reader with place := reader.place.endTable }.readFeature line name = .ok after) :
    Taken line reader (.header .feature word name) after := by
  obtain ⟨place, pending⟩ := reader
  cases place with
  | outside =>
      simp only [readFeature, Place.endTable] at read
      split at read
      · simp at read
      · rename_i named
        obtain rfl := Except.ok.inj read
        exact .feature (by simpa using named)
  | _ => simp [readFeature, Place.endTable] at read

theorem taken_of_readBackground {word title : String}
    (read : { reader with place := reader.place.endTable }.readBackground line word
      = .ok after) :
    Taken line reader (.header .background word title) after := by
  obtain ⟨place, pending⟩ := reader
  cases pending with
  | some pending => cases place <;> simp [readBackground, Place.endTable] at read
  | none =>
      cases place with
      | intro feature =>
          obtain rfl := Except.ok.inj read
          exact .background
      | _ => simp [readBackground, Place.endTable] at read

theorem taken_of_readScenario {header : Header} {kind : BlockKind}
    (opens : DefinitionHeader header kind) {word name : String}
    (read : { reader with place := reader.place.endTable }.readScenario line kind word name
      = .ok after) :
    Taken line reader (.header header word name) after := by
  obtain ⟨place, pending⟩ := reader
  simp only [readScenario, Place.close_endTable] at read
  split at read
  · simp at read
  · simp at read
  · rename_i feature closes
    obtain rfl := Except.ok.inj read
    exact .definition opens closes

theorem taken_of_readExamples {word title : String}
    (read : { reader with place := reader.place.endTable }.readExamples line = .ok after) :
    Taken line reader (.header .examples word title) after := by
  obtain ⟨place, pending⟩ := reader
  cases place with
  | steps feature block =>
      have settled :
          ({ block.endTable with settled := block.endTable.steps, last := none } : Block) =
            block.settle :=
        block.settle_endTable
      simp only [readExamples, Place.endTable] at read
      split at read
      · rename_i outline
        rw [Block.endTable_eq] at outline
        obtain rfl := Except.ok.inj read
        rw [settled]
        exact .firstExamples outline
      · simp at read
  | examples feature block table =>
      obtain rfl := Except.ok.inj read
      exact .nextExamples
  | _ => simp [readExamples, Place.endTable] at read

theorem taken_of_readStep {keyword : Keyword} {text whole : String}
    (read : { reader with place := reader.place.endTable }.readStep line keyword text whole
      = .ok after) :
    Taken line reader (.step keyword text whole) after := by
  obtain ⟨place, pending⟩ := reader
  cases pending with
  | some pending => simp [readStep] at read
  | none =>
      cases place with
      | steps feature block =>
          simp only [readStep, Place.endTable, Block.addStep_endTable,
            Block.previous_endTable] at read
          obtain rfl := Except.ok.inj read
          exact .step
      | _ => simp [readStep, Place.endTable] at read

theorem taken_of_readText {whole : String}
    (read : { reader with place := reader.place.endTable }.readText line whole = .ok after) :
    Taken line reader (.text whole) after := by
  obtain ⟨place, pending⟩ := reader
  cases place with
  | intro feature =>
      obtain rfl := Except.ok.inj read
      exact .description
  | steps feature block =>
      simp only [readText, Place.endTable, Block.steps_endTable, List.isEmpty_iff] at read
      split at read
      · rename_i fresh
        rw [Block.endTable_of_steps_eq_nil fresh] at read
        obtain rfl := Except.ok.inj read
        exact .blockText fresh
      · simp at read
  | examples feature block table =>
      simp only [readText, Place.endTable, List.isEmpty_iff] at read
      split at read
      · rename_i fresh
        obtain rfl := Except.ok.inj read
        exact .examplesText fresh
      · simp at read
  | _ => simp [readText, Place.endTable] at read

/-- A line outside doc strings that is read is one of those listed. -/
theorem taken_of_readLine {kind : Line} (read : reader.readLine line kind = .ok after) :
    Taken line reader kind after := by
  cases kind with
  | blank =>
      obtain rfl := Except.ok.inj read
      exact .blank reader
  | row rest => exact taken_of_readRow read
  | tags words => exact taken_of_readTags read
  | fence fence indent contentType => exact taken_of_readFence read
  | header header word title =>
      cases header with
      | feature => exact taken_of_readFeature read
      | background => exact taken_of_readBackground read
      | outline => exact taken_of_readScenario .outline read
      | scenario => exact taken_of_readScenario .scenario read
      | examples => exact taken_of_readExamples read
  | step keyword text whole => exact taken_of_readStep read
  | text whole => exact taken_of_readText read

/-- Every line that is listed is read. -/
theorem readLine_of_taken {kind : Line} (taken : Taken line reader kind after) :
    reader.readLine line kind = .ok after := by
  cases taken with
  | blank => rfl
  | tags read => simp [readLine, readOther, readTags, pendingTags, read]
  | stepRow last read even => simp [readLine, readRow, read, last, even, Except.map]
  | examplesRow read even => simp [readLine, readRow, read, even, Except.map]
  | fence last =>
      simp [readLine, readOther, readFence, Place.endTable, Block.endTable_of_last last, last]
  | @feature pending word name named =>
      have nonempty : name.isEmpty = false := by simpa using named
      simp [readLine, readOther, readFeature, Place.endTable, nonempty, pendingTags, start]
  | background => rfl
  | @definition place pending feature header kind word name opens closes =>
      have whole : (⟨place.endTable, pending⟩ : Reader).readScenario line kind word name =
          .ok (start (.steps feature
            { kind, name, tags := (pending.map PendingTags.tags).getD [], line })) := by
        simp [readScenario, closes, pendingTags]
      cases opens <;> exact whole
  | @firstExamples feature block pending word title outline =>
      have kind : block.endTable.kind = .outline := by
        rw [Block.endTable_eq]
        exact outline
      rw [readLine, readOther, readExamples, ← Block.settle_endTable]
      · exact if_pos kind
      · exact Line.noConfusion
      · exact fun _ => Line.noConfusion
  | nextExamples => rfl
  | step => simp [readLine, readOther, readStep, Place.endTable]
  | description => rfl
  | blockText fresh =>
      simp [readLine, readOther, readText, Place.endTable, Block.endTable_of_steps_eq_nil fresh,
        fresh]
  | examplesText fresh => simp [readLine, readOther, readText, Place.endTable, fresh]

/-- What each line taken keeps is kept by all of them, and so are facts about the
number of the line to come. -/
theorem readLines_induction {motive : Int → Reader → Prop} {lines : List (List Char)}
    (keeps : ∀ line reader raw after, raw ∈ lines → motive line reader →
      reader.next line raw = .ok after → motive (line + 1) after)
    (start : motive line reader) (read : reader.readLines line lines = .ok after) :
    motive (line + lines.length) after := by
  induction lines generalizing line reader with
  | nil =>
      obtain rfl := Except.ok.inj read
      simpa using start
  | cons raw rest ih =>
      rw [readLines] at read
      split at read
      · simp at read
      · rename_i middle first
        have later := ih (fun line reader other after member => keeps line reader other after
          (List.mem_cons_of_mem raw member)) (keeps _ _ _ _ List.mem_cons_self start first) read
        have number : line + 1 + rest.length = line + (raw :: rest).length := by
          rw [List.length_cons]
          omega
        exact number ▸ later

end Reader

end Gherkin.Document
