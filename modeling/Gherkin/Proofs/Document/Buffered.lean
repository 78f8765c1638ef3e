import Gherkin.Proofs.Document.Buffers
import Gherkin.Proofs.Document.Numbered

/-!
# The buffered reader never fails

A reader can be spread over buffers, and every line is read in the same way before and
after.  A reader has no place for an argument without a step or for a doc string that
is not open, so the buffers it is spread over never lack what a handler needs.
-/

namespace Gherkin.Document

/-! ## Spreading a reader over buffers -/

/-- The mode in which the steps of a block are read. -/
def BlockKind.mode : BlockKind → Mode
  | .background => .background
  | .scenario => .scenario
  | .outline => .outline

/-- The last keyword that is no conjunction. -/
def lastKeyword (steps : List Step) : Option Keyword :=
  steps.foldl
    (fun last step => if step.keyword.isConjunction then last else some step.keyword) none

theorem lastKeyword_concat (steps : List Step) (step : Step) :
    lastKeyword (steps ++ [step]) =
      if step.keyword.isConjunction then lastKeyword steps else some step.keyword := by
  simp [lastKeyword]

namespace Block

/-- The steps of a block, the last one still without its rows. -/
def bareSteps (block : Block) : List Step :=
  block.settled ++ (block.last.map OpenStep.step).toList

/-- The rows that the last step will have. -/
def openRows (block : Block) : List (List String) :=
  (block.last.map OpenStep.rows).getD []

/-- A block as a buffer. -/
@[simp]
def buffer (block : Block) : BlockBuffer :=
  { mode := block.kind.mode, name := block.name, tags := block.tags, line := block.line,
    steps := block.bareSteps, examples := block.examples,
    lastKeyword := lastKeyword block.bareSteps, acceptsArgument := block.last.isSome }

end Block

/-- A feature spread over buffers. -/
@[simp]
def OpenFeature.buffers (feature : OpenFeature) (source : Option String) : Buffers :=
  { source, mode := .feature, featureName := some feature.name, featureLine := feature.line,
    featureTags := feature.tags, description := feature.description,
    background := feature.background, definitions := feature.definitions }

/-- A place spread over buffers. -/
@[simp]
def Place.buffers (source : Option String) : Place → Buffers
  | .outside => { source }
  | .intro feature => feature.buffers source
  | .steps feature block =>
      { feature.buffers source with
        mode := block.kind.mode, block := some block.buffer, rows := block.openRows }
  | .examples feature block table =>
      { feature.buffers source with
        mode := .examples, block := some block.buffer, examples := some table }
  | .docString feature block step doc =>
      { feature.buffers source with
        mode := .docString
        block := some ({ block with last := some { step } } : Block).buffer
        doc := some { doc with resume := block.kind.mode } }

/-- A reader spread over buffers. -/
def Reader.buffers (reader : Reader) (source : Option String) : Buffers :=
  { reader.place.buffers source with
    pendingTags := reader.pendingTags
    pendingLine := (reader.pending.map PendingTags.line).getD 0 }

/-- What a reader becomes, spread over buffers. -/
def spread (source : Option String) (result : Except Error Reader) : Except Fault Buffers :=
  (inSource source result).map fun reader => reader.buffers source

variable {reader : Reader} {source : Option String} {line : Int}

@[simp]
theorem buffers_mk (place : Place) (pending : Option PendingTags) :
    (⟨place, pending⟩ : Reader).buffers source =
      { place.buffers source with
        pendingTags := (pending.map PendingTags.tags).getD []
        pendingLine := (pending.map PendingTags.line).getD 0 } :=
  rfl

@[simp]
theorem source_buffers (place : Place) : (place.buffers source).source = source := by
  cases place <;> rfl

@[simp]
theorem spread_ok (reader : Reader) : spread source (.ok reader) = .ok (reader.buffers source) :=
  rfl

/-- A refusal is the same in both readers. -/
theorem refuse_buffers (source : Option String) (reader : Reader) (cause : Cause) (line : Int) :
    (reader.buffers source).refuse cause line = spread source (.error { cause, line }) := by
  rcases reader with ⟨place, pending⟩
  simp [Buffers.refuse, spread, inSource, Except.map, -Place.buffers]

@[simp]
theorem takesSteps_mode (kind : BlockKind) : kind.mode.takesSteps = true := by
  cases kind <;> rfl

@[simp]
theorem mode_ne_idle (kind : BlockKind) : kind.mode ≠ .idle := by
  cases kind <;> simp [BlockKind.mode]

@[simp]
theorem mode_ne_feature (kind : BlockKind) : kind.mode ≠ .feature := by
  cases kind <;> simp [BlockKind.mode]

@[simp]
theorem mode_ne_examples (kind : BlockKind) : kind.mode ≠ .examples := by
  cases kind <;> simp [BlockKind.mode]

@[simp]
theorem mode_ne_docString (kind : BlockKind) : kind.mode ≠ .docString := by
  cases kind <;> simp [BlockKind.mode]

@[simp]
theorem mode_beq_background (kind : BlockKind) :
    (kind.mode == .background) = (kind == .background) := by
  cases kind <;> rfl

@[simp]
theorem mode_eq_outline_iff {kind : BlockKind} : kind.mode = .outline ↔ kind = .outline := by
  cases kind <;> simp [BlockKind.mode]

/-- A block in which no step is open. -/
@[simp]
theorem bareSteps_mk_none (kind : BlockKind) (name : String) (tags : List String) (line : Int)
    (settled : List Step) (examples : List Examples) :
    (Block.mk kind name tags line settled none examples).bareSteps = settled := by
  simp [Block.bareSteps]

@[simp]
theorem openRows_mk_none (kind : BlockKind) (name : String) (tags : List String) (line : Int)
    (settled : List Step) (examples : List Examples) :
    (Block.mk kind name tags line settled none examples).openRows = [] :=
  rfl

/-- A block whose last step is open. -/
@[simp]
theorem bareSteps_mk_some (kind : BlockKind) (name : String) (tags : List String) (line : Int)
    (settled : List Step) (openStep : OpenStep) (examples : List Examples) :
    (Block.mk kind name tags line settled (some openStep) examples).bareSteps =
      settled ++ [openStep.step] :=
  rfl

@[simp]
theorem openRows_mk_some (kind : BlockKind) (name : String) (tags : List String) (line : Int)
    (settled : List Step) (openStep : OpenStep) (examples : List Examples) :
    (Block.mk kind name tags line settled (some openStep) examples).openRows = openStep.rows :=
  rfl

/-! ## The ends of tables and blocks -/

theorem bareSteps_of_openRows {block : Block} (bare : block.openRows = []) :
    block.bareSteps = block.steps := by
  cases last : block.last with
  | none => simp [Block.bareSteps, Block.steps, last]
  | some openStep =>
      have rows : openStep.rows = [] := by
        simpa [Block.openRows, last] using bare
      simp [Block.bareSteps, Block.steps, last, OpenStep.close, rows]

theorem endTable_of_openRows {block : Block} (bare : block.openRows = []) :
    block.endTable = block := by
  cases last : block.last with
  | none => simp [Block.endTable, last]
  | some openStep =>
      have rows : openStep.rows = [] := by
        simpa [Block.openRows, last] using bare
      simp [Block.endTable, last, rows]

theorem openRows_endTable (block : Block) : block.endTable.openRows = [] := by
  cases last : block.endTable.last with
  | none => simp [Block.openRows, last]
  | some openStep =>
      simp [Block.openRows, last, (Block.last_endTable_eq_some_iff.mp last).2]

/-- Where the table has ended, no rows are open. -/
theorem openRows_of_flushed {feature : OpenFeature} {block : Block}
    (flushed : (Place.steps feature block).endTable = .steps feature block) :
    block.openRows = [] := by
  injection flushed with _ same
  rw [← same]
  exact openRows_endTable block

/-- The rows of the last step are given to it when its table ends. -/
theorem flushTable_buffers (reader : Reader) :
    (reader.buffers source).flushTable =
      .ok (({ reader with place := reader.place.endTable } : Reader).buffers source) := by
  rcases reader with ⟨place, pending⟩
  cases place with
  | steps feature block =>
      by_cases bare : block.openRows = []
      · have same : block.endTable = block := endTable_of_openRows bare
        simp [Buffers.flushTable, Place.endTable, bare, same]
      · obtain ⟨openStep, last⟩ : ∃ openStep, block.last = some openStep := by
          cases last : block.last with
          | none => simp [Block.openRows, last] at bare
          | some openStep => exact ⟨openStep, rfl⟩
        have rows : openStep.rows ≠ [] := by
          simpa [Block.openRows, last] using bare
        simp [Buffers.flushTable, Buffers.attach, Block.bareSteps, Block.openRows, Place.endTable,
          Block.endTable, OpenStep.close, Except.map, last, rows, lastKeyword_concat]
  | _ => rfl

/-- What a reader leaves when everything open in it is closed. -/
def Reader.closed (reader : Reader) (source : Option String) : Option OpenFeature → Buffers
  | none => reader.buffers source
  | some feature =>
      { Reader.buffers ⟨.intro feature, reader.pending⟩ source with
        mode := (reader.buffers source).mode }

theorem giveBlock_buffers (source : Option String) (feature : OpenFeature) {block : Block}
    (bare : block.openRows = []) (mode : Mode) (pending : Option PendingTags) :
    ({ Reader.buffers ⟨.steps feature block, pending⟩ source with mode } : Buffers).giveBlock =
      (inSource source (feature.addBlock block)).map fun after =>
        { Reader.buffers ⟨.intro after, pending⟩ source with mode } := by
  have steps := bareSteps_of_openRows bare
  cases kind : block.kind with
  | background | scenario =>
      simp [Buffers.giveBlock, OpenFeature.addBlock, BlockKind.mode, inSource, Except.map, kind,
        bare, steps]
  | outline =>
      by_cases empty : block.examples = []
      · simp [Buffers.giveBlock, OpenFeature.addBlock, BlockKind.mode, Buffers.refuse, inSource,
          Except.map, kind, empty]
      · simp [Buffers.giveBlock, OpenFeature.addBlock, BlockKind.mode, inSource, Except.map, kind,
          bare, steps, empty]

theorem close_eq_ok_none_iff {place : Place} : place.close = .ok none ↔ place = .outside := by
  cases place with
  | steps feature block =>
      cases added : feature.addBlock block <;> simp [Place.close, added, Except.map]
  | examples feature block table =>
      cases added : feature.addBlock { block with examples := block.examples ++ [table.close] } <;>
        simp [Place.close, added, Except.map]
  | _ => simp [Place.close]

theorem featureName_eq_none_iff (source : Option String) (reader : Reader) :
    (reader.buffers source).featureName = none ↔ reader.place = .outside := by
  rcases reader with ⟨place, pending⟩
  cases place <;> simp

/-- Everything that is open ends together with a block. -/
theorem finishBlock_buffers (source : Option String) (ordered : reader.place.Ordered)
    (outside : reader.place.inDocString = false) :
    (reader.buffers source).finishBlock =
      (inSource source reader.place.close).map (reader.closed source) := by
  rw [Buffers.finishBlock, flushTable_buffers]
  rcases reader with ⟨place, pending⟩
  cases place with
  | outside => rfl
  | intro feature => rfl
  | steps feature block =>
      have given := giveBlock_buffers source feature (openRows_endTable block)
        block.endTable.kind.mode pending
      have kind : block.endTable.kind = block.kind := by
        rw [Block.endTable_eq]
      rw [OpenFeature.addBlock_endTable] at given
      apply given.trans
      rw [kind, Place.close]
      cases feature.addBlock block <;> rfl
  | examples feature block table =>
      obtain ⟨-, settled⟩ := ordered
      have bare :
          ({ block with examples := block.examples ++ [table.close] } : Block).openRows = [] := by
        simp [Block.openRows, settled]
      have given := giveBlock_buffers source feature bare .examples pending
      have finished :
          (Reader.buffers ⟨.examples feature block table, pending⟩ source).finishExamples =
            { Reader.buffers
                ⟨.steps feature { block with examples := block.examples ++ [table.close] }, pending⟩
                source with
              mode := .examples } := by
        simp [Buffers.finishExamples, Block.bareSteps, Block.openRows, settled]
      simp only [Place.endTable, Place.close]
      rw [finished, given]
      cases feature.addBlock { block with examples := block.examples ++ [table.close] } <;> rfl
  | docString => simp [Place.inDocString] at outside

/-! ## Tags, rows and fences -/

/-- A line of tags that is set is not zero. -/
theorem Reader.Numbered.pendingLine_ne_zero (numbered : reader.Numbered line)
    {pending : PendingTags} (member : reader.pending = some pending) : pending.line ≠ 0 := by
  have positive := (numbered.pending pending member).1.1
  omega

theorem readTags_buffers (numbered : reader.Numbered line) (words : List String) :
    (reader.buffers source).readTags line words = spread source (reader.readTags line words) := by
  cases read : tagNames words with
  | error cause =>
      simp only [Buffers.readTags, Reader.readTags, read]
      exact refuse_buffers source reader cause line
  | ok tags =>
      rcases reader with ⟨place, _ | pending⟩
      · simp [Buffers.readTags, Reader.readTags, read, Reader.pendingTags]
      · have set := numbered.pendingLine_ne_zero rfl
        simp [Buffers.readTags, Reader.readTags, read, Reader.pendingTags, set]

/-- The check of a row, with the source in its error. -/
theorem spread_map_checkRow (cells : List String) (rows : List (List String))
    (after : Unit → Reader) :
    spread source ((Reader.checkRow line cells rows).map after) =
      (inSource source (Reader.checkRow line cells rows)).map fun checked =>
        (after checked).buffers source := by
  cases Reader.checkRow line cells rows <;> rfl

theorem readRow_buffers (reader : Reader) (rest : List Char) :
    (reader.buffers source).readRow line rest = spread source (reader.readRow line rest) := by
  have stray := refuse_buffers source reader .strayRow line
  have unread := refuse_buffers source reader .openRow line
  cases read : Row.read? rest with
  | none =>
      simp only [Buffers.readRow, Reader.readRow, read]
      exact unread
  | some cells =>
      rcases reader with ⟨place, pending⟩
      cases place with
      | examples feature block table =>
          simp only [Reader.readRow, read, spread_map_checkRow]
          simp [Buffers.readRow, read]
      | steps feature block =>
          cases last : block.last with
          | none =>
              simp only [Reader.readRow, read, last]
              rw [← stray]
              simp [Buffers.readRow, read, Block.openRows, Buffers.acceptsArgument, last]
          | some openStep =>
              simp only [Reader.readRow, read, last, spread_map_checkRow]
              by_cases bare : openStep.rows = []
              · simp [Buffers.readRow, read, Block.openRows, Buffers.acceptsArgument,
                  Block.bareSteps, last, bare, Reader.checkRow]
                rfl
              · simp [Buffers.readRow, read, Block.openRows, last, bare, Block.bareSteps]
      | _ =>
          simp only [Buffers.readRow, Reader.readRow, read]
          exact stray

theorem readFence_buffers (flushed : reader.place.endTable = reader.place) (fence : Fence)
    (indent : List Char) (contentType : Option String) :
    (reader.buffers source).readFence line fence indent contentType =
      spread source (reader.readFence line fence indent contentType) := by
  have stray := refuse_buffers source reader .strayDocString line
  rcases reader with ⟨place, pending⟩
  cases place with
  | steps feature block =>
      cases last : block.last with
      | none =>
          simp only [Reader.readFence, last]
          rw [← stray]
          simp [Buffers.readFence, Buffers.acceptsArgument, last]
      | some openStep =>
          have bare : openStep.rows = [] := by
            simpa [Block.openRows, last] using openRows_of_flushed flushed
          simp [Buffers.readFence, Reader.readFence, Buffers.acceptsArgument, Block.bareSteps,
            Block.openRows, last, bare]
  | _ => exact stray

/-! ## Headers -/

theorem readFeature_buffers (reader : Reader) (name : String) :
    (reader.buffers source).readFeature line name =
      spread source (reader.readFeature line name) := by
  have refused := refuse_buffers source reader
  rcases reader with ⟨place, pending⟩
  cases place with
  | outside =>
      by_cases unnamed : name.isEmpty
      · simp only [Reader.readFeature, unnamed, if_true]
        rw [← refused]
        simp [Buffers.readFeature, unnamed]
      · simp only [Reader.readFeature, unnamed]
        simp [Buffers.readFeature, unnamed]
        rfl
  | _ => exact refused _ line

theorem readBackground_buffers (numbered : reader.Numbered line)
    (ordered : reader.place.Ordered) (outside : reader.place.inDocString = false)
    (keyword : String) :
    (reader.buffers source).readBackground line keyword =
      spread source (reader.readBackground line keyword) := by
  have refused := refuse_buffers source reader
  rcases reader with ⟨place, _ | pending⟩
  · cases place with
    | outside => exact refused (.beforeFeature keyword) line
    | intro feature =>
        obtain ⟨background, definitions⟩ := ordered
        simp [Buffers.readBackground, Reader.readBackground, Reader.start, BlockKind.mode,
          Block.bareSteps, Block.openRows, lastKeyword, background, definitions]
    | steps feature block =>
        simp only [Reader.readBackground]
        rw [← refused, Reader.backgroundProblem]
        by_cases second : feature.background.isSome || block.kind == .background
        · simp [Buffers.readBackground, second]
        · simp [Buffers.readBackground, second]
    | examples feature block table =>
        obtain ⟨outline, -⟩ := ordered
        simp only [Reader.readBackground]
        rw [← refused, Reader.backgroundProblem]
        by_cases second : feature.background.isSome
        · simp [Buffers.readBackground, second]
        · simp [Buffers.readBackground, second, outline, BlockKind.mode]
    | docString => simp [Place.inDocString] at outside
  · have waits : pending.tags ≠ [] := (numbered.pending pending rfl).2
    cases place with
    | outside => exact refused (.beforeFeature keyword) line
    | docString => simp [Place.inDocString] at outside
    | _ =>
        simp only [Reader.readBackground]
        rw [← refused]
        simp [Buffers.readBackground, waits]

theorem readScenario_buffers (ordered : reader.place.Ordered)
    (outside : reader.place.inDocString = false) (kind : BlockKind) (keyword name : String) :
    (reader.buffers source).readScenario line kind.mode keyword name =
      spread source (reader.readScenario line kind keyword name) := by
  have finished := finishBlock_buffers source ordered outside
  by_cases start : reader.place = .outside
  · have unnamed := (featureName_eq_none_iff source reader).mpr start
    have nothing := close_eq_ok_none_iff.mpr start
    simp only [Reader.readScenario, nothing]
    rw [← refuse_buffers source reader]
    simp [Buffers.readScenario, unnamed]
  · have named := mt (featureName_eq_none_iff source reader).mp start
    have something := mt close_eq_ok_none_iff.mp start
    simp only [Buffers.readScenario, Option.isNone_iff_eq_none, named, if_false, finished,
      Reader.readScenario]
    cases closes : reader.place.close with
    | error error => rfl
    | ok after =>
        cases after with
        | none => exact absurd closes something
        | some feature => rfl

theorem readExamples_buffers (flushed : reader.place.endTable = reader.place)
    (ordered : reader.place.Ordered) (outside : reader.place.inDocString = false) :
    (reader.buffers source).readExamples line = spread source (reader.readExamples line) := by
  have stray := refuse_buffers source reader .strayExamples line
  rcases reader with ⟨place, pending⟩
  cases place with
  | steps feature block =>
      have bare := openRows_of_flushed flushed
      have steps := bareSteps_of_openRows bare
      by_cases outline : block.kind = .outline
      · simp [Buffers.readExamples, Reader.readExamples, Reader.start, Reader.pendingTags,
          Buffers.finishExamples, Buffers.dropTags, steps, bare, outline, BlockKind.mode]
      · simp only [Reader.readExamples, outline, if_false]
        rw [← stray]
        simp [Buffers.readExamples, outline]
  | examples feature block table =>
      obtain ⟨outline, settled⟩ := ordered
      simp [Buffers.readExamples, Reader.readExamples, Reader.start, Reader.pendingTags,
        Buffers.finishExamples, Buffers.dropTags, outline, settled, BlockKind.mode, Block.bareSteps]
  | docString => simp [Place.inDocString] at outside
  | _ => exact stray

/-! ## Steps and text -/

/-- What a conjunction repeats is the last keyword that is none. -/
theorem resolved_getLast?_eq_lastKeyword {steps : List Step} (resolved : ResolvedFrom none steps) :
    (steps.getLast?.map Step.resolved).getD .context = (lastKeyword steps).getD .context := by
  induction steps using List.reverseRecOn with
  | nil => rfl
  | append_singleton steps step ih =>
      obtain ⟨before, last⟩ := resolvedFrom_concat_iff.mp resolved
      rw [Option.or_none] at last
      rw [List.getLast?_concat, lastKeyword_concat, Option.map_some, Option.getD_some, last,
        Keyword.resolve]
      by_cases conjunction : step.keyword.isConjunction
      · rw [if_pos conjunction, if_pos conjunction, ih before]
      · rw [if_neg conjunction, if_neg conjunction, Option.getD_some]

theorem readStep_buffers (flushed : reader.place.endTable = reader.place) (sound : reader.Sound)
    (numbered : reader.Numbered line) (keyword : Keyword) (text whole : String) :
    (reader.buffers source).readStep line keyword text whole =
      spread source (reader.readStep line keyword text whole) := by
  have refused := refuse_buffers source reader
  rcases reader with ⟨place, _ | pending⟩
  · cases place with
    | steps feature block =>
        have bare := openRows_of_flushed flushed
        have steps := bareSteps_of_openRows bare
        have resolves : (if keyword.isConjunction then (lastKeyword block.steps).getD .context
            else keyword) = keyword.resolve block.previous := by
          rw [Keyword.resolve, Block.previous,
            resolved_getLast?_eq_lastKeyword sound.place.2.steps.resolved]
        simp [Buffers.readStep, Reader.readStep, Reader.start, Block.addStep, steps, bare, resolves,
          lastKeyword_concat]
    | examples feature block table => exact refused .stepAfterExamples line
    | _ => exact refused (.strayStep whole) line
  · have waits : pending.tags ≠ [] := (numbered.pending pending rfl).2
    simp only [Reader.readStep]
    rw [← refused]
    simp [Buffers.readStep, waits]

theorem readText_buffers (flushed : reader.place.endTable = reader.place) (whole : String) :
    (reader.buffers source).readText line whole = spread source (reader.readText line whole) := by
  have refused := refuse_buffers source reader
  rcases reader with ⟨place, pending⟩
  cases place with
  | outside => exact refused (.expectedFeature whole) line
  | intro feature => rfl
  | steps feature block =>
      have steps := bareSteps_of_openRows (openRows_of_flushed flushed)
      by_cases fresh : block.steps.isEmpty
      · simp [Buffers.readText, Reader.readText, steps, fresh]
      · simp only [Reader.readText, fresh]
        rw [if_neg (by simp), ← refused]
        simp [Buffers.readText, steps, fresh]
  | examples feature block table =>
      by_cases fresh : table.rows.isEmpty
      · simp [Buffers.readText, Reader.readText, Mode.takesSteps, fresh]
      · simp only [Reader.readText, fresh]
        rw [if_neg (by simp), ← refused]
        simp [Buffers.readText, Mode.takesSteps, fresh]
  | docString feature block step doc => exact refused (.strayText whole) line

/-! ## Lines -/

/-- In a doc string there is a step to give it to. -/
theorem readDocLine_buffers (feature : OpenFeature) {block : Block} (settled : block.last = none)
    (step : Step) (doc : OpenDocString) (pending : Option PendingTags) (raw : List Char) :
    (Reader.buffers ⟨.docString feature block step doc, pending⟩ source).readDocLine raw =
      .ok ((Reader.readDocLine ⟨.docString feature block step doc, pending⟩ feature block step doc
        raw).buffers source) := by
  by_cases closes : Text.trim raw = doc.fence.text
  · simp [Buffers.readDocLine, Reader.readDocLine, Buffers.attach, Except.map, closes, settled,
      lastKeyword_concat]
  · simp [Buffers.readDocLine, Reader.readDocLine, closes]

theorem readOther_buffers (flushed : reader.place.endTable = reader.place)
    (outside : reader.place.inDocString = false) (valid : reader.Valid line) (kind : Line) :
    (reader.buffers source).readOther line kind = spread source (reader.readOther line kind) := by
  cases kind with
  | blank => rfl
  | row rest => rfl
  | tags words => exact readTags_buffers valid.numbered words
  | fence fence indent contentType => exact readFence_buffers flushed fence indent contentType
  | header header keyword title =>
      cases header with
      | feature => exact readFeature_buffers reader title
      | background => exact readBackground_buffers valid.numbered valid.ordered outside keyword
      | outline => exact readScenario_buffers valid.ordered outside .outline keyword title
      | scenario => exact readScenario_buffers valid.ordered outside .scenario keyword title
      | examples => exact readExamples_buffers flushed valid.ordered outside
  | step keyword text whole =>
      exact readStep_buffers flushed valid.sound valid.numbered keyword text whole
  | text whole => exact readText_buffers flushed whole

theorem readLine_buffers (outside : reader.place.inDocString = false) (valid : reader.Valid line)
    (kind : Line) :
    (reader.buffers source).readLine line kind = spread source (reader.readLine line kind) := by
  cases kind with
  | blank => rfl
  | row rest => exact readRow_buffers reader rest
  | _ =>
      simp only [Buffers.readLine, flushTable_buffers, Reader.readLine]
      apply readOther_buffers
      · exact reader.place.endTable_endTable
      · rw [← outside]
        exact reader.place.inDocString_endTable
      · exact valid.endTable

theorem mode_buffers_eq_docString_iff (source : Option String) (reader : Reader) :
    (reader.buffers source).mode = .docString ↔ reader.place.inDocString = true := by
  rcases reader with ⟨place, pending⟩
  cases place <;> simp [Place.inDocString]

/-- A line is read in the same way before and after a reader is spread. -/
theorem next_buffers (valid : reader.Valid line) (raw : List Char) :
    (reader.buffers source).next line raw = spread source (reader.next line raw) := by
  cases inside : reader.place.inDocString with
  | true =>
      have mode := (mode_buffers_eq_docString_iff source reader).mpr inside
      rw [Buffers.next, if_pos mode]
      rcases reader with ⟨place, pending⟩
      cases place with
      | docString feature block step doc =>
          obtain ⟨-, -, -, -, settled, -⟩ := valid.sound.place
          exact readDocLine_buffers feature settled step doc pending raw
      | _ => simp [Place.inDocString] at inside
  | false =>
      have mode : (reader.buffers source).mode ≠ .docString := by
        simp [mode_buffers_eq_docString_iff, inside]
      rw [Buffers.next, if_neg mode, Reader.next_eq_readLine inside]
      exact readLine_buffers inside valid (Line.classify raw)

theorem readLines_buffers (source : Option String) {lines : List (List Char)}
    (valid : reader.Valid line) (noFeed : ∀ raw ∈ lines, '\n' ∉ raw) :
    (reader.buffers source).readLines line lines =
      spread source (reader.readLines line lines) := by
  induction lines generalizing reader line with
  | nil => rfl
  | cons raw rest ih =>
      rw [Buffers.readLines, Reader.readLines, next_buffers valid raw]
      cases read : reader.next line raw with
      | error error => rfl
      | ok after =>
          exact ih (valid.next (noFeed raw List.mem_cons_self) read) fun other member =>
            noFeed other (List.mem_cons_of_mem raw member)

/-! ## Documents -/

theorem featureName_of_close {place : Place} {feature : OpenFeature}
    (closes : place.close = .ok (some feature)) :
    (place.buffers source).featureName = some feature.name := by
  obtain ⟨before, found, same⟩ := Place.feature?_of_close closes
  have name : feature.name = before.name := by
    rw [same]
  rw [name]
  cases place with
  | outside => simp [Place.feature?] at found
  | _ =>
      obtain rfl := Option.some.inj found
      rfl

/-- A document ends in the same way before and after a reader is spread. -/
theorem finish_buffers (source : Option String) (valid : reader.Valid line) (count : Nat) :
    (reader.buffers source).finish count =
      (inSource source (reader.finish count)).map fun feature => feature.complete source := by
  rcases reader with ⟨place, pending⟩
  cases inside : place.inDocString with
  | true =>
      cases place with
      | docString feature block step doc => rfl
      | _ => simp [Place.inDocString] at inside
  | false =>
      have noDoc : (Reader.buffers ⟨place, pending⟩ source).doc = none := by
        cases place with
        | docString => simp [Place.inDocString] at inside
        | _ => rfl
      simp only [Buffers.finish, noDoc, flushTable_buffers]
      cases pending with
      | some pending =>
          have waits : pending.tags ≠ [] := (valid.numbered.pending pending rfl).2
          rw [Reader.finish_of_pending inside]
          simp [Buffers.refuse, inSource, Except.map, waits, -Place.buffers]
      | none =>
          have outside : place.endTable.inDocString = false := by
            rw [Place.inDocString_endTable, inside]
          have finished := finishBlock_buffers source valid.endTable.ordered outside
          have unnamed := featureName_eq_none_iff source ⟨place.endTable, none⟩
          rw [← close_eq_ok_none_iff] at unnamed
          simp only [Place.close_endTable] at finished unnamed
          rw [Reader.finish_of_no_pending inside, finished]
          cases closes : place.close with
          | error error =>
              obtain ⟨name, named⟩ := Option.ne_none_iff_exists'.mp
                (mt unnamed.mp (by simp [closes]))
              simp only [named]
              rfl
          | ok after =>
              cases after with
              | none =>
                  simp only [unnamed.mpr closes]
                  simp [Buffers.refuse, inSource, Except.map, -Place.buffers]
              | some feature =>
                  rw [← Place.close_endTable] at closes
                  have named : (Reader.buffers ⟨place.endTable, none⟩ source).featureName =
                      some feature.name :=
                    featureName_of_close closes
                  simp only [named]
                  rfl

/-- Both readers give the same for every text. -/
theorem readBuffered_eq_inSource_read (text : String) (source : Option String) :
    readBuffered text source = inSource source (read text source) := by
  have noFeed : ∀ raw ∈ Text.lines (Text.dropMark text.toList), '\n' ∉ raw :=
    fun _ => Text.not_mem_of_mem_lines
  have lines := readLines_buffers source valid_initial noFeed
  have initial : ({ source } : Buffers) = ({} : Reader).buffers source := rfl
  rw [readBuffered, initial, lines, read, readDocument]
  cases outcome : ({} : Reader).readLines 1 (Text.lines (Text.dropMark text.toList)) with
  | error error => rfl
  | ok reader =>
      have ends := finish_buffers source (valid_initial.readLines noFeed outcome)
        (Text.lines (Text.dropMark text.toList)).length
      simp only [spread_ok, ends]
      cases reader.finish (Text.lines (Text.dropMark text.toList)).length <;> rfl

/-- Every text is read or refused, by both readers alike, and neither fault occurs: a
state that is reached has every buffer that is needed.  A refusal names the source and
one of the lines of the text, or the first line of a text without lines. -/
theorem readBuffered_ok_or_refused (text : String) (source : Option String) :
    (∃ feature, readBuffered text source = .ok feature ∧ read text source = .ok feature) ∨
      ∃ error, readBuffered text source = .error (.refused error) ∧
        read text source = .error error ∧ error.source = source ∧ 1 ≤ error.line ∧
          error.line ≤ max 1 ((Text.lines (Text.dropMark text.toList)).length : Int) := by
  rw [readBuffered_eq_inSource_read]
  cases outcome : read text source with
  | ok feature =>
      left
      exact ⟨feature, rfl, rfl⟩
  | error error =>
      obtain ⟨named, first, last⟩ := line_of_read_error outcome
      right
      have same :
          inSource source (.error error : Except Error Feature) = .error (.refused error) := by
        rw [inSource, ← named]
      exact ⟨error, same, rfl, named, first, last⟩

end Gherkin.Document
