import Gherkin.Proofs.Document.Printable
import Gherkin.Proofs.Document.Taken
import Gherkin.Proofs.Text.Lines

/-!
# What is read is well formed

Every feature that is read could have been written: its texts are trimmed and stand
on one line, its tables are grids, its outlines have examples.  The reader is well
formed at every line, whatever the lines before it were.
-/

namespace Gherkin.Document

open Gherkin.Text

/-! ## Lines -/

/-- What the parts of a line are like, whatever stands on it. -/
def Line.Sound : Line → Prop
  | .fence _ _ contentType => IsContentType contentType
  | .header _ _ title => IsTitle title
  | .step _ words _ => IsTitle words ∧ words.toList ≠ []
  | .text whole => IsFreeText whole
  | .tags words => words ≠ []
  | .blank | .row _ => True

theorem isTitle_trim {cs : List Char} (noFeed : '\n' ∉ cs) : IsTitle (String.ofList (trim cs)) := by
  constructor
  · rw [String.toList_ofList]
    exact trimmed_trim cs
  · rw [String.toList_ofList]
    exact fun member => noFeed (mem_of_mem_trim member)

/-- A text that ends a trimmed line is empty only if it is nothing but that. -/
theorem trim_ne_nil_of_trimmed {front rest : List Char} (trimmed : Trimmed (front ++ ' ' :: rest)) :
    trim rest ≠ [] := by
  intro empty
  have blank := trim_eq_nil_iff.mp empty
  have lastBlank : ∀ c, (' ' :: rest).getLast? = some c → isBlank c := by
    intro c last
    rcases List.mem_cons.mp (List.mem_of_getLast? last) with rfl | member
    · decide
    · exact blank c member
  obtain ⟨c, last⟩ : ∃ c, (' ' :: rest).getLast? = some c :=
    ⟨_, List.getLast?_eq_some_getLast (List.cons_ne_nil ' ' rest)⟩
  refine ((trimmed_iff _).mp trimmed).2 c ?_ (lastBlank c last)
  rw [List.getLast?_append_of_ne_nil front (List.cons_ne_nil ' ' rest), last]

/-- A tag line holds at least the word that it begins with. -/
theorem tagWords_ne_nil (rest : List Char) : Line.tagWords ('@' :: rest) ≠ [] := by
  have first : before [' ', '#'] ('@' :: rest) = '@' :: before [' ', '#'] rest := by
    rw [before, if_neg (by simp [dropPrefix?])]
  rw [Line.tagWords, first, ne_eq, List.map_eq_nil_iff]
  exact words_ne_nil_of_solid (by decide) _

theorem Line.sound_classify {raw : List Char} (noFeed : '\n' ∉ raw) :
    (Line.classify raw).Sound := by
  have noFeedTrim : '\n' ∉ trim raw := fun member => noFeed (mem_of_mem_trim member)
  have described := Line.describes_classify raw
  cases kind : Line.classify raw with
  | blank | row => trivial
  | tags words =>
      rw [kind] at described
      obtain ⟨rest, -, rfl⟩ := described
      exact tagWords_ne_nil rest
  | fence mark indent contentType =>
      rw [kind] at described
      obtain ⟨-, rest, whole, rfl⟩ := described
      have restNoFeed : '\n' ∉ rest := fun member => noFeedTrim (by simp [whole, member])
      rw [Line.Sound]
      by_cases empty : trim rest = []
      · simp [empty, IsContentType]
      · simp [empty, IsContentType, isTitle_trim restNoFeed]
  | header header word title =>
      rw [kind] at described
      obtain ⟨-, rest, whole, rfl⟩ := described
      have restNoFeed : '\n' ∉ rest := fun member => noFeedTrim (by simp [whole, member])
      exact isTitle_trim restNoFeed
  | step keyword text whole =>
      rw [kind] at described
      obtain ⟨-, rest, whole, rfl⟩ := described
      have restNoFeed : '\n' ∉ rest := fun member => noFeedTrim (by simp [whole, member])
      constructor
      · exact isTitle_trim restNoFeed
      · rw [String.toList_ofList]
        exact trim_ne_nil_of_trimmed (whole ▸ trimmed_trim raw)
  | text whole =>
      rw [kind] at described
      obtain ⟨rfl, nonempty, plain⟩ := described
      exact ⟨isTitle_trim noFeed, by simpa using nonempty, by simpa using plain⟩

theorem isTag_of_tagNames {words tags : List String} (read : tagNames words = .ok tags) :
    ∀ tag ∈ tags, IsTag tag := by
  induction words generalizing tags with
  | nil =>
      obtain rfl := Except.ok.inj read
      simp
  | cons word words ih =>
      rw [tagNames] at read
      split at read
      · simp at read
      · rename_i name first
        obtain ⟨later, laterRead, rfl⟩ := map_eq_ok_iff.mp read
        intro tag member
        rcases List.mem_cons.mp member with rfl | inLater
        · exact (tagName?_eq_some_iff.mp first).2
        · exact ih laterRead tag inLater

/-! ## Rows and steps -/

theorem isGrid_nil : IsGrid [] := by
  constructor <;> simp

/-- A row that is read and passes the check continues a grid. -/
theorem IsGrid.concat {rows : List (List String)} (grid : IsGrid rows) {cells : List String}
    {rest : List Char} {line : Int} (read : Row.read? rest = some cells)
    (even : Reader.checkRow line cells rows = .ok ()) : IsGrid (rows ++ [cells]) := by
  obtain ⟨nonempty, trimmed⟩ := Row.of_read?_eq_some read
  have width : cells.length = ((rows ++ [cells]).headD []).length := by
    cases rows with
    | nil => rfl
    | cons first later =>
        rw [Reader.checkRow] at even
        split at even
        · assumption
        · simp at even
  have head : rows ≠ [] → (rows ++ [cells]).headD [] = rows.headD [] := by
    cases rows <;> simp
  constructor
  · intro row member
    rcases List.mem_append.mp member with before | last
    · exact grid.nonempty row before
    · rwa [List.mem_singleton.mp last]
  · intro row member
    rcases List.mem_append.mp member with before | last
    · exact grid.trimmed row before
    · rwa [List.mem_singleton.mp last]
  · intro row member
    rcases List.mem_append.mp member with before | last
    · rw [head (List.ne_nil_of_mem before)]
      exact grid.even row before
    · rw [List.mem_singleton.mp last]
      exact width

theorem resolvedFrom_concat_iff {previous : Option Keyword} {steps : List Step} {step : Step} :
    ResolvedFrom previous (steps ++ [step]) ↔
      ResolvedFrom previous steps ∧
        step.resolved =
          step.keyword.resolve ((steps.getLast?.map Step.resolved).or previous) := by
  induction steps generalizing previous with
  | nil => simp [ResolvedFrom]
  | cons first later ih =>
      have last : ((first :: later).getLast?.map Step.resolved).or previous =
          (later.getLast?.map Step.resolved).or (some first.resolved) := by
        rw [List.getLast?_cons]
        cases later.getLast? <;> rfl
      rw [List.cons_append, ResolvedFrom, ih, ResolvedFrom, last, and_assoc]

theorem areSteps_concat_iff {steps : List Step} {step : Step} :
    AreSteps (steps ++ [step]) ↔
      AreSteps steps ∧ IsStep step ∧
        step.resolved = step.keyword.resolve (steps.getLast?.map Step.resolved) := by
  constructor
  · rintro ⟨each, resolved⟩
    rw [resolvedFrom_concat_iff, Option.or_none] at resolved
    exact ⟨⟨fun other member => each other (by simp [member]), resolved.1⟩, each step (by simp),
      resolved.2⟩
  · rintro ⟨⟨each, before⟩, valid, resolved⟩
    constructor
    · intro other member
      rcases List.mem_append.mp member with earlier | last
      · exact each other earlier
      · rwa [List.mem_singleton.mp last]
    · exact resolvedFrom_concat_iff.mpr ⟨before, by simpa using resolved⟩

/-- A step that was opened: it has a text and no argument yet. -/
structure IsBareStep (step : Step) : Prop where
  title : IsTitle step.text
  nonempty : step.text.toList ≠ []
  table : step.table = none
  doc : step.doc = none

theorem IsBareStep.isStep {step : Step} (bare : IsBareStep step) : IsStep step where
  title := bare.title
  nonempty := bare.nonempty
  table := by simp [bare.table]
  doc := by simp [bare.doc]
  oneArgument := .inl bare.table

/-- The last step of a block while it is open. -/
structure OpenStep.Sound (openStep : OpenStep) : Prop where
  bare : IsBareStep openStep.step
  grid : IsGrid openStep.rows

theorem OpenStep.Sound.isStep_close {openStep : OpenStep} (sound : openStep.Sound) :
    IsStep openStep.close := by
  rw [OpenStep.close]
  split
  · exact sound.bare.isStep
  · rename_i nonempty
    exact
      { title := sound.bare.title
        nonempty := sound.bare.nonempty
        table := by simpa using ⟨by simpa using nonempty, sound.grid⟩
        doc := by simp [sound.bare.doc]
        oneArgument := .inr sound.bare.doc }

/-! ## Places -/

/-- A block while it is open: its steps and examples so far are well formed. -/
structure Block.Sound (block : Block) : Prop where
  name : IsTitle block.name
  tags : ∀ tag ∈ block.tags, IsTag tag
  steps : AreSteps block.steps
  last : ∀ openStep ∈ block.last, openStep.Sound
  examples : ∀ examples ∈ block.examples, IsExamples examples

/-- Examples while they are open. -/
structure OpenExamples.Sound (table : OpenExamples) : Prop where
  tags : ∀ tag ∈ table.tags, IsTag tag
  grid : IsGrid table.rows

/-- The place of a reader: the feature so far and what is open in it. -/
def Place.Sound : Place → Prop
  | .outside => True
  | .intro feature => WellFormed (feature.complete none)
  | .steps feature block => WellFormed (feature.complete none) ∧ block.Sound
  | .examples feature block table =>
      WellFormed (feature.complete none) ∧ block.Sound ∧ table.Sound
  | .docString feature block step doc =>
      WellFormed (feature.complete none) ∧ block.Sound ∧ AreSteps (block.steps ++ [step]) ∧
        IsBareStep step ∧ block.last = none ∧ IsContentType doc.contentType

/-- A reader at any line of any document. -/
structure Reader.Sound (reader : Reader) : Prop where
  place : reader.place.Sound
  pending : ∀ tag ∈ reader.pendingTags, IsTag tag

theorem Block.Sound.endTable {block : Block} (sound : block.Sound) : block.endTable.Sound := by
  have head := block.endTable_eq
  constructor
  · rw [head]
    exact sound.name
  · rw [head]
    exact sound.tags
  · rw [Block.steps_endTable]
    exact sound.steps
  · intro openStep last
    exact sound.last openStep (Block.last_endTable_eq_some_iff.mp last).1
  · rw [head]
    exact sound.examples

theorem Place.Sound.endTable {place : Place} (sound : place.Sound) : place.endTable.Sound := by
  cases place with
  | steps feature block => exact ⟨sound.1, sound.2.endTable⟩
  | _ => exact sound

theorem Block.Sound.settle {block : Block} (sound : block.Sound) : block.settle.Sound where
  name := sound.name
  tags := sound.tags
  steps := by simpa using sound.steps
  last := by simp [Block.settle]
  examples := sound.examples

/-- Another step at the end of a block whose last step was closed. -/
theorem Block.Sound.concat {block : Block} (sound : block.Sound) {settled : List Step}
    {last : Option OpenStep} (lastSound : ∀ openStep ∈ last, openStep.Sound)
    (steps : AreSteps { block with settled, last }.steps) :
    ({ block with settled, last } : Block).Sound where
  name := sound.name
  tags := sound.tags
  steps := steps
  last := lastSound
  examples := sound.examples

/-- The rows of examples are those that were read. -/
theorem examplesRows_close {table : OpenExamples} (nonempty : ∀ row ∈ table.rows, row ≠ []) :
    examplesRows table.close = table.rows := by
  obtain ⟨tags, line, rows⟩ := table
  cases rows with
  | nil => rfl
  | cons header rows =>
      have headerNonempty : header ≠ [] := nonempty header List.mem_cons_self
      simp [examplesRows, OpenExamples.close, headerNonempty]

theorem OpenExamples.Sound.isExamples_close {table : OpenExamples} (sound : table.Sound) :
    IsExamples table.close where
  tags := sound.tags
  bare := by
    obtain ⟨tags, line, rows⟩ := table
    cases rows with
    | nil => exact fun _ => rfl
    | cons header rows =>
        exact fun bare => absurd bare (sound.grid.nonempty header List.mem_cons_self)
  grid := by
    rw [examplesRows_close sound.grid.nonempty]
    exact sound.grid

/-- A feature with another definition. -/
theorem WellFormed.concat {feature : OpenFeature} (sound : WellFormed (feature.complete none))
    {definition : Definition} (valid : IsDefinition definition) :
    WellFormed (({ feature with
      definitions := feature.definitions ++ [definition] } : OpenFeature).complete none) where
  name := sound.name
  named := sound.named
  description := sound.description
  tags := sound.tags
  background := sound.background
  definitions := by
    intro other member
    rcases List.mem_append.mp member with before | last
    · exact sound.definitions other before
    · rwa [List.mem_singleton.mp last]

theorem wellFormed_addBlock {feature after : OpenFeature}
    (sound : WellFormed (feature.complete none)) {block : Block} (blockSound : block.Sound)
    (closes : feature.addBlock block = .ok after) : WellFormed (after.complete none) := by
  rw [OpenFeature.addBlock] at closes
  split at closes
  · obtain rfl := Except.ok.inj closes
    exact
      { name := sound.name
        named := sound.named
        description := sound.description
        tags := sound.tags
        background := by simpa [OpenFeature.complete] using blockSound.steps
        definitions := sound.definitions }
  · obtain rfl := Except.ok.inj closes
    exact sound.concat
      { name := blockSound.name
        tags := blockSound.tags
        steps := blockSound.steps
        examples := by simp [examplesOf]
        filled := by simp [headerOf] }
  · split at closes
    · simp at closes
    · rename_i filled
      obtain rfl := Except.ok.inj closes
      exact sound.concat
        { name := blockSound.name
          tags := blockSound.tags
          steps := blockSound.steps
          examples := blockSound.examples
          filled := fun _ => by simpa [examplesOf] using filled }

theorem Place.Sound.wellFormed_of_close {place : Place} (sound : place.Sound)
    {feature : OpenFeature} (closes : place.close = .ok (some feature)) :
    WellFormed (feature.complete none) := by
  cases place with
  | outside => simp [Place.close] at closes
  | intro before =>
      obtain rfl : before = feature := by simpa [Place.close] using closes
      exact sound
  | steps before block =>
      obtain ⟨_, added, same⟩ := map_eq_ok_iff.mp closes
      obtain rfl := Option.some.inj same
      exact wellFormed_addBlock sound.1 sound.2 added
  | examples before block table =>
      obtain ⟨_, added, same⟩ := map_eq_ok_iff.mp closes
      obtain rfl := Option.some.inj same
      obtain ⟨featureSound, blockSound, tableSound⟩ := sound
      refine wellFormed_addBlock featureSound ?_ added
      refine { blockSound with examples := ?_ }
      intro examples member
      rcases List.mem_append.mp member with earlier | last
      · exact blockSound.examples examples earlier
      · rw [List.mem_singleton.mp last]
        exact tableSound.isExamples_close
  | docString => simp [Place.close] at closes

/-! ## Readers -/

/-- A block whose header was just read. -/
theorem soundBlock_of_header {kind : BlockKind} {name : String} {tags : List String} {line : Int}
    (title : IsTitle name) (valid : ∀ tag ∈ tags, IsTag tag) :
    ({ kind, name, tags, line } : Block).Sound where
  name := title
  tags := valid
  steps := ⟨by simp [Block.steps], trivial⟩
  last := by simp
  examples := by simp

theorem Block.Sound.addStep {block : Block} (sound : block.Sound) {keyword : Keyword}
    {text : String} {line : Int} (title : IsTitle text) (nonempty : text.toList ≠ []) :
    (block.addStep
      { keyword, text, resolved := keyword.resolve block.previous, line }).Sound := by
  have bare : IsBareStep
      { keyword, text, resolved := keyword.resolve block.previous, line } :=
    ⟨title, nonempty, rfl, rfl⟩
  apply sound.concat
  · rintro openStep last
    obtain rfl := Option.some.inj last
    exact ⟨bare, isGrid_nil⟩
  · exact areSteps_concat_iff.mpr ⟨sound.steps, bare.isStep, rfl⟩

theorem Block.Sound.addRow {block : Block} (sound : block.Sound) {openStep : OpenStep}
    (last : block.last = some openStep) {cells : List String} {rest : List Char} {line : Int}
    (read : Row.read? rest = some cells)
    (even : Reader.checkRow line cells openStep.rows = .ok ()) :
    ({ block with
      last := some { openStep with rows := openStep.rows ++ [cells] } } : Block).Sound := by
  have openSound := sound.last openStep last
  have grown : OpenStep.Sound { openStep with rows := openStep.rows ++ [cells] } :=
    ⟨openSound.bare, openSound.grid.concat read even⟩
  apply sound.concat
  · rintro other same
    obtain rfl := Option.some.inj same
    exact grown
  · have steps := sound.steps
    have before : block.steps = block.settled ++ [openStep.close] := by
      simp [Block.steps, last]
    rw [before, areSteps_concat_iff] at steps
    refine areSteps_concat_iff.mpr ⟨steps.1, grown.isStep_close, ?_⟩
    have resolved := steps.2.2
    have keeps : ∀ other : OpenStep,
        other.close.keyword = other.step.keyword ∧ other.close.resolved = other.step.resolved := by
      intro other
      rw [OpenStep.close]
      split <;> exact ⟨rfl, rfl⟩
    rw [(keeps _).1, (keeps _).2] at resolved ⊢
    exact resolved

namespace Reader

/-- A line that is taken keeps the reader well formed. -/
theorem Sound.of_taken {reader after : Reader} {line : Int} {kind : Line} (sound : reader.Sound)
    (lineSound : kind.Sound) (taken : Taken line reader kind after) : after.Sound := by
  obtain ⟨placeSound, pendingSound⟩ := sound
  cases taken with
  | blank => exact ⟨placeSound, pendingSound⟩
  | tags read =>
      refine ⟨placeSound.endTable, fun tag member => ?_⟩
      rcases List.mem_append.mp member with before | new
      · exact pendingSound tag before
      · exact isTag_of_tagNames read tag new
  | stepRow last read even =>
      exact ⟨⟨placeSound.1, placeSound.2.addRow last read even⟩, pendingSound⟩
  | examplesRow read even =>
      obtain ⟨featureSound, blockSound, tableSound⟩ := placeSound
      exact ⟨⟨featureSound, blockSound, tableSound.tags, tableSound.grid.concat read even⟩,
        pendingSound⟩
  | @fence feature block step _ _ _ _ last =>
      obtain ⟨featureSound, blockSound⟩ := placeSound
      have whole : block.steps = block.settled ++ [step] := by
        simp [Block.steps, last, OpenStep.close]
      have steps := blockSound.steps
      rw [whole] at steps
      refine ⟨⟨featureSound, blockSound.concat (by simp) ?_, ?_, ?_, rfl, lineSound⟩, pendingSound⟩
      · simpa [Block.steps] using (areSteps_concat_iff.mp steps).1
      · simpa [Block.steps] using steps
      · exact (blockSound.last _ last).bare
  | feature named =>
      refine ⟨?_, by simp [pendingTags, Reader.start]⟩
      exact
        { name := lineSound
          named := named
          description := by simp [OpenFeature.complete]
          tags := pendingSound
          background := by simp [OpenFeature.complete]
          definitions := by simp [OpenFeature.complete] }
  | background =>
      refine ⟨⟨placeSound, soundBlock_of_header ?_ (by simp)⟩, by simp [pendingTags, Reader.start]⟩
      exact ⟨trimmed_nil, by simp⟩
  | definition opens closes =>
      exact ⟨⟨placeSound.wellFormed_of_close closes, soundBlock_of_header lineSound pendingSound⟩,
        by simp [pendingTags, Reader.start]⟩
  | firstExamples =>
      exact ⟨⟨placeSound.1, placeSound.2.settle, pendingSound, isGrid_nil⟩,
        by simp [pendingTags, Reader.start]⟩
  | nextExamples =>
      obtain ⟨featureSound, blockSound, tableSound⟩ := placeSound
      refine ⟨⟨featureSound, { blockSound with examples := ?_ }, pendingSound, isGrid_nil⟩,
        by simp [pendingTags, Reader.start]⟩
      intro examples member
      rcases List.mem_append.mp member with earlier | last
      · exact blockSound.examples examples earlier
      · rw [List.mem_singleton.mp last]
        exact tableSound.isExamples_close
  | step =>
      exact ⟨⟨placeSound.1, placeSound.2.addStep lineSound.1 lineSound.2⟩,
        by simp [pendingTags, Reader.start]⟩
  | description =>
      refine ⟨{ placeSound with description := ?_ }, pendingSound⟩
      intro text member
      rcases List.mem_append.mp member with earlier | last
      · exact placeSound.description text earlier
      · rw [List.mem_singleton.mp last]
        exact lineSound
  | blockText => exact ⟨placeSound, pendingSound⟩
  | examplesText => exact ⟨placeSound, pendingSound⟩

/-- A step takes the doc string that was open under it. -/
theorem Sound.closeDoc {feature : OpenFeature} {block : Block} {step : Step}
    {doc : OpenDocString} {pending : Option PendingTags}
    (sound : Sound ⟨.docString feature block step doc, pending⟩) :
    Sound ⟨.steps feature
      { block with settled := block.settled ++ [{ step with doc := some doc.close }] },
      pending⟩ := by
  obtain ⟨⟨featureSound, blockSound, steps, bare, last, contentType⟩, pendingSound⟩ := sound
  refine ⟨⟨featureSound, blockSound.concat (by simp [last]) ?_⟩, pendingSound⟩
  obtain ⟨before, -, resolved⟩ := areSteps_concat_iff.mp steps
  have settled : block.steps = block.settled := by
    simp [Block.steps, last]
  rw [settled] at before resolved
  have valid : IsStep { step with doc := some doc.close } :=
    { title := bare.title
      nonempty := bare.nonempty
      table := by simp [bare.table]
      doc := by simpa [OpenDocString.close] using contentType
      oneArgument := .inl bare.table }
  simpa [Block.steps, last] using areSteps_concat_iff.mpr ⟨before, valid, resolved⟩

theorem Sound.addContent {feature : OpenFeature} {block : Block} {step : Step}
    {doc : OpenDocString} {pending : Option PendingTags}
    (sound : Sound ⟨.docString feature block step doc, pending⟩) (content : Lines) :
    Sound ⟨.docString feature block step { doc with content }, pending⟩ :=
  ⟨sound.place, sound.pending⟩

/-- Every line that is read keeps the reader well formed. -/
theorem Sound.next {reader after : Reader} {line : Int} {raw : List Char} (sound : reader.Sound)
    (noFeed : '\n' ∉ raw) (read : reader.next line raw = .ok after) : after.Sound := by
  obtain ⟨place, pending⟩ := reader
  cases place with
  | docString feature block step doc =>
      obtain rfl := Except.ok.inj read
      rw [Reader.readDocLine]
      split
      · exact sound.closeDoc
      · exact sound.addContent _
  | _ => exact sound.of_taken (Line.sound_classify noFeed) (taken_of_readLine read)

theorem sound_of_readLines {reader after : Reader} {line : Int} {lines : List (List Char)}
    (sound : reader.Sound) (noFeed : ∀ raw ∈ lines, '\n' ∉ raw)
    (read : reader.readLines line lines = .ok after) : after.Sound :=
  readLines_induction (motive := fun _ reader => reader.Sound)
    (fun _ _ raw _ member sound next => sound.next (noFeed raw member) next) sound read

end Reader

/-- What a document is read as is well formed. -/
theorem wellFormed_of_read {text : String} {source : Option String} {feature : Feature}
    (read : read text source = .ok feature) : WellFormed feature ∧ feature.source = source := by
  obtain ⟨place, openFeature, linesRead, closes, rfl⟩ := read_eq_ok_iff.mp read
  have start : Reader.Sound {} := ⟨trivial, by simp [Reader.pendingTags]⟩
  have sound := Reader.sound_of_readLines start (fun _ => not_mem_of_mem_lines) linesRead
  exact ⟨{ sound.place.wellFormed_of_close closes with }, rfl⟩

end Gherkin.Document
