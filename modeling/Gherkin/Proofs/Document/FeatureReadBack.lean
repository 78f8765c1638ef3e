import Gherkin.Proofs.Document.StepsReadBack
import Mathlib.Tactic.Ring

/-!
# Written features are read back

What was written of a feature is read part by part: each definition is added
behind the definitions that were closed before it, and each part is found at the
line at which it was written.
-/

namespace Gherkin

/-- A definition after it was written and read. -/
def Definition.reread : Definition → Definition
  | .scenario s => .scenario { s with steps := s.steps.map Step.reread }
  | .outline o => .outline { o with steps := o.steps.map Step.reread }

/-- A background after it was written and read. -/
def Background.reread (background : Background) : Background :=
  { background with steps := background.steps.map Step.reread }

/-- A feature after it was written and read. -/
def Feature.reread (feature : Feature) : Feature :=
  { feature with
    background := feature.background.map Background.reread
    definitions := feature.definitions.map Definition.reread }

namespace Document

open Gherkin.Text

/-! ## Tags -/

theorem headerAt_eq (line : Int) (level : Nat) (tags : List String) :
    headerAt line tags = line + (tagLines level tags).length := by
  cases tags <;> simp [headerAt, tagLines]

/-- The line behind a header with tags above and lines below it. -/
theorem line_add_length (line : Int) (level : Nat) (tags : List String) (head : List Char)
    (below : Lines) :
    line + ((tagLines level tags ++ head :: below).length : Nat) =
      headerAt line tags + 1 + below.length := by
  rw [headerAt_eq line level, List.length_append, List.length_cons]
  push_cast
  ring

/-- Tags wait for the header under them; the table above them has ended. -/
theorem readLines_tagLines {place : Place} (outside : place.inDocString = false)
    {tags : List String} (valid : ∀ tag ∈ tags, IsTag tag) (level : Nat) (line : Int) :
    ∃ reader : Reader,
      (Reader.start place).readLines line ((tagLines level tags).map dropReturn) = .ok reader ∧
      reader.place.endTable = place.endTable ∧ reader.pendingTags = tags := by
  cases tags with
  | nil => exact ⟨Reader.start place, rfl, rfl, rfl⟩
  | cons tag tags =>
      have read : (Reader.start place).next line
          (dropReturn (indented level (join [' '] (tagWordsOf (tag :: tags))))) =
            .ok { place := place.endTable, pending := some { line, tags := tag :: tags } } := by
        rw [Reader.next_eq_readLine outside, Line.classify_dropReturn,
          classify_tagLine (List.cons_ne_nil tag tags) valid]
        simp only [Reader.readLine, Reader.readOther, Reader.readTags, tagNames_tagWordsOf valid]
        rfl
      refine ⟨{ place := place.endTable, pending := some { line, tags := tag :: tags } }, ?_,
        Place.endTable_endTable place, rfl⟩
      rw [tagLines, if_neg (by simp), List.map_cons, ← tagWordsOf,
        Reader.readLines_cons_of_next read]
      rfl

theorem inDocString_of_endTable_eq {place other : Place} (same : place.endTable = other.endTable)
    (outside : other.inDocString = false) : place.inDocString = false := by
  rw [← Place.inDocString_endTable, same, Place.inDocString_endTable, outside]

/-! ## Headers of definitions -/

/-- The kind of block that a definition is read as. -/
def kindOf : Definition → BlockKind
  | .scenario _ => .scenario
  | .outline _ => .outline

theorem next_definitionHeader {reader : Reader} {feature : OpenFeature}
    (closes : reader.place.close = .ok (some feature)) {definition : Definition}
    (name : IsTitle definition.name) (second : Bool) (line : Int) :
    reader.next line
        (dropReturn (headerLine 1 ((headerOf definition).word second) definition.name)) =
      .ok (Reader.start (.steps feature
        { kind := kindOf definition, name := definition.name, tags := reader.pendingTags,
          line })) := by
  rw [Reader.next_eq_readLine (Place.not_inDocString_of_close closes), Line.classify_dropReturn,
    classify_headerLine name]
  cases definition <;>
    simp [Reader.readLine, headerOf, Reader.readOther, Reader.readScenario, closes, kindOf,
      Reader.pendingTags]

/-- The header of a definition closes what was open and opens the definition. -/
theorem readLines_definitionHead {place : Place} {feature : OpenFeature}
    (closes : place.close = .ok (some feature)) {definition : Definition}
    (valid : IsDefinition definition) (second : Bool) (line : Int) :
    (Reader.start place).readLines line
        ((tagLines 1 definition.tags ++
          [headerLine 1 ((headerOf definition).word second) definition.name]).map dropReturn) =
      .ok (Reader.start (.steps feature
        { kind := kindOf definition, name := definition.name, tags := definition.tags,
          line := headerAt line definition.tags })) := by
  obtain ⟨reader, tagsRead, samePlace, pending⟩ :=
    readLines_tagLines (Place.not_inDocString_of_close closes) valid.tags 1 line
  have readerCloses : reader.place.close = .ok (some feature) := by
    rw [← Place.close_endTable, samePlace, Place.close_endTable, closes]
  have headerRead := next_definitionHeader readerCloses valid.name second
    (headerAt line definition.tags)
  rw [List.map_append, Reader.readLines_append_of_ok tagsRead, List.length_map,
    ← headerAt_eq line 1, List.map_cons, List.map_nil, Reader.readLines_cons_of_next headerRead,
    pending]
  rfl

/-! ## Examples -/

/-- The block that takes the examples which begin at a place. -/
def Place.examplesBlock? : Place → Option (OpenFeature × Block)
  | .steps feature block =>
      if block.kind = .outline then some (feature, block.settle) else none
  | .examples feature block table =>
      some (feature, { block with examples := block.examples ++ [table.close] })
  | _ => none

@[simp]
theorem Place.examplesBlock?_endTable (place : Place) :
    place.endTable.examplesBlock? = place.examplesBlock? := by
  cases place with
  | steps feature block =>
      have kind : block.endTable.kind = block.kind := by
        rw [Block.endTable_eq]
      simp [endTable, examplesBlock?, kind]
  | _ => rfl

theorem readExamples_eq_ok (reader : Reader) {feature : OpenFeature} {block : Block}
    (takes : reader.place.examplesBlock? = some (feature, block)) (line : Int) :
    reader.readExamples line =
      .ok (Reader.start (.examples feature block { tags := reader.pendingTags, line })) := by
  rw [Reader.readExamples]
  cases place : reader.place with
  | steps f b =>
      rw [place, Place.examplesBlock?] at takes
      split at takes
      · rename_i outline
        obtain ⟨rfl, rfl⟩ := Prod.mk.inj (Option.some.inj takes)
        simp [outline, Block.settle]
      · simp at takes
  | examples f b table =>
      rw [place] at takes
      obtain ⟨rfl, rfl⟩ := Prod.mk.inj (Option.some.inj takes)
      rfl
  | _ => simp [place, Place.examplesBlock?] at takes

/-- Rows are taken by the examples they stand under. -/
theorem readLines_exampleRows (feature : OpenFeature) (block : Block) (table : OpenExamples)
    (level : Nat) {rows : List (List String)} (grid : IsGrid rows) (line : Int) :
    (Reader.start (.examples feature block { table with rows := [] })).readLines line
        ((rowLines level rows).map dropReturn) =
      .ok (Reader.start (.examples feature block { table with rows })) := by
  apply readLines_rowLines (fun rows => .examples feature block { table with rows })
    (fun _ => rfl) _ level rows [] grid line
  intro before row line even read
  simp only [Reader.readRow, read, Reader.start, even]
  rfl

/-- Examples are read back at the line of their header. -/
theorem readLines_examplesLines {place : Place} {feature : OpenFeature} {block : Block}
    (takes : place.examplesBlock? = some (feature, block)) {examples : Examples}
    (valid : IsExamples examples) (choice : WordChoice) (line : Int) :
    ∃ table : OpenExamples,
      (Reader.start place).readLines line
          ((examplesLines choice line examples).map dropReturn) =
        .ok (Reader.start (.examples feature block table)) ∧
      table.close = { examples with line := headerAt line examples.tags } := by
  have outside : place.inDocString = false := by
    cases place with
    | docString => simp [Place.examplesBlock?] at takes
    | _ => rfl
  obtain ⟨reader, tagsRead, samePlace, pending⟩ :=
    readLines_tagLines outside valid.tags 2 line
  have readerTakes : reader.place.endTable.examplesBlock? = some (feature, block) := by
    rw [samePlace, Place.examplesBlock?_endTable, takes]
  have headerRead : ∀ second, reader.next (headerAt line examples.tags)
      (dropReturn (indented 2 (Header.examples.word second).toList)) =
        .ok (Reader.start (.examples feature block
          { tags := examples.tags, line := headerAt line examples.tags })) := by
    intro second
    rw [Reader.next_eq_readLine (inDocString_of_endTable_eq samePlace outside),
      Line.classify_dropReturn, classify_bareHeader, ← pending]
    exact readExamples_eq_ok { reader with place := reader.place.endTable } readerTakes _
  refine ⟨{ tags := examples.tags, line := headerAt line examples.tags,
            rows := examplesRows examples }, ?_, ?_⟩
  · rw [examplesLines, List.map_append, Reader.readLines_append_of_ok tagsRead, List.length_map,
      ← headerAt_eq line 2, List.map_cons, Reader.readLines_cons_of_next (headerRead _)]
    exact readLines_exampleRows feature block
      { tags := examples.tags, line := headerAt line examples.tags } 3 valid.grid _
  · by_cases bare : examples.header = []
    · simp [OpenExamples.close, examplesRows, bare, valid.bare bare]
    · simp [OpenExamples.close, examplesRows, bare]

theorem length_examplesLines (choice : WordChoice) (line : Int) (examples : Examples) :
    (examplesLines choice line examples).length = examplesHeight examples := by
  simp [examplesHeight, examplesLines]

/-- The examples of an outline are read back, behind those it has. -/
theorem readLines_examplesList {place : Place} {feature : OpenFeature} {block : Block}
    (takes : place.examplesBlock? = some (feature, block)) {list : List Examples}
    (nonempty : list ≠ []) (valid : ∀ examples ∈ list, IsExamples examples)
    (choice : WordChoice) (line : Int) :
    ∃ (after : Block) (table : OpenExamples),
      (Reader.start place).readLines line
          ((partsFrom (examplesLines choice) line list).map dropReturn) =
        .ok (Reader.start (.examples feature after table)) ∧
      { after with examples := after.examples ++ [table.close] } =
        { block with examples := block.examples ++ placeExamples line list } := by
  induction list generalizing place block line with
  | nil => exact absurd rfl nonempty
  | cons first later ih =>
      obtain ⟨table, firstRead, closed⟩ :=
        readLines_examplesLines takes (valid first List.mem_cons_self) choice line
      rw [partsFrom, List.map_append, Reader.readLines_append_of_ok firstRead, List.length_map,
        length_examplesLines, placeExamples, placeFrom, ← placeExamples]
      cases later with
      | nil =>
          refine ⟨block, table, rfl, ?_⟩
          rw [closed]
          rfl
      | cons second rest =>
          have takesNext : (Place.examples feature block table).examplesBlock? =
              some (feature, { block with examples := block.examples ++ [table.close] }) :=
            rfl
          obtain ⟨after, last, restRead, afterEq⟩ :=
            ih takesNext (List.cons_ne_nil second rest)
              (fun other member => valid other (List.mem_cons_of_mem first member))
              (line + examplesHeight first)
          refine ⟨after, last, restRead, ?_⟩
          rw [afterEq, closed]
          simp

/-! ## Definitions -/

theorem placeFrom_eq_nil_iff {α : Type} {height : α → Nat} {place : Int → α → α} {line : Int}
    {parts : List α} : placeFrom height place line parts = [] ↔ parts = [] := by
  cases parts <;> simp [placeFrom]

theorem length_partsFrom {α : Type} {write : Int → α → Lines} {height : α → Nat}
    (same : ∀ line part, (write line part).length = height part) (line : Int) (parts : List α) :
    (partsFrom write line parts).length = (parts.map height).sum := by
  induction parts generalizing line with
  | nil => rfl
  | cons part parts ih => simp [partsFrom, ih, same]

theorem length_definitionLines (choice : WordChoice) (line : Int) (definition : Definition) :
    (definitionLines choice line definition).length = definitionHeight definition := by
  simp [definitionHeight, definitionLines, length_partsFrom (length_examplesLines _)]

/-- The header and the steps of a definition are read back as its block. -/
theorem readLines_definitionBlock {place : Place} {feature : OpenFeature}
    (closes : place.close = .ok (some feature)) {definition : Definition}
    (valid : IsDefinition definition) (second : Bool) (line : Int) :
    ∃ block : Block,
      (Reader.start place).readLines line
          ((tagLines 1 definition.tags ++
            headerLine 1 ((headerOf definition).word second) definition.name ::
              stepsLines definition.steps).map dropReturn) =
        .ok (Reader.start (.steps feature block)) ∧
      block.settle =
        { kind := kindOf definition, name := definition.name, tags := definition.tags,
          line := headerAt line definition.tags,
          settled :=
            (placeSteps (headerAt line definition.tags + 1) definition.steps).map
              Step.reread } := by
  have headRead := readLines_definitionHead closes valid second line
  obtain ⟨block, stepsRead, blockEq⟩ := readLines_stepsLines feature
    { kind := kindOf definition, name := definition.name, tags := definition.tags,
      line := headerAt line definition.tags }
    valid.steps.each valid.steps.resolved (headerAt line definition.tags + 1)
  refine ⟨block, ?_, by simpa [Block.settle, Block.steps] using blockEq⟩
  have split : tagLines 1 definition.tags ++
      headerLine 1 ((headerOf definition).word second) definition.name ::
        stepsLines definition.steps =
      (tagLines 1 definition.tags ++
        [headerLine 1 ((headerOf definition).word second) definition.name]) ++
        stepsLines definition.steps := by
    simp
  have below := line_add_length line 1 definition.tags
    (headerLine 1 ((headerOf definition).word second) definition.name) []
  rw [List.length_nil, Nat.cast_zero, add_zero] at below
  rw [split, List.map_append, Reader.readLines_append_of_ok headRead, List.length_map, below,
    stepsRead]

/-- A definition is read back behind the definitions that were closed before. -/
theorem readLines_definitionLines {place : Place} {feature : OpenFeature}
    (closes : place.close = .ok (some feature)) {definition : Definition}
    (valid : IsDefinition definition) (choice : WordChoice) (line : Int) :
    ∃ after : Place,
      (Reader.start place).readLines line
          ((definitionLines choice line definition).map dropReturn) =
        .ok (Reader.start after) ∧
      after.close =
        .ok (some { feature with
          definitions :=
            feature.definitions ++ [(placeDefinition line definition).reread] }) := by
  obtain ⟨block, blockRead, blockEq⟩ := readLines_definitionBlock closes valid
    (choice (line + (tagLines 1 definition.tags).length)) line
  rw [definitionLines, List.map_append, Reader.readLines_append_of_ok blockRead, List.length_map,
    line_add_length]
  cases definition with
  | scenario s =>
      refine ⟨.steps feature block, rfl, ?_⟩
      rw [Place.close, ← OpenFeature.addBlock_settle, blockEq]
      simp [OpenFeature.addBlock, kindOf, Block.steps, placeDefinition, Definition.reread,
        Definition.name, Definition.tags, Definition.steps, Except.map]
  | outline o =>
      have takes : (Place.steps feature block).examplesBlock? = some (feature, block.settle) := by
        have kind : block.kind = .outline := congrArg Block.kind blockEq
        simp [Place.examplesBlock?, kind]
      obtain ⟨last, table, examplesRead, closed⟩ := readLines_examplesList takes
        (valid.filled rfl) valid.examples choice
        (headerAt line o.tags + 1 + (stepsLines o.steps).length)
      refine ⟨.examples feature last table, examplesRead, ?_⟩
      have filled : placeExamples (headerAt line o.tags + 1 + (stepsLines o.steps).length)
          o.examples ≠ [] :=
        mt placeFrom_eq_nil_iff.mp (valid.filled rfl)
      rw [Place.close, closed, blockEq]
      simp [OpenFeature.addBlock, kindOf, Block.steps, placeDefinition, Definition.reread,
        Definition.name, Definition.tags, Definition.steps, Except.map, examplesOf, filled]

/-- Definitions are read back behind the definitions that were closed before. -/
theorem readLines_definitions {place : Place} {feature : OpenFeature}
    (closes : place.close = .ok (some feature)) {definitions : List Definition}
    (valid : ∀ definition ∈ definitions, IsDefinition definition) (choice : WordChoice)
    (line : Int) :
    ∃ after : Place,
      (Reader.start place).readLines line
          ((partsFrom (definitionLines choice) line definitions).map dropReturn) =
        .ok (Reader.start after) ∧
      after.close =
        .ok (some { feature with
          definitions := feature.definitions ++
            (placeFrom definitionHeight placeDefinition line definitions).map
              Definition.reread }) := by
  induction definitions generalizing place feature line with
  | nil => exact ⟨place, rfl, by simpa [placeFrom] using closes⟩
  | cons definition definitions ih =>
      obtain ⟨middle, first, middleCloses⟩ :=
        readLines_definitionLines closes (valid definition List.mem_cons_self) choice line
      obtain ⟨after, rest, afterCloses⟩ :=
        ih middleCloses (fun other member => valid other (List.mem_cons_of_mem definition member))
          (line + definitionHeight definition)
      refine ⟨after, ?_, ?_⟩
      · rw [partsFrom, List.map_append, Reader.readLines_append_of_ok first, List.length_map,
          length_definitionLines, rest]
      · rw [afterCloses]
        simp [placeFrom]

/-! ## The head of a feature -/

/-- Free text under a feature is its description. -/
theorem readLines_description (feature : OpenFeature) {description : List String}
    (valid : ∀ text ∈ description, IsFreeText text) (level : Nat) (line : Int) :
    (Reader.start (.intro feature)).readLines line
        ((description.map fun text => indented level text.toList).map dropReturn) =
      .ok (Reader.start (.intro
        { feature with description := feature.description ++ description })) := by
  induction description generalizing feature line with
  | nil => simp
  | cons text description ih =>
      have read : (Reader.start (.intro feature)).next line
          (dropReturn (indented level text.toList)) =
            .ok (Reader.start (.intro
              { feature with description := feature.description ++ [text] })) := by
        rw [Reader.next_eq_readLine rfl, Line.classify_dropReturn,
          classify_textLine (valid text List.mem_cons_self)]
        rfl
      rw [List.map_cons, List.map_cons, Reader.readLines_cons_of_next read,
        ih _ fun other member => valid other (List.mem_cons_of_mem text member)]
      simp

/-- A background is read back at its line. -/
theorem readLines_backgroundLines (feature : OpenFeature) {background : Background}
    (valid : AreSteps background.steps) (line : Int) :
    ∃ after : Place,
      (Reader.start (.intro feature)).readLines line
          ((backgroundLines background).map dropReturn) =
        .ok (Reader.start after) ∧
      after.close =
        .ok (some { feature with
          background := some
            ({ steps := placeSteps (line + 1) background.steps, line } : Background).reread }) := by
  have headerRead : (Reader.start (.intro feature)).next line
      (dropReturn (indented 1 (Header.background.word false).toList)) =
        .ok (Reader.start (.steps feature
          { kind := .background, name := "", tags := [], line })) := by
    rw [Reader.next_eq_readLine rfl, Line.classify_dropReturn, classify_bareHeader]
    rfl
  obtain ⟨block, stepsRead, blockEq⟩ := readLines_stepsLines feature
    { kind := .background, name := "", tags := [], line } valid.each valid.resolved (line + 1)
  refine ⟨.steps feature block, ?_, ?_⟩
  · rw [backgroundLines, List.map_cons, Reader.readLines_cons_of_next headerRead, stepsRead]
  · rw [Place.close, ← OpenFeature.addBlock_settle, blockEq]
    simp [OpenFeature.addBlock, Block.settle, Block.steps, Background.reread, Except.map]

/-- The line under the description of a feature. -/
def belowDescription (feature : Feature) : Int :=
  headerAt 1 feature.tags + 1 + feature.description.length

/-- The head of a feature is read back, with nothing left open but its
background. -/
theorem readLines_featureHead {feature : Feature} (valid : WellFormed feature) :
    ∃ after : Place,
      (Reader.start .outside).readLines 1 ((featureHead feature).map dropReturn) =
        .ok (Reader.start after) ∧
      after.close =
        .ok (some
          { name := feature.name
            line := headerAt 1 feature.tags
            tags := feature.tags
            description := feature.description
            background := feature.background.map fun background =>
              ({ steps := placeSteps (belowDescription feature + 1) background.steps
                 line := belowDescription feature } : Background).reread }) := by
  obtain ⟨reader, tagsRead, samePlace, pending⟩ :=
    readLines_tagLines (show Place.outside.inDocString = false from rfl) valid.tags 0 1
  have headerRead : reader.next (headerAt 1 feature.tags)
      (dropReturn (headerLine 0 (Header.feature.word false) feature.name)) =
        .ok (Reader.start (.intro
          { name := feature.name, line := headerAt 1 feature.tags, tags := feature.tags })) := by
    have named : feature.name.isEmpty = false := by
      simpa using valid.named
    rw [Reader.next_eq_readLine (inDocString_of_endTable_eq samePlace rfl),
      Line.classify_dropReturn, classify_headerLine valid.name]
    have outside : reader.place.endTable = .outside := samePlace
    simp only [Reader.readLine, Reader.readOther, outside, Reader.readFeature, named, ← pending,
      Bool.false_eq_true, if_false]
    rfl
  have descriptionRead := readLines_description
    { name := feature.name, line := headerAt 1 feature.tags, tags := feature.tags }
    valid.description 1 (headerAt 1 feature.tags + 1)
  rw [featureHead, List.map_append, Reader.readLines_append_of_ok tagsRead, List.length_map,
    ← headerAt_eq 1 0, List.map_cons, Reader.readLines_cons_of_next headerRead, List.map_append,
    Reader.readLines_append_of_ok descriptionRead, List.length_map, List.length_map,
    ← belowDescription]
  cases background : feature.background with
  | none => exact ⟨_, rfl, rfl⟩
  | some block =>
      obtain ⟨after, read, closes⟩ := readLines_backgroundLines
        { name := feature.name, line := headerAt 1 feature.tags, tags := feature.tags,
          description := feature.description }
        (valid.background block background) (belowDescription feature)
      exact ⟨after, read, closes⟩

end Document

end Gherkin
