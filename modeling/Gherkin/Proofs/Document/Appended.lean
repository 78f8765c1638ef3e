import Gherkin.Proofs.Document.Renumbered
import Gherkin.Proofs.Text.Lines

/-!
# Definitions under one another

What has been read before the header of a definition is complete at that header, and
only the feature remembers it.  Definitions are therefore read in the same way under
whatever text they stand: behind those that were read before them, and further down.
-/

namespace Gherkin.Document

open Gherkin.Text

/-! ## Definitions behind others -/

/-- A feature with the definitions of another behind its own. -/
def OpenFeature.followedBy (first later : OpenFeature) : OpenFeature :=
  { first with definitions := first.definitions ++ later.definitions }

/-- A place under the definitions of another feature. -/
def Place.behind (first : OpenFeature) : Place → Place
  | .outside => .outside
  | .intro feature => .intro (first.followedBy feature)
  | .steps feature block => .steps (first.followedBy feature) block
  | .examples feature block table => .examples (first.followedBy feature) block table
  | .docString feature block step doc => .docString (first.followedBy feature) block step doc

/-- A reader under the definitions of another feature. -/
def Reader.behind (first : OpenFeature) (reader : Reader) : Reader :=
  { reader with place := reader.place.behind first }

/-- The open block is that of a definition. -/
def Place.InDefinition : Place → Prop
  | .outside | .intro _ => False
  | .steps _ block | .examples _ block _ | .docString _ block _ _ => block.kind ≠ .background

theorem DefinitionHeader.ne_background {header : Header} {kind : BlockKind}
    (opens : DefinitionHeader header kind) : kind ≠ .background := by
  cases opens <;> exact BlockKind.noConfusion

variable {first : OpenFeature}

theorem addBlock_followedBy {feature after : OpenFeature} {block : Block}
    (definition : block.kind ≠ .background) (closes : feature.addBlock block = .ok after) :
    (first.followedBy feature).addBlock block = .ok (first.followedBy after) := by
  rw [OpenFeature.addBlock] at closes ⊢
  split at closes
  · contradiction
  · obtain rfl := Except.ok.inj closes
    simp [OpenFeature.followedBy]
  · split at closes
    · simp at closes
    · rename_i filled
      obtain rfl := Except.ok.inj closes
      rw [if_neg filled]
      simp [OpenFeature.followedBy]

namespace Place

@[simp]
theorem endTable_behind (place : Place) :
    (place.behind first).endTable = place.endTable.behind first := by
  cases place <;> rfl

theorem InDefinition.endTable {place : Place} (inside : place.InDefinition) :
    place.endTable.InDefinition := by
  cases place with
  | steps feature block =>
      rw [Place.endTable, Block.endTable_eq]
      exact inside
  | _ => exact inside

theorem inDefinition_renumber {number : Int → Int} {place : Place} :
    (place.renumber number).InDefinition ↔ place.InDefinition := by
  cases place <;> rfl

/-- A definition that can be closed can be closed behind others. -/
theorem close_behind {place : Place} {feature : OpenFeature} (inside : place.InDefinition)
    (closes : place.close = .ok (some feature)) :
    (place.behind first).close = .ok (some (first.followedBy feature)) := by
  cases place with
  | outside | intro => exact inside.elim
  | steps before block | examples before block table =>
      obtain ⟨_, added, same⟩ := map_eq_ok_iff.mp closes
      obtain rfl := Option.some.inj same
      rw [behind, close]
      apply map_eq_ok_iff.mpr
      exact ⟨_, addBlock_followedBy inside added, rfl⟩
  | docString => simp [close] at closes

end Place

/-! ## Reading behind other definitions -/

variable (first)

/-- A line that is taken in a definition is taken behind others, and leads to a place
in a definition. -/
theorem Taken.behind {reader after : Reader} {line : Int} {kind : Line}
    (inside : reader.place.InDefinition) (taken : Taken line reader kind after) :
    Taken line (reader.behind first) kind (after.behind first) ∧ after.place.InDefinition := by
  cases taken with
  | blank => exact ⟨.blank _, inside⟩
  | tags read =>
      constructor
      · change Taken _ _ _ ⟨Place.behind first _, _⟩
        rw [← Place.endTable_behind]
        exact .tags read
      · exact inside.endTable
  | stepRow last read even => exact ⟨.stepRow last read even, inside⟩
  | examplesRow read even => exact ⟨.examplesRow read even, inside⟩
  | fence last => exact ⟨.fence last, inside⟩
  | feature named => exact inside.elim
  | background => exact inside.elim
  | definition opens closes =>
      constructor
      · exact .definition opens (Place.close_behind inside closes)
      · exact opens.ne_background
  | firstExamples outline => exact ⟨.firstExamples outline, inside⟩
  | nextExamples => exact ⟨.nextExamples, inside⟩
  | step => exact ⟨.step, inside⟩
  | description => exact inside.elim
  | blockText fresh => exact ⟨.blockText fresh, inside⟩
  | examplesText fresh => exact ⟨.examplesText fresh, inside⟩

namespace Reader

variable {reader after : Reader}

theorem next_behind {line : Int} {raw : List Char} (inside : reader.place.InDefinition)
    (read : reader.next line raw = .ok after) :
    (reader.behind first).next line raw = .ok (after.behind first) ∧
      after.place.InDefinition := by
  obtain ⟨place, pending⟩ := reader
  cases place with
  | outside | intro => exact inside.elim
  | docString feature block step doc =>
      obtain rfl := Except.ok.inj read
      change Except.ok (readDocLine _ _ _ _ _ raw) = _ ∧ _
      rw [readDocLine, readDocLine]
      split
      · exact ⟨rfl, inside⟩
      · exact ⟨rfl, inside⟩
  | steps | examples =>
      obtain ⟨taken, stays⟩ := (taken_of_readLine read).behind first inside
      exact ⟨readLine_of_taken taken, stays⟩

/-- Lines that are read in a definition are read in the same way behind others. -/
theorem readLines_behind {line : Int} {lines : List (List Char)}
    (inside : reader.place.InDefinition) (read : reader.readLines line lines = .ok after) :
    (reader.behind first).readLines line lines = .ok (after.behind first) ∧
      after.place.InDefinition := by
  induction lines generalizing reader line with
  | nil =>
      obtain rfl := Except.ok.inj read
      exact ⟨rfl, inside⟩
  | cons raw rest ih =>
      rw [readLines] at read
      split at read
      · simp at read
      · rename_i middle firstRead
        obtain ⟨moved, stays⟩ := next_behind first inside firstRead
        rw [readLines_cons_of_next moved]
        exact ih stays read

end Reader

variable {first}

/-! ## From the header of a definition on -/

/-- Whether the first line that is neither blank nor a tag line is the header of a
definition. -/
def opensDefinition : List (List Char) → Bool
  | [] => false
  | raw :: rest =>
      match Line.classify raw with
      | .blank | .tags _ => opensDefinition rest
      | .header .scenario _ _ | .header .outline _ _ => true
      | _ => false

/-- The block of a first definition is read in the same way behind others. -/
theorem readLines_block_behind {number : Int → Int} {after : Reader} {feature : OpenFeature}
    {kind : BlockKind} {name : String} {tags : List String} {line next other : Int}
    {lines : List (List Char)} (moves : Moves number next other lines.length)
    (bare : feature.definitions = []) (definition : kind ≠ .background)
    (read : (Reader.start (.steps feature { kind, name, tags, line })).readLines next lines =
      .ok after) :
    (Reader.start (.steps first { kind, name, tags, line := number line })).readLines other lines =
        .ok ((after.renumber number).behind first) ∧ after.place.InDefinition := by
  have inside : (Place.steps feature { kind, name, tags, line }).InDefinition := definition
  have renumbered := Reader.readLines_renumber moves read
  have alone : first.followedBy (feature.renumber number) = first := by
    simp [OpenFeature.followedBy, OpenFeature.renumber, bare]
  obtain ⟨behind, stays⟩ := Reader.readLines_behind first
    (Place.inDefinition_renumber.mpr inside) renumbered
  change (Reader.start (.steps (first.followedBy (feature.renumber number)) _)).readLines _ _ = _
    at behind
  rw [alone] at behind
  exact ⟨behind, Place.inDefinition_renumber.mp stays⟩

/-- Lines that open with a definition are read in the same way wherever the block before
them can be closed: the feature that is closed there is followed by the definitions. -/
theorem readLines_definitions_behind {number : Int → Int} {place firstPlace : Place}
    {pending : Option PendingTags} {after : Reader} {feature : OpenFeature} {line other : Int}
    {lines : List (List Char)} (moves : Moves number line other lines.length)
    (bare : feature.definitions = []) (closes : place.close = .ok (some feature))
    (firstCloses : firstPlace.close = .ok (some first)) (opens : opensDefinition lines)
    (read : (⟨place, pending⟩ : Reader).readLines line lines = .ok after) :
    (⟨firstPlace, pending.map (PendingTags.renumber number)⟩ : Reader).readLines other lines =
        .ok ((after.renumber number).behind first) ∧ after.place.InDefinition := by
  induction lines generalizing place firstPlace pending line other with
  | nil => simp [opensDefinition] at opens
  | cons raw rest ih =>
      obtain rfl : number line = other := moves.first
      rw [Reader.readLines] at read
      split at read
      · simp at read
      · rename_i middle firstRead
        rw [Reader.next_eq_readLine (Place.not_inDocString_of_close closes)] at firstRead
        have taken := Reader.taken_of_readLine firstRead
        have reads {next : Reader} (known : Taken (number line)
            ⟨firstPlace, pending.map (PendingTags.renumber number)⟩ (Line.classify raw) next) :
            (⟨firstPlace, pending.map (PendingTags.renumber number)⟩ : Reader).readLines
              (number line) (raw :: rest) = next.readLines (number line + 1) rest := by
          apply Reader.readLines_cons_of_next
          rw [Reader.next_eq_readLine (Place.not_inDocString_of_close firstCloses)]
          exact Reader.readLine_of_taken known
        rw [opensDefinition] at opens
        generalize Line.classify raw = kind at taken reads opens
        cases taken with
        | blank =>
            rw [reads (.blank _)]
            exact ih moves.rest closes firstCloses opens read
        | tags tagsRead =>
            have known := ih moves.rest (place.close_endTable.trans closes)
              (firstPlace.close_endTable.trans firstCloses) opens read
            rw [reads (.tags tagsRead)]
            cases pending <;> exact known
        | definition header opened =>
            obtain rfl := Option.some.inj (Except.ok.inj (opened.symm.trans closes))
            rw [reads (.definition header firstCloses)]
            have definition := header.ne_background
            cases pending <;> exact readLines_block_behind moves.rest bare definition read
        | _ => simp at opens

/-- Definitions change nothing of the feature they belong to but its definitions. -/
theorem feature_of_definitions {place after : Place} {feature later : OpenFeature} {line : Int}
    {lines : List (List Char)} (bare : feature.definitions = [])
    (closes : place.close = .ok (some feature)) (opens : opensDefinition lines)
    (read : (Reader.start place).readLines line lines = .ok (.start after))
    (afterCloses : after.close = .ok (some later)) :
    later = { feature with definitions := later.definitions } := by
  have still : Moves id line line lines.length := fun _ _ => rfl
  obtain ⟨again, inside⟩ := readLines_definitions_behind still bare closes closes opens read
  have same : Reader.start after = ((Reader.start after).renumber id).behind feature :=
    Except.ok.inj (read.symm.trans again)
  have placeSame : after = (after.renumber id).behind feature := congrArg Reader.place same
  have closesAgain : after.close = .ok (some (feature.followedBy (later.renumber id))) := by
    rw [placeSame]
    apply Place.close_behind (Place.inDefinition_renumber.mpr inside)
    exact Place.close_renumber afterCloses
  have laterEq := Option.some.inj (Except.ok.inj (afterCloses.symm.trans closesAgain))
  rw [laterEq]
  rfl

/-! ## The header of the feature -/

/-- The feature that is open keeps its name and its tags. -/
theorem Taken.feature_header {reader after : Reader} {line : Int} {kind : Line}
    (taken : Taken line reader kind after) {feature : OpenFeature}
    (opened : reader.place.feature? = some feature) :
    ∃ later, after.place.feature? = some later ∧ later.name = feature.name ∧
      later.tags = feature.tags := by
  cases taken with
  | blank => exact ⟨feature, opened, rfl, rfl⟩
  | @tags place =>
      refine ⟨feature, ?_, rfl, rfl⟩
      cases place <;> exact opened
  | feature => simp [Place.feature?] at opened
  | definition opens closes =>
      obtain ⟨before, found, same⟩ := Place.feature?_of_close closes
      obtain rfl := Option.some.inj (found.symm.trans opened)
      rw [same]
      exact ⟨_, rfl, rfl, rfl⟩
  | _ =>
      obtain rfl := Option.some.inj opened
      exact ⟨_, rfl, rfl, rfl⟩

/-- Lines that are read under the header of a feature leave its name and its tags. -/
theorem feature_header_of_readLines {place after : Place} {feature later : OpenFeature}
    {line : Int} {lines : List (List Char)} (closes : place.close = .ok (some feature))
    (read : (Reader.start place).readLines line lines = .ok (.start after))
    (afterCloses : after.close = .ok (some later)) :
    later.name = feature.name ∧ later.tags = feature.tags := by
  have closed {place : Place} {result : OpenFeature} (closes : place.close = .ok (some result)) :
      ∃ before, place.feature? = some before ∧ before.name = result.name ∧
        before.tags = result.tags := by
    obtain ⟨before, found, same⟩ := Place.feature?_of_close closes
    rw [same]
    exact ⟨before, found, rfl, rfl⟩
  have kept := Reader.readLines_induction (motive := fun _ reader => ∃ before,
      reader.place.feature? = some before ∧ before.name = feature.name ∧
        before.tags = feature.tags) ?_ (closed closes) read
  · obtain ⟨before, found, name, tags⟩ := kept
    obtain ⟨last, lastFound, lastName, lastTags⟩ := closed afterCloses
    obtain rfl := Option.some.inj (found.symm.trans lastFound)
    exact ⟨lastName.symm.trans name, lastTags.symm.trans tags⟩
  · rintro line ⟨place, pending⟩ raw next - ⟨before, found, name, tags⟩ read
    cases place with
    | docString feature block step doc =>
        obtain rfl := Except.ok.inj read
        rw [Reader.readDocLine]
        split <;> exact ⟨before, found, name, tags⟩
    | _ =>
        obtain ⟨later, laterFound, laterName, laterTags⟩ :=
          (Reader.taken_of_readLine read).feature_header found
        exact ⟨later, laterFound, laterName.trans name, laterTags.trans tags⟩

/-! ## Texts under one another -/

theorem dropMark_append {head : List Char} (nonempty : head ≠ []) (rest : List Char) :
    dropMark (head ++ rest) = dropMark head ++ rest := by
  cases head with
  | nil => contradiction
  | cons c cs =>
      rw [List.cons_append, dropMark, dropMark]
      split <;> rfl

theorem ended_dropMark {text : List Char} (ended : Ended text) : Ended (dropMark text) := by
  cases text with
  | nil => exact ended
  | cons c cs =>
      rw [dropMark]
      split
      · intro d last
        apply ended d
        rw [Option.mem_def] at last ⊢
        rw [List.getLast?_cons, last]
        rfl
      · exact ended

/-- No feature is read from an empty text. -/
theorem toList_ne_nil_of_read {text : String} {source : Option String} {feature : Feature}
    (read : read text source = .ok feature) : text.toList ≠ [] := by
  intro empty
  obtain ⟨place, later, lines, closes, -⟩ := read_eq_ok_iff.mp read
  rw [empty] at lines
  have outside : Place.outside = place := congrArg Reader.place (Except.ok.inj lines)
  rw [← outside] at closes
  simp [Place.close] at closes

/-- The lines under a text are read on from where the text ends. -/
theorem readLines_append {head : String} {reader : Reader} (ended : Ended head.toList)
    (nonempty : head.toList ≠ [])
    (read : ({} : Reader).readLines 1 (lines (dropMark head.toList)) = .ok reader)
    (rest : String) :
    ({} : Reader).readLines 1 (lines (dropMark (head ++ rest).toList)) =
      reader.readLines (1 + (lines (dropMark head.toList)).length) (lines rest.toList) := by
  rw [String.toList_append, dropMark_append nonempty, lines_append (ended_dropMark ended),
    Reader.readLines_append_of_ok read]

/-- Under another text the lines of a text stand so many lines further down. -/
theorem moves_under {head : String} (headEnded : Ended head.toList)
    (nonempty : head.toList ≠ []) (first : String) (count : Nat) :
    Moves (· + ((lines first.toList).length : Int))
      (1 + (lines (dropMark head.toList)).length)
      (1 + (lines (dropMark (head ++ first).toList)).length) count := by
  intro offset _
  rw [String.toList_append, dropMark_append nonempty, lines_append (ended_dropMark headEnded),
    List.length_append]
  push_cast
  omega

theorem complete_of_definitions {feature later : OpenFeature}
    (same : later = { feature with definitions := later.definitions }) (source : Option String) :
    later.complete source =
      { feature.complete source with definitions := (later.complete source).definitions } := by
  rw [same]
  rfl

/-- Definitions do not depend on what stands above them.  When each of two texts can
stand under the head of a feature, the second of them opening with a definition, it can
also stand under the first: it adds the same definitions, so many lines further down.
The rest of the feature is as the first text leaves it, which is as the head leaves it
when the first text opens with a definition too. -/
theorem read_definitions_append {head first second : String} {source : Option String}
    {bare firstFeature secondFeature : Feature} (headEnded : Ended head.toList)
    (firstEnded : Ended first.toList) (headRead : read head source = .ok bare)
    (noDefinitions : bare.definitions = []) (opens : opensDefinition (lines second.toList))
    (firstRead : read (head ++ first) source = .ok firstFeature)
    (secondRead : read (head ++ second) source = .ok secondFeature) :
    read (head ++ first ++ second) source =
        .ok { firstFeature with
          definitions := firstFeature.definitions ++
            secondFeature.definitions.map
              (Definition.renumber (· + (lines first.toList).length)) } ∧
      secondFeature = { bare with definitions := secondFeature.definitions } ∧
      firstFeature.name = bare.name ∧ firstFeature.tags = bare.tags ∧
      (opensDefinition (lines first.toList) →
        firstFeature = { bare with definitions := firstFeature.definitions }) := by
  have nonempty := toList_ne_nil_of_read headRead
  obtain ⟨place, feature, headLines, closes, rfl⟩ := read_eq_ok_iff.mp headRead
  obtain ⟨firstPlace, firstOpen, firstLines, firstCloses, rfl⟩ := read_eq_ok_iff.mp firstRead
  obtain ⟨secondPlace, secondOpen, secondLines, secondCloses, rfl⟩ := read_eq_ok_iff.mp secondRead
  have firstUnder := (readLines_append headEnded nonempty headLines first).symm.trans firstLines
  have secondUnder := (readLines_append headEnded nonempty headLines second).symm.trans secondLines
  have noOpenDefinitions : feature.definitions = [] := noDefinitions
  have header := feature_header_of_readLines closes firstUnder firstCloses
  constructor
  · have moves := moves_under headEnded nonempty first (lines second.toList).length
    obtain ⟨moved, inside⟩ :=
      readLines_definitions_behind moves noOpenDefinitions closes firstCloses opens secondUnder
    have bothEnded : Ended (head ++ first).toList := by
      rw [String.toList_append]
      exact headEnded.append firstEnded
    have nonempty := toList_ne_nil_of_read firstRead
    have wholeLines := readLines_append bothEnded nonempty firstLines second
    apply read_eq_ok_iff.mpr
    exact ⟨_, _, wholeLines.trans moved,
      Place.close_behind (Place.inDefinition_renumber.mpr inside)
        (Place.close_renumber secondCloses), rfl⟩
  constructor
  · apply complete_of_definitions
    exact feature_of_definitions noOpenDefinitions closes opens secondUnder secondCloses
  · refine ⟨header.1, header.2, fun firstOpens => ?_⟩
    apply complete_of_definitions
    exact feature_of_definitions noOpenDefinitions closes firstOpens firstUnder firstCloses

/-- The head of a feature, which ends in a table. -/
def headText : String :=
  "@f\nFeature: F\nabout\nBackground:\nGiven b\n|1|\n"

/-- What is read from it. -/
def headFeature : Feature :=
  { name := "F", tags := ["f"], description := ["about"]
    background := some
      { line := 4
        steps :=
          [{ keyword := .context, text := "b", resolved := .context, table := some ⟨[["1"]]⟩,
             line := 5 }] } }

/-- An outline whose examples are still open at the end. -/
def openOutlineText : String :=
  "Scenario Outline: A\nWhen x\n@e\nExamples:\n|h|\n"

/-- What is read from it under the head. -/
def openOutline : Definition :=
  .outline
    { name := "A", line := 7
      steps := [{ keyword := .action, text := "x", resolved := .action, line := 8 }]
      examples := [{ header := ["h"], tags := ["e"], line := 10 }] }

/-- A scenario under a comment and a tag, which begins with a conjunction. -/
def taggedScenarioText : String :=
  "# c\n@t\nScenario: B\nAnd z\n"

/-- What is read from it when its header stands at a line. -/
def taggedScenario (line : Int) : Definition :=
  .scenario
    { name := "B", tags := ["t"], line
      steps := [{ keyword := .and, text := "z", resolved := .context, line := line + 1 }] }

theorem read_definitions_append_openOutline :
    read headText = .ok headFeature ∧
      read (headText ++ openOutlineText) =
        .ok { headFeature with definitions := [openOutline] } ∧
      read (headText ++ taggedScenarioText) =
        .ok { headFeature with definitions := [taggedScenario 9] } ∧
      read (headText ++ openOutlineText ++ taggedScenarioText) =
        .ok { headFeature with definitions := [openOutline, taggedScenario 14] } := by
  have head : read headText = .ok headFeature := by decide +kernel
  have first : read (headText ++ openOutlineText) =
      .ok { headFeature with definitions := [openOutline] } := by decide +kernel
  have second : read (headText ++ taggedScenarioText) =
      .ok { headFeature with definitions := [taggedScenario 9] } := by decide +kernel
  have headEnded : Ended headText.toList := by decide
  have firstEnded : Ended openOutlineText.toList := by decide
  obtain ⟨whole, -⟩ :=
    read_definitions_append headEnded firstEnded head rfl (by decide) first second
  exact ⟨head, first, second, whole.trans (by decide +kernel)⟩

end Gherkin.Document
