import Gherkin.Proofs.Document.Items
import Gherkin.Proofs.Document.WellRead

/-!
# What is read fits together

Names and texts that were read are trimmed and not empty, a step has one argument at most,
and every row is as wide as the column names that it is paired with.
-/

namespace Gherkin

open Document

/-! ## Parts that fit together -/

/-- A text that is not empty, without white space around it. -/
structure IsProperText (text : String) : Prop where
  nonempty : text ≠ ""
  trimmed : Text.Trimmed text.toList

/-- A table that has cells, all of its rows being equally wide. -/
structure DataTable.Regular (table : DataTable) : Prop where
  rows : table.rows ≠ []
  columns : ∀ row ∈ table.rows, row ≠ []
  even : ∀ row ∈ table.rows, ∀ other ∈ table.rows, row.length = other.length

/-- A step with a text, and with a table or a doc string or neither. -/
structure Step.Regular (step : Step) : Prop where
  text : IsProperText step.text
  oneArgument : step.table = none ∨ step.doc = none
  table : ∀ table ∈ step.table, table.Regular

/-- Examples whose rows are as wide as their header, and that have no rows without one. -/
structure Examples.Regular (examples : Examples) : Prop where
  even : ∀ row ∈ examples.rows, row.length = examples.header.length
  bare : examples.header = [] → examples.rows = []

/-- A feature all parts of which fit together. -/
structure Feature.Regular (feature : Feature) : Prop where
  name : IsProperText feature.name
  tags : ∀ tag ∈ feature.allTags, IsTag tag
  steps : ∀ step ∈ feature.allSteps, step.Regular
  filled : ∀ outline ∈ feature.outlines, outline.examples ≠ []
  examples : ∀ outline ∈ feature.outlines, ∀ examples ∈ outline.examples, examples.Regular

/-- Nothing of two lists of the same length is lost in pairing them. -/
def PairsUp (columns cells : List String) : Prop :=
  (columns.zip cells).map Prod.fst = columns ∧ (columns.zip cells).map Prod.snd = cells

theorem pairsUp_of_length_eq {columns cells : List String}
    (even : cells.length = columns.length) : PairsUp columns cells := by
  constructor
  · exact List.map_fst_zip (Nat.le_of_eq even.symm)
  · exact List.map_snd_zip (Nat.le_of_eq even)

/-- A row under the first one can be paired with it. -/
theorem DataTable.Regular.pairsUp {table : DataTable} (regular : table.Regular)
    {row : List String} (member : row ∈ table.dataRows) : PairsUp table.headers row := by
  apply pairsUp_of_length_eq
  rcases table with ⟨rows⟩
  cases rows with
  | nil => exact absurd rfl regular.rows
  | cons first rest =>
      apply regular.even
      · exact List.mem_cons_of_mem first member
      · exact List.mem_cons_self

theorem mem_outlines_iff {feature : Feature} {outline : Outline} :
    outline ∈ feature.outlines ↔ .outline outline ∈ feature.definitions := by
  rw [Feature.outlines, List.mem_filterMap]
  constructor
  · rintro ⟨definition, member, found⟩
    cases definition with
    | scenario s => simp [Definition.outline?] at found
    | outline o =>
        obtain rfl := Option.some.inj found
        exact member
  · intro member
    exact ⟨_, member, rfl⟩

/-! ## What is known of a feature that was read -/

namespace Document

theorem IsTitle.isProperText {text : String} (title : IsTitle text)
    (nonempty : text.toList ≠ []) : IsProperText text where
  nonempty := by
    rintro rfl
    exact nonempty rfl
  trimmed := title.trimmed

theorem IsGrid.regular {table : DataTable} (grid : IsGrid table.rows) (filled : table.rows ≠ []) :
    table.Regular where
  rows := filled
  columns := grid.nonempty
  even row member other otherMember := by
    rw [grid.even row member, grid.even other otherMember]

theorem IsStep.regular {step : Step} (valid : IsStep step) : step.Regular where
  text := valid.title.isProperText valid.nonempty
  oneArgument := valid.oneArgument
  table table present := (valid.table table present).2.regular (valid.table table present).1

theorem IsExamples.regular {examples : Examples} (valid : IsExamples examples) :
    examples.Regular where
  even row member := by
    have named : examples.header ≠ [] := by
      intro bare
      rw [valid.bare bare] at member
      contradiction
    have rows : examplesRows examples = examples.header :: examples.rows := by
      simp [examplesRows, named]
    have even := valid.grid.even
    rw [rows] at even
    exact even row (List.mem_cons_of_mem _ member)
  bare := valid.bare

/-- A feature that can be written fits together. -/
theorem WellFormed.regular {feature : Feature} (valid : WellFormed feature) :
    feature.Regular where
  name := valid.name.isProperText valid.named
  tags := by
    intro tag member
    rcases List.mem_append.mp member with own | inner
    · exact valid.tags tag own
    · rcases List.mem_flatMap.mp inner with ⟨definition, inside, member⟩
      have definitionValid := valid.definitions definition inside
      rcases List.mem_append.mp member with own | inner
      · exact definitionValid.tags tag own
      · rcases List.mem_flatMap.mp inner with ⟨examples, inExamples, member⟩
        exact (definitionValid.examples examples inExamples).tags tag member
  steps := by
    intro step member
    apply IsStep.regular
    rcases List.mem_append.mp member with inBackground | inDefinitions
    · rw [Feature.backgroundSteps] at inBackground
      cases present : feature.background with
      | none => simp [present] at inBackground
      | some background =>
          rw [present] at inBackground
          exact (valid.background background present).each step inBackground
    · rcases List.mem_flatMap.mp inDefinitions with ⟨definition, inside, member⟩
      exact (valid.definitions definition inside).steps.each step member
  filled outline member :=
    (valid.definitions _ (mem_outlines_iff.mp member)).filled rfl
  examples outline member examples inside :=
    ((valid.definitions _ (mem_outlines_iff.mp member)).examples examples inside).regular

/-- All parts of a feature that was read fit together.  Rows are paired with column names
without loss, those of tables and those of examples. -/
theorem regular_of_read {text : String} {source : Option String} {feature : Feature}
    (readText : read text source = .ok feature) :
    feature.Regular ∧
      (∀ step ∈ feature.allSteps, ∀ table ∈ step.table, ∀ row ∈ table.dataRows,
        PairsUp table.headers row) ∧
      ∀ outline ∈ feature.outlines, ∀ examples ∈ outline.examples, ∀ row ∈ examples.rows,
        PairsUp examples.header row := by
  have regular := (wellFormed_of_read readText).1.regular
  refine ⟨regular, ?_, ?_⟩
  · intro step member table present row inTable
    exact ((regular.steps step member).table table present).pairsUp inTable
  · intro outline member examples inside row inExamples
    apply pairsUp_of_length_eq
    exact (regular.examples outline member examples inside).even row inExamples

/-- An outline with a table, a doc string and examples with and without a header. -/
def regularText : String :=
  "@a\nFeature: F\nScenario Outline: S\nGiven <x>\n|1|2|\n|3||\nThen b\n```\n|\n```\n@c-d\n" ++
    "Examples:\n|x|y|\n|1||\nExamples:"

/-- What is read from it. -/
def regularFeature : Feature :=
  { name := "F", tags := ["a"]
    definitions := [.outline
      { name := "S", line := 3
        steps :=
          [{ keyword := .context, text := "<x>", resolved := .context,
             table := some ⟨[["1", "2"], ["3", ""]]⟩, line := 4 },
           { keyword := .outcome, text := "b", resolved := .outcome,
             doc := some { content := "|" }, line := 7 }]
        examples :=
          [{ header := ["x", "y"], rows := [["1", ""]], tags := ["c-d"], line := 12 },
           { header := [], line := 15 }] }] }

theorem regular_of_read_outline :
    read regularText = .ok regularFeature ∧ regularFeature.Regular ∧
      (∀ step ∈ regularFeature.allSteps, ∀ table ∈ step.table, ∀ row ∈ table.dataRows,
        PairsUp table.headers row) ∧
      ∀ outline ∈ regularFeature.outlines, ∀ examples ∈ outline.examples,
        ∀ row ∈ examples.rows, PairsUp examples.header row := by
  have readText : read regularText = .ok regularFeature := by decide +kernel
  exact ⟨readText, regular_of_read readText⟩

end Document

end Gherkin
