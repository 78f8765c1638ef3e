import Gherkin.Proofs.Document.WrittenLine

/-!
# Printable features

What a feature has to be like so that it can be written and read back: its texts
fit on their lines, its tables are grids, its conjunctions stand for the step
before them.  A doc string may hold any lines, except that a line must survive
being written: it must not end with a carriage return, and an escaped fence may
stand in it only where it overlaps a fence.
-/

namespace Gherkin

/-- The steps of a feature, those of the background first. -/
def Feature.allSteps (feature : Feature) : List Step :=
  feature.backgroundSteps ++ feature.definitions.flatMap Definition.steps

namespace Document

open Gherkin.Text

/-- Rows of one table: all of them have the same cells, at least one, and the
cells are trimmed. -/
structure IsGrid (rows : List (List String)) : Prop where
  nonempty : ∀ row ∈ rows, row ≠ []
  trimmed : ∀ row ∈ rows, ∀ cell ∈ row, Trimmed cell.toList
  even : ∀ row ∈ rows, row.length = (rows.headD []).length

instance (rows : List (List String)) : Decidable (IsGrid rows) :=
  decidable_of_iff
    ((∀ row ∈ rows, row ≠ []) ∧ (∀ row ∈ rows, ∀ cell ∈ row, Trimmed cell.toList) ∧
      ∀ row ∈ rows, row.length = (rows.headD []).length)
    ⟨fun h => ⟨h.1, h.2.1, h.2.2⟩, fun h => ⟨h.1, h.2, h.3⟩⟩

/-- A step with a text, and with rows or a doc string but not both. -/
structure IsStep (step : Step) : Prop where
  title : IsTitle step.text
  nonempty : step.text.toList ≠ []
  table : ∀ table ∈ step.table, table.rows ≠ [] ∧ IsGrid table.rows
  doc : ∀ doc ∈ step.doc, IsContentType doc.contentType
  oneArgument : step.table = none ∨ step.doc = none

instance (step : Step) : Decidable (IsStep step) :=
  decidable_of_iff
    (IsTitle step.text ∧ step.text.toList ≠ [] ∧
      (∀ table ∈ step.table, table.rows ≠ [] ∧ IsGrid table.rows) ∧
        (∀ doc ∈ step.doc, IsContentType doc.contentType) ∧
          (step.table = none ∨ step.doc = none))
    ⟨fun h => ⟨h.1, h.2.1, h.2.2.1, h.2.2.2.1, h.2.2.2.2⟩, fun h => ⟨h.1, h.2, h.3, h.4, h.5⟩⟩

/-- Every step stands for what its keyword means after the steps before it. -/
def ResolvedFrom : Option Keyword → List Step → Prop
  | _, [] => True
  | previous, step :: steps =>
      step.resolved = step.keyword.resolve previous ∧ ResolvedFrom (some step.resolved) steps

instance decidableResolvedFrom : (previous : Option Keyword) → (steps : List Step) →
    Decidable (ResolvedFrom previous steps)
  | _, [] => inferInstanceAs (Decidable True)
  | previous, step :: steps =>
      have := decidableResolvedFrom (some step.resolved) steps
      inferInstanceAs (Decidable (step.resolved = step.keyword.resolve previous ∧
        ResolvedFrom (some step.resolved) steps))

/-- The steps of one block. -/
structure AreSteps (steps : List Step) : Prop where
  each : ∀ step ∈ steps, IsStep step
  resolved : ResolvedFrom none steps

instance (steps : List Step) : Decidable (AreSteps steps) :=
  decidable_of_iff ((∀ step ∈ steps, IsStep step) ∧ ResolvedFrom none steps)
    ⟨fun h => ⟨h.1, h.2⟩, fun h => ⟨h.1, h.2⟩⟩

/-- Examples: values stand only under column names. -/
structure IsExamples (examples : Examples) : Prop where
  tags : ∀ tag ∈ examples.tags, IsTag tag
  bare : examples.header = [] → examples.rows = []
  grid : IsGrid (examplesRows examples)

instance (examples : Examples) : Decidable (IsExamples examples) :=
  decidable_of_iff
    ((∀ tag ∈ examples.tags, IsTag tag) ∧ (examples.header = [] → examples.rows = []) ∧
      IsGrid (examplesRows examples))
    ⟨fun h => ⟨h.1, h.2.1, h.2.2⟩, fun h => ⟨h.1, h.2, h.3⟩⟩

/-- A scenario, or an outline with examples. -/
structure IsDefinition (definition : Definition) : Prop where
  name : IsTitle definition.name
  tags : ∀ tag ∈ definition.tags, IsTag tag
  steps : AreSteps definition.steps
  examples : ∀ examples ∈ examplesOf definition, IsExamples examples
  filled : headerOf definition = .outline → examplesOf definition ≠ []

instance (definition : Definition) : Decidable (IsDefinition definition) :=
  decidable_of_iff
    (IsTitle definition.name ∧ (∀ tag ∈ definition.tags, IsTag tag) ∧ AreSteps definition.steps ∧
      (∀ examples ∈ examplesOf definition, IsExamples examples) ∧
        (headerOf definition = .outline → examplesOf definition ≠ []))
    ⟨fun h => ⟨h.1, h.2.1, h.2.2.1, h.2.2.2.1, h.2.2.2.2⟩, fun h => ⟨h.1, h.2, h.3, h.4, h.5⟩⟩

/-- A feature all parts of which can be written. -/
structure WellFormed (feature : Feature) : Prop where
  name : IsTitle feature.name
  named : feature.name.toList ≠ []
  description : ∀ line ∈ feature.description, IsFreeText line
  tags : ∀ tag ∈ feature.tags, IsTag tag
  background : ∀ background ∈ feature.background, AreSteps background.steps
  definitions : ∀ definition ∈ feature.definitions, IsDefinition definition

instance (feature : Feature) : Decidable (WellFormed feature) :=
  decidable_of_iff
    (IsTitle feature.name ∧ feature.name.toList ≠ [] ∧
      (∀ line ∈ feature.description, IsFreeText line) ∧ (∀ tag ∈ feature.tags, IsTag tag) ∧
        (∀ background ∈ feature.background, AreSteps background.steps) ∧
          ∀ definition ∈ feature.definitions, IsDefinition definition)
    ⟨fun h => ⟨h.1, h.2.1, h.2.2.1, h.2.2.2.1, h.2.2.2.2.1, h.2.2.2.2.2⟩,
      fun h => ⟨h.1, h.2, h.3, h.4, h.5, h.6⟩⟩

/-- The content of a doc string that survives being written. -/
def IsContent (content : String) : Prop :=
  ∀ line ∈ splitAt '\n' content.toList,
    Fence.quotes.Escapable line ∧ line.getLast? ≠ some '\r'

instance (content : String) : Decidable (IsContent content) :=
  inferInstanceAs (Decidable (∀ line ∈ splitAt '\n' content.toList,
    Fence.quotes.Escapable line ∧ line.getLast? ≠ some '\r'))

/-- A feature that is read back as it was. -/
structure Printable (feature : Feature) : Prop extends WellFormed feature where
  contents : ∀ step ∈ feature.allSteps, ∀ doc ∈ step.doc, IsContent doc.content

instance (feature : Feature) : Decidable (Printable feature) :=
  decidable_of_iff
    (WellFormed feature ∧
      ∀ step ∈ feature.allSteps, ∀ doc ∈ step.doc, IsContent doc.content)
    ⟨fun h => ⟨h.1, h.2⟩, fun h => ⟨h.1, h.2⟩⟩

/-- A text that opens with a fence is content like any other. -/
example : Printable
    { name := "Say \x22hello\x22", tags := ["smoke", "v_1"], description := ["As a guest"]
      background := some
        { steps := [{ keyword := .context, resolved := .context, text := "a door" }] }
      definitions := [.outline
        { name := ""
          steps :=
            [{ keyword := .and, resolved := .context, text := "a bell"
               table := some ⟨[["|", ""], ["\\", "a\nb"]]⟩ },
             { keyword := .outcome, resolved := .outcome, text := "<word> @rings"
               doc := some { content := "\x22\x22\x22\x22\n  # no comment", contentType := "md" } }]
          examples := [{ header := ["word"], rows := [["once"]] }, { header := [] }] }] } := by
  decide

end Document

end Gherkin
