import Gherkin.Proofs.Document.FeatureReadBack

/-!
# Where the parts of a feature stand

Placing a feature changes nothing but line numbers, and the numbers it gives are
those of the written lines: each part stands at its line with what is under it, and
the parts stand in the order in which the feature has them.
-/

namespace Gherkin

/-! ## Features without lines -/

/-- A step without its line. -/
def Step.withoutLine (step : Step) : Step :=
  { step with line := 0 }

/-- Examples without their line. -/
def Examples.withoutLine (examples : Examples) : Examples :=
  { examples with line := 0 }

/-- A background without the lines in it. -/
def Background.withoutLines (background : Background) : Background :=
  { steps := background.steps.map Step.withoutLine, line := 0 }

/-- A definition without the lines in it. -/
def Definition.withoutLines : Definition → Definition
  | .scenario s => .scenario { s with steps := s.steps.map Step.withoutLine, line := 0 }
  | .outline o =>
      .outline
        { o with
          steps := o.steps.map Step.withoutLine
          examples := o.examples.map Examples.withoutLine
          line := 0 }

/-- A feature without the lines in it. -/
def Feature.withoutLines (feature : Feature) : Feature :=
  { feature with
    background := feature.background.map Background.withoutLines
    definitions := feature.definitions.map Definition.withoutLines }

namespace Document

theorem map_placeFrom {α β : Type} {f : α → β} {height : α → Nat} {place : Int → α → α}
    (same : ∀ line part, f (place line part) = f part) (line : Int) (parts : List α) :
    (placeFrom height place line parts).map f = parts.map f := by
  induction parts generalizing line with
  | nil => rfl
  | cons part parts ih => rw [placeFrom, List.map_cons, List.map_cons, same, ih]

theorem withoutLine_placeSteps (line : Int) (steps : List Step) :
    (placeSteps line steps).map Step.withoutLine = steps.map Step.withoutLine := by
  rw [placeSteps, map_placeFrom]
  exact fun _ _ => rfl

theorem withoutLines_placeDefinition (line : Int) (definition : Definition) :
    (placeDefinition line definition).withoutLines = definition.withoutLines := by
  cases definition with
  | scenario s => simp [placeDefinition, Definition.withoutLines, withoutLine_placeSteps]
  | outline o =>
      have examples : ∀ line, (placeExamples line o.examples).map Examples.withoutLine =
          o.examples.map Examples.withoutLine := by
        intro line
        rw [placeExamples, map_placeFrom]
        exact fun _ _ => rfl
      simp [placeDefinition, Definition.withoutLines, withoutLine_placeSteps, examples]

/-- Placing a feature changes nothing but lines. -/
theorem withoutLines_placed (feature : Feature) :
    (placed feature).withoutLines = feature.withoutLines := by
  have definitions (line : Int) :
      (placeFrom definitionHeight placeDefinition line feature.definitions).map
          Definition.withoutLines =
        feature.definitions.map Definition.withoutLines :=
    map_placeFrom withoutLines_placeDefinition line feature.definitions
  have background : Background.withoutLines ∘ (fun background : Background =>
      ({ steps := placeSteps (headerAt 1 feature.tags + 1 + feature.description.length + 1)
            background.steps
         line := headerAt 1 feature.tags + 1 + feature.description.length } : Background)) =
        Background.withoutLines := by
    funext background
    simp [Background.withoutLines, withoutLine_placeSteps]
  rw [placed, Feature.withoutLines, Feature.withoutLines, definitions]
  simp only [Option.map_map, background]

/-! ## Printable features and lines -/

theorem isStep_withoutLine {step : Step} : IsStep step.withoutLine ↔ IsStep step :=
  ⟨fun valid => { valid with }, fun valid => { valid with }⟩

theorem resolvedFrom_withoutLine {previous : Option Keyword} {steps : List Step} :
    ResolvedFrom previous (steps.map Step.withoutLine) ↔ ResolvedFrom previous steps := by
  induction steps generalizing previous with
  | nil => rfl
  | cons step steps ih => exact and_congr Iff.rfl ih

theorem areSteps_withoutLine {steps : List Step} :
    AreSteps (steps.map Step.withoutLine) ↔ AreSteps steps := by
  have each : (∀ step ∈ steps.map Step.withoutLine, IsStep step) ↔ ∀ step ∈ steps, IsStep step := by
    simp only [List.forall_mem_map, isStep_withoutLine]
  exact ⟨fun valid => ⟨each.mp valid.each, resolvedFrom_withoutLine.mp valid.resolved⟩,
    fun valid => ⟨each.mpr valid.each, resolvedFrom_withoutLine.mpr valid.resolved⟩⟩

theorem isExamples_withoutLine {examples : Examples} :
    IsExamples examples.withoutLine ↔ IsExamples examples :=
  ⟨fun valid => { valid with }, fun valid => { valid with }⟩

theorem isDefinition_withoutLines {definition : Definition} :
    IsDefinition definition.withoutLines ↔ IsDefinition definition := by
  have name : definition.withoutLines.name = definition.name := by
    cases definition <;> rfl
  have tags : definition.withoutLines.tags = definition.tags := by
    cases definition <;> rfl
  have steps : definition.withoutLines.steps = definition.steps.map Step.withoutLine := by
    cases definition <;> rfl
  have header : headerOf definition.withoutLines = headerOf definition := by
    cases definition <;> rfl
  have examples : examplesOf definition.withoutLines =
      (examplesOf definition).map Examples.withoutLine := by
    cases definition <;> rfl
  have each : (∀ block ∈ (examplesOf definition).map Examples.withoutLine, IsExamples block) ↔
      ∀ block ∈ examplesOf definition, IsExamples block := by
    simp only [List.forall_mem_map, isExamples_withoutLine]
  constructor
  · rintro ⟨isName, areTags, valid, examplesValid, filled⟩
    rw [name] at isName
    rw [tags] at areTags
    rw [steps, areSteps_withoutLine] at valid
    rw [examples, each] at examplesValid
    rw [header, examples, ne_eq, List.map_eq_nil_iff] at filled
    exact ⟨isName, areTags, valid, examplesValid, filled⟩
  · rintro ⟨isName, areTags, valid, examplesValid, filled⟩
    constructor
    · rwa [name]
    · rwa [tags]
    · rwa [steps, areSteps_withoutLine]
    · rwa [examples, each]
    · rwa [header, examples, ne_eq, List.map_eq_nil_iff]

/-- Whether a feature can be written does not depend on its lines. -/
theorem wellFormed_withoutLines {feature : Feature} :
    WellFormed feature.withoutLines ↔ WellFormed feature := by
  have background : (∀ background ∈ feature.withoutLines.background, AreSteps background.steps) ↔
      ∀ background ∈ feature.background, AreSteps background.steps := by
    simp only [Feature.withoutLines, Option.forall_mem_map, Background.withoutLines,
      areSteps_withoutLine]
  have definitions : (∀ definition ∈ feature.withoutLines.definitions, IsDefinition definition) ↔
      ∀ definition ∈ feature.definitions, IsDefinition definition := by
    simp only [Feature.withoutLines, List.forall_mem_map, isDefinition_withoutLines]
  exact
    ⟨fun valid => { valid with
        background := background.mp valid.background
        definitions := definitions.mp valid.definitions },
      fun valid => { valid with
        background := background.mpr valid.background
        definitions := definitions.mpr valid.definitions }⟩

theorem allSteps_withoutLines (feature : Feature) :
    feature.withoutLines.allSteps = feature.allSteps.map Step.withoutLine := by
  have definitionSteps : ∀ definition : Definition,
      definition.withoutLines.steps = definition.steps.map Step.withoutLine := by
    intro definition
    cases definition <;> rfl
  rw [Feature.allSteps, Feature.allSteps, List.map_append]
  congr 1
  · cases background : feature.background <;>
      simp [Feature.backgroundSteps, Feature.withoutLines, background, Background.withoutLines]
  · simp only [Feature.withoutLines, List.flatMap_map, definitionSteps, List.map_flatMap]

theorem printable_withoutLines {feature : Feature} :
    Printable feature.withoutLines ↔ Printable feature := by
  have contents :
      (∀ step ∈ feature.withoutLines.allSteps, ∀ doc ∈ step.doc, IsContent doc.content) ↔
        ∀ step ∈ feature.allSteps, ∀ doc ∈ step.doc, IsContent doc.content := by
    rw [allSteps_withoutLines]
    simp only [List.forall_mem_map]
    rfl
  exact
    ⟨fun valid => ⟨wellFormed_withoutLines.mp valid.toWellFormed, contents.mp valid.contents⟩,
      fun valid => ⟨wellFormed_withoutLines.mpr valid.toWellFormed, contents.mpr valid.contents⟩⟩

/-! ## Parts at their lines -/

/-- Lines stand in a text from a line on. -/
def StandsAt (text : Lines) (line : Int) (part : Lines) : Prop :=
  ∃ before after, text = before ++ part ++ after ∧ line = before.length + 1

theorem standsAt_self (text : Lines) : StandsAt text 1 text :=
  ⟨[], [], by simp, rfl⟩

theorem StandsAt.left {text first second : Lines} {line : Int}
    (stands : StandsAt text line (first ++ second)) : StandsAt text line first := by
  obtain ⟨before, after, rfl, rfl⟩ := stands
  exact ⟨before, second ++ after, by simp, rfl⟩

theorem StandsAt.right {text first second : Lines} {line : Int}
    (stands : StandsAt text line (first ++ second)) :
    StandsAt text (line + first.length) second := by
  obtain ⟨before, after, rfl, rfl⟩ := stands
  refine ⟨before ++ first, after, by simp, ?_⟩
  rw [List.length_append]
  push_cast
  ring

/-- A part of a feature: the line it has, and the lines it is written as. -/
structure Part where
  line : Int
  lines : Lines

/-- Parts that stand in a text one after the other, all of them between two lines. -/
structure InOrder (text : Lines) (first last : Int) (parts : List Part) : Prop where
  stands : ∀ part ∈ parts, StandsAt text part.line part.lines
  inside : ∀ part ∈ parts, first ≤ part.line ∧ part.line < last
  ordered : parts.Pairwise fun part next => part.line < next.line

theorem inOrder_nil (text : Lines) (first last : Int) : InOrder text first last [] where
  stands := by simp
  inside := by simp
  ordered := .nil

theorem InOrder.append {text : Lines} {first middle last : Int} {parts later : List Part}
    (inOrder : InOrder text first middle parts) (laterInOrder : InOrder text middle last later)
    (below : first ≤ middle) (above : middle ≤ last) :
    InOrder text first last (parts ++ later) where
  stands := by
    intro part member
    rcases List.mem_append.mp member with here | there
    · exact inOrder.stands part here
    · exact laterInOrder.stands part there
  inside := by
    intro part member
    rcases List.mem_append.mp member with here | there
    · have := inOrder.inside part here
      omega
    · have := laterInOrder.inside part there
      omega
  ordered := by
    refine List.pairwise_append.mpr ⟨inOrder.ordered, laterInOrder.ordered, ?_⟩
    intro part here next there
    have before := inOrder.inside part here
    have after := laterInOrder.inside next there
    omega

theorem inOrder_singleton {text : Lines} {part : Part} {first last : Int}
    (stands : StandsAt text part.line part.lines) (below : first ≤ part.line)
    (above : part.line < last) : InOrder text first last [part] where
  stands := by simpa using stands
  inside := by simpa using ⟨below, above⟩
  ordered := List.pairwise_singleton _ part

/-- A step with its argument. -/
def stepPart (step : Step) : Part :=
  ⟨step.line, stepLines step⟩

/-- The header of a background with its steps, and each step. -/
def backgroundParts (background : Background) : List Part :=
  ⟨background.line, backgroundLines background⟩ :: background.steps.map stepPart

/-- The header of examples with the rows. -/
def examplesPart (choice : WordChoice) (examples : Examples) : Part :=
  ⟨examples.line,
    indented 2 (Header.examples.word (choice examples.line)).toList ::
      rowLines 3 (examplesRows examples)⟩

/-- The header of a definition with its steps, each step, and each block of
examples. -/
def definitionParts (choice : WordChoice) (definition : Definition) : List Part :=
  ⟨definition.line,
    headerLine 1 ((headerOf definition).word (choice definition.line)) definition.name ::
      stepsLines definition.steps⟩ ::
    (definition.steps.map stepPart ++
      (examplesOf definition).map (examplesPart choice))

/-- All parts of a feature that have a line, in the order of the feature. -/
def partsOf (choice : WordChoice) (feature : Feature) : List Part :=
  (feature.background.map backgroundParts).getD [] ++
    feature.definitions.flatMap (definitionParts choice)

/-- Parts that are written one after the other stand in order when each of them does. -/
theorem inOrder_partsFrom {α : Type} {write : Int → α → Lines} {height : α → Nat}
    {place : Int → α → α} {partsIn : α → List Part} {text : Lines}
    (same : ∀ line part, (write line part).length = height part)
    (each : ∀ line part, StandsAt text line (write line part) →
      InOrder text line (line + height part) (partsIn (place line part)))
    {line : Int} {parts : List α} (stands : StandsAt text line (partsFrom write line parts)) :
    InOrder text line (line + (partsFrom write line parts).length)
      ((placeFrom height place line parts).flatMap partsIn) := by
  induction parts generalizing line with
  | nil => exact inOrder_nil text _ _
  | cons part parts ih =>
      rw [partsFrom] at stands
      have later := stands.right
      rw [same] at later
      rw [placeFrom, List.flatMap_cons, partsFrom, List.length_append, same]
      push_cast
      rw [← add_assoc]
      exact (each line part stands.left).append (ih later) (by omega) (by omega)

theorem partsFrom_const {α : Type} {write : α → Lines} (line : Int) (parts : List α) :
    partsFrom (fun _ => write) line parts = parts.flatMap write := by
  induction parts generalizing line with
  | nil => rfl
  | cons part parts ih => rw [partsFrom, ih, List.flatMap_cons]

theorem stepsLines_placeSteps (line : Int) (steps : List Step) :
    stepsLines (placeSteps line steps) = stepsLines steps := by
  have same : (placeSteps line steps).map stepLines = steps.map stepLines := by
    rw [placeSteps, map_placeFrom]
    exact fun _ _ => rfl
  rw [stepsLines, stepsLines, List.flatMap_def, same, ← List.flatMap_def]

/-- A header stands under its tags. -/
theorem StandsAt.belowTags {text : Lines} {line : Int} {level : Nat} {tags : List String}
    {below : Lines} (stands : StandsAt text line (tagLines level tags ++ below)) :
    StandsAt text (headerAt line tags) below := by
  rw [headerAt_eq line level]
  exact stands.right

theorem inOrder_steps {text : Lines} {line : Int} {steps : List Step}
    (stands : StandsAt text line (stepsLines steps)) :
    InOrder text line (line + (stepsLines steps).length)
      ((placeSteps line steps).map stepPart) := by
  rw [stepsLines, ← partsFrom_const line] at stands ⊢
  rw [List.map_eq_flatMap]
  have height : ∀ (_ : Int) (step : Step), (stepLines step).length = (stepLines step).length :=
    fun _ _ => rfl
  apply inOrder_partsFrom height _ stands
  intro line step here
  apply inOrder_singleton here (le_refl line)
  simp only [stepPart, stepLines, List.length_cons]
  omega

theorem inOrder_examples {choice : WordChoice} {text : Lines} {line : Int} {list : List Examples}
    (stands : StandsAt text line (partsFrom (examplesLines choice) line list)) :
    InOrder text line (line + (partsFrom (examplesLines choice) line list).length)
      ((placeExamples line list).map (examplesPart choice)) := by
  rw [List.map_eq_flatMap]
  apply inOrder_partsFrom (length_examplesLines choice) _ stands
  intro line examples here
  have height := line_add_length line 2 examples.tags
    (indented 2 (Header.examples.word false).toList) (rowLines 3 (examplesRows examples))
  have above := headerAt_eq line 2 examples.tags
  rw [examplesLines, ← above] at here
  apply inOrder_singleton here.belowTags
  · simp only [examplesPart]
    omega
  · simp only [examplesPart, examplesHeight, examplesLines, List.length_append,
      List.length_cons] at height ⊢
    omega

theorem inOrder_background {text : Lines} {line : Int} {background : Background}
    (stands : StandsAt text line (backgroundLines background)) :
    InOrder text line (line + (backgroundLines background).length)
      (backgroundParts
        { steps := placeSteps (line + 1) background.steps, line }) := by
  have below : StandsAt text (line + 1) (stepsLines background.steps) := by
    rw [backgroundLines, ← List.singleton_append] at stands
    exact stands.right
  have steps := inOrder_steps below
  have header : InOrder text line (line + 1)
      [⟨line, backgroundLines { steps := placeSteps (line + 1) background.steps, line }⟩] := by
    apply inOrder_singleton
    · rw [backgroundLines, stepsLines_placeSteps]
      exact stands
    · exact le_refl line
    · simp
  have whole := header.append steps (by omega) (by omega)
  simpa [backgroundParts, backgroundLines, add_assoc, add_comm] using whole

theorem definitionParts_placeDefinition (choice : WordChoice) (line : Int)
    (definition : Definition) :
    definitionParts choice (placeDefinition line definition) =
      ⟨headerAt line definition.tags,
        headerLine 1 ((headerOf definition).word (choice (headerAt line definition.tags)))
          definition.name :: stepsLines definition.steps⟩ ::
        ((placeSteps (headerAt line definition.tags + 1) definition.steps).map stepPart ++
          (placeExamples
            (headerAt line definition.tags + 1 + (stepsLines definition.steps).length)
            (examplesOf definition)).map (examplesPart choice)) := by
  cases definition <;>
    simp [definitionParts, placeDefinition, Definition.line, Definition.name, Definition.tags,
      Definition.steps, headerOf, examplesOf, stepsLines_placeSteps, placeExamples, placeFrom]

theorem inOrder_definition {choice : WordChoice} {text : Lines} {line : Int}
    {definition : Definition}
    (stands : StandsAt text line (definitionLines choice line definition)) :
    InOrder text line (line + definitionHeight definition)
      (definitionParts choice (placeDefinition line definition)) := by
  have above := headerAt_eq line 1 definition.tags
  rw [definitionLines, ← above] at stands
  have block := stands.left.belowTags
  have below := stands.right
  rw [line_add_length] at below
  have stepsStand : StandsAt text (headerAt line definition.tags + 1)
      (stepsLines definition.steps) := by
    rw [← List.singleton_append] at block
    exact block.right
  have header : InOrder text line (headerAt line definition.tags + 1)
      [⟨headerAt line definition.tags,
        headerLine 1 ((headerOf definition).word (choice (headerAt line definition.tags)))
          definition.name :: stepsLines definition.steps⟩] :=
    inOrder_singleton block (by simp only; omega) (by simp only; omega)
  have parts := (header.append (inOrder_steps stepsStand) (by omega) (by omega)).append
    (inOrder_examples below) (by omega) (by omega)
  have height : headerAt line definition.tags + 1 + (stepsLines definition.steps).length +
      (partsFrom (examplesLines choice)
        (headerAt line definition.tags + 1 + (stepsLines definition.steps).length)
        (examplesOf definition)).length = line + definitionHeight definition := by
    rw [← length_definitionLines choice line, definitionLines, List.length_append,
      Nat.cast_add, ← add_assoc, line_add_length]
  rw [height] at parts
  rw [definitionParts_placeDefinition]
  simpa using parts

theorem length_featureHead (feature : Feature) :
    (1 : Int) + (featureHead feature).length =
      belowDescription feature + ((feature.background.map backgroundLines).getD []).length := by
  rw [featureHead, line_add_length, belowDescription, List.length_append, List.length_map]
  push_cast
  ring

/-- The background stands under the description. -/
theorem StandsAt.belowDescription {text : Lines} {feature : Feature}
    (stands : StandsAt text 1 (featureHead feature)) :
    StandsAt text (belowDescription feature)
      ((feature.background.map backgroundLines).getD []) := by
  rw [featureHead] at stands
  have under := stands.belowTags
  rw [← List.singleton_append, ← List.append_assoc] at under
  have background := under.right
  rw [List.length_append, List.length_singleton, List.length_map, Nat.cast_add, Nat.cast_one,
    ← add_assoc] at background
  exact background

/-- Every part of a placed feature stands at its line, in the order of the feature. -/
theorem inOrder_placed (choice : WordChoice) (feature : Feature) :
    InOrder (linesOf choice feature) 1 (1 + (linesOf choice feature).length)
      (partsOf choice (placed feature)) := by
  have stands := standsAt_self (linesOf choice feature)
  rw [linesOf] at stands
  have background := stands.left.belowDescription
  have definitions := inOrder_partsFrom (length_definitionLines choice)
    (fun _ _ => inOrder_definition) stands.right
  rw [← linesOf] at background definitions
  have height := length_featureHead feature
  have first : 1 ≤ belowDescription feature := by
    have above := headerAt_eq 1 0 feature.tags
    rw [belowDescription]
    omega
  have head : InOrder (linesOf choice feature) 1 (1 + (featureHead feature).length)
      (((placed feature).background.map backgroundParts).getD []) := by
    cases found : feature.background with
    | none =>
        have absent : (placed feature).background = none := by
          simp [placed, found]
        rw [absent]
        exact inOrder_nil _ _ _
    | some block =>
        have present : (placed feature).background = some
            { steps := placeSteps (belowDescription feature + 1) block.steps
              line := belowDescription feature } := by
          simp [placed, found, belowDescription]
        rw [found, Option.map_some, Option.getD_some] at background height
        rw [present, height]
        exact (inOrder_nil _ 1 (belowDescription feature)).append (inOrder_background background)
          first (by omega)
  have whole := head.append definitions (by omega) (by omega)
  rw [linesOf, List.length_append, Nat.cast_add, ← add_assoc, ← linesOf]
  exact whole

end Document

end Gherkin
