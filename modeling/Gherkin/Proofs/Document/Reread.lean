import Gherkin.Proofs.Document.FeatureReadBack

/-!
# What is unchanged by writing and reading

A feature that was written and read is the feature itself exactly when the content
of every doc string survives it.
-/

namespace Gherkin.Document

open Gherkin.Text

/-! ## Lines and contents -/

theorem feed_not_mem_rereadLine {line : List Char} (noFeed : '\n' ∉ line) :
    '\n' ∉ rereadLine line := by
  intro member
  rcases mem_of_mem_replace Fence.quotes.escaped_ne_nil member with inFence | inRead
  · exact absurd inFence (by decide)
  · have inWritten : '\n' ∈ Fence.quotes.escape line := by
      rcases eq_dropReturn_or (Fence.quotes.escape line) with same | lost
      · rw [same]
        exact inRead
      · rw [lost]
        exact List.mem_append_left _ inRead
    rcases mem_of_mem_replace Fence.quotes.text_ne_nil inWritten with inEscape | inLine
    · exact absurd inEscape (by decide)
    · exact noFeed inLine

/-- A line that ends with a carriage return comes back with one less. -/
theorem rereadLine_ne_of_return {line : List Char} (last : line.getLast? = some '\r') :
    rereadLine line ≠ line := by
  intro same
  have escapedLast : (Fence.quotes.escape line).getLast? = some '\r' :=
    (Fence.quotes.getLast?_escape line).trans last
  have returns : (Fence.quotes.escape line).count '\r' = line.count '\r' :=
    count_replace Fence.quotes.text_ne_nil (by decide) (by decide) line
  have kept : (rereadLine line).count '\r' =
      (dropReturn (Fence.quotes.escape line)).count '\r' :=
    count_replace Fence.quotes.escaped_ne_nil (by decide) (by decide) _
  obtain ⟨front, frontEq⟩ := List.getLast?_eq_some_iff.mp escapedLast
  rw [dropReturn, if_pos escapedLast, frontEq, List.dropLast_concat, same] at kept
  rw [frontEq, List.count_append, List.count_singleton_self] at returns
  omega

theorem rereadLine_eq_iff {line : List Char} :
    rereadLine line = line ↔ Fence.quotes.Escapable line ∧ line.getLast? ≠ some '\r' := by
  by_cases last : line.getLast? = some '\r'
  · simp [last, rereadLine_ne_of_return last]
  · have escapedLast : (Fence.quotes.escape line).getLast? ≠ some '\r' := by
      rwa [Fence.getLast?_escape]
    rw [rereadLine, dropReturn_eq_self escapedLast, Fence.unescape_escape_eq_iff,
      and_iff_left last]

theorem map_eq_self_iff {α : Type} {f : α → α} {list : List α} :
    list.map f = list ↔ ∀ part ∈ list, f part = part := by
  simpa using List.map_inj_left (l := list) (f := f) (g := id)

/-- A content comes back when each of its lines does: cutting what comes back gives
the lines that came back. -/
theorem rereadContent_eq_iff {content : String} :
    rereadContent content = content ↔ IsContent content := by
  have noFeed : ∀ piece ∈ (splitAt '\n' content.toList).map rereadLine, '\n' ∉ piece := by
    intro piece found
    obtain ⟨line, member, rfl⟩ := List.mem_map.mp found
    exact feed_not_mem_rereadLine (not_mem_of_mem_splitAt member)
  have nonempty : (splitAt '\n' content.toList).map rereadLine ≠ [] := by
    simpa using splitAt_ne_nil '\n' content.toList
  have cut : splitAt '\n' (rereadContent content).toList =
      (splitAt '\n' content.toList).map rereadLine := by
    rw [rereadContent, String.toList_ofList, splitAt_join nonempty noFeed]
  have lines : IsContent content ↔
      (splitAt '\n' content.toList).map rereadLine = splitAt '\n' content.toList := by
    simp only [IsContent, map_eq_self_iff, rereadLine_eq_iff]
  rw [lines]
  constructor
  · intro same
    rw [← cut, same]
  · intro same
    rw [rereadContent, same, join_splitAt, String.ofList_toList]

/-! ## Parts of a feature -/

theorem reread_step_eq_iff {step : Step} :
    step.reread = step ↔ ∀ doc ∈ step.doc, IsContent doc.content := by
  obtain ⟨keyword, text, resolved, table, doc, line⟩ := step
  cases doc with
  | none => simp [Step.reread]
  | some doc =>
      obtain ⟨content, contentType⟩ := doc
      simp [Step.reread, DocString.reread, rereadContent_eq_iff]

theorem reread_steps_eq_iff {steps : List Step} :
    steps.map Step.reread = steps ↔
      ∀ step ∈ steps, ∀ doc ∈ step.doc, IsContent doc.content := by
  simp only [map_eq_self_iff, reread_step_eq_iff]

theorem reread_definition_eq_iff {definition : Definition} :
    definition.reread = definition ↔
      ∀ step ∈ definition.steps, ∀ doc ∈ step.doc, IsContent doc.content := by
  cases definition with
  | scenario s =>
      obtain ⟨name, tags, steps, line⟩ := s
      simp [Definition.reread, Definition.steps, reread_steps_eq_iff]
  | outline o =>
      obtain ⟨name, tags, steps, examples, line⟩ := o
      simp [Definition.reread, Definition.steps, reread_steps_eq_iff]

theorem reread_definitions_eq_iff {definitions : List Definition} :
    definitions.map Definition.reread = definitions ↔
      ∀ step ∈ definitions.flatMap Definition.steps, ∀ doc ∈ step.doc,
        IsContent doc.content := by
  simp only [map_eq_self_iff, reread_definition_eq_iff, List.mem_flatMap]
  constructor
  · rintro each step ⟨definition, member, inside⟩
    exact each definition member step inside
  · intro each definition member step inside
    exact each step ⟨definition, member, inside⟩

/-- A feature comes back when the contents of all its doc strings do. -/
theorem reread_feature_eq_iff {feature : Feature} :
    feature.reread = feature ↔
      ∀ step ∈ feature.allSteps, ∀ doc ∈ step.doc, IsContent doc.content := by
  obtain ⟨name, description, tags, background, definitions, source⟩ := feature
  have parts : (Feature.mk name description tags background definitions source).reread =
      Feature.mk name description tags background definitions source ↔
        background.map Background.reread = background ∧
          definitions.map Definition.reread = definitions := by
    simp only [Feature.reread, Feature.mk.injEq, true_and, and_true]
  rw [parts, reread_definitions_eq_iff]
  simp only [Feature.allSteps, List.mem_append, or_imp, forall_and]
  apply and_congr _ Iff.rfl
  cases background with
  | none => simp [Feature.backgroundSteps]
  | some background =>
      obtain ⟨steps, line⟩ := background
      simpa [Feature.backgroundSteps, Background.reread] using reread_steps_eq_iff

end Gherkin.Document
