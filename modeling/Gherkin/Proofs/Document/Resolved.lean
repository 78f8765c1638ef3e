import Gherkin.Proofs.Document.Buffered
import Gherkin.Proofs.Outline.Blocks
import Gherkin.Proofs.Step.Resolution

/-!
# What conjunctions stand for

In a feature that was read, a step that continues others stands for the nearest step before it
in its block that does not, and so it does in every row of an outline.  Neither other blocks
nor what stands between the steps has a part in it.
-/

namespace Gherkin

/-- What a keyword stands for after the keywords of the earlier steps of its block. -/
inductive Keyword.ResolvesTo (earlier : List Keyword) : Keyword → Keyword → Prop
  /-- It stands for itself, unless it is a conjunction. -/
  | own {keyword : Keyword} (concrete : keyword.isConjunction = false) :
      ResolvesTo earlier keyword keyword
  /-- A conjunction stands for the nearest earlier keyword that is none. -/
  | nearest {keyword found : Keyword} {before between : List Keyword}
      (conjunction : keyword.isConjunction = true) (split : earlier = before ++ found :: between)
      (concrete : found.isConjunction = false)
      (continued : ∀ other ∈ between, other.isConjunction = true) :
      ResolvesTo earlier keyword found
  /-- Where there is no such keyword, it stands for a context. -/
  | first {keyword : Keyword} (conjunction : keyword.isConjunction = true)
      (continued : ∀ other ∈ earlier, other.isConjunction = true) :
      ResolvesTo earlier keyword .context

/-- The blocks of steps of a feature: its background, its scenarios and its outlines. -/
def Feature.blocks (feature : Feature) : List (List Step) :=
  (feature.background.map Background.steps).toList ++ feature.definitions.map Definition.steps

/-- The registration is for any keyword, or for the one that the step stands for. -/
def Registration.Admits {c : Type} (registration : Registration c) (step : Step) : Prop :=
  registration.keyword = none ∨ registration.keyword = some step.resolved

/-- A step that is to be resolved as the step that it was made from. -/
structure Step.SameConstraint (template step : Step) : Prop where
  keyword : step.keyword = template.keyword
  resolved : step.resolved = template.resolved
  applies : ∀ {c : Type} (registration : Registration c), registration.AppliesTo step ↔
    registration.Admits template ∧ (registration.pattern.fullMatch step.text).isSome

theorem Keyword.ResolvesTo.isConjunction_eq_false {earlier : List Keyword}
    {keyword resolved : Keyword} (resolves : ResolvesTo earlier keyword resolved) :
    resolved.isConjunction = false := by
  cases resolves with
  | own concrete => exact concrete
  | nearest _ _ concrete _ => exact concrete
  | first => rfl

theorem Step.SameShape.sameConstraint {template step : Step} (same : template.SameShape step) :
    template.SameConstraint step where
  keyword := same.keyword
  resolved := same.resolved
  applies registration := by rw [Registration.Admits, ← same.resolved, Registration.AppliesTo]

namespace Document

/-! ## The last keyword of a block -/

/-- The last keyword that is no conjunction is followed by conjunctions only. -/
theorem lastKeyword_cases (steps : List Step) :
    (lastKeyword steps = none ∧ ∀ step ∈ steps, step.keyword.isConjunction = true) ∨
      ∃ before step between, steps = before ++ step :: between ∧
        lastKeyword steps = some step.keyword ∧ step.keyword.isConjunction = false ∧
        ∀ other ∈ between, other.keyword.isConjunction = true := by
  induction steps using List.reverseRecOn with
  | nil => exact Or.inl ⟨rfl, by simp⟩
  | append_singleton steps last ih =>
      rw [lastKeyword_concat]
      cases conjunction : last.keyword.isConjunction with
      | false => exact Or.inr ⟨steps, last, [], rfl, rfl, conjunction, by simp⟩
      | true =>
          rcases ih with ⟨none, all⟩ | ⟨before, step, between, rfl, found, concrete, continued⟩
          · left
            refine ⟨none, ?_⟩
            intro step member
            rcases List.mem_append.mp member with earlier | here
            · exact all step earlier
            · rwa [List.mem_singleton.mp here]
          · right
            refine ⟨before, step, between ++ [last], by simp, found, concrete, ?_⟩
            intro other member
            rcases List.mem_append.mp member with earlier | here
            · exact continued other earlier
            · rwa [List.mem_singleton.mp here]

/-- Resolving against the last keyword is resolving against the earlier keywords. -/
theorem resolvesTo_lastKeyword (steps : List Step) (keyword : Keyword) :
    Keyword.ResolvesTo (steps.map Step.keyword) keyword (keyword.resolve (lastKeyword steps)) := by
  rw [Keyword.resolve]
  cases conjunction : keyword.isConjunction with
  | false => exact .own conjunction
  | true =>
      rw [if_pos rfl]
      rcases lastKeyword_cases steps with
        ⟨none, all⟩ | ⟨before, step, between, rfl, found, concrete, continued⟩
      · rw [none]
        exact .first conjunction (List.forall_mem_map.mpr all)
      · rw [found]
        exact .nearest conjunction List.map_append concrete (List.forall_mem_map.mpr continued)

/-! ## The steps of a block -/

theorem resolvedFrom_of_append {previous : Option Keyword} {steps later : List Step}
    (resolved : ResolvedFrom previous (steps ++ later)) : ResolvedFrom previous steps := by
  induction steps generalizing previous with
  | nil => trivial
  | cons first rest ih => exact ⟨resolved.1, ih resolved.2⟩

/-- What a step of a block stands for is decided by the keywords before it. -/
theorem resolvesTo_of_resolvedFrom {steps : List Step} (resolved : ResolvedFrom none steps)
    {position : Nat} {step : Step} (present : steps[position]? = some step) :
    Keyword.ResolvesTo ((steps.take position).map Step.keyword) step.keyword step.resolved := by
  have split : steps = steps.take position ++ [step] ++ steps.drop (position + 1) := by
    rw [← Option.toList_some, ← present, ← List.take_add_one, List.take_append_drop]
  obtain ⟨before, own⟩ := resolvedFrom_concat_iff.mp (resolvedFrom_of_append (split ▸ resolved))
  have repeated := resolved_getLast?_eq_lastKeyword before
  have resolves : step.resolved = step.keyword.resolve (lastKeyword (steps.take position)) := by
    rw [own, Option.or_none, Keyword.resolve, Keyword.resolve, repeated]
  rw [resolves]
  exact resolvesTo_lastKeyword _ _

/-- Blocks with the same keywords stand for the same. -/
theorem map_resolved_congr {previous : Option Keyword} {steps others : List Step}
    (resolved : ResolvedFrom previous steps) (otherResolved : ResolvedFrom previous others)
    (keywords : steps.map Step.keyword = others.map Step.keyword) :
    steps.map Step.resolved = others.map Step.resolved := by
  induction steps generalizing previous others with
  | nil =>
      obtain rfl := List.map_eq_nil_iff.mp keywords.symm
      rfl
  | cons first rest ih =>
      cases others with
      | nil => simp at keywords
      | cons other others =>
          obtain ⟨sameFirst, sameRest⟩ := List.cons.inj keywords
          have same : first.resolved = other.resolved := by
            rw [resolved.1, otherResolved.1, sameFirst]
          rw [List.map_cons, List.map_cons, same,
            ih resolved.2 (same ▸ otherResolved.2) sameRest]

/-- Every block of a feature that can be written is resolved on its own. -/
theorem WellFormed.resolved {feature : Feature} (valid : WellFormed feature) {block : List Step}
    (member : block ∈ feature.blocks) : ResolvedFrom none block := by
  rcases List.mem_append.mp member with inBackground | inDefinitions
  · obtain ⟨background, present, rfl⟩ := Option.map_eq_some_iff.mp (Option.mem_toList.mp inBackground)
    exact (valid.background background present).resolved
  · obtain ⟨definition, inside, rfl⟩ := List.mem_map.mp inDefinitions
    exact (valid.definitions definition inside).steps.resolved

end Document

/-! ## The rows of an outline -/

/-- The scenario of a row has the steps of the outline, to be resolved alike. -/
theorem Outline.forall₂_sameConstraint {outline : Outline} {source : Option String} {entry : Entry}
    (member : entry ∈ outline.expand source) {scenario : Scenario}
    (runnable : entry.scenario? = some scenario) :
    List.Forall₂ Step.SameConstraint outline.steps scenario.steps := by
  obtain ⟨origin, isRow, -, rfl⟩ := entryOf_mem_expand member
  obtain rfl := isRow.owner
  have filled := standsFor_expandRow.scenario scenario runnable
  exact filled.steps.imp fun _ _ same => same.sameConstraint

namespace Document

/-- In a feature that was read every step stands for its own keyword or, if it is a conjunction,
for the nearest earlier keyword of its block that is none, and otherwise for a context.  So it
never stands for a conjunction; blocks with the same keywords stand for the same, whatever was
read beside them; and the steps of every row of an outline are resolved as those of the
outline. -/
theorem resolved_of_read {text : String} {source : Option String} {feature : Feature}
    (readText : read text source = .ok feature) :
    (∀ block ∈ feature.blocks, ∀ (position : Nat) (step : Step), block[position]? = some step →
      Keyword.ResolvesTo ((block.take position).map Step.keyword) step.keyword step.resolved ∧
        step.resolved.isConjunction = false) ∧
      (∀ otherText otherSource other, read otherText otherSource = .ok other →
        ∀ block ∈ feature.blocks, ∀ otherBlock ∈ other.blocks,
          block.map Step.keyword = otherBlock.map Step.keyword →
            block.map Step.resolved = otherBlock.map Step.resolved) ∧
      ∀ outline ∈ feature.outlines, ∀ entry ∈ outline.expand feature.source,
        ∀ scenario ∈ entry.scenario?,
          List.Forall₂ Step.SameConstraint outline.steps scenario.steps := by
  have valid := (wellFormed_of_read readText).1
  refine ⟨?_, ?_, ?_⟩
  · intro block member position step present
    have resolves := resolvesTo_of_resolvedFrom (valid.resolved member) present
    exact ⟨resolves, resolves.isConjunction_eq_false⟩
  · intro otherText otherSource other otherRead block member otherBlock otherMember keywords
    have otherValid := (wellFormed_of_read otherRead).1
    exact map_resolved_congr (valid.resolved member) (otherValid.resolved otherMember) keywords
  · intro outline _ entry member scenario runnable
    exact Outline.forall₂_sameConstraint member runnable

/-- Conjunctions at the start of blocks, under a table, and under a doc string. -/
def conjunctionsText : String :=
  "Feature: F\nBackground:\nAnd a\nWhen b\nScenario: A\nBut c\n|1|\n# d\nThen e\n```\nGiven\n" ++
    "```\nAnd f\nScenario Outline: B\nAnd <v>\nExamples:\n|v|\n|1|"

/-- The steps of its scenario. -/
def conjunctionsSteps : List Step :=
  [{ keyword := .but, text := "c", resolved := .context, table := some ⟨[["1"]]⟩, line := 6 },
    { keyword := .outcome, text := "e", resolved := .outcome,
      doc := some { content := "Given" }, line := 9 },
    { keyword := .and, text := "f", resolved := .outcome, line := 13 }]

/-- Its outline. -/
def conjunctionsOutline : Outline :=
  { name := "B", line := 14
    steps := [{ keyword := .and, text := "<v>", resolved := .context, line := 15 }]
    examples := [{ header := ["v"], rows := [["1"]], line := 16 }] }

/-- What is read from it. -/
def conjunctionsFeature : Feature :=
  { name := "F"
    background := some
      { line := 2
        steps :=
          [{ keyword := .and, text := "a", resolved := .context, line := 3 },
            { keyword := .action, text := "b", resolved := .action, line := 4 }] }
    definitions :=
      [.scenario { name := "A", line := 5, steps := conjunctionsSteps },
        .outline conjunctionsOutline] }

theorem resolved_of_read_conjunctions :
    read conjunctionsText = .ok conjunctionsFeature ∧
      Keyword.ResolvesTo [.but, .outcome] .and .outcome ∧
      Keyword.ResolvesTo [] .but .context ∧
      ∀ entry ∈ conjunctionsOutline.expand, ∀ scenario ∈ entry.scenario?,
        List.Forall₂ Step.SameConstraint conjunctionsOutline.steps scenario.steps := by
  have readText : read conjunctionsText = .ok conjunctionsFeature := by decide +kernel
  obtain ⟨resolves, -, rows⟩ := resolved_of_read readText
  have inFeature : conjunctionsSteps ∈ conjunctionsFeature.blocks := by decide
  have third := (resolves conjunctionsSteps inFeature 2 _ rfl).1
  have first := (resolves conjunctionsSteps inFeature 0 _ rfl).1
  exact ⟨readText, third, first, rows conjunctionsOutline (by decide)⟩

end Document

end Gherkin
