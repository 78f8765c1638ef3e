import Gherkin.Proofs.Document.LineOrder
import Gherkin.Selection

/-!
# What lines select

In a feature that was read, a line selects the definition that stands last at or above
it, with all its entries.  Several lines select what each of them selects.
-/

namespace Gherkin

/-! ## The definition of a line -/

/-- Among numbers that grow, the greatest up to a bound is the last. -/
theorem lastUpTo_eq_getLast? {numbers : List Int} (grow : numbers.Pairwise (· < ·))
    (bound : Int) : lastUpTo bound numbers = (numbers.filter (· ≤ bound)).getLast? := by
  induction numbers with
  | nil => rfl
  | cons number rest ih =>
      obtain ⟨below, restGrow⟩ := List.pairwise_cons.mp grow
      rw [lastUpTo, ih restGrow]
      cases last : (rest.filter (· ≤ bound)).getLast? with
      | none =>
          have empty : rest.filter (· ≤ bound) = [] := List.getLast?_eq_none_iff.mp last
          by_cases small : number ≤ bound <;> simp [small, empty]
      | some later =>
          have greater : number < later :=
            below later (List.mem_of_mem_filter (List.mem_of_getLast? last))
          have notBetter : ¬(number ≤ bound ∧ later < number) := by omega
          change (if number ≤ bound ∧ later < number then some number else some later) = _
          rw [if_neg notBetter, List.filter_cons]
          split
          · rw [List.getLast?_cons, last]
            rfl
          · exact last.symm

namespace Feature

variable {feature : Feature}

/-- The definition that stands last at or above a line. -/
def definitionAt (feature : Feature) (line : Int) : Option Definition :=
  (feature.definitions.filter (·.line ≤ line)).getLast?

theorem startOf_eq (ordered : (feature.definitions.map Definition.line).Pairwise (· < ·))
    (line : Int) : feature.startOf line = (feature.definitionAt line).map Definition.line := by
  rw [startOf, lastUpTo_eq_getLast? ordered, List.filter_map, List.getLast?_map]
  rfl

/-- A line between the header of a definition and those below it belongs to the
definition. -/
theorem definitionAt_eq_some {before after : List Definition} {definition : Definition}
    (split : feature.definitions = before ++ definition :: after) {line : Int}
    (start : definition.line ≤ line) (stop : ∀ later ∈ after, line < later.line) :
    feature.definitionAt line = some definition := by
  have afterEmpty : after.filter (·.line ≤ line) = [] := by
    rw [List.filter_eq_nil_iff]
    intro later member
    simpa using stop later member
  rw [definitionAt, split, List.filter_append, List.filter_cons, if_pos (decide_eq_true start),
    afterEmpty, List.getLast?_concat]

end Feature

/-! ## The entries of a definition -/

/-- The entries of a definition have its line. -/
theorem line_of_mem_expand {source : Option String} {definition : Definition} {entry : Entry}
    (member : entry ∈ definition.expand source) : entry.line = definition.line := by
  cases definition with
  | scenario scenario =>
      obtain rfl := List.mem_singleton.mp member
      rfl
  | outline outline =>
      obtain ⟨⟨examples, block⟩, -, inBlock⟩ := List.mem_flatMap.mp member
      obtain ⟨⟨cells, row⟩, -, rfl⟩ := List.mem_map.mp inBlock
      simp only [Outline.expandRow]
      split <;> rfl

/-- Among the entries of all definitions, those with the line of one definition are its
own. -/
theorem filter_line_entries {source : Option String} {definitions : List Definition}
    (ordered : (definitions.map Definition.line).Pairwise (· < ·)) {definition : Definition}
    (member : definition ∈ definitions) :
    (definitions.flatMap (Definition.expand source)).filter (·.line = definition.line) =
      definition.expand source := by
  -- All entries of a definition have its line, and no other definition has that line.
  have own : (definition.expand source).filter (·.line = definition.line) =
      definition.expand source :=
    List.filter_eq_self.mpr fun entry inside => decide_eq_true (line_of_mem_expand inside)
  have others {list : List Definition} (apart : ∀ other ∈ list, other.line ≠ definition.line) :
      (list.flatMap (Definition.expand source)).filter (·.line = definition.line) = [] := by
    rw [List.filter_eq_nil_iff]
    intro entry inside
    obtain ⟨other, otherMember, expanded⟩ := List.mem_flatMap.mp inside
    simpa [line_of_mem_expand expanded] using apart other otherMember
  obtain ⟨before, after, rfl⟩ := List.append_of_mem member
  rw [List.map_append, List.map_cons, List.pairwise_append, List.pairwise_cons] at ordered
  obtain ⟨-, ⟨below, -⟩, above⟩ := ordered
  have beforeApart : ∀ other ∈ before, other.line ≠ definition.line := by
    intro other otherMember
    exact Int.ne_of_lt (above other.line (List.mem_map_of_mem otherMember) definition.line
      List.mem_cons_self)
  have afterApart : ∀ other ∈ after, other.line ≠ definition.line := by
    intro other otherMember
    exact Int.ne_of_gt (below other.line (List.mem_map_of_mem otherMember))
  rw [List.flatMap_append, List.flatMap_cons, List.filter_append, List.filter_append,
    others beforeApart, others afterApart, own, List.nil_append, List.append_nil]

/-! ## Selecting by lines -/

namespace Selection

variable {feature : Feature}

theorem select_line (ordered : (feature.definitions.map Definition.line).Pairwise (· < ·))
    (line : Int) :
    ({ lines := [line] } : Selection).select feature feature.entries =
      ((feature.definitionAt line).map (Definition.expand feature.source)).getD [] := by
  have allows : ∀ entry : Entry, ({ lines := [line] } : Selection).allows feature entry =
      (feature.startOf line == some entry.line) := by
    simp [Selection.allows, allowsTags, allowsName, allowsLine, Feature.matchesLines]
  rw [select, List.filter_congr fun entry _ => allows entry, Feature.startOf_eq ordered]
  cases at' : feature.definitionAt line with
  | none => simp
  | some definition =>
      have member : definition ∈ feature.definitions :=
        List.mem_of_mem_filter (List.mem_of_getLast? at')
      rw [Option.map_some, Option.map_some, Option.getD_some, Feature.entries,
        ← filter_line_entries ordered member]
      apply List.filter_congr
      intro entry _
      rw [Bool.eq_iff_iff, beq_iff_eq, decide_eq_true_iff, Option.some.injEq]
      exact eq_comm

/-- A line selects an entry that the filters select and that belongs to its definition. -/
theorem mem_select_line {selection : Selection} {entries : List Entry} {entry : Entry}
    {line : Int} :
    entry ∈ ({ selection with lines := [line] } : Selection).select feature entries ↔
      entry ∈ entries ∧ selection.allowsTags feature entry ∧ selection.allowsName entry ∧
        feature.startOf line = some entry.line := by
  simp [select, allows, allowsTags, allowsName, allowsLine, Feature.matchesLines, and_assoc]

/-- Several lines select what each of them selects. -/
theorem select_lines {selection : Selection} (targeted : selection.lines ≠ [])
    (entries : List Entry) :
    selection.select feature entries =
      entries.filter fun entry => ∃ line ∈ selection.lines,
        entry ∈ ({ selection with lines := [line] } : Selection).select feature entries := by
  apply List.filter_congr
  intro entry member
  rw [Bool.eq_iff_iff, decide_eq_true_iff]
  simp only [allows, allowsLine, List.isEmpty_eq_false_iff.mpr targeted, Bool.false_or,
    Feature.matchesLines, Bool.and_eq_true, List.any_eq_true, beq_iff_eq, mem_select_line]
  constructor
  · rintro ⟨⟨tags, name⟩, line, lineMember, starts⟩
    exact ⟨line, lineMember, member, tags, name, starts⟩
  · rintro ⟨line, lineMember, -, tags, name, starts⟩
    exact ⟨⟨tags, name⟩, line, lineMember, starts⟩

end Selection

/-! ## Features that were read -/

section Read

variable {text : String} {source : Option String} {feature : Feature}

theorem definitions_ordered (read : Document.read text source = .ok feature) :
    (feature.definitions.map Definition.line).Pairwise (· < ·) := by
  rw [List.pairwise_map]
  exact (Document.pairwise_definitions read).imp And.left

/-- The lines of a definition belong to it. -/
theorem definitionAt_of_mem (read : Document.read text source = .ok feature)
    {definition : Definition} (member : definition ∈ feature.definitions) {line : Int}
    (inside : line ∈ definition.line :: definition.innerLines) :
    feature.definitionAt line = some definition := by
  have ordered := Document.pairwise_definitions read
  obtain ⟨before, after, split⟩ := List.append_of_mem member
  rw [split, List.pairwise_append, List.pairwise_cons] at ordered
  have below := ordered.2.1.1
  apply Feature.definitionAt_eq_some split
  · rcases List.mem_cons.mp inside with rfl | inner
    · exact Int.le_refl _
    · exact Int.le_of_lt (Document.line_lt_innerLines read member inner)
  · intro later laterMember
    rcases List.mem_cons.mp inside with rfl | inner
    · exact (below later laterMember).1
    · exact (below later laterMember).2 line inner

/-- In a feature that was read the background stands above the definitions, and each
definition with its steps and examples above the next.  So a line selects all entries of
the definition whose header stands last at or above it, each line of a definition selects
the entries of that definition, and several lines select what one of them selects. -/
theorem select_lines_of_read (read : Document.read text source = .ok feature) :
    (∀ background ∈ feature.background, ∀ definition ∈ feature.definitions,
        background.line < definition.line) ∧
      (∀ definition ∈ feature.definitions, ∀ inner ∈ definition.innerLines,
        definition.line < inner) ∧
      feature.definitions.Pairwise (fun definition later =>
        definition.line < later.line ∧ ∀ inner ∈ definition.innerLines, inner < later.line) ∧
      (∀ line, ({ lines := [line] } : Selection).select feature feature.entries =
        ((feature.definitionAt line).map (Definition.expand feature.source)).getD []) ∧
      (∀ definition ∈ feature.definitions, ∀ line ∈ definition.line :: definition.innerLines,
        ({ lines := [line] } : Selection).select feature feature.entries =
          definition.expand feature.source) ∧
      ∀ selection : Selection, selection.lines ≠ [] →
        selection.select feature feature.entries =
          feature.entries.filter fun entry => ∃ line ∈ selection.lines,
            entry ∈
              ({ selection with lines := [line] } : Selection).select feature feature.entries := by
  have ordered := definitions_ordered read
  refine ⟨?_, ?_, Document.pairwise_definitions read, Selection.select_line ordered, ?_, ?_⟩
  · intro background present definition member
    exact Document.background_line_lt read present member
  · intro definition member inner inside
    exact Document.line_lt_innerLines read member inside
  · intro definition member line inside
    rw [Selection.select_line ordered, definitionAt_of_mem read member inside]
    rfl
  · intro selection targeted
    exact Selection.select_lines targeted feature.entries

/-- A text with a background, a scenario, and an outline of which the second row cannot be
filled in. -/
def targetedText : String :=
  "Feature: F\nBackground:\nGiven b\nScenario: A\nWhen x\nScenario Outline: B\nThen <v>\n" ++
    "Examples:\n|v|\n|1|\nExamples:\n|w|\n|2|"

/-- The scenario of the text. -/
def targetedScenario : Definition :=
  .scenario
    { name := "A", line := 4
      steps := [{ keyword := .action, text := "x", resolved := .action, line := 5 }] }

/-- The outline of the text. -/
def targetedOutline : Definition :=
  .outline
    { name := "B", line := 6
      steps := [{ keyword := .outcome, text := "<v>", resolved := .outcome, line := 7 }]
      examples :=
        [{ header := ["v"], rows := [["1"]], line := 8 },
          { header := ["w"], rows := [["2"]], line := 11 }] }

/-- What is read from the text. -/
def targetedFeature : Feature :=
  { name := "F"
    background := some
      { line := 2
        steps := [{ keyword := .context, text := "b", resolved := .context, line := 3 }] }
    definitions := [targetedScenario, targetedOutline] }

theorem select_lines_of_read_targeted :
    Document.read targetedText = .ok targetedFeature ∧
      (({ lines := [3] } : Selection).select targetedFeature targetedFeature.entries = []) ∧
      (({ lines := [5] } : Selection).select targetedFeature targetedFeature.entries =
        targetedScenario.expand none) ∧
      (({ lines := [11] } : Selection).select targetedFeature targetedFeature.entries =
        targetedOutline.expand none) ∧
      (targetedOutline.expand none).map Entry.ok = [true, false] := by
  have whole : Document.read targetedText = .ok targetedFeature := by decide +kernel
  obtain ⟨-, -, -, at', inside, -⟩ := select_lines_of_read whole
  refine ⟨whole, (at' 3).trans (by decide +kernel), ?_, ?_, by decide +kernel⟩
  · exact inside targetedScenario (by decide) 5 (by decide)
  · exact inside targetedOutline (by decide) 11 (by decide)

end Read

end Gherkin
