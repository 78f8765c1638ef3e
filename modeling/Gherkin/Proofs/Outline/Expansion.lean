import Gherkin.Outline.Expansion
import Gherkin.Proofs.Tag
import Gherkin.Proofs.Text.Numeral
import Gherkin.Run.Result
import Mathlib.Data.List.Flatten
import Mathlib.Data.List.Forall2

/-!
# The shape of an expansion

The entries of a feature follow its definitions.  A scenario stands for itself, and an
outline has one entry for each row of its examples, in the order of the blocks and of the
rows.  A filled row has the steps of the outline with other texts, and the names of the
rows of an outline are all different.
-/

namespace Gherkin

/-! ## The rows of an outline -/

/-- The row is one of the outline. -/
structure RowOrigin.IsRowOf (origin : RowOrigin) (outline : Outline) : Prop where
  owner : origin.outline = outline
  block : outline.examples[origin.block]? = some origin.examples
  row : origin.row < origin.examples.rows.length

/-- A row stands in an earlier block, or earlier in the same block. -/
def RowOrigin.Before (first second : RowOrigin) : Prop :=
  first.block < second.block ∨ first.block = second.block ∧ first.row < second.row

/-- The values of a row. -/
def RowOrigin.cells (origin : RowOrigin) : List String :=
  (origin.examples.rows[origin.row]?).getD []

namespace Outline

/-- The rows of an outline. -/
def origins (outline : Outline) : List RowOrigin :=
  outline.examples.zipIdx.flatMap fun (examples, block) =>
    examples.rows.zipIdx.map fun (_, row) => { outline, examples, block, row }

theorem mem_origins_iff {outline : Outline} {origin : RowOrigin} :
    origin ∈ outline.origins ↔ origin.IsRowOf outline := by
  constructor
  · intro member
    obtain ⟨⟨examples, block⟩, atBlock, inBlock⟩ := List.mem_flatMap.mp member
    obtain ⟨⟨cells, row⟩, atRow, rfl⟩ := List.mem_map.mp inBlock
    rw [List.mem_zipIdx_iff_getElem?] at atBlock atRow
    exact ⟨rfl, atBlock, (List.getElem?_eq_some_iff.mp atRow).1⟩
  · intro isRow
    rcases origin with ⟨owner, examples, block, row⟩
    rcases isRow with ⟨rfl, atBlock, inside⟩
    have atRow : (examples.rows[row], row) ∈ examples.rows.zipIdx :=
      List.mem_zipIdx_iff_getElem?.mpr (List.getElem?_eq_getElem inside)
    exact List.mem_flatMap.mpr ⟨(examples, block), List.mem_zipIdx_iff_getElem?.mpr atBlock,
      List.mem_map.mpr ⟨_, atRow, rfl⟩⟩

theorem pairwise_zipIdx {α : Type} (items : List α) :
    items.zipIdx.Pairwise fun first second => first.2 < second.2 := by
  rw [← List.pairwise_map (f := Prod.snd), List.zipIdx_map_snd]
  exact List.pairwise_lt_range'

theorem pairwise_origins (outline : Outline) : outline.origins.Pairwise RowOrigin.Before := by
  rw [origins, List.pairwise_flatMap]
  constructor
  · rintro ⟨examples, block⟩ -
    rw [List.pairwise_map]
    exact (pairwise_zipIdx examples.rows).imp fun earlier => Or.inr ⟨rfl, earlier⟩
  · refine (pairwise_zipIdx outline.examples).imp ?_
    rintro ⟨examples, block⟩ ⟨laterExamples, laterBlock⟩ earlier first firstMember second
      secondMember
    obtain ⟨_, _, rfl⟩ := List.mem_map.mp firstMember
    obtain ⟨_, _, rfl⟩ := List.mem_map.mp secondMember
    exact Or.inl earlier

theorem length_origins (outline : Outline) :
    outline.origins.length = sumOf (fun examples => examples.rows.length) outline.examples := by
  have counted (blocks : List Examples) (first : Nat) :
      ((blocks.zipIdx first).flatMap fun (examples, block) =>
          examples.rows.zipIdx.map fun (_, row) =>
            ({ outline, examples, block, row } : RowOrigin)).length =
        sumOf (fun examples => examples.rows.length) blocks := by
    induction blocks generalizing first with
    | nil => rfl
    | cons examples rest ih =>
        rw [List.zipIdx_cons, List.flatMap_cons, List.length_append, ih, List.length_map,
          List.length_zipIdx]
        rfl
  exact counted outline.examples 0

/-- An outline has the entries of its rows. -/
theorem expand_eq_map_origins (outline : Outline) (source : Option String) :
    outline.expand source = outline.origins.map fun origin =>
      outline.expandRow source origin.examples origin.block origin.row origin.cells := by
  rw [expand, origins, List.map_flatMap]
  apply List.flatMap_congr
  rintro ⟨examples, block⟩ -
  rw [List.map_map]
  apply List.map_congr_left
  rintro ⟨cells, row⟩ member
  rw [List.mem_zipIdx_iff_getElem?] at member
  simp only [Function.comp_apply, RowOrigin.cells, member, Option.getD_some]

/-! ## The names of rows -/

/-- The name of a row tells its place in the block, and the block when there are several. -/
theorem rowName_inj {outline : Outline} {block row block' row' : Nat}
    (equal : outline.rowName block row = outline.rowName block' row') :
    row = row' ∧ (1 < outline.examples.length → block = block') := by
  unfold rowName at equal
  split at equal
  · simp only [String.append_assoc, String.append_right_inj] at equal
    have texts := congrArg String.toList equal
    simp only [String.toList_append] at texts
    obtain ⟨blocks, rest⟩ := Text.numeral_append_inj (c := ',') (by decide) texts
    change " Row ".toList ++ _ = " Row ".toList ++ _ at rest
    obtain ⟨rows, -⟩ :=
      Text.numeral_append_inj (c := ']') (by decide) (List.append_cancel_left rest)
    omega
  · rename_i single
    simp only [String.append_assoc, String.append_right_inj] at equal
    have texts := congrArg String.toList equal
    simp only [String.toList_append] at texts
    obtain ⟨rows, -⟩ := Text.numeral_append_inj (c := ']') (by decide) texts
    omega

/-- The rows of an outline have different names. -/
theorem nodup_map_rowName (outline : Outline) :
    (outline.origins.map fun origin => outline.rowName origin.block origin.row).Nodup := by
  rw [List.Nodup, List.pairwise_map]
  refine (pairwise_origins outline).imp_of_mem ?_
  intro first second firstMember secondMember earlier equal
  obtain ⟨sameRow, sameBlock⟩ := rowName_inj equal
  by_cases several : 1 < outline.examples.length
  · rcases earlier with lower | ⟨-, lower⟩
    · exact Nat.ne_of_lt lower (sameBlock several)
    · exact Nat.ne_of_lt lower sameRow
  · -- Both rows stand in the only block.
    have firstInside := (List.getElem?_eq_some_iff.mp (mem_origins_iff.mp firstMember).block).1
    have secondInside := (List.getElem?_eq_some_iff.mp (mem_origins_iff.mp secondMember).block).1
    rcases earlier with lower | ⟨-, lower⟩ <;> omega

end Outline

/-! ## The entry of a row -/

/-- Two steps that differ in their texts only: the keyword, the line, the size of the table
and the kind of the doc string are the same. -/
structure Step.SameShape (template step : Step) : Prop where
  keyword : step.keyword = template.keyword
  resolved : step.resolved = template.resolved
  line : step.line = template.line
  table : step.table.map (fun table => table.rows.map List.length) =
    template.table.map fun table => table.rows.map List.length
  doc : step.doc.map DocString.contentType = template.doc.map DocString.contentType

theorem Step.sameShape_fill (template : Step) (values : Record String) :
    template.SameShape (template.fill values) where
  keyword := rfl
  resolved := rfl
  line := rfl
  table := by
    simp only [fill, Option.map_map, Function.comp_def, List.map_map, List.length_map]
  doc := by
    simp only [fill, Option.map_map, Function.comp_def]

/-- The scenario is the outline with the texts of a row. -/
structure Scenario.FilledFrom (scenario : Scenario) (origin : RowOrigin) : Prop where
  steps : List.Forall₂ Step.SameShape origin.outline.steps scenario.steps
  tags : scenario.tags = (origin.outline.tags ++ origin.examples.tags).eraseDups
  once : scenario.tags.Nodup
  line : scenario.line = origin.outline.line

/-- The entry is that of a row: it is named after the outline and the numbers of the row
and, if there are several blocks, of its block. -/
structure Entry.StandsFor (entry : Entry) (origin : RowOrigin) : Prop where
  row : entry.origin? = some origin
  name : entry.name = origin.outline.name ++
    if 1 < origin.outline.examples.length then
      " [Examples " ++ toString (origin.block + 1) ++ ", Row " ++ toString (origin.row + 1) ++ "]"
    else " [Row " ++ toString (origin.row + 1) ++ "]"
  scenario : ∀ scenario ∈ entry.scenario?, scenario.FilledFrom origin

namespace Outline

variable {outline : Outline} {source : Option String} {examples : Examples} {block row : Nat}
  {cells : List String}

theorem name_expandRow :
    (outline.expandRow source examples block row cells).name = outline.rowName block row := by
  rw [expandRow]
  split <;> rfl

theorem standsFor_expandRow :
    (outline.expandRow source examples block row cells).StandsFor
      { outline, examples, block, row } where
  row := by
    rw [expandRow]
    split <;> rfl
  name := by
    rw [name_expandRow, rowName]
    split <;> simp only [String.append_assoc]
  scenario := by
    intro scenario present
    rw [expandRow] at present
    split at present
    · obtain rfl := Option.mem_some.mp present
      exact {
        steps := by
          rw [List.forall₂_map_right_iff, List.forall₂_same]
          exact fun step _ => step.sameShape_fill _
        tags := by simp only [Tag.combine_eq_eraseDups, List.flatten_cons, List.flatten_nil,
          List.append_nil]
        once := Tag.nodup_combine _
        line := rfl }
    · contradiction

/-- An outline has one entry for each of its rows, in order, and the entries have different
names. -/
structure HasEntries (outline : Outline) (entries : List Entry) : Prop where
  length : entries.length = sumOf (fun examples => examples.rows.length) outline.examples
  rows : ∃ origins : List RowOrigin, origins.Pairwise RowOrigin.Before ∧
    (∀ origin, origin ∈ origins ↔ origin.IsRowOf outline) ∧
    List.Forall₂ Entry.StandsFor entries origins
  names : (entries.map Entry.name).Nodup

theorem hasEntries_expand (outline : Outline) (source : Option String) :
    outline.HasEntries (outline.expand source) where
  length := by rw [expand_eq_map_origins, List.length_map, length_origins]
  rows := by
    refine ⟨outline.origins, pairwise_origins outline, fun _ => mem_origins_iff, ?_⟩
    rw [expand_eq_map_origins, List.forall₂_map_left_iff, List.forall₂_same]
    intro origin member
    obtain rfl := (mem_origins_iff.mp member).owner
    exact standsFor_expandRow
  names := by
    rw [expand_eq_map_origins, List.map_map]
    simpa only [Function.comp_def, name_expandRow] using nodup_map_rowName outline

end Outline

/-! ## The entries of a feature -/

/-- The entries are those of the definition: a scenario is its own entry as it stands. -/
def Definition.HasEntries : Definition → List Entry → Prop
  | .scenario s, entries => entries = [.plain s]
  | .outline o, entries => o.HasEntries entries

theorem Definition.hasEntries_expand (definition : Definition) (source : Option String) :
    definition.HasEntries (definition.expand source) := by
  cases definition with
  | scenario s => rfl
  | outline o => exact o.hasEntries_expand source

/-- An entry has either a scenario or a failure. -/
theorem Entry.isSome_scenario?_ne (entry : Entry) :
    entry.scenario?.isSome ≠ entry.error?.isSome := by
  cases entry <;> simp [scenario?, error?]

/-- The entries of a feature are those of its definitions one after the other, and each has
either a scenario or a failure. -/
theorem Feature.entries_of_definitions (feature : Feature) :
    (∃ parts : List (List Entry), feature.entries = parts.flatten ∧
        List.Forall₂ Definition.HasEntries feature.definitions parts) ∧
      ∀ entry ∈ feature.entries, entry.scenario?.isSome ≠ entry.error?.isSome := by
  constructor
  · refine ⟨feature.definitions.map (Definition.expand feature.source), List.flatMap_def, ?_⟩
    rw [List.forall₂_map_right_iff, List.forall₂_same]
    exact fun definition _ => definition.hasEntries_expand feature.source
  · exact fun entry _ => entry.isSome_scenario?_ne

end Gherkin
