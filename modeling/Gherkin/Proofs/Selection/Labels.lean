import Gherkin.Proofs.Outline.Expansion
import Gherkin.Proofs.Selection

/-!
# Selecting by labels

A selection looks at nothing of an entry but its label: its name, its tags and its line.  A row
has the same label whether it can be filled in or not, so the steps of outlines have no part in
what is selected.  Each of the three filters keeps or drops every entry on its own, and so they
can be applied in any order.
-/

namespace Gherkin

/-- What a selection looks at in an entry. -/
structure EntryLabel where
  name : String
  /-- The tags of the entry and of its feature. -/
  tags : List String
  line : Int
  deriving DecidableEq

/-- The label of an entry. -/
def Entry.label (feature : Feature) (entry : Entry) : EntryLabel :=
  { name := entry.name, tags := entry.tags feature, line := entry.line }

/-- A definition without the steps that are filled in. -/
def Definition.withoutTemplate : Definition → Definition
  | .scenario s => .scenario s
  | .outline o => .outline { o with steps := [] }

/-- A feature without the steps of its outlines. -/
def Feature.withoutTemplates (feature : Feature) : Feature :=
  { feature with definitions := feature.definitions.map Definition.withoutTemplate }

/-! ## The labels of a feature -/

/-- A row has the same label whether it was filled in or not. -/
theorem Outline.label_expandRow (feature : Feature) (outline : Outline) (source : Option String)
    (examples : Examples) (block row : Nat) (cells : List String) :
    (outline.expandRow source examples block row cells).label feature =
      { name := outline.rowName block row
        tags := Tag.combine [feature.tags, outline.tags, examples.tags]
        line := outline.line } := by
  simp only [expandRow]
  split
  · have united := Tag.combine_combine [feature.tags] [outline.tags, examples.tags] []
    simp only [List.singleton_append, List.append_nil] at united
    exact congrArg (EntryLabel.mk _ · _) united
  · rfl

theorem Definition.map_label_expand (feature : Feature) (definition : Definition)
    (source : Option String) :
    (definition.expand source).map (Entry.label feature) =
      (definition.withoutTemplate.expand source).map (Entry.label feature.withoutTemplates) := by
  cases definition with
  | scenario s => rfl
  | outline o =>
      simp only [withoutTemplate, expand, Outline.expand, List.map_flatMap, List.map_map,
        Function.comp_def, Outline.label_expandRow]
      rfl

/-- The steps of outlines have no part in the labels of the entries. -/
theorem Feature.map_label_entries (feature : Feature) :
    feature.entries.map (Entry.label feature) =
      feature.withoutTemplates.entries.map (Entry.label feature.withoutTemplates) := by
  simp only [entries, List.map_flatMap, Definition.map_label_expand feature]
  rw [withoutTemplates, List.flatMap_map]

theorem Feature.map_line_withoutTemplates (feature : Feature) :
    feature.withoutTemplates.definitions.map Definition.line =
      feature.definitions.map Definition.line := by
  rw [withoutTemplates, List.map_map]
  refine List.map_congr_left fun definition _ => ?_
  cases definition <;> rfl

namespace Selection

/-! ## The positions that are selected -/

/-- Whether a label is selected. -/
def allowsLabel (selection : Selection) (feature : Feature) (label : EntryLabel) : Bool :=
  selection.tags.all (fun filter => filter.selects label.tags) &&
    selection.names.all (fun filter => filter.selects label.name) &&
      (selection.lines.isEmpty || feature.matchesLines label.line selection.lines)

theorem allows_eq_allowsLabel (selection : Selection) (feature : Feature) :
    selection.allows feature = selection.allowsLabel feature ∘ Entry.label feature :=
  rfl

theorem allowsLabel_withoutTemplates (selection : Selection) (feature : Feature) :
    selection.allowsLabel feature.withoutTemplates = selection.allowsLabel feature := by
  funext label
  simp only [allowsLabel, Feature.matchesLines, Feature.startOf, Feature.map_line_withoutTemplates]

/-- The positions of the selected entries of a feature. -/
def positions (selection : Selection) (feature : Feature) : List Nat :=
  feature.entries.findIdxs (selection.allows feature)

theorem filter_eq_filterMap_findIdxs {α : Type} (items : List α) (allowed : α → Bool) :
    items.filter allowed = (items.findIdxs allowed).filterMap (items[·]?) := by
  induction items with
  | nil => rfl
  | cons item rest ih =>
      have later : (rest.findIdxs allowed 1).filterMap ((item :: rest)[·]?) =
          rest.filter allowed := by
        rw [List.findIdxs_start, List.filterMap_map, ih]
        exact List.filterMap_congr fun position _ => List.getElem?_cons_succ
      rw [List.findIdxs_cons, List.filter_cons]
      cases selected : allowed item <;> simp [later]

theorem select_eq_filterMap_positions (selection : Selection) (feature : Feature) :
    selection.select feature feature.entries =
      (selection.positions feature).filterMap (feature.entries[·]?) :=
  filter_eq_filterMap_findIdxs _ _

/-- The steps of outlines have no part in what is selected. -/
theorem positions_withoutTemplates (selection : Selection) (feature : Feature) :
    selection.positions feature.withoutTemplates = selection.positions feature := by
  rw [positions, positions, allows_eq_allowsLabel, allows_eq_allowsLabel, ← List.findIdxs_map,
    ← List.findIdxs_map, allowsLabel_withoutTemplates, Feature.map_label_entries feature]

/-! ## The filters one after the other -/

/-- The three filters of a selection, each a selection of its own. -/
def parts (selection : Selection) : List Selection :=
  [{ tags := selection.tags }, { names := selection.names }, { lines := selection.lines }]

/-- Select by several selections one after the other. -/
def selectAll (selections : List Selection) (feature : Feature) (entries : List Entry) :
    List Entry :=
  selections.foldl (fun kept selection => selection.select feature kept) entries

theorem allows_eq_all_parts (selection : Selection) (feature : Feature) (entry : Entry) :
    selection.allows feature entry = selection.parts.all (·.allows feature entry) := by
  simp [parts, allows, allowsTags, allowsName, allowsLine, Bool.and_assoc]

/-- What is kept is allowed by all of the selections, whatever their order. -/
theorem selectAll_eq_filter (selections : List Selection) (feature : Feature)
    (entries : List Entry) :
    selectAll selections feature entries =
      entries.filter fun entry => selections.all (·.allows feature entry) := by
  induction selections generalizing entries with
  | nil => exact (List.filter_eq_self.mpr fun _ _ => rfl).symm
  | cons first rest ih =>
      calc
        selectAll (first :: rest) feature entries =
            (entries.filter (first.allows feature)).filter
              fun entry => rest.all (·.allows feature entry) := ih _
        _ = entries.filter fun entry => (first :: rest).all (·.allows feature entry) := by
          rw [List.filter_filter]
          exact List.filter_congr fun entry _ => Bool.and_comm _ _

theorem selectAll_of_perm_parts {selection : Selection} {order : List Selection}
    (reordered : order.Perm selection.parts) (feature : Feature) (entries : List Entry) :
    selectAll order feature entries = selection.select feature entries := by
  rw [selectAll_eq_filter]
  refine List.filter_congr fun entry _ => ?_
  rw [reordered.all_eq, ← allows_eq_all_parts]

/-! ## What a selection depends on -/

/-- Features that differ in the steps of their outlines only have entries with the same labels,
whichever of the rows can be filled in, and of their entries those at the same positions are
selected.  What is selected stands in the order of the entries, and is what the three filters
leave when they are applied one after the other, in any order. -/
theorem positions_eq_of_withoutTemplates_eq {feature other : Feature}
    (same : feature.withoutTemplates = other.withoutTemplates) (selection : Selection) :
    feature.entries.map (Entry.label feature) = other.entries.map (Entry.label other) ∧
      selection.positions feature = selection.positions other ∧
      (selection.select feature feature.entries).map (Entry.label feature) =
        (selection.select other other.entries).map (Entry.label other) ∧
      (∀ parent ∈ [feature, other], selection.select parent parent.entries =
        (selection.positions parent).filterMap (parent.entries[·]?)) ∧
      ∀ (parent : Feature) (entries : List Entry),
        (selection.select parent entries).Sublist entries ∧
          ∀ order : List Selection, order.Perm selection.parts →
            selectAll order parent entries = selection.select parent entries := by
  have labels : feature.entries.map (Entry.label feature) =
      other.entries.map (Entry.label other) := by
    rw [Feature.map_label_entries feature, Feature.map_label_entries other, same]
  have samePositions : selection.positions feature = selection.positions other := by
    rw [← positions_withoutTemplates, same, positions_withoutTemplates]
  refine ⟨labels, samePositions, ?_, fun parent _ => selection.select_eq_filterMap_positions parent,
    fun parent entries => ⟨List.filter_sublist, fun order reordered =>
      selectAll_of_perm_parts reordered parent entries⟩⟩
  have selected (parent : Feature) :
      (selection.select parent parent.entries).map (Entry.label parent) =
        (selection.positions parent).filterMap
          ((parent.entries.map (Entry.label parent))[·]?) := by
    rw [select_eq_filterMap_positions, List.map_filterMap]
    exact List.filterMap_congr fun position _ => List.getElem?_map.symm
  rw [selected, selected, samePositions, labels]

/-- The targeted feature with another template, so that the other row of its outline fails. -/
def retargetedFeature : Feature :=
  { targetedFeature with
    definitions :=
      [targetedScenario,
        .outline
          { name := "B", line := 6
            steps := [{ keyword := .outcome, text := "<w>", resolved := .outcome, line := 7 }]
            examples :=
              [{ header := ["v"], rows := [["1"]], line := 8 },
                { header := ["w"], rows := [["2"]], line := 11 }] }] }

/-- A selection by a name and by a line. -/
def rowSelection : Selection :=
  { names := some (.ofNames ["b [examples 2, row 1]"]), lines := [8] }

theorem positions_eq_of_withoutTemplates_eq_retargeted :
    targetedFeature.withoutTemplates = retargetedFeature.withoutTemplates ∧
      targetedFeature.entries.map Entry.ok = [true, true, false] ∧
      retargetedFeature.entries.map Entry.ok = [true, false, true] ∧
      rowSelection.positions targetedFeature = [2] ∧
      rowSelection.positions retargetedFeature = [2] ∧
      selectAll [{ lines := [8] }, { tags := none }, { names := rowSelection.names }]
          targetedFeature targetedFeature.entries =
        rowSelection.select targetedFeature targetedFeature.entries := by
  have same : targetedFeature.withoutTemplates = retargetedFeature.withoutTemplates := by decide
  have position : rowSelection.positions targetedFeature = [2] := by decide +kernel
  obtain ⟨-, samePositions, -, -, general⟩ := positions_eq_of_withoutTemplates_eq same rowSelection
  have reordered : [{ lines := [8] }, { tags := none }, { names := rowSelection.names }].Perm
      rowSelection.parts := by
    rw [parts]
    exact (List.reverse_perm _).symm.trans (by
      simpa [rowSelection] using List.Perm.swap _ _ _)
  exact ⟨same, by decide +kernel, by decide +kernel, position, samePositions ▸ position,
    (general targetedFeature targetedFeature.entries).2 _ reordered⟩

end Selection

end Gherkin
