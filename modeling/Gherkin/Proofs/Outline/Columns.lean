import Gherkin.Proofs.Outline.Expansion
import Gherkin.Proofs.Outline.Placeholder

/-!
# Columns of a row

A row fails exactly when its outline names a column that the header above the row does not
have, and the names that are missing are told once each, in order.  Any other row has its
values in the place of all placeholders.  Only the header decides which of the two it is.
-/

namespace Gherkin

/-! ## Placeholders by name -/

namespace Placeholder

/-- A text holds a placeholder with the name. -/
def Occurs (name text : String) : Prop :=
  IsName name.toList ∧ token name.toList <:+: text.toList

/-- A placeholder does not begin in a text without an opening bracket. -/
theorem infix_of_infix_append {name front back : List Char} (noOpening : '<' ∉ front)
    (found : token name <:+: front ++ back) : token name <:+: back := by
  induction front with
  | nil => exact found
  | cons c cs ih =>
      rw [List.mem_cons, not_or] at noOpening
      rcases List.infix_cons_iff.mp found with here | later
      · exact absurd (List.cons_prefix_cons.mp here).1 noOpening.1
      · exact ih noOpening.2 later

theorem column_mem_pieces_iff {name text : List Char} :
    .column name ∈ pieces text ↔ IsName name ∧ token name <:+: text := by
  induction text using text_induction with
  | nil =>
      constructor
      · intro member
        contradiction
      · rintro ⟨-, found⟩
        exact absurd (List.eq_nil_of_infix_nil found) (List.cons_ne_nil _ _)
  | met other rest valid ih =>
      rw [pieces_token_append valid, List.mem_cons, Piece.column.injEq, ih]
      constructor
      · rintro (rfl | ⟨nameValid, found⟩)
        · exact ⟨valid, (List.prefix_append _ _).isInfix⟩
        · exact ⟨nameValid, found.trans (List.suffix_append _ _).isInfix⟩
      · rintro ⟨nameValid, found⟩
        rcases List.infix_cons_iff.mp found with here | later
        · have first : nameAt ((other ++ ['>']) ++ rest) = some name :=
            nameAt_eq_some_iff.mpr ⟨nameValid, (List.cons_prefix_cons.mp here).2⟩
          have second : nameAt ((other ++ ['>']) ++ rest) = some other :=
            nameAt_eq_some_iff.mpr ⟨valid, List.prefix_append _ _⟩
          exact Or.inl (Option.some.inj (first.symm.trans second))
        · exact Or.inr ⟨nameValid, infix_of_infix_append valid.not_mem_tail later⟩
  | passed c cs none ih =>
      rw [pieces_cons none, List.mem_cons, ih]
      constructor
      · rintro (literal | ⟨nameValid, found⟩)
        · contradiction
        · exact ⟨nameValid, found.trans (List.suffix_cons c cs).isInfix⟩
      · rintro ⟨nameValid, found⟩
        rcases List.infix_cons_iff.mp found with here | later
        · exact absurd here (none name nameValid)
        · exact Or.inr ⟨nameValid, later⟩

/-- The names found in a text are those of its placeholders. -/
theorem mem_names_iff {name text : String} : name ∈ names text ↔ Occurs name text := by
  rw [names, List.mem_filterMap, Occurs, ← column_mem_pieces_iff]
  constructor
  · rintro ⟨piece, member, named⟩
    cases piece with
    | literal c => contradiction
    | column cs =>
        obtain rfl := Option.some.inj named
        rwa [String.toList_ofList]
  · intro member
    exact ⟨_, member, congrArg some String.ofList_toList⟩

/-! ## Replacing all placeholders -/

/-- A text with a value in the place of every placeholder. -/
def Replaced (value : String → String) (text other : String) : Prop :=
  ∃ cut : Cut, cut.Of text.toList ∧
    other.toList = cut.render fun name => (value (String.ofList name)).toList

/-- Where all placeholders have a value, each of them is replaced. -/
theorem replaced_fill {values : Record String} {value : String → String} {text : String}
    (known : ∀ name, Occurs name text → values.find? name = some (value name)) :
    Replaced value text (fill values text) := by
  have cuts := Cut.of_ofPieces text.toList
  refine ⟨_, cuts, ?_⟩
  rw [fill_eq cuts, String.toList_ofList, Cut.render, Cut.render, List.append_right_inj]
  apply List.flatMap_congr
  intro part member
  have occurs : Occurs (String.ofList part.1) text := by
    rw [← mem_names_iff, names_eq cuts]
    exact List.mem_map.mpr ⟨part, member, rfl⟩
  rw [valueOr, known _ occurs]

end Placeholder

open Placeholder

/-- A step has a placeholder with the name in its text, in one of its cells or in its doc
string. -/
def Step.Mentions (step : Step) (name : String) : Prop :=
  Occurs name step.text ∨
    (∃ table ∈ step.table, ∃ row ∈ table.rows, ∃ cell ∈ row, Occurs name cell) ∨
      ∃ doc ∈ step.doc, Occurs name doc.content

theorem Step.mem_placeholders_iff {step : Step} {name : String} :
    name ∈ step.placeholders ↔ step.Mentions name := by
  have split : name ∈ step.placeholders ↔ Occurs name step.text ∨
      (∃ cell ∈ (step.table.map fun table => table.rows.flatten).getD [], Occurs name cell) ∨
        ∃ content ∈ (step.doc.map DocString.content).toList, Occurs name content := by
    rw [placeholders, List.mem_flatMap, texts]
    simp only [mem_names_iff, List.mem_cons, List.mem_append, or_and_right, exists_or,
      exists_eq_left]
  have inRows (rows : List (List String)) : (∃ cell ∈ rows.flatten, Occurs name cell) ↔
      ∃ row ∈ rows, ∃ cell ∈ row, Occurs name cell := by
    constructor
    · rintro ⟨cell, member, occurs⟩
      rcases List.mem_flatten.mp member with ⟨row, inTable, inRow⟩
      exact ⟨row, inTable, cell, inRow, occurs⟩
    · rintro ⟨row, inTable, cell, inRow, occurs⟩
      exact ⟨cell, List.mem_flatten.mpr ⟨row, inTable, inRow⟩, occurs⟩
  rw [split, Mentions]
  cases step.table <;> cases step.doc <;> simp [-List.mem_flatten, inRows]

/-- A step whose placeholders have all been replaced. -/
structure Step.FilledWith (value : String → String) (template step : Step) : Prop where
  shape : template.SameShape step
  text : Replaced value template.text step.text
  table : Option.Rel
    (fun before after => List.Forall₂ (List.Forall₂ (Replaced value)) before.rows after.rows)
    template.table step.table
  doc : Option.Rel (fun before after => Replaced value before.content after.content)
    template.doc step.doc

theorem Step.filledWith_fill {values : Record String} {value : String → String} {step : Step}
    (known : ∀ name, step.Mentions name → values.find? name = some (value name)) :
    step.FilledWith value (step.fill values) where
  shape := step.sameShape_fill values
  text := replaced_fill fun name occurs => known name (Or.inl occurs)
  table := by
    rw [fill]
    cases present : step.table with
    | none => exact .none
    | some table =>
        apply Option.Rel.some
        rw [List.forall₂_map_right_iff, List.forall₂_same]
        intro row inTable
        rw [List.forall₂_map_right_iff, List.forall₂_same]
        intro cell inRow
        apply replaced_fill
        intro name occurs
        exact known name (Or.inr (Or.inl ⟨table, present, row, inTable, cell, inRow, occurs⟩))
  doc := by
    rw [fill]
    cases present : step.doc with
    | none => exact .none
    | some doc =>
        apply Option.Rel.some
        apply replaced_fill
        intro name occurs
        exact known name (Or.inr (Or.inr ⟨doc, present, occurs⟩))

/-! ## The values of a row -/

/-- The value that a row has in a column: the one under the last mention of the column. -/
def ValueOf (header cells : List String) (column value : String) : Prop :=
  ∃ i : Nat, header[i]? = some column ∧ cells[i]? = some value ∧
    ∀ j : Nat, i < j → header[j]? ≠ some column

theorem valueOf_of_find? {header cells : List String} (even : cells.length = header.length)
    {column value : String}
    (found : (Record.ofPairs (header.zip cells)).find? column = some value) :
    ValueOf header cells column value := by
  rcases Record.exists_last_of_find?_reverse (by rwa [← Record.find?_ofPairs]) with ⟨i, here, later⟩
  rw [List.getElem?_zip_eq_some] at here
  refine ⟨i, here.1, here.2, ?_⟩
  intro j below again
  have inside : j < cells.length := even ▸ (List.getElem?_eq_some_iff.mp again).1
  have paired : (header.zip cells)[j]? = some (column, cells[j]) :=
    List.getElem?_zip_eq_some.mpr ⟨again, List.getElem?_eq_getElem inside⟩
  exact later j below _ paired rfl

namespace Outline

/-- The placeholders of an outline that name no column of a header, each once, in order. -/
def unknown (outline : Outline) (header : List String) : List String :=
  ((outline.steps.flatMap Step.placeholders).filter (· ∉ header)).eraseDups

theorem mem_unknown_iff {outline : Outline} {header : List String} {name : String} :
    name ∈ outline.unknown header ↔
      (∃ step ∈ outline.steps, step.Mentions name) ∧ name ∉ header := by
  simp [unknown, List.mem_eraseDups, Step.mem_placeholders_iff]

theorem find?_row_eq_none_iff {header cells : List String} (even : cells.length = header.length)
    {name : String} :
    (Record.ofPairs (header.zip cells)).find? name = none ↔ name ∉ header := by
  rw [Record.find?_ofPairs_eq_none_iff, List.map_fst_zip (Nat.le_of_eq even.symm)]

/-- Of a row that is as wide as its header, only the header decides what is missing. -/
theorem missing_row (outline : Outline) {header cells : List String}
    (even : cells.length = header.length) :
    outline.missing (Record.ofPairs (header.zip cells)) = outline.unknown header := by
  rw [missing, Tag.combine_eq_eraseDups, List.flatten_singleton, unknown]
  congr 1
  apply List.filter_congr
  intro name _
  rw [Bool.eq_iff_iff, Option.isNone_iff_eq_none, find?_row_eq_none_iff even, decide_eq_true_iff]

end Outline

/-- All columns have a value in a row that is as wide as its header. -/
theorem exists_valueOf {header cells : List String} (even : cells.length = header.length) :
    ∃ value : String → String, ∀ column ∈ header,
      (Record.ofPairs (header.zip cells)).find? column = some (value column) ∧
        ValueOf header cells column (value column) := by
  refine ⟨fun column => ((Record.ofPairs (header.zip cells)).find? column).getD "", ?_⟩
  intro column inHeader
  cases found : (Record.ofPairs (header.zip cells)).find? column with
  | none => exact absurd inHeader ((Outline.find?_row_eq_none_iff even).mp found)
  | some value =>
      simpa only [found, Option.getD_some, true_and] using valueOf_of_find? even found

/-! ## The entry of a row -/

/-- What becomes of a row.  It fails when a step names a column that the header does not have;
missing are the names of all such placeholders, once each, in the order in which they stand in
the steps.  Otherwise all placeholders are replaced by the values of the row. -/
structure Entry.OutcomeOf (entry : Entry) (origin : RowOrigin) : Prop where
  fails : entry.error?.isSome ↔
    ∃ step ∈ origin.outline.steps, ∃ name, step.Mentions name ∧ name ∉ origin.examples.header
  missing : ∀ error ∈ entry.error?, ∃ cuts : List Cut,
    List.Forall₂ (fun cut text => cut.Of text.toList) cuts
      (origin.outline.steps.flatMap Step.texts) ∧
    error.missing = ((cuts.flatMap Cut.names).filter (· ∉ origin.examples.header)).eraseDups
  filled : entry.error? = none → ∃ scenario ∈ entry.scenario?, ∃ value : String → String,
    (∀ column ∈ origin.examples.header,
      ValueOf origin.examples.header origin.cells column (value column)) ∧
    List.Forall₂ (Step.FilledWith value) origin.outline.steps scenario.steps

namespace Outline

/-- The entry of a row of the outline. -/
def entryOf (outline : Outline) (source : Option String) (origin : RowOrigin) : Entry :=
  outline.expandRow source origin.examples origin.block origin.row origin.cells

theorem error?_expandRow {outline : Outline} {source : Option String} {examples : Examples}
    {block row : Nat} {cells : List String} (even : cells.length = examples.header.length) :
    (outline.expandRow source examples block row cells).error? =
      if outline.unknown examples.header = [] then none
      else some
        { outline := outline.name, name := outline.rowName block row,
          missing := outline.unknown examples.header, line := outline.line, source } := by
  rw [expandRow]
  simp only [missing_row outline even, List.isEmpty_iff]
  split <;> rfl

theorem scenario?_expandRow {outline : Outline} {source : Option String} {examples : Examples}
    {block row : Nat} {cells : List String} (even : cells.length = examples.header.length)
    (known : outline.unknown examples.header = []) :
    (outline.expandRow source examples block row cells).scenario? = some
      { name := outline.rowName block row
        tags := Tag.combine [outline.tags, examples.tags]
        steps := outline.steps.map (Step.fill (Record.ofPairs (examples.header.zip cells)))
        line := outline.line } := by
  rw [expandRow]
  simp only [missing_row outline even, List.isEmpty_iff]
  rw [if_pos known]
  rfl

/-- The names are those of the placeholders, as the texts are cut at them. -/
theorem exists_cuts (outline : Outline) (header : List String) : ∃ cuts : List Cut,
    List.Forall₂ (fun cut text => cut.Of text.toList) cuts (outline.steps.flatMap Step.texts) ∧
      outline.unknown header =
        ((cuts.flatMap Cut.names).filter (· ∉ header)).eraseDups := by
  refine ⟨(outline.steps.flatMap Step.texts).map fun text => Cut.ofPieces (pieces text.toList),
    ?_, ?_⟩
  · rw [List.forall₂_map_left_iff, List.forall₂_same]
    intro text _
    exact Cut.of_ofPieces text.toList
  · rw [unknown, List.flatMap_map]
    congr 2
    rw [List.flatMap_assoc]
    apply List.flatMap_congr
    intro step _
    apply List.flatMap_congr
    intro text _
    exact names_eq (Cut.of_ofPieces text.toList)

theorem outcomeOf_entryOf {outline : Outline} {origin : RowOrigin} {source : Option String}
    (owner : origin.outline = outline)
    (even : origin.cells.length = origin.examples.header.length) :
    (outline.entryOf source origin).OutcomeOf origin := by
  subst owner
  have failure : (origin.outline.entryOf source origin).error? = _ := error?_expandRow even
  constructor
  case fails =>
    rw [failure]
    constructor
    · intro failed
      split at failed
      · contradiction
      · rename_i nonempty
        rcases List.exists_mem_of_ne_nil _ nonempty with ⟨name, member⟩
        rcases mem_unknown_iff.mp member with ⟨⟨step, inSteps, mentions⟩, absent⟩
        exact ⟨step, inSteps, name, mentions, absent⟩
    · rintro ⟨step, inSteps, name, mentions, absent⟩
      have member : name ∈ origin.outline.unknown origin.examples.header :=
        mem_unknown_iff.mpr ⟨⟨step, inSteps, mentions⟩, absent⟩
      rw [if_neg (List.ne_nil_of_mem member)]
      rfl
  case missing =>
    intro error present
    rw [failure] at present
    split at present
    · contradiction
    · obtain rfl := Option.mem_some.mp present
      exact exists_cuts origin.outline origin.examples.header
  case filled =>
    intro succeeded
    have known : origin.outline.unknown origin.examples.header = [] := by
      by_contra nonempty
      rw [failure, if_neg nonempty] at succeeded
      contradiction
    rcases exists_valueOf even with ⟨value, found⟩
    refine ⟨_, scenario?_expandRow even known, value, fun column inHeader =>
      (found column inHeader).2, ?_⟩
    rw [List.forall₂_map_right_iff, List.forall₂_same]
    intro step inSteps
    apply Step.filledWith_fill
    intro name mentions
    have inHeader : name ∈ origin.examples.header := by
      by_contra absent
      have member := mem_unknown_iff.mpr ⟨⟨step, inSteps, mentions⟩, absent⟩
      rw [known] at member
      contradiction
    exact (found name inHeader).1

end Outline

end Gherkin
