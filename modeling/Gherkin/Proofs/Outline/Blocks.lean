import Gherkin.Proofs.Document.Regular
import Gherkin.Proofs.Outline.Columns

/-!
# Blocks of examples

The entries of an outline are told apart by their rows.  All rows of a block share its
header, so that they fail together, and no block depends on the table of another.
-/

namespace Gherkin

namespace Outline

/-! ## The entries of an outline -/

theorem entryOf_mem_expand {outline : Outline} {source : Option String} {entry : Entry}
    (member : entry ∈ outline.expand source) :
    ∃ origin, origin.IsRowOf outline ∧ entry.origin? = some origin ∧
      entry = outline.entryOf source origin := by
  rw [expand_eq_map_origins] at member
  rcases List.mem_map.mp member with ⟨origin, inOrigins, rfl⟩
  have isRow := mem_origins_iff.mp inOrigins
  obtain rfl := isRow.owner
  exact ⟨origin, isRow, standsFor_expandRow.row, rfl⟩

/-- A row has one entry. -/
theorem filter_origin_expand {outline : Outline} {source : Option String} {origin : RowOrigin}
    (isRow : origin.IsRowOf outline) :
    (outline.expand source).filter (fun entry => entry.origin? = some origin) =
      [outline.entryOf source origin] := by
  have once : outline.origins.Nodup := by
    refine (pairwise_origins outline).imp ?_
    rintro first second (lower | ⟨-, lower⟩) rfl
    · exact Nat.lt_irrefl _ lower
    · exact Nat.lt_irrefl _ lower
  have own : outline.origins.filter (fun other =>
      (outline.entryOf source other).origin? = some origin) = [origin] := by
    rw [List.filter_congr (q := (· = origin))]
    · rw [List.filter_eq, List.count_eq_one_of_mem once (mem_origins_iff.mpr isRow),
        List.replicate_one]
    · intro other inOrigins
      obtain rfl := (mem_origins_iff.mp inOrigins).owner
      apply decide_eq_decide.mpr
      rw [entryOf, standsFor_expandRow.row, Option.some.injEq]
  rw [expand_eq_map_origins, List.filter_map]
  exact congrArg (List.map (outline.entryOf source)) own

end Outline

/-! ## Blocks -/

/-- The number of the block that an entry is from, if it is from an outline. -/
def Entry.block? (entry : Entry) : Option Nat :=
  entry.origin?.map RowOrigin.block

/-- The entry as one of another outline. -/
def Entry.withOutline (outline : Outline) : Entry → Entry
  | .plain scenario => .plain scenario
  | .filled origin scenario => .filled { origin with outline } scenario
  | .failed origin error => .failed { origin with outline } error

namespace Outline

/-- The outline with another header and other rows in one of its blocks. -/
def withTable (outline : Outline) (block : Nat) (header : List String)
    (rows : List (List String)) : Outline :=
  { outline with
    examples := outline.examples.modify block fun examples => { examples with header, rows } }

/-- The entries of one block. -/
def expandBlock (outline : Outline) (source : Option String) (block : Nat)
    (examples : Examples) : List Entry :=
  examples.rows.zipIdx.map fun (cells, row) =>
    outline.expandRow source examples block row cells

theorem filter_snd_zipIdx {α : Type} (items : List α) (start index : Nat) :
    (items.zipIdx start).filter (fun item => item.2 = start + index) =
      items[index]?.toList.map fun item => (item, start + index) := by
  induction items generalizing start index with
  | nil => rfl
  | cons item rest ih =>
      rw [List.zipIdx_cons, List.filter_cons]
      cases index with
      | zero =>
          have others : (rest.zipIdx (start + 1)).filter (fun item => item.2 = start) = [] := by
            rw [List.filter_eq_nil_iff]
            intro later member
            have := List.le_snd_of_mem_zipIdx member
            simp only [decide_eq_true_eq]
            omega
          simp [others]
      | succ index =>
          have later := ih (start + 1) index
          rw [Nat.add_assoc, Nat.add_comm 1 index] at later
          simp [later]

/-- Filtering what a list yields, where all that an item yields is kept or dropped together. -/
theorem filter_flatMap_of_forall {α β : Type} {items : List α} {f : α → List β}
    {keep : β → Bool} {keepAll : α → Bool}
    (alike : ∀ item ∈ items, ∀ result ∈ f item, keep result = keepAll item) :
    (items.flatMap f).filter keep = (items.filter keepAll).flatMap f := by
  induction items with
  | nil => rfl
  | cons item rest ih =>
      have own := alike item List.mem_cons_self
      rw [List.flatMap_cons, List.filter_append,
        ih fun other member => alike other (List.mem_cons_of_mem _ member), List.filter_cons]
      cases kept : keepAll item with
      | true =>
          rw [if_pos rfl, List.flatMap_cons, List.filter_eq_self.mpr]
          exact fun result member => (own result member).trans kept
      | false =>
          rw [if_neg Bool.false_ne_true, List.filter_eq_nil_iff.mpr, List.nil_append]
          exact fun result member => Bool.eq_false_iff.mp ((own result member).trans kept)

/-- The entries of a block are made from the examples of that block only. -/
theorem filter_block_expand (outline : Outline) (source : Option String) (block : Nat) :
    (outline.expand source).filter (fun entry => entry.block? = some block) =
      outline.examples[block]?.toList.flatMap (outline.expandBlock source block) := by
  have alike : ∀ item ∈ outline.examples.zipIdx,
      ∀ entry ∈ outline.expandBlock source item.2 item.1,
        decide (entry.block? = some block) = decide (item.2 = block) := by
    intro item _ entry member
    rcases List.mem_map.mp member with ⟨pair, -, rfl⟩
    apply decide_eq_decide.mpr
    rw [Entry.block?, standsFor_expandRow.row, Option.map_some, Option.some.injEq]
  have inBlock := filter_snd_zipIdx outline.examples 0 block
  rw [Nat.zero_add] at inBlock
  have filtered := filter_flatMap_of_forall alike
  rw [inBlock, List.flatMap_map] at filtered
  exact filtered

theorem expandRow_withTable (outline : Outline) (changed : Nat) (header : List String)
    (rows : List (List String)) (source : Option String) (examples : Examples)
    (block row : Nat) (cells : List String) :
    (outline.withTable changed header rows).expandRow source examples block row cells =
      (outline.expandRow source examples block row cells).withOutline
        (outline.withTable changed header rows) := by
  have names : (outline.withTable changed header rows).rowName block row =
      outline.rowName block row := by
    simp only [rowName, withTable, List.length_modify]
  have absent (values : Record String) :
      (outline.withTable changed header rows).missing values = outline.missing values := rfl
  simp only [expandRow, names, absent]
  split <;> rfl

/-- The entries of one block do not depend on the table of another. -/
theorem filter_block_expand_withTable {outline : Outline} {changed block : Nat}
    (differs : block ≠ changed) (header : List String) (rows : List (List String))
    (source : Option String) :
    ((outline.withTable changed header rows).expand source).filter
        (fun entry => entry.block? = some block) =
      ((outline.expand source).filter (fun entry => entry.block? = some block)).map
        (Entry.withOutline (outline.withTable changed header rows)) := by
  have same : (outline.withTable changed header rows).examples[block]? =
      outline.examples[block]? := by
    rw [withTable, List.getElem?_modify_ne _ _ (Ne.symm differs)]
  rw [filter_block_expand, filter_block_expand, same, List.map_flatMap]
  apply List.flatMap_congr
  intro examples _
  rw [expandBlock, expandBlock, List.map_map]
  apply List.map_congr_left
  rintro ⟨cells, row⟩ _
  exact expandRow_withTable outline changed header rows source examples block row cells

/-- The rows of a block fail together, since they share a header. -/
theorem missing_eq_of_block {feature : Feature} (valid : feature.Regular) {first second : Entry}
    (firstMember : first ∈ feature.entries) (secondMember : second ∈ feature.entries)
    {origin other : RowOrigin} (firstOrigin : first.origin? = some origin)
    (secondOrigin : second.origin? = some other) (sameOutline : origin.outline = other.outline)
    (sameBlock : origin.block = other.block) :
    first.error?.map ExpansionError.missing = second.error?.map ExpansionError.missing := by
  have missing {entry : Entry} (member : entry ∈ feature.entries) {origin : RowOrigin}
      (present : entry.origin? = some origin) :
      origin.outline.examples[origin.block]? = some origin.examples ∧
        entry.error?.map ExpansionError.missing =
          if origin.outline.unknown origin.examples.header = [] then none
          else some (origin.outline.unknown origin.examples.header) := by
    rcases List.mem_flatMap.mp member with ⟨definition, inFeature, inDefinition⟩
    cases definition with
    | scenario s =>
        obtain rfl := List.mem_singleton.mp inDefinition
        contradiction
    | outline outline =>
        rcases entryOf_mem_expand inDefinition with ⟨own, isRow, ownPresent, rfl⟩
        obtain rfl : own = origin := Option.some.inj (ownPresent.symm.trans present)
        obtain rfl := isRow.owner
        refine ⟨isRow.block, ?_⟩
        have inBlock : own.cells ∈ own.examples.rows := by
          rw [RowOrigin.cells, List.getElem?_eq_getElem isRow.row]
          exact List.getElem_mem isRow.row
        have even := (valid.examples own.outline (mem_outlines_iff.mpr inFeature) own.examples
          (List.mem_of_getElem? isRow.block)).even own.cells inBlock
        rw [entryOf, error?_expandRow even]
        split <;> rfl
  rcases missing firstMember firstOrigin with ⟨firstBlock, firstMissing⟩
  rcases missing secondMember secondOrigin with ⟨secondBlock, secondMissing⟩
  rw [sameOutline, sameBlock, secondBlock] at firstBlock
  rw [firstMissing, secondMissing, sameOutline, Option.some.inj firstBlock]

/-- What becomes of the rows of an outline.  A row that is as wide as its header has the
outcome that its header decides, so that in what was read the rows of a block all fail alike
or all succeed.  In any feature the entries outside a block do not depend on its table. -/
theorem outcome_of_rows (outline : Outline) (source : Option String) :
    (∀ origin : RowOrigin, origin.IsRowOf outline →
      origin.cells.length = origin.examples.header.length →
      ∃ entry, (outline.expand source).filter (fun entry => entry.origin? = some origin) =
        [entry] ∧ entry.OutcomeOf origin) ∧
    (∀ text feature, Document.read text source = .ok feature →
      ∀ first ∈ feature.entries, ∀ second ∈ feature.entries, ∀ origin other : RowOrigin,
        first.origin? = some origin → second.origin? = some other →
        origin.outline = outline → other.outline = outline → origin.block = other.block →
        first.error?.map ExpansionError.missing = second.error?.map ExpansionError.missing) ∧
    ∀ (feature : Feature) (before after : List Definition),
      feature.definitions = before ++ .outline outline :: after →
      ∃ front back : List Entry,
        feature.entries = front ++ outline.expand feature.source ++ back ∧
        ∀ (changed : Nat) (header : List String) (rows : List (List String)),
          ({ feature with
              definitions := before ++
                Definition.outline (outline.withTable changed header rows) :: after }).entries =
            front ++ (outline.withTable changed header rows).expand feature.source ++ back ∧
          ∀ block ≠ changed,
            ((outline.withTable changed header rows).expand feature.source).filter
                (fun entry => entry.block? = some block) =
              ((outline.expand feature.source).filter
                fun entry => entry.block? = some block).map
                  (Entry.withOutline (outline.withTable changed header rows)) := by
  refine ⟨?_, ?_, ?_⟩
  · intro origin isRow even
    exact ⟨_, filter_origin_expand isRow, outcomeOf_entryOf isRow.owner even⟩
  · intro text feature readText first firstMember second secondMember origin other firstOrigin
      secondOrigin ofOutline otherOfOutline sameBlock
    exact missing_eq_of_block (Document.wellFormed_of_read readText).1.regular firstMember
      secondMember firstOrigin secondOrigin (ofOutline.trans otherOfOutline.symm) sameBlock
  · intro feature before after split
    refine ⟨before.flatMap (Definition.expand feature.source),
      after.flatMap (Definition.expand feature.source), ?_, ?_⟩
    · rw [Feature.entries, split, List.flatMap_append, List.flatMap_cons, ← List.append_assoc]
      rfl
    · intro changed header rows
      constructor
      · rw [Feature.entries, List.flatMap_append, List.flatMap_cons, ← List.append_assoc]
        rfl
      · intro block differs
        exact filter_block_expand_withTable differs header rows feature.source

/-- Examples with a column that is named twice, and examples without a column. -/
def columnsOutline : Outline :=
  { name := "S", line := 2
    steps :=
      [{ keyword := .context, text := "<x> <y>", resolved := .context,
         doc := some { content := "<x>\n<<y>" }, line := 3 }]
    examples :=
      [{ header := ["x", "y", "x"], rows := [["<y>", "2", "3"]], line := 8 },
       { header := ["x"], rows := [["4"], ["5"]], line := 11 }] }

/-- A feature with that outline. -/
def columnsFeature : Feature :=
  { name := "F", definitions := [.outline columnsOutline] }

/-- The text that the feature was read from. -/
def columnsText : String :=
  "Feature: F\nScenario Outline: S\nGiven <x> <y>\n```\n<x>\n<<y>\n```\nExamples:\n|x|y|x|\n" ++
    "|<y>|2|3|\nExamples:\n|x|\n|4|\n|5|"

/-- The row under the column that is named twice. -/
def columnsOrigin : RowOrigin :=
  { outline := columnsOutline
    examples := { header := ["x", "y", "x"], rows := [["<y>", "2", "3"]], line := 8 }
    block := 0
    row := 0 }

theorem outcome_of_rows_repeated_column :
    Document.read columnsText = .ok columnsFeature ∧ columnsOrigin.IsRowOf columnsOutline ∧
      (∃ entry, (columnsOutline.expand none).filter
        (fun entry => entry.origin? = some columnsOrigin) = [entry] ∧
          entry.OutcomeOf columnsOrigin) ∧
      (∀ first ∈ columnsFeature.entries, ∀ second ∈ columnsFeature.entries,
        ∀ origin other : RowOrigin,
          first.origin? = some origin → second.origin? = some other →
          origin.outline = columnsOutline → other.outline = columnsOutline →
          origin.block = other.block →
          first.error?.map ExpansionError.missing = second.error?.map ExpansionError.missing) ∧
      ((columnsOutline.withTable 0 ["z"] []).expand none).filter
          (fun entry => entry.block? = some 1) =
        ((columnsOutline.expand none).filter fun entry => entry.block? = some 1).map
          (Entry.withOutline (columnsOutline.withTable 0 ["z"] [])) := by
  have readText : Document.read columnsText = .ok columnsFeature := by decide +kernel
  have isRow : columnsOrigin.IsRowOf columnsOutline :=
    { owner := rfl, block := rfl, row := by decide }
  rcases outcome_of_rows columnsOutline none with ⟨rows, blocks, tables⟩
  rcases tables columnsFeature [] [] rfl with ⟨front, back, -, others⟩
  exact ⟨readText, isRow, rows columnsOrigin isRow rfl, blocks _ _ readText,
    (others 0 ["z"] []).2 1 Nat.one_ne_zero⟩

end Outline

end Gherkin
