import Gherkin.Proofs.Document.Conservation

/-!
# Lines in order

The parts of a feature that were read stand at lines of their own, one below the
other, in the order in which the feature holds them.
-/

namespace Gherkin

open Document

/-! ## The lines of a feature -/

/-- The lines of the steps and of the examples of a definition. -/
def Definition.innerLines (definition : Definition) : List Int :=
  definition.steps.map Step.line ++ (examplesOf definition).map Examples.line

/-- The lines of the header of a background and of its steps. -/
def Background.lines (background : Background) : List Int :=
  background.line :: background.steps.map Step.line

/-- The lines of a background and of all definitions. -/
def Feature.lines (feature : Feature) : List Int :=
  (feature.background.map Background.lines).getD [] ++
    feature.definitions.flatMap fun definition => definition.line :: definition.innerLines

namespace Document

/-- The line that a piece keeps. -/
def Piece.line? : Piece → Option Int
  | .header _ _ line | .step _ _ line => some line
  | _ => none

/-- The lines of items. -/
def Items.lines (items : Items) : List Int :=
  items.map Prod.fst

/-! ## Items in order -/

/-- Numbers that grow, none of them below the first. -/
structure GrowFrom (first : Int) (numbers : List Int) : Prop where
  grow : numbers.Pairwise (· < ·)
  above : ∀ number ∈ numbers, first ≤ number

theorem GrowFrom.weaken {first later : Int} {numbers : List Int} (grows : GrowFrom later numbers)
    (below : first ≤ later) : GrowFrom first numbers where
  grow := grows.grow
  above number member := Int.le_trans below (grows.above number member)

theorem GrowFrom.cons {first later : Int} {numbers : List Int} (grows : GrowFrom later numbers)
    (below : first < later) : GrowFrom first (first :: numbers) where
  grow := by
    rw [List.pairwise_cons]
    constructor
    · intro number member
      exact Int.lt_of_lt_of_le below (grows.above number member)
    · exact grows.grow
  above := by
    rw [List.forall_mem_cons]
    constructor
    · exact Int.le_refl first
    · exact (grows.weaken (Int.le_of_lt below)).above

theorem growFrom_nil (first : Int) : GrowFrom first [] where
  grow := List.Pairwise.nil
  above := by simp

/-- Every item stands below those in front of it. -/
theorem growFrom_itemsFrom {doc : Option OpenDocString} {line : Int} {lines : Lines}
    (opened : ∀ start ∈ doc.map OpenDocString.line, start < line) :
    GrowFrom ((doc.map OpenDocString.line).getD line) (itemsFrom doc line lines).lines := by
  fun_induction itemsFrom doc line lines with
  | case1 line => exact growFrom_nil line
  | case2 doc line =>
      have below : doc.line < line := opened doc.line rfl
      exact (growFrom_nil line).cons below
  | case3 line raw rest fence indent contentType kind ih =>
      apply ih
      rintro start ⟨⟩
      exact Int.lt_succ line
  | case4 line raw rest noFence ih =>
      have later : GrowFrom (line + 1) (itemsFrom none (line + 1) rest).lines := ih (by simp)
      exact later.cons (Int.lt_succ line)
  | case5 doc line raw rest closes ih =>
      have below : doc.line < line := opened doc.line rfl
      have later : GrowFrom (line + 1) (itemsFrom none (line + 1) rest).lines := ih (by simp)
      exact later.cons (Int.lt_trans below (Int.lt_succ line))
  | case6 doc line raw rest stays ih =>
      have below : doc.line < line := opened doc.line rfl
      apply ih
      rintro start ⟨⟩
      exact Int.lt_trans below (Int.lt_succ line)

/-- A piece keeps the line of the item it is. -/
theorem line_of_piece? {line number : Int} {item : Item} {piece : Piece}
    (known : item.piece? line = some piece) (kept : piece.line? = some number) :
    number = line := by
  revert known
  fun_cases Item.piece? line item <;> rintro ⟨⟩ <;> simp_all [Piece.line?]

/-- The pieces among items keep lines of these items. -/
theorem lines_pieces_sublist (items : Items) :
    (items.pieces.filterMap Piece.line?).Sublist items.lines := by
  induction items with
  | nil => exact List.Sublist.refl []
  | cons entry items ih =>
      obtain ⟨line, item⟩ := entry
      cases piece : item.piece? line with
      | none =>
          have pieces : Items.pieces ((line, item) :: items) = Items.pieces items := by
            simp [Items.pieces, piece]
          rw [pieces]
          exact ih.cons line
      | some kept =>
          have pieces : Items.pieces ((line, item) :: items) = kept :: Items.pieces items := by
            simp [Items.pieces, piece]
          rw [pieces]
          cases number : kept.line? with
          | none =>
              rw [List.filterMap_cons_none number]
              exact ih.cons line
          | some number' =>
              rw [List.filterMap_cons_some number, line_of_piece? piece number]
              exact ih.cons_cons line

end Document

/-! ## Features in order -/

theorem Step.filterMap_line?_pieces (step : Step) :
    step.pieces.filterMap Piece.line? = [step.line] := by
  cases doc : step.doc <;>
    simp [Step.pieces, doc, List.filterMap_cons, Piece.line?, Function.comp_def]

theorem Examples.filterMap_line?_pieces (examples : Examples) :
    examples.pieces.filterMap Piece.line? = [examples.line] := by
  simp [Examples.pieces, Piece.line?, Function.comp_def]

theorem Definition.filterMap_line?_pieces (definition : Definition) :
    definition.pieces.filterMap Piece.line? = definition.line :: definition.innerLines := by
  have header : ∀ kind name line, Piece.line? (.header kind name line) = some line :=
    fun _ _ _ => rfl
  rw [pieces, List.filterMap_cons_some (header _ _ _), List.filterMap_append,
    List.filterMap_flatMap, List.filterMap_flatMap, innerLines]
  simp only [Step.filterMap_line?_pieces, Examples.filterMap_line?_pieces, List.map_eq_flatMap]

theorem Background.filterMap_line?_pieces (background : Background) :
    background.pieces.filterMap Piece.line? = background.lines := by
  have header : Piece.line? (.header .background "" background.line) = some background.line := rfl
  rw [pieces, List.filterMap_cons_some header, List.filterMap_flatMap, lines]
  simp only [Step.filterMap_line?_pieces, List.map_eq_flatMap]

theorem Feature.filterMap_line?_pieces (feature : Feature) :
    feature.pieces.filterMap Piece.line? = feature.lines := by
  rw [pieces, lines, List.filterMap_cons_none rfl, List.filterMap_append, List.filterMap_flatMap]
  simp only [Definition.filterMap_line?_pieces]
  cases feature.background with
  | none => rfl
  | some background =>
      simp only [Option.map_some, Option.getD_some, Background.filterMap_line?_pieces]

namespace Document

variable {text : String} {source : Option String} {feature : Feature}

/-- The lines of a feature that was read grow. -/
theorem lines_of_read (read : read text source = .ok feature) : feature.lines.Pairwise (· < ·) := by
  obtain ⟨place, openFeature, lines, closes, rfl⟩ := read_eq_ok_iff.mp read
  have noFeed : ∀ raw ∈ Text.lines (Text.dropMark text.toList), '\n' ∉ raw :=
    fun _ => Text.not_mem_of_mem_lines
  have closed := Place.openDoc_of_close closes
  obtain ⟨ordered, pieces, -⟩ := held_of_readLines noFeed closed lines
    ⟨trivial, by simp [Reader.pendingTags]⟩ trivial
  have held : (openFeature.complete source).pieces = (itemsOf text).pieces :=
    (held_close ordered closes).1.trans pieces
  have starts : ∀ start ∈ (none : Option OpenDocString).map OpenDocString.line, start < 1 := by simp
  have grows : (itemsOf text).lines.Pairwise (· < ·) := (growFrom_itemsFrom starts).grow
  rw [← Feature.filterMap_line?_pieces, held]
  exact grows.sublist (lines_pieces_sublist _)

/-- The background stands above the definitions. -/
theorem background_line_lt (read : read text source = .ok feature)
    {background : Background} (present : background ∈ feature.background)
    {definition : Definition} (member : definition ∈ feature.definitions) :
    background.line < definition.line := by
  have grows := lines_of_read read
  rw [Feature.lines, Option.mem_def.mp present, List.pairwise_append] at grows
  apply grows.2.2 background.line List.mem_cons_self
  exact List.mem_flatMap.mpr ⟨definition, member, List.mem_cons_self⟩

/-- The lines inside a definition are below its header. -/
theorem line_lt_innerLines (read : read text source = .ok feature)
    {definition : Definition} (member : definition ∈ feature.definitions) {inner : Int}
    (inside : inner ∈ definition.innerLines) : definition.line < inner := by
  have grows := lines_of_read read
  rw [Feature.lines, List.pairwise_append, List.pairwise_flatMap] at grows
  exact List.rel_of_pairwise_cons (grows.2.1.1 definition member) inside

/-- Definitions stand below everything in the definitions before them. -/
theorem pairwise_definitions (read : read text source = .ok feature) :
    feature.definitions.Pairwise fun definition later =>
      definition.line < later.line ∧ ∀ inner ∈ definition.innerLines, inner < later.line := by
  have grows := lines_of_read read
  rw [Feature.lines, List.pairwise_append, List.pairwise_flatMap] at grows
  apply grows.2.1.2.imp
  intro definition later below
  constructor
  · exact below definition.line List.mem_cons_self later.line List.mem_cons_self
  · intro inner inside
    exact below inner (List.mem_cons_of_mem _ inside) later.line List.mem_cons_self

end Document

end Gherkin
