import Gherkin.Document.Reader
import Gherkin.Document.Writer
import Gherkin.Proofs.Document.Printable

/-!
# What stands in a document and in a feature

A document is cut into items without regard to what they mean together: lines by
their kind, and doc strings from fence to fence.  Each item holds tags or a piece of
a feature, and a feature holds tags and pieces in turn.
-/

namespace Gherkin

namespace Document

/-- A line outside doc strings, or a doc string with its fences. -/
inductive Item where
  | line (kind : Line)
  | doc (doc : DocString)
  deriving Repr, DecidableEq

/-- Items, each with the number of its first line. -/
abbrev Items := List (Int × Item)

/-- The items of the lines from a number on, in the doc string that is open, if any.
A doc string that is never closed counts as one. -/
def itemsFrom : Option OpenDocString → Int → Lines → Items
  | none, _, [] => []
  | some doc, _, [] => [(doc.line, .doc doc.close)]
  | none, line, raw :: rest =>
      match Line.classify raw with
      | .fence fence indent contentType =>
          itemsFrom (some { fence, indent, contentType, line }) (line + 1) rest
      | kind => (line, .line kind) :: itemsFrom none (line + 1) rest
  | some doc, line, raw :: rest =>
      if Text.trim raw = doc.fence.text then
        (doc.line, .doc doc.close) :: itemsFrom none (line + 1) rest
      else
        itemsFrom (some { doc with content := doc.content ++ [doc.contentLine raw] }) (line + 1)
          rest

/-- The items of a text. -/
def itemsOf (text : String) : Items :=
  itemsFrom none 1 (Text.lines (Text.dropMark text.toList))

/-- What a feature is made of besides tags and its description. -/
inductive Piece where
  /-- The header of the feature. -/
  | feature (name : String)
  /-- The header of a block. -/
  | header (header : Header) (name : String) (line : Int)
  | step (keyword : Keyword) (text : String) (line : Int)
  /-- A row, which can be one without an end. -/
  | row (cells : Option (List String))
  | doc (doc : DocString)
  deriving Repr, DecidableEq

namespace Item

/-- The words of a tag line. -/
def tags : Item → List String
  | .line (.tags words) => words
  | _ => []

/-- The piece that an item is, if it is one.  Backgrounds and examples have no name,
whatever follows their word. -/
def piece? (line : Int) : Item → Option Piece
  | .line (.header .feature _ name) => some (.feature name)
  | .line (.header .background _ _) => some (.header .background "" line)
  | .line (.header .examples _ _) => some (.header .examples "" line)
  | .line (.header kind _ name) => some (.header kind name line)
  | .line (.step keyword text _) => some (.step keyword text line)
  | .line (.row rest) => some (.row (Row.read? rest))
  | .doc content => some (.doc content)
  | .line .blank | .line (.tags _) | .line (.fence _ _ _) | .line (.text _) => none

/-- The text of a line of free text. -/
def text? : Item → Option String
  | .line (.text whole) => some whole
  | _ => none

/-- Whether an item is the header of a feature. -/
def isFeature : Item → Bool
  | .line (.header .feature _ _) => true
  | _ => false

/-- Whether an item is the header of a background, a scenario or an outline. -/
def opensBlock : Item → Bool
  | .line (.header .background _ _) => true
  | .line (.header .scenario _ _) => true
  | .line (.header .outline _ _) => true
  | _ => false

end Item

namespace Piece

/-- Whether a piece is a header. -/
def isHeader : Piece → Bool
  | .feature _ => true
  | .header _ _ _ => true
  | _ => false

/-- The header of a definition or of examples, with its name and line. -/
def header? : Piece → Option (Header × String × Int)
  | .header .background _ _ => none
  | .header kind name line => some (kind, name, line)
  | _ => none

/-- A step with its line. -/
def step? : Piece → Option (Keyword × String × Int)
  | .step keyword text line => some (keyword, text, line)
  | _ => none

/-- A row. -/
def row? : Piece → Option (Option (List String))
  | .row cells => some cells
  | _ => none

/-- A doc string. -/
def doc? : Piece → Option DocString
  | .doc content => some content
  | _ => none

end Piece

/-- The words of all tag lines. -/
def Items.tags (items : Items) : List String :=
  items.flatMap fun entry => entry.2.tags

/-- The pieces among items. -/
def Items.pieces (items : Items) : List Piece :=
  items.filterMap fun entry => entry.2.piece? entry.1

/-- The free text above the first block. -/
def Items.intro (items : Items) : List String :=
  (items.takeWhile fun entry => !entry.2.opensBlock).filterMap fun entry => entry.2.text?

/-- The free text under the header of the feature, above the first block. -/
def Items.description (items : Items) : List String :=
  Items.intro (items.dropWhile fun entry => !entry.2.isFeature)

end Document

open Document

/-! ## Features -/

/-- Tags as they are written. -/
def tagTokens (tags : List String) : List String :=
  tags.map fun tag => "@" ++ tag

/-- The rows under a step. -/
def Step.rows (step : Step) : List (List String) :=
  (step.table.map DataTable.rows).getD []

/-- A step, and what is under it. -/
def Step.pieces (step : Step) : List Piece :=
  .step step.keyword step.text step.line ::
    (step.rows.map (fun cells => .row (some cells)) ++ (step.doc.map .doc).toList)

/-- The header of examples, and the rows under it. -/
def Examples.pieces (examples : Examples) : List Piece :=
  .header .examples "" examples.line ::
    (examplesRows examples).map fun cells => .row (some cells)

namespace Definition

/-- The tags of a definition and of its examples. -/
def allTags (definition : Definition) : List String :=
  definition.tags ++ (examplesOf definition).flatMap Examples.tags

/-- The header of a definition, its steps and its examples. -/
def pieces (definition : Definition) : List Piece :=
  .header (headerOf definition) definition.name definition.line ::
    (definition.steps.flatMap Step.pieces ++ (examplesOf definition).flatMap Examples.pieces)

end Definition

/-- The header of a background, and its steps. -/
def Background.pieces (background : Background) : List Piece :=
  .header .background "" background.line :: background.steps.flatMap Step.pieces

namespace Feature

/-- The tags of a feature, and those of each definition. -/
def allTags (feature : Feature) : List String :=
  feature.tags ++ feature.definitions.flatMap Definition.allTags

/-- The header of a feature, its background and its definitions. -/
def pieces (feature : Feature) : List Piece :=
  .feature feature.name ::
    ((feature.background.map Background.pieces).getD [] ++
      feature.definitions.flatMap Definition.pieces)

/-- The headers of the definitions, each before those of its examples. -/
def headers (feature : Feature) : List (Header × String × Int) :=
  feature.definitions.flatMap fun definition =>
    (headerOf definition, definition.name, definition.line) ::
      (examplesOf definition).map fun examples => (.examples, "", examples.line)

/-- The rows under the steps and those of the examples. -/
def rows (feature : Feature) : List (List String) :=
  feature.backgroundSteps.flatMap Step.rows ++
    feature.definitions.flatMap fun definition =>
      definition.steps.flatMap Step.rows ++ (examplesOf definition).flatMap examplesRows

end Feature

/-! ## Pieces of one sort -/

/-- The pieces of one sort in a feature are those of its steps, of the headers of its
definitions and of its examples. -/
theorem Feature.filterMap_pieces {β : Type} {sort : Piece → Option β} {ofStep : Step → List β}
    {ofDefinition : Definition → List β} {ofExamples : Examples → List β}
    (other : ∀ name line, sort (.feature name) = none ∧ sort (.header .background "" line) = none)
    (steps : ∀ step, step.pieces.filterMap sort = ofStep step)
    (definitions : ∀ definition,
      [Piece.header (headerOf definition) definition.name definition.line].filterMap sort =
        ofDefinition definition)
    (examples : ∀ block, block.pieces.filterMap sort = ofExamples block) (feature : Feature) :
    feature.pieces.filterMap sort =
      feature.backgroundSteps.flatMap ofStep ++
        feature.definitions.flatMap fun definition =>
          ofDefinition definition ++
            (definition.steps.flatMap ofStep ++ (examplesOf definition).flatMap ofExamples) := by
  have each : ∀ definition : Definition, definition.pieces.filterMap sort =
      ofDefinition definition ++
        (definition.steps.flatMap ofStep ++ (examplesOf definition).flatMap ofExamples) := by
    intro definition
    rw [Definition.pieces, ← List.singleton_append, List.filterMap_append, List.filterMap_append,
      List.filterMap_flatMap, List.filterMap_flatMap, definitions]
    simp only [steps, examples]
  have head : ((feature.background.map Background.pieces).getD []).filterMap sort =
      feature.backgroundSteps.flatMap ofStep := by
    cases background : feature.background with
    | none => simp [backgroundSteps, background]
    | some block =>
        simp [backgroundSteps, background, Background.pieces, (other "" block.line).2,
          List.filterMap_flatMap, steps]
  rw [pieces, List.filterMap_cons_none (other feature.name 0).1, List.filterMap_append, head,
    List.filterMap_flatMap]
  simp only [each]

theorem flatMap_nil_right {α β : Type} (list : List α) :
    list.flatMap (fun _ => ([] : List β)) = [] := by
  simp

namespace Feature

variable (feature : Feature)

theorem filterMap_step?_pieces :
    feature.pieces.filterMap Piece.step? =
      feature.allSteps.map fun step => (step.keyword, step.text, step.line) := by
  have steps : ∀ step : Step,
      step.pieces.filterMap Piece.step? = [(step.keyword, step.text, step.line)] := by
    intro step
    cases doc : step.doc <;>
      simp [Step.pieces, doc, List.filterMap_cons, Piece.step?, Function.comp_def]
  have examples : ∀ block : Examples, block.pieces.filterMap Piece.step? = [] := by
    simp [Examples.pieces, List.filterMap_cons, Piece.step?, Function.comp_def]
  have noHeader : ∀ definition : Definition,
      [Piece.header (headerOf definition) definition.name definition.line].filterMap Piece.step? =
        [] :=
    fun _ => rfl
  rw [filterMap_pieces (fun _ _ => ⟨rfl, rfl⟩) steps noHeader examples]
  simp [allSteps, List.map_eq_flatMap, List.flatMap_assoc, flatMap_nil_right]

theorem filterMap_row?_pieces :
    feature.pieces.filterMap Piece.row? = feature.rows.map some := by
  have steps : ∀ step : Step, step.pieces.filterMap Piece.row? = step.rows.map some := by
    intro step
    cases doc : step.doc <;>
      simp [Step.pieces, doc, List.filterMap_cons, Piece.row?, Function.comp_def]
  have examples : ∀ block : Examples,
      block.pieces.filterMap Piece.row? = (examplesRows block).map some := by
    simp [Examples.pieces, List.filterMap_cons, Piece.row?, Function.comp_def]
  have noHeader : ∀ definition : Definition,
      [Piece.header (headerOf definition) definition.name definition.line].filterMap Piece.row? =
        [] :=
    fun _ => rfl
  rw [filterMap_pieces (fun _ _ => ⟨rfl, rfl⟩) steps noHeader examples]
  simp [rows, List.map_flatMap]

theorem filterMap_doc?_pieces :
    feature.pieces.filterMap Piece.doc? = feature.allSteps.filterMap Step.doc := by
  have steps : ∀ step : Step, step.pieces.filterMap Piece.doc? = step.doc.toList := by
    intro step
    cases doc : step.doc <;>
      simp [Step.pieces, doc, List.filterMap_cons, Piece.doc?, Function.comp_def]
  have examples : ∀ block : Examples, block.pieces.filterMap Piece.doc? = [] := by
    simp [Examples.pieces, List.filterMap_cons, Piece.doc?, Function.comp_def]
  have noHeader : ∀ definition : Definition,
      [Piece.header (headerOf definition) definition.name definition.line].filterMap Piece.doc? =
        [] :=
    fun _ => rfl
  rw [filterMap_pieces (fun _ _ => ⟨rfl, rfl⟩) steps noHeader examples]
  simp [allSteps, List.filterMap_eq_flatMap_toList, List.flatMap_assoc, flatMap_nil_right]

theorem filterMap_header?_pieces : feature.pieces.filterMap Piece.header? = feature.headers := by
  have steps : ∀ step : Step, step.pieces.filterMap Piece.header? = [] := by
    intro step
    cases doc : step.doc <;>
      simp [Step.pieces, doc, List.filterMap_cons, Piece.header?, Function.comp_def]
  have definitions : ∀ definition : Definition,
      [Piece.header (headerOf definition) definition.name definition.line].filterMap Piece.header? =
        [(headerOf definition, definition.name, definition.line)] := by
    intro definition
    cases definition <;> rfl
  have examples : ∀ block : Examples,
      block.pieces.filterMap Piece.header? = [(.examples, "", block.line)] := by
    simp [Examples.pieces, Piece.header?, Function.comp_def]
  rw [filterMap_pieces (fun _ _ => ⟨rfl, rfl⟩) steps definitions examples]
  simp [headers, List.map_eq_flatMap, flatMap_nil_right]

end Feature

end Gherkin
