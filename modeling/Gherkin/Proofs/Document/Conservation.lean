import Gherkin.Proofs.Document.Held

/-!
# Nothing is lost in reading

A document is followed item by item, and at its end the feature holds what the items
hold.  Free text is the exception: it is kept as the description, or passed over
under the header of a block.
-/

namespace Gherkin.Document

open Gherkin.Text

/-! ## From item to item -/

/-- The items that a line outside doc strings is: none for a fence, which belongs to
its doc string. -/
def lineItems (line : Int) : Line → Items
  | .fence _ _ _ => []
  | kind => [(line, .line kind)]

theorem itemsFrom_of_taken {reader after : Reader} {line : Int} {raw : List Char}
    (outside : reader.place.openDoc = none) (taken : Taken line reader (Line.classify raw) after)
    (rest : Lines) :
    itemsFrom none line (raw :: rest) =
      lineItems line (Line.classify raw) ++ itemsFrom after.place.openDoc (line + 1) rest := by
  rw [itemsFrom]
  generalize Line.classify raw = kind at taken ⊢
  cases taken with
  | fence last => rfl
  | tags read =>
      simp only [Place.openDoc_endTable]
      rw [outside]
      rfl
  | definition opens closes => cases opens <;> rfl
  | _ => simp_all [lineItems, Place.openDoc, Reader.start]

/-- Facts about a reader and the items still to come hold when they hold at the end
and each item keeps them.  The lines of a doc string are no items of their own. -/
theorem readLines_items {motive : Reader → Items → Prop} {after : Reader}
    (done : motive after [])
    (taken : ∀ {reader middle : Reader} {line : Int} {kind : Line} {items : Items},
      reader.place.openDoc = none → kind.Sound → Taken line reader kind middle →
        motive middle items → motive reader (lineItems line kind ++ items))
    (content : ∀ {feature : OpenFeature} {block : Block} {step : Step} {doc : OpenDocString}
      {pending : Option PendingTags} {content : Lines} {items : Items},
      motive ⟨.docString feature block step { doc with content }, pending⟩ items →
        motive ⟨.docString feature block step doc, pending⟩ items)
    (closing : ∀ {feature : OpenFeature} {block : Block} {step : Step} {doc : OpenDocString}
      {pending : Option PendingTags} {items : Items},
      motive ⟨.steps feature
          { block with settled := block.settled ++ [{ step with doc := some doc.close }] },
          pending⟩ items →
        motive ⟨.docString feature block step doc, pending⟩ ((doc.line, .doc doc.close) :: items))
    {reader : Reader} {line : Int} {lines : Lines} (noFeed : ∀ raw ∈ lines, '\n' ∉ raw)
    (closed : after.place.openDoc = none) (read : reader.readLines line lines = .ok after) :
    motive reader (itemsFrom reader.place.openDoc line lines) := by
  induction lines generalizing reader line with
  | nil =>
      obtain rfl := Except.ok.inj read
      rw [closed]
      exact done
  | cons raw rest ih =>
      have restNoFeed : ∀ other ∈ rest, '\n' ∉ other :=
        fun other member => noFeed other (List.mem_cons_of_mem raw member)
      rw [Reader.readLines] at read
      split at read
      · simp at read
      · rename_i middle first
        have later := ih restNoFeed read
        have sound := Line.sound_classify (noFeed raw List.mem_cons_self)
        obtain ⟨place, pending⟩ := reader
        cases place with
        | docString feature block step doc =>
            obtain rfl := Except.ok.inj first
            rw [Reader.readDocLine] at later
            rw [Place.openDoc, itemsFrom]
            split at later
            · rename_i closes
              rw [if_pos closes]
              exact closing later
            · rename_i stays
              rw [if_neg stays]
              exact content later
        | _ =>
            have known := Reader.taken_of_readLine first
            have items := itemsFrom_of_taken (by rfl) known rest
            exact items ▸ taken rfl sound known later

/-! ## Documents -/

theorem Items.pieces_lineItems (line : Int) (kind : Line) :
    Items.pieces (lineItems line kind) = ((Item.line kind).piece? line).toList := by
  cases kind with
  | header header word title => cases header <;> rfl
  | _ => rfl

theorem Items.tags_lineItems (line : Int) (kind : Line) :
    Items.tags (lineItems line kind) = (Item.line kind).tags := by
  cases kind <;> simp [lineItems, Items.tags, Item.tags]

/-- A doc string that is closed is held behind its step. -/
theorem pieces_closeDoc {block : Block} (noExamples : block.examples = [])
    (last : block.last = none) {step : Step} (bare : IsBareStep step) (doc : DocString) :
    ({ block with settled := block.settled ++ [{ step with doc := some doc }] } : Block).pieces =
      block.pieces ++ (step.pieces ++ [.doc doc]) := by
  simp [Block.pieces, Block.steps, noExamples, last, Step.pieces, Step.rows, bare.table, bare.doc]

/-- What the lines hold is added at the end of what the reader holds. -/
theorem held_of_readLines {reader after : Reader} {line : Int} {lines : Lines}
    (noFeed : ∀ raw ∈ lines, '\n' ∉ raw) (closed : after.place.openDoc = none)
    (read : reader.readLines line lines = .ok after) (sound : reader.Sound)
    (ordered : reader.place.Ordered) :
    after.place.Ordered ∧
      after.place.pieces =
        reader.place.pieces ++ (itemsFrom reader.place.openDoc line lines).pieces ∧
        tagTokens after.allTags =
          tagTokens reader.allTags ++ (itemsFrom reader.place.openDoc line lines).tags := by
  revert sound ordered
  apply readLines_items (motive := fun reader items => reader.Sound → reader.place.Ordered →
    after.place.Ordered ∧ after.place.pieces = reader.place.pieces ++ items.pieces ∧
      tagTokens after.allTags = tagTokens reader.allTags ++ items.tags)
    ?done ?taken ?content ?closing noFeed closed read
  case done =>
    intro sound ordered
    exact ⟨ordered, (List.append_nil _).symm, (List.append_nil _).symm⟩
  case taken =>
    intro reader middle line kind items outside lineSound known later sound ordered
    obtain ⟨middleOrdered, pieces, tags⟩ := held_of_taken sound ordered known
    obtain ⟨afterOrdered, laterPieces, laterTags⟩ :=
      later (sound.of_taken lineSound known) middleOrdered
    refine ⟨afterOrdered, ?_, ?_⟩
    · rw [laterPieces, pieces, List.append_assoc, ← Items.pieces_lineItems]
      simp [Items.pieces]
    · rw [laterTags, tags, List.append_assoc, ← Items.tags_lineItems line]
      simp [Items.tags]
  case content =>
    intro feature block step doc pending content items later sound ordered
    exact later (sound.addContent content) ordered
  case closing =>
    intro feature block step doc pending items later sound ordered
    obtain ⟨-, -, -, bare, last, -⟩ := sound.place
    obtain ⟨afterOrdered, pieces, tags⟩ := later sound.closeDoc ordered
    refine ⟨afterOrdered, ?_, tags⟩
    rw [pieces, Place.pieces, pieces_closeDoc ordered.1 last bare]
    simp [Place.pieces, Items.pieces, Item.piece?]

/-! ## The description -/

/-- The description of the feature when the given items are still to come. -/
def Place.descriptionWith (items : Items) : Place → List String
  | .outside => items.description
  | .intro feature => feature.description ++ items.intro
  | .steps feature _ | .examples feature _ _ | .docString feature _ _ _ => feature.description

theorem descriptionWith_endTable (items : Items) (place : Place) :
    place.endTable.descriptionWith items = place.descriptionWith items := by
  cases place <;> rfl

theorem description_close {place : Place} {feature : OpenFeature}
    (closes : place.close = .ok (some feature)) {items : Items} (noIntro : items.intro = []) :
    feature.description = place.descriptionWith items := by
  obtain ⟨before, found, same⟩ := Place.feature?_of_close closes
  have description : feature.description = before.description := by
    rw [same]
  rw [description]
  cases place with
  | outside => simp [Place.feature?] at found
  | intro =>
      obtain rfl := Option.some.inj found
      simp [Place.descriptionWith, noIntro]
  | _ =>
      obtain rfl := Option.some.inj found
      rfl

theorem descriptionWith_of_taken {reader after : Reader} {line : Int} {kind : Line}
    (taken : Taken line reader kind after) (items : Items) :
    reader.place.descriptionWith (lineItems line kind ++ items) =
      after.place.descriptionWith items := by
  cases taken with
  | blank =>
      obtain ⟨place, pending⟩ := reader
      cases place <;> rfl
  | @tags place _ _ _ read =>
      rw [descriptionWith_endTable]
      cases place <;> rfl
  | definition opens closes =>
      apply (description_close closes ?_).symm
      cases opens <;> rfl
  | description =>
      simp [Place.descriptionWith, lineItems, Items.intro, Item.opensBlock, Item.text?]
  | feature named =>
      simp [Place.descriptionWith, Reader.start, lineItems, Items.intro, Items.description,
        Item.opensBlock, Item.isFeature, Item.text?]
  | background =>
      simp [Place.descriptionWith, Reader.start, lineItems, Items.intro, Item.opensBlock]
  | _ => rfl

/-- The free text to come is added to the description as long as no block opens. -/
theorem description_of_readLines {reader after : Reader} {line : Int} {lines : Lines}
    (noFeed : ∀ raw ∈ lines, '\n' ∉ raw) (read : reader.readLines line lines = .ok after)
    {feature : OpenFeature} (closes : after.place.close = .ok (some feature)) :
    feature.description =
      reader.place.descriptionWith (itemsFrom reader.place.openDoc line lines) := by
  have closed := Place.openDoc_of_close closes
  apply readLines_items
    (motive := fun reader items => feature.description = reader.place.descriptionWith items)
    ?done ?taken ?content ?closing noFeed closed read
  case done => exact description_close closes rfl
  case taken =>
    intro reader middle line kind items outside lineSound known later
    rw [later, descriptionWith_of_taken known]
  case content => exact fun later => later
  case closing => exact fun later => later

/-! ## Free text elsewhere -/

/-- Whether free text can stand at a place: nothing has come since a header. -/
def Place.underHeader : Place → Bool
  | .outside | .docString _ _ _ _ => false
  | .intro _ => true
  | .steps _ block => block.steps.isEmpty
  | .examples _ _ table => table.rows.isEmpty

@[simp]
theorem Place.underHeader_endTable (place : Place) :
    place.endTable.underHeader = place.underHeader := by
  cases place <;> simp [endTable, underHeader]

/-- Free text stands only under a header that is among the items, or in front of them
if it may stand there. -/
def TextUnderHeaders (here : Bool) (items : Items) : Prop :=
  ∀ before line whole later, items = before ++ (line, .line (.text whole)) :: later →
    ((Items.pieces before).getLast?.map Piece.isHeader).getD here = true

theorem underHeader_of_text {reader after : Reader} {line : Int} {whole : String}
    (taken : Taken line reader (.text whole) after) : reader.place.underHeader := by
  cases taken with
  | description => rfl
  | blockText fresh => simpa [Place.underHeader] using fresh
  | examplesText fresh => simpa [Place.underHeader] using fresh

/-- After a line that is a piece, free text can stand only if it is a header. -/
theorem underHeader_of_taken {reader after : Reader} {line : Int} {kind : Line}
    (taken : Taken line reader kind after) (under : after.place.underHeader) :
    (((Item.line kind).piece? line).map Piece.isHeader).getD reader.place.underHeader = true := by
  cases taken with
  | definition opens closes => cases opens <;> rfl
  | tags read =>
      rw [Place.underHeader_endTable] at under
      exact under
  | _ =>
      simp_all [Item.piece?, Piece.isHeader, Place.underHeader, Reader.start, Block.steps,
        Block.addStep]

theorem TextUnderHeaders.cons {here under : Bool} {entry : Int × Item} {items : Items}
    (later : TextUnderHeaders under items)
    (text : ∀ whole, entry.2 = .line (.text whole) → here = true)
    (header : under = true → ((entry.2.piece? entry.1).map Piece.isHeader).getD here = true) :
    TextUnderHeaders here (entry :: items) := by
  intro before line whole rest split
  cases before with
  | nil =>
      obtain ⟨rfl, -⟩ := List.cons.inj split
      simpa [Items.pieces] using text whole rfl
  | cons first before =>
      obtain ⟨rfl, itemsEq⟩ := List.cons.inj split
      have inside := later before line whole rest itemsEq
      have pieces : Items.pieces (entry :: before) =
          (entry.2.piece? entry.1).toList ++ Items.pieces before := by
        cases piece : entry.2.piece? entry.1 <;> simp [Items.pieces, piece]
      rw [pieces, List.getLast?_append]
      cases last : (Items.pieces before).getLast? with
      | some piece => simpa [last] using inside
      | none =>
          have under := header (by simpa [last] using inside)
          cases piece : entry.2.piece? entry.1 <;> simpa [piece] using under

theorem textUnderHeaders_of_taken {reader after : Reader} {line : Int} {kind : Line}
    (taken : Taken line reader kind after) {items : Items}
    (later : TextUnderHeaders after.place.underHeader items) :
    TextUnderHeaders reader.place.underHeader (lineItems line kind ++ items) := by
  have entry (entries : lineItems line kind = [(line, .line kind)]) :
      TextUnderHeaders reader.place.underHeader (lineItems line kind ++ items) := by
    rw [entries]
    apply later.cons
    · intro whole same
      obtain rfl := Item.line.inj same
      exact underHeader_of_text taken
    · exact underHeader_of_taken taken
  cases taken with
  | fence last =>
      intro before number whole rest split
      have inside := later before number whole rest split
      cases header : (Items.pieces before).getLast? <;>
        simp_all [Place.underHeader]
  | definition opens closes => cases opens <;> exact entry rfl
  | _ => exact entry rfl

/-- Free text that is read stands under a header. -/
theorem textUnderHeaders_of_readLines {reader after : Reader} {line : Int} {lines : Lines}
    (noFeed : ∀ raw ∈ lines, '\n' ∉ raw) (closed : after.place.openDoc = none)
    (read : reader.readLines line lines = .ok after) :
    TextUnderHeaders reader.place.underHeader (itemsFrom reader.place.openDoc line lines) := by
  apply readLines_items
    (motive := fun reader items => TextUnderHeaders reader.place.underHeader items)
    ?done ?taken ?content ?closing noFeed closed read
  case done =>
    intro before number whole later split
    simp at split
  case taken =>
    intro reader middle line kind items outside lineSound known later
    exact textUnderHeaders_of_taken known later
  case content => exact fun later => later
  case closing =>
    intro feature block step doc pending items later
    apply later.cons
    · simp
    · simp [Place.underHeader, Block.steps]

/-! ## Documents -/

/-- A feature that was read holds what stands in its text, and nothing else: the tags
in order, and in order the headers, steps, rows and doc strings.  The free text under
the feature's header is its description.  Other free text is passed over, but stands
only right under the header of a block. -/
theorem conserved_of_read {text : String} {source : Option String} {feature : Feature}
    (read : read text source = .ok feature) :
    (itemsOf text).tags = tagTokens feature.allTags ∧
      (itemsOf text).pieces = feature.pieces ∧
      (itemsOf text).pieces.filterMap Piece.header? = feature.headers ∧
      (itemsOf text).pieces.filterMap Piece.step? =
        (feature.allSteps.map fun step => (step.keyword, step.text, step.line)) ∧
      (itemsOf text).pieces.filterMap Piece.row? = feature.rows.map some ∧
      (itemsOf text).pieces.filterMap Piece.doc? = feature.allSteps.filterMap Step.doc ∧
      (itemsOf text).description = feature.description ∧
      ∀ before line whole later,
        itemsOf text = before ++ (line, .line (.text whole)) :: later →
          ∃ piece, (Items.pieces before).getLast? = some piece ∧ piece.isHeader := by
  obtain ⟨place, openFeature, lines, closes, rfl⟩ := read_eq_ok_iff.mp read
  have noFeed : ∀ raw ∈ Text.lines (dropMark text.toList), '\n' ∉ raw :=
    fun _ => not_mem_of_mem_lines
  have closed := Place.openDoc_of_close closes
  obtain ⟨ordered, pieces, tags⟩ := held_of_readLines noFeed closed lines
    ⟨trivial, by simp [Reader.pendingTags]⟩ trivial
  obtain ⟨piecesEq, tagsEq⟩ := held_close ordered closes
  have description := description_of_readLines noFeed lines closes
  have texts := textUnderHeaders_of_readLines noFeed closed lines
  have wholePieces : (itemsOf text).pieces = (openFeature.complete source).pieces :=
    (piecesEq.trans pieces).symm
  refine ⟨?_, wholePieces, ?_, ?_, ?_, ?_, description.symm, ?_⟩
  · rw [allTags_start] at tags
    exact ((congrArg tagTokens tagsEq).trans tags).symm
  · rw [wholePieces, Feature.filterMap_header?_pieces]
  · rw [wholePieces, Feature.filterMap_step?_pieces]
  · rw [wholePieces, Feature.filterMap_row?_pieces]
  · rw [wholePieces, Feature.filterMap_doc?_pieces]
  · intro before line whole later split
    have header := texts before line whole later split
    cases last : (Items.pieces before).getLast? with
    | none => simp [last, Place.underHeader] at header
    | some piece => exact ⟨piece, rfl, by simpa [last] using header⟩

/-- A text with every sort of line. -/
def outlineText : String :=
  "@a\nFeature: F\nabout\n@b\nScenario Outline: S\nfree\nGiven x\n|1|\n@c\nExamples:\n|h|"

/-- What is read from it. -/
def outlineFeature : Feature :=
  { name := "F", tags := ["a"], description := ["about"]
    definitions := [.outline
      { name := "S", tags := ["b"], line := 5
        steps :=
          [{ keyword := .context, text := "x", resolved := .context, table := some ⟨[["1"]]⟩,
             line := 7 }]
        examples := [{ header := ["h"], tags := ["c"], line := 10 }] }] }

theorem conserved_of_read_outline :
    read outlineText = .ok outlineFeature ∧
      (itemsOf outlineText).tags = ["@a", "@b", "@c"] ∧
      (itemsOf outlineText).pieces =
        [.feature "F", .header .outline "S" 5, .step .context "x" 7, .row (some ["1"]),
          .header .examples "" 10, .row (some ["h"])] ∧
      (itemsOf outlineText).description = ["about"] := by
  have whole : read outlineText = .ok outlineFeature := by decide +kernel
  obtain ⟨tags, pieces, -, -, -, -, description, -⟩ := conserved_of_read whole
  exact ⟨whole, tags.trans (by decide), pieces.trans (by decide), description⟩

end Gherkin.Document
