import Gherkin.Proofs.Document.Held

/-!
# The lines of errors

A reader remembers the lines of waiting tags, of the open block and of the open doc
string.  They are lines it has read, and an error is reported at one of them or at
the line being read.
-/

namespace Gherkin.Document

/-! ## Remembered lines -/

/-- A number of a line that was read before the given one. -/
def IsLineBefore (next line : Int) : Prop :=
  1 ≤ line ∧ line < next

theorem IsLineBefore.succ {next line : Int} (before : IsLineBefore next line) :
    IsLineBefore (next + 1) line := by
  constructor
  · exact before.1
  · exact Int.lt_trans before.2 (Int.lt_succ next)

theorem isLineBefore_self {line : Int} (positive : 1 ≤ line) : IsLineBefore (line + 1) line := by
  constructor
  · exact positive
  · exact Int.lt_succ line

/-- The block that is open. -/
def Place.block? : Place → Option Block
  | .outside | .intro _ => none
  | .steps _ block | .examples _ block _ | .docString _ block _ _ => some block

/-- The lines that a reader remembers are lines before the next one, and tags wait
only where there are any. -/
structure Reader.Numbered (reader : Reader) (next : Int) : Prop where
  positive : 1 ≤ next
  pending : ∀ pending ∈ reader.pending, IsLineBefore next pending.line ∧ pending.tags ≠ []
  block : ∀ block ∈ reader.place.block?, IsLineBefore next block.line
  doc : ∀ doc ∈ reader.place.openDoc, IsLineBefore next doc.line

theorem Reader.Numbered.succ {reader : Reader} {next : Int} (numbered : reader.Numbered next) :
    reader.Numbered (next + 1) where
  positive := Int.le_trans numbered.positive (Int.le_of_lt (Int.lt_succ next))
  pending := fun pending member =>
    ⟨(numbered.pending pending member).1.succ, (numbered.pending pending member).2⟩
  block := fun block member => (numbered.block block member).succ
  doc := fun doc member => (numbered.doc doc member).succ

theorem Place.block?_endTable (place : Place) :
    place.endTable.block?.map Block.line = place.block?.map Block.line := by
  cases place with
  | steps feature block =>
      rw [Place.endTable, Place.block?, Block.endTable_eq]
      rfl
  | _ => rfl

theorem Reader.Numbered.endTable {reader : Reader} {next : Int} (numbered : reader.Numbered next) :
    ({ reader with place := reader.place.endTable } : Reader).Numbered next where
  positive := numbered.positive
  pending := numbered.pending
  block := by
    intro block member
    have same := reader.place.block?_endTable
    rw [Option.mem_def.mp member] at same
    obtain ⟨earlier, found, lineEq⟩ := Option.map_eq_some_iff.mp same.symm
    rw [← lineEq]
    exact numbered.block earlier found
  doc := by
    rw [Place.openDoc_endTable]
    exact numbered.doc

/-- A reader whose place was just opened at a line, without waiting tags. -/
theorem numbered_start {place : Place} {line : Int} (positive : 1 ≤ line)
    (block : ∀ block ∈ place.block?, IsLineBefore (line + 1) block.line)
    (doc : place.openDoc = none) : (Reader.start place).Numbered (line + 1) where
  positive := Int.le_trans positive (Int.le_of_lt (Int.lt_succ line))
  pending := by simp [Reader.start]
  block := block
  doc := by simp [Reader.start, doc]

theorem tags_ne_nil_of_tagNames {words tags : List String} (read : tagNames words = .ok tags)
    (nonempty : words ≠ []) : tags ≠ [] := by
  rw [words_eq_of_tagNames read] at nonempty
  rintro rfl
  exact nonempty rfl

/-- A line that is taken is remembered with the lines before it. -/
theorem Reader.Numbered.of_taken {reader after : Reader} {line : Int} {kind : Line}
    (numbered : reader.Numbered line) (lineSound : kind.Sound)
    (taken : Taken line reader kind after) : after.Numbered (line + 1) := by
  have here := isLineBefore_self numbered.positive
  have before := numbered.succ
  cases taken with
  | blank => exact before
  | @tags place pending words tags read =>
      constructor
      · exact before.positive
      · rintro _ ⟨⟩
        constructor
        · cases pending with
          | none => exact here
          | some earlier => exact (before.pending earlier rfl).1
        · intro empty
          exact tags_ne_nil_of_tagNames read lineSound (List.append_eq_nil_iff.mp empty).2
      · exact before.endTable.block
      · exact before.endTable.doc
  | stepRow last read even =>
      exact { before with block := by simpa [Place.block?] using before.block }
  | examplesRow read even =>
      exact { before with block := by simpa [Place.block?] using before.block }
  | fence last =>
      exact
        { before with
          block := by simpa [Place.block?] using before.block
          doc := by simpa [Place.openDoc] using here }
  | feature named => exact numbered_start numbered.positive (by simp [Place.block?]) rfl
  | background => exact numbered_start numbered.positive (by simpa [Place.block?] using here) rfl
  | definition opens closes =>
      exact numbered_start numbered.positive (by simpa [Place.block?] using here) rfl
  | firstExamples outline =>
      exact numbered_start numbered.positive
        (by simpa [Place.block?, Block.settle] using before.block) rfl
  | nextExamples =>
      exact numbered_start numbered.positive (by simpa [Place.block?] using before.block) rfl
  | step =>
      exact numbered_start numbered.positive
        (by simpa [Place.block?, Block.addStep] using before.block) rfl
  | description => exact { before with block := by simp [Place.block?] }
  | blockText fresh => exact before
  | examplesText fresh => exact before

/-! ## Valid readers -/

/-- What holds of a reader before every line of every document. -/
structure Reader.Valid (reader : Reader) (next : Int) : Prop where
  sound : reader.Sound
  ordered : reader.place.Ordered
  numbered : reader.Numbered next

theorem valid_initial : ({} : Reader).Valid 1 where
  sound := ⟨trivial, by simp [Reader.pendingTags]⟩
  ordered := trivial
  numbered := ⟨Int.le_refl 1, by simp, by simp [Place.block?], by simp [Place.openDoc]⟩

theorem Reader.Valid.endTable {reader : Reader} {next : Int} (valid : reader.Valid next) :
    ({ reader with place := reader.place.endTable } : Reader).Valid next where
  sound := ⟨valid.sound.place.endTable, valid.sound.pending⟩
  ordered := valid.ordered.endTable
  numbered := valid.numbered.endTable

/-- A reader stays valid with every line that it reads. -/
theorem Reader.Valid.next {reader after : Reader} {line : Int} {raw : List Char}
    (valid : reader.Valid line) (noFeed : '\n' ∉ raw) (read : reader.next line raw = .ok after) :
    after.Valid (line + 1) := by
  have sound := valid.sound.next noFeed read
  have before := valid.numbered.succ
  rcases reader with ⟨place, pending⟩
  cases place with
  | docString feature block step doc =>
      obtain rfl := Except.ok.inj read
      rw [Reader.readDocLine] at sound ⊢
      split at sound
      · rename_i closes
        rw [if_pos closes]
        exact ⟨sound, valid.ordered,
          { before with
            block := by simpa [Place.block?] using before.block
            doc := by simp [Place.openDoc] }⟩
      · rename_i stays
        rw [if_neg stays]
        exact ⟨sound, valid.ordered,
          { before with doc := by simpa [Place.openDoc] using before.doc }⟩
  | _ =>
      have taken := Reader.taken_of_readLine read
      exact ⟨sound, (held_of_taken valid.sound valid.ordered taken).1,
        valid.numbered.of_taken (Line.sound_classify noFeed) taken⟩

/-! ## Errors -/

theorem line_of_checkRow_error {line : Int} {cells : List String} {rows : List (List String)}
    {error : Error} (failed : Reader.checkRow line cells rows = .error error) :
    error.line = line := by
  cases rows with
  | nil => simp [Reader.checkRow] at failed
  | cons first rows =>
      rw [Reader.checkRow] at failed
      split at failed
      · simp at failed
      · rw [← Except.error.inj failed]

/-- What cannot be closed is reported where it was opened. -/
theorem line_of_close_error {place : Place} {error : Error} (failed : place.close = .error error) :
    (∃ block ∈ place.block?, error.line = block.line) ∨
      ∃ doc ∈ place.openDoc, error.line = doc.line := by
  have ofBlock : ∀ (feature : OpenFeature) (block : Block),
      feature.addBlock block = .error error → error.line = block.line := by
    intro feature block refused
    rw [OpenFeature.addBlock] at refused
    split at refused
    · simp at refused
    · simp at refused
    · split at refused
      · rw [← Except.error.inj refused]
      · simp at refused
  cases place with
  | outside => simp [Place.close] at failed
  | intro feature => simp [Place.close] at failed
  | steps feature block =>
      exact .inl ⟨block, rfl, ofBlock feature block (map_eq_error_iff.mp failed)⟩
  | examples feature block table =>
      have refused : feature.addBlock { block with examples := block.examples ++ [table.close] } =
          .error error :=
        map_eq_error_iff.mp failed
      have opened := ofBlock feature _ refused
      exact .inl ⟨block, rfl, opened⟩
  | docString feature block step doc =>
      rw [← Except.error.inj failed]
      exact .inr ⟨doc, rfl, rfl⟩

namespace Reader

variable {reader : Reader} {line : Int} {error : Error}

theorem line_of_readRow_error {rest : List Char}
    (failed : reader.readRow line rest = .error error) : error.line = line := by
  rw [readRow] at failed
  split at failed
  · rw [← Except.error.inj failed]
  · split at failed
    · exact line_of_checkRow_error (map_eq_error_iff.mp failed)
    · split at failed
      · rw [← Except.error.inj failed]
      · exact line_of_checkRow_error (map_eq_error_iff.mp failed)
    · rw [← Except.error.inj failed]

theorem line_of_readTags_error {words : List String}
    (failed : reader.readTags line words = .error error) : error.line = line := by
  rw [readTags] at failed
  split at failed
  · rw [← Except.error.inj failed]
  · simp at failed

theorem line_of_readFence_error {fence : Fence} {indent : List Char} {contentType : Option String}
    (failed : reader.readFence line fence indent contentType = .error error) :
    error.line = line := by
  rw [readFence] at failed
  split at failed
  · split at failed
    · rw [← Except.error.inj failed]
    · simp at failed
  · rw [← Except.error.inj failed]

theorem line_of_readFeature_error {name : String}
    (failed : reader.readFeature line name = .error error) : error.line = line := by
  rw [readFeature] at failed
  split at failed
  · split at failed
    · rw [← Except.error.inj failed]
    · simp at failed
  all_goals rw [← Except.error.inj failed]

theorem line_of_readBackground_error {word : String}
    (failed : reader.readBackground line word = .error error) :
    error.line = line ∨ ∃ pending ∈ reader.pending, error.line = pending.line := by
  rw [readBackground] at failed
  split at failed
  · rw [← Except.error.inj failed]
    exact .inl rfl
  · rename_i pending found _
    rw [← Except.error.inj failed]
    exact .inr ⟨pending, found, rfl⟩
  · simp at failed
  all_goals
    rw [← Except.error.inj failed]
    exact .inl rfl

theorem line_of_readScenario_error {kind : BlockKind} {word name : String}
    (outside : reader.place.openDoc = none)
    (failed : reader.readScenario line kind word name = .error error) :
    error.line = line ∨ ∃ block ∈ reader.place.block?, error.line = block.line := by
  rw [readScenario] at failed
  split at failed
  · rename_i closeFailed
    rw [← Except.error.inj failed]
    rcases line_of_close_error closeFailed with found | ⟨doc, inside, -⟩
    · exact .inr found
    · rw [outside] at inside
      contradiction
  · rw [← Except.error.inj failed]
    exact .inl rfl
  · simp at failed

theorem line_of_readExamples_error (failed : reader.readExamples line = .error error) :
    error.line = line := by
  rw [readExamples] at failed
  split at failed
  · split at failed
    · simp at failed
    · rw [← Except.error.inj failed]
  · simp at failed
  · rw [← Except.error.inj failed]

theorem line_of_readStep_error {keyword : Keyword} {text whole : String}
    (failed : reader.readStep line keyword text whole = .error error) :
    error.line = line ∨ ∃ pending ∈ reader.pending, error.line = pending.line := by
  rw [readStep] at failed
  split at failed
  · rename_i pending found
    rw [← Except.error.inj failed]
    exact .inr ⟨pending, found, rfl⟩
  · split at failed
    · simp at failed
    all_goals
      rw [← Except.error.inj failed]
      exact .inl rfl

theorem line_of_readText_error {whole : String}
    (failed : reader.readText line whole = .error error) : error.line = line := by
  rw [readText] at failed
  split at failed
  · rw [← Except.error.inj failed]
  · simp at failed
  · split at failed
    · simp at failed
    · rw [← Except.error.inj failed]
  · split at failed
    · simp at failed
    · rw [← Except.error.inj failed]
  · rw [← Except.error.inj failed]

/-- An error is reported at the line being read or at a remembered one. -/
theorem Numbered.line_of_readLine_error (numbered : reader.Numbered line)
    (outside : reader.place.openDoc = none) {kind : Line}
    (failed : reader.readLine line kind = .error error) : IsLineBefore (line + 1) error.line := by
  have atLine : error.line = line → IsLineBefore (line + 1) error.line := by
    rintro same
    rw [same]
    exact isLineBefore_self numbered.positive
  have atPending : (∃ pending ∈ reader.pending, error.line = pending.line) →
      IsLineBefore (line + 1) error.line := by
    rintro ⟨pending, member, same⟩
    rw [same]
    exact (numbered.pending pending member).1.succ
  have atBlock : (∃ block ∈ reader.place.endTable.block?, error.line = block.line) →
      IsLineBefore (line + 1) error.line := by
    rintro ⟨block, member, same⟩
    rw [same]
    exact (numbered.endTable.block block member).succ
  cases kind with
  | blank => simp [readLine] at failed
  | row rest => exact atLine (line_of_readRow_error failed)
  | tags words => exact atLine (line_of_readTags_error failed)
  | fence fence indent contentType => exact atLine (line_of_readFence_error failed)
  | header header word title =>
      cases header with
      | feature => exact atLine (line_of_readFeature_error failed)
      | background => exact (line_of_readBackground_error failed).elim atLine atPending
      | examples => exact atLine (line_of_readExamples_error failed)
      | outline | scenario =>
          apply (line_of_readScenario_error ?_ failed).elim atLine atBlock
          rw [← outside]
          exact reader.place.openDoc_endTable
  | step keyword text whole => exact (line_of_readStep_error failed).elim atLine atPending
  | text whole => exact atLine (line_of_readText_error failed)

theorem Numbered.line_of_next_error (numbered : reader.Numbered line) {raw : List Char}
    (failed : reader.next line raw = .error error) : IsLineBefore (line + 1) error.line := by
  rcases reader with ⟨place, pending⟩
  cases place with
  | docString feature block step doc => simp [Reader.next] at failed
  | _ => exact numbered.line_of_readLine_error rfl failed

/-- An error of lines is reported at one of them or of those before. -/
theorem Valid.line_of_readLines_error {lines : List (List Char)} (valid : reader.Valid line)
    (noFeed : ∀ raw ∈ lines, '\n' ∉ raw) (failed : reader.readLines line lines = .error error) :
    IsLineBefore (line + lines.length) error.line := by
  induction lines generalizing reader line with
  | nil => simp at failed
  | cons raw rest ih =>
      rw [readLines] at failed
      split at failed
      · rename_i first
        rw [← Except.error.inj failed]
        have bounds := valid.numbered.line_of_next_error first
        constructor
        · exact bounds.1
        · have last := bounds.2
          rw [List.length_cons]
          omega
      · rename_i middle first
        have bounds := ih (valid.next (noFeed raw List.mem_cons_self) first)
          (fun other member => noFeed other (List.mem_cons_of_mem raw member)) failed
        constructor
        · exact bounds.1
        · have last := bounds.2
          rw [List.length_cons]
          omega

/-- Every line that is read keeps a reader valid. -/
theorem Valid.readLines {after : Reader} {lines : List (List Char)} (valid : reader.Valid line)
    (noFeed : ∀ raw ∈ lines, '\n' ∉ raw) (read : reader.readLines line lines = .ok after) :
    after.Valid (line + lines.length) :=
  readLines_induction (motive := fun line reader => reader.Valid line)
    (fun _ _ raw _ member valid next => valid.next (noFeed raw member) next) valid read

/-- An error at the end of a document is reported at one of its lines, and at the first
line where it has none. -/
theorem Numbered.line_of_finish_error {count : Nat} (numbered : reader.Numbered (1 + count))
    (failed : reader.finish count = .error error) :
    1 ≤ error.line ∧ error.line ≤ max 1 (count : Int) := by
  have remembered : ∀ known, IsLineBefore (1 + count) known → error.line = known →
      1 ≤ error.line ∧ error.line ≤ max 1 (count : Int) := by
    rintro known ⟨positive, last⟩ same
    omega
  rcases reader with ⟨place, pending⟩
  cases place with
  | docString feature block step doc =>
      apply remembered doc.line (numbered.doc doc rfl)
      rw [← Except.error.inj failed]
  | _ =>
      cases pending with
      | some tags =>
          apply remembered tags.line (numbered.pending tags rfl).1
          rw [← Except.error.inj failed]
      | none =>
          simp only [finish] at failed
          split at failed
          · rename_i closeFailed
            rw [← Except.error.inj failed] at remembered ⊢
            rcases line_of_close_error closeFailed with ⟨block, member, same⟩ | ⟨doc, member, -⟩
            · exact remembered block.line (numbered.block block member) same
            · simp [Place.openDoc] at member
          · rw [← Except.error.inj failed]
            simp only
            omega
          · simp at failed

end Reader

/-- An error is reported at a line of the text, or at the first line of a text without
lines. -/
theorem line_of_read_error {text : String} {source : Option String} {error : Error}
    (failed : read text source = .error error) :
    error.source = source ∧ 1 ≤ error.line ∧
      error.line ≤ max 1 ((Text.lines (Text.dropMark text.toList)).length : Int) := by
  have noFeed : ∀ raw ∈ Text.lines (Text.dropMark text.toList), '\n' ∉ raw :=
    fun _ => Text.not_mem_of_mem_lines
  rw [read] at failed
  split at failed
  · rename_i inner document
    rw [← Except.error.inj failed]
    constructor
    · rfl
    · rw [readDocument] at document
      split at document
      · rename_i linesFailed
        have bounds := valid_initial.line_of_readLines_error noFeed linesFailed
        obtain rfl := Except.error.inj document
        have last := bounds.2
        constructor
        · exact bounds.1
        · simp only
          omega
      · rename_i reader linesRead
        have valid := valid_initial.readLines noFeed linesRead
        have bounds := valid.numbered.line_of_finish_error document
        exact bounds
  · simp at failed

end Gherkin.Document
