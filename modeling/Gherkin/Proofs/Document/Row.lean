import Gherkin.Document.Row
import Gherkin.Proofs.Text.Blank

/-!
# Rows that are read back

A row is cut at the bars that were written between its cells, since every bar
inside a cell is escaped; the padding is trimmed away.  White space at the ends of a
cell is trimmed with it, and so is a line feed there, although it is escaped.
-/

namespace Gherkin.Document.Row

open Gherkin.Text

/-- An escaped character is read as that character. -/
theorem marks_escapeChar_append (c : Char) (rest : List Char) :
    marks (escapeChar c ++ rest) = .content c :: marks rest := by
  by_cases bar : c = '|'
  · subst c
    rfl
  by_cases feed : c = '\n'
  · subst c
    rfl
  by_cases backslash : c = '\\'
  · subst c
    rfl
  · have written : escapeChar c = [c] := by
      simp [escapeChar, bar, feed, backslash]
    rw [written, List.singleton_append, marks]
    all_goals simp_all

/-- An escaped text is read as that text. -/
theorem marks_escape_append (cell rest : List Char) :
    marks (cell.flatMap escapeChar ++ rest) = cell.map Mark.content ++ marks rest := by
  induction cell with
  | nil => rfl
  | cons c cell ih =>
      rw [List.flatMap_cons, List.append_assoc, marks_escapeChar_append, ih, List.map_cons,
        List.cons_append]

/-- A text in front of a border is a cell. -/
theorem cut_content_append (cell : List Char) (ms : List Mark) :
    cut (cell.map Mark.content ++ .border :: ms) = (cell :: (cut ms).1, (cut ms).2) := by
  induction cell with
  | nil => rfl
  | cons c cell ih => rw [List.map_cons, List.cons_append, cut, ih]

/-- Texts that are escaped, and each closed by a bar. -/
def closed (contents : List (List Char)) : List Char :=
  contents.flatMap fun content => content.flatMap escapeChar ++ ['|']

theorem cut_marks_closed (contents : List (List Char)) :
    cut (marks (closed contents)) = (contents, []) := by
  induction contents with
  | nil => rfl
  | cons content contents ih =>
      have marked : marks (closed (content :: contents)) =
          content.map Mark.content ++ .border :: marks (closed contents) := by
        rw [closed, List.flatMap_cons, List.append_assoc, marks_escape_append]
        rfl
      rw [marked, cut_content_append, ih]

/-- A closed text is read as the trimmed texts that were closed, if there are any. -/
theorem read?_closed (contents : List (List Char)) :
    read? (closed contents) =
      if contents = [] then none
      else some (contents.map fun content => String.ofList (trim content)) := by
  cases contents with
  | nil => rfl
  | cons content contents => simp [read?, cut_marks_closed]

/-! ## Rows as they are written -/

/-- Cells, each padded and closed by a bar. -/
def body (cells : List String) : List Char :=
  cells.flatMap fun cell => ' ' :: cell.toList.flatMap escapeChar ++ [' ', '|']

theorem write_eq (cells : List String) : write cells = '|' :: body cells :=
  rfl

/-- A cell with spaces before and behind it. -/
structure Padded where
  before : Nat := 1
  cell : String
  after : Nat := 1

/-- A cell between its spaces. -/
def Padded.content (padded : Padded) : List Char :=
  List.replicate padded.before ' ' ++
    (padded.cell.toList ++ List.replicate padded.after ' ')

/-- A row of cells with any padding. -/
def paddedRow (cells : List Padded) : List Char :=
  '|' :: cells.flatMap fun padded =>
    List.replicate padded.before ' ' ++
      (padded.cell.toList.flatMap escapeChar ++ (List.replicate padded.after ' ' ++ ['|']))

/-- A row is written with one space on both sides of each cell. -/
theorem write_eq_paddedRow (cells : List String) :
    write cells = paddedRow (cells.map fun cell => { cell }) := by
  simp [write, paddedRow, List.flatMap_map]

theorem escape_spaces (n : Nat) :
    (List.replicate n ' ').flatMap escapeChar = List.replicate n ' ' := by
  induction n with
  | zero => rfl
  | succ n ih =>
      rw [List.replicate_succ, List.flatMap_cons, ih]
      rfl

theorem paddedRow_eq (cells : List Padded) :
    paddedRow cells = '|' :: closed (cells.map Padded.content) := by
  simp [paddedRow, closed, List.flatMap_map, Padded.content, escape_spaces]

theorem Padded.trim_content (padded : Padded) : trim padded.content = trim padded.cell.toList := by
  rw [content, trim_append_of_blank (blank_spaces padded.before),
    trim_append_back_of_blank (blank_spaces padded.after)]

/-- A row is read as its cells, trimmed, however they are padded. -/
theorem read?_paddedRow (cells : List Padded) :
    read? (paddedRow cells).tail =
      if cells = [] then none
      else some (cells.map fun padded => String.ofList (trim padded.cell.toList)) := by
  rw [paddedRow_eq, List.tail_cons, read?_closed]
  simp only [List.map_eq_nil_iff, List.map_map]
  congr 2
  apply List.map_congr_left
  intro padded _
  exact congrArg String.ofList padded.trim_content

/-- A row is read back exactly when it has cells and all of them are trimmed. -/
theorem read?_paddedRow_eq_some_iff (cells : List Padded) :
    read? (paddedRow cells).tail = some (cells.map Padded.cell) ↔
      cells ≠ [] ∧ ∀ padded ∈ cells, Trimmed padded.cell.toList := by
  rw [read?_paddedRow]
  by_cases empty : cells = []
  · simp [empty]
  · rw [if_neg empty, Option.some.injEq, List.map_inj_left, and_iff_right empty]
    apply forall₂_congr
    intro padded _
    rw [← String.toList_inj, String.toList_ofList]
    rfl

/-- A written row of trimmed cells is read back. -/
theorem read?_body {cells : List String} (nonempty : cells ≠ [])
    (trimmed : ∀ cell ∈ cells, Trimmed cell.toList) : read? (body cells) = some cells := by
  have back := (read?_paddedRow_eq_some_iff (cells.map fun cell => { cell })).mpr
    ⟨by simpa using nonempty, by simpa using trimmed⟩
  rw [← write_eq_paddedRow, write_eq, List.tail_cons] at back
  simpa [Function.comp_def] using back

/-- What is read as a row has cells, and they are trimmed. -/
theorem of_read?_eq_some {cs : List Char} {cells : List String} (found : read? cs = some cells) :
    cells ≠ [] ∧ ∀ cell ∈ cells, Trimmed cell.toList := by
  rw [read?] at found
  split at found
  · simp at found
  · rename_i first later rest _
    split at found
    · obtain rfl := Option.some.inj found
      constructor
      · simp
      · intro cell member
        obtain ⟨written, -, rfl⟩ := List.mem_map.mp member
        rw [String.toList_ofList]
        exact trimmed_trim written
    · simp at found

/-! ## Line feeds at the ends of cells -/

/-- A text with no other white space at its ends than line feeds. -/
structure FeedEnds (cell : List Char) : Prop where
  first : ∀ c, cell.head? = some c → isBlank c → c = '\n'
  last : ∀ c, cell.getLast? = some c → isBlank c → c = '\n'

theorem FeedEnds.trimmed_iff {cell : List Char} (ends : FeedEnds cell) :
    Trimmed cell ↔ cell.head? ≠ some '\n' ∧ cell.getLast? ≠ some '\n' := by
  have feed : isBlank '\n' := by decide
  rw [Text.trimmed_iff]
  constructor
  · rintro ⟨first, last⟩
    exact ⟨fun head => first '\n' head feed, fun final => last '\n' final feed⟩
  · rintro ⟨noFirst, noLast⟩
    constructor
    · intro c head blank
      exact noFirst (ends.first c head blank ▸ head)
    · intro c final blank
      exact noLast (ends.last c final blank ▸ final)

/-- A row of cells with any padding is read as the cells without white space at their ends; so it is
read back exactly when all cells are trimmed.  Where the ends of the cells are solid or line feeds,
these are the rows in which no cell begins or ends with a line feed. -/
theorem read?_row_of_cells (cells : List Padded) :
    read? (paddedRow cells).tail =
        (if cells = [] then none
        else some (cells.map fun padded => String.ofList (trim padded.cell.toList))) ∧
      (read? (paddedRow cells).tail = some (cells.map Padded.cell) ↔
        cells ≠ [] ∧ ∀ padded ∈ cells, Trimmed padded.cell.toList) ∧
      ((∀ padded ∈ cells, FeedEnds padded.cell.toList) →
        (read? (paddedRow cells).tail = some (cells.map Padded.cell) ↔
          cells ≠ [] ∧ ∀ padded ∈ cells, padded.cell.toList.head? ≠ some '\n' ∧
            padded.cell.toList.getLast? ≠ some '\n')) := by
  refine ⟨read?_paddedRow cells, read?_paddedRow_eq_some_iff cells, ?_⟩
  intro ends
  rw [read?_paddedRow_eq_some_iff]
  apply and_congr_right
  intro _
  apply forall₂_congr
  intro padded member
  exact (ends padded member).trimmed_iff

/-- An escaped line feed at the front of a cell is lost. -/
theorem read?_loses_feed :
    FeedEnds "\nb".toList ∧ paddedRow [{ cell := "\nb" }] = "| \\nb |".toList ∧
      read? (paddedRow [{ cell := "\nb" }]).tail = some ["b"] := by
  have ends : FeedEnds "\nb".toList := by
    constructor
    · rintro c ⟨⟩ -
      rfl
    · rintro c ⟨⟩ blank
      exact absurd blank (by decide)
  exact ⟨ends, by decide, by decide⟩

end Gherkin.Document.Row
