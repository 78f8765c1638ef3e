import Gherkin.Document.Line
import Gherkin.Proofs.Text.Blank
import Gherkin.Proofs.Text.Lines
import Gherkin.Proofs.Text.Search

/-!
# Kinds of lines, by how a line begins

The kind of a line depends on the trimmed line and, for a fence, on the white
space in front of it.  Each kind is told by the beginning of the trimmed line,
and free text is what begins in none of these ways.
-/

namespace Gherkin.Document.Line

open Gherkin.Text

/-! ## What the kind depends on -/

theorem classify_of_trim_eq_cons {raw line : List Char} {c : Char}
    (trimmed : trim raw = c :: line)
    (comment : c ≠ '#') (bar : c ≠ '|') (sign : c ≠ '@') :
    classify raw = classifyWords (indentOf raw) (c :: line) := by
  simp only [classify, trimmed]
  split <;> simp_all

theorem classify_of_trim_eq_bar {raw rest : List Char} (trimmed : trim raw = '|' :: rest) :
    classify raw = .row rest := by
  simp only [classify, trimmed]

theorem classify_of_trim_eq_sign {raw rest : List Char} (trimmed : trim raw = '@' :: rest) :
    classify raw = .tags (tagWords ('@' :: rest)) := by
  simp only [classify, trimmed]

/-- The white space in front of a line ends at the first solid character. -/
theorem indentOf_append {front line : List Char} {c : Char} (blank : ∀ d ∈ front, isBlank d)
    (solid : ¬isBlank c) : indentOf (front ++ c :: line) = front := by
  rw [indentOf, List.takeWhile_append_of_pos blank, List.takeWhile_cons_of_neg solid,
    List.append_nil]

/-- White space at the end of a line does not change its kind. -/
theorem classify_concat_of_blank {c : Char} (blank : isBlank c) (line : List Char) :
    classify (line ++ [c]) = classify line := by
  simp only [classify, trim_concat_of_blank blank]
  split <;> try rfl
  rename_i hasSolid _ _ _
  have stops : (line.takeWhile isBlank).length ≠ line.length := by
    intro all
    have whole : line.takeWhile isBlank = line :=
      (List.takeWhile_prefix isBlank).eq_of_length all
    exact hasSolid (trim_eq_nil_iff.mpr (List.takeWhile_eq_self_iff.mp whole))
  rw [indentOf, indentOf, List.takeWhile_append, if_neg stops]

/-- A carriage return that a line loses to its break does not change its kind. -/
@[simp]
theorem classify_dropReturn (line : List Char) : classify (dropReturn line) = classify line := by
  rcases eq_dropReturn_or line with same | lost
  · rw [← same]
  · conv_rhs => rw [lost]
    exact (classify_concat_of_blank (by decide) _).symm

/-! ## Headers and steps -/

/-- A header is told by its word. -/
theorem header?_append {kind : Header} {word : String} (known : (word, kind) ∈ Header.keywords)
    (rest : List Char) :
    header? (word.toList ++ rest) = some (kind, word, String.ofList (trim rest)) := by
  simp only [Header.keywords, List.mem_cons, Prod.mk.injEq, List.not_mem_nil, or_false] at known
  rcases known with ⟨rfl, rfl⟩ | ⟨rfl, rfl⟩ | ⟨rfl, rfl⟩ | ⟨rfl, rfl⟩ | ⟨rfl, rfl⟩ | ⟨rfl, rfl⟩ |
    ⟨rfl, rfl⟩ | ⟨rfl, rfl⟩ <;> rfl

theorem classifyWords_header {kind : Header} {word : String}
    (known : (word, kind) ∈ Header.keywords) (indent rest : List Char) :
    classifyWords indent (word.toList ++ rest) =
      .header kind word (String.ofList (trim rest)) := by
  have noFence : fence? (word.toList ++ rest) = none := by
    simp only [Header.keywords, List.mem_cons, Prod.mk.injEq, List.not_mem_nil, or_false] at known
    rcases known with ⟨rfl, -⟩ | ⟨rfl, -⟩ | ⟨rfl, -⟩ | ⟨rfl, -⟩ | ⟨rfl, -⟩ | ⟨rfl, -⟩ |
      ⟨rfl, -⟩ | ⟨rfl, -⟩ <;> rfl
  rw [classifyWords, noFence, header?_append known]

/-- A step is told by its keyword and the space behind it. -/
theorem classifyWords_step (keyword : Keyword) (indent rest : List Char) :
    classifyWords indent (keyword.word.toList ++ ' ' :: rest) =
      .step keyword (String.ofList (trim rest))
        (String.ofList (keyword.word.toList ++ ' ' :: rest)) := by
  cases keyword <;> rfl

theorem classifyWords_fence (fence : Fence) (indent rest : List Char) :
    classifyWords indent (fence.text ++ rest) =
      .fence fence indent
        (if (trim rest).isEmpty then none else some (String.ofList (trim rest))) := by
  cases fence <;> rfl

/-! ## Free text -/

/-- The beginnings that give a line another meaning than free text. -/
def openings : List (List Char) :=
  [['#'], ['|'], ['@']] ++ [Fence.quotes.text, Fence.backticks.text] ++
    Header.keywords.map (fun entry => entry.1.toList) ++
    Keyword.all.map (fun keyword => keyword.word.toList ++ [' '])

theorem fence?_eq_none_iff {line : List Char} :
    fence? line = none ↔ ¬Fence.quotes.text <+: line ∧ ¬Fence.backticks.text <+: line := by
  simp [fence?, List.findSome?_eq_none_iff, dropPrefix?_eq_none_iff]

theorem header?_eq_none_iff {line : List Char} :
    header? line = none ↔ ∀ entry ∈ Header.keywords, ¬entry.1.toList <+: line := by
  simp [header?, List.findSome?_eq_none_iff, dropPrefix?_eq_none_iff]

theorem step?_eq_none_iff {line : List Char} :
    step? line = none ↔
      ∀ keyword ∈ Keyword.all, ¬keyword.word.toList ++ [' '] <+: line := by
  simp [step?, List.findSome?_eq_none_iff, dropPrefix?_eq_none_iff]

/-- A line of free text is a text that begins in none of the telling ways. -/
theorem classifyWords_text {line : List Char} (plain : ∀ opening ∈ openings, ¬opening <+: line)
    (indent : List Char) : classifyWords indent line = .text (String.ofList line) := by
  simp only [openings, List.mem_append, List.mem_cons, List.mem_map, List.not_mem_nil,
    or_false] at plain
  have noFence : fence? line = none :=
    fence?_eq_none_iff.mpr ⟨plain _ (by simp), plain _ (by simp)⟩
  have noHeader : header? line = none :=
    header?_eq_none_iff.mpr fun entry member =>
      plain _ (Or.inl (Or.inr ⟨entry, member, rfl⟩))
  have noStep : step? line = none :=
    step?_eq_none_iff.mpr fun keyword member =>
      plain _ (Or.inr ⟨keyword, member, rfl⟩)
  rw [classifyWords, noFence, noHeader, noStep]

/-! ## What a line of each kind looks like -/

/-- What is known of a line that was found to be of some kind. -/
def Describes (raw : List Char) : Line → Prop
  | .blank => trim raw = [] ∨ ∃ rest, trim raw = '#' :: rest
  | .row rest => trim raw = '|' :: rest
  | .tags words => ∃ rest, trim raw = '@' :: rest ∧ words = tagWords ('@' :: rest)
  | .fence mark indent contentType =>
      indent = indentOf raw ∧
        ∃ rest, trim raw = mark.text ++ rest ∧
          contentType =
            if (trim rest).isEmpty then none else some (String.ofList (trim rest))
  | .header kind word title =>
      (word, kind) ∈ Header.keywords ∧
        ∃ rest, trim raw = word.toList ++ rest ∧ title = String.ofList (trim rest)
  | .step keyword words whole =>
      whole = String.ofList (trim raw) ∧
        ∃ rest, trim raw = keyword.word.toList ++ ' ' :: rest ∧
          words = String.ofList (trim rest)
  | .text whole =>
      whole = String.ofList (trim raw) ∧ trim raw ≠ [] ∧
        ∀ opening ∈ openings, ¬opening <+: trim raw

theorem fence?_eq_some {line : List Char} {fence : Fence} {contentType : Option String}
    (found : fence? line = some (fence, contentType)) :
    ∃ rest, line = fence.text ++ rest ∧
      contentType = if (trim rest).isEmpty then none else some (String.ofList (trim rest)) := by
  obtain ⟨mark, -, opened⟩ := List.exists_of_findSome?_eq_some found
  obtain ⟨rest, dropped, equal⟩ := Option.map_eq_some_iff.mp opened
  obtain ⟨rfl, rfl⟩ := Prod.mk.inj equal
  exact ⟨rest, dropPrefix?_eq_some_iff.mp dropped, rfl⟩

theorem header?_eq_some {line : List Char} {kind : Header} {word title : String}
    (found : header? line = some (kind, word, title)) :
    (word, kind) ∈ Header.keywords ∧
      ∃ rest, line = word.toList ++ rest ∧ title = String.ofList (trim rest) := by
  obtain ⟨entry, member, opened⟩ := List.exists_of_findSome?_eq_some found
  obtain ⟨rest, dropped, equal⟩ := Option.map_eq_some_iff.mp opened
  simp only [Prod.mk.injEq] at equal
  obtain ⟨rfl, rfl, rfl⟩ := equal
  exact ⟨member, rest, dropPrefix?_eq_some_iff.mp dropped, rfl⟩

theorem step?_eq_some {line : List Char} {keyword : Keyword} {text : String}
    (found : step? line = some (keyword, text)) :
    ∃ rest, line = keyword.word.toList ++ ' ' :: rest ∧ text = String.ofList (trim rest) := by
  obtain ⟨tried, -, opened⟩ := List.exists_of_findSome?_eq_some found
  obtain ⟨rest, dropped, equal⟩ := Option.map_eq_some_iff.mp opened
  obtain ⟨rfl, rfl⟩ := Prod.mk.inj equal
  have split := dropPrefix?_eq_some_iff.mp dropped
  exact ⟨rest, by simpa using split, rfl⟩

/-- The kind that a line is found to be of describes it. -/
theorem describes_classify (raw : List Char) : Describes raw (classify raw) := by
  rw [classify]
  split
  case h_1 empty => exact Or.inl empty
  case h_2 rest comment => exact Or.inr ⟨rest, comment⟩
  case h_3 rest row => exact row
  case h_4 rest tags => exact ⟨rest, tags, rfl⟩
  case h_5 line nonempty comment bar sign =>
    rw [classifyWords]
    split
    case h_1 found => exact ⟨rfl, fence?_eq_some found⟩
    case h_2 noFence =>
      split
      case h_1 found => exact header?_eq_some found
      case h_2 noHeader =>
        split
        case h_1 found => exact ⟨rfl, step?_eq_some found⟩
        case h_2 noStep =>
          refine ⟨rfl, nonempty, ?_⟩
          intro opening member
          simp only [openings, List.mem_append, List.mem_cons, List.mem_map, List.not_mem_nil,
            or_false] at member
          have fences := fence?_eq_none_iff.mp noFence
          rcases member with (((rfl | rfl | rfl) | rfl | rfl) | ⟨entry, known, rfl⟩) |
            ⟨keyword, known, rfl⟩
          · rintro ⟨rest, equal⟩
            exact comment rest equal.symm
          · rintro ⟨rest, equal⟩
            exact bar rest equal.symm
          · rintro ⟨rest, equal⟩
            exact sign rest equal.symm
          · exact fences.1
          · exact fences.2
          · exact header?_eq_none_iff.mp noHeader entry known
          · exact step?_eq_none_iff.mp noStep keyword known

end Gherkin.Document.Line
