import Gherkin.Document.Reader
import Gherkin.Document.Writer
import Gherkin.Proofs.Document.Fence
import Gherkin.Proofs.Document.Line
import Gherkin.Proofs.Document.Row

/-!
# The kinds of written lines

Each line of a written feature is of the kind it was written as, whatever stands
on it, as long as the texts on it are ones that a line can carry.
-/

namespace Gherkin.Document

open Gherkin.Text

/-! ## Texts that a line can carry -/

/-- A text that can end a line: nothing of it is trimmed away or cut off. -/
structure IsTitle (text : String) : Prop where
  trimmed : Trimmed text.toList
  oneLine : '\n' ∉ text.toList

/-- A tag: a word over letters, digits, underscore and hyphen. -/
structure IsTag (name : String) : Prop where
  nonempty : name.toList ≠ []
  chars : ∀ c ∈ name.toList, c.isAlphanum ∨ c = '_' ∨ c = '-'

/-- A text that is read as free text. -/
structure IsFreeText (text : String) : Prop extends IsTitle text where
  nonempty : text.toList ≠ []
  plain : ∀ opening ∈ Line.openings, ¬opening <+: text.toList

instance (text : String) : Decidable (IsTitle text) :=
  decidable_of_iff (Trimmed text.toList ∧ '\n' ∉ text.toList)
    ⟨fun h => ⟨h.1, h.2⟩, fun h => ⟨h.1, h.2⟩⟩

instance (text : String) : Decidable (IsFreeText text) :=
  decidable_of_iff
    (IsTitle text ∧ text.toList ≠ [] ∧ ∀ opening ∈ Line.openings, ¬opening <+: text.toList)
    ⟨fun h => ⟨h.1, h.2.1, h.2.2⟩, fun h => ⟨h.1, h.2, h.3⟩⟩

theorem isTag_iff_all {cs : List Char} :
    (!cs.isEmpty && cs.all fun c => c.isAlphanum || c == '_' || c == '-') = true ↔
      IsTag (String.ofList cs) := by
  constructor
  · intro valid
    simp only [Bool.and_eq_true, Bool.not_eq_true', List.isEmpty_eq_false_iff, List.all_eq_true,
      Bool.or_eq_true, beq_iff_eq, or_assoc] at valid
    exact ⟨by simpa using valid.1, by simpa using valid.2⟩
  · rintro ⟨nonempty, chars⟩
    simp only [String.toList_ofList] at nonempty chars
    simp only [Bool.and_eq_true, Bool.not_eq_true', List.isEmpty_eq_false_iff, List.all_eq_true,
      Bool.or_eq_true, beq_iff_eq, or_assoc]
    exact ⟨nonempty, chars⟩

-- A quantifier over characters would be decided by trying every character there is.
instance (name : String) : Decidable (IsTag name) :=
  decidable_of_iff
    ((!name.toList.isEmpty && name.toList.all fun c => c.isAlphanum || c == '_' || c == '-') =
      true)
    (by rw [isTag_iff_all, String.ofList_toList])

/-- A word is read as a tag when it is the sign and the tag. -/
theorem tagName?_eq_some_iff {word name : String} :
    tagName? word = some name ↔ word.toList = '@' :: name.toList ∧ IsTag name := by
  rw [tagName?]
  split
  · rename_i rest spelled
    simp only [spelled, List.cons.injEq, true_and]
    split
    · rename_i valid
      rw [Option.some.injEq]
      constructor
      · rintro rfl
        exact ⟨String.toList_ofList.symm, isTag_iff_all.mp valid⟩
      · rintro ⟨rfl, -⟩
        exact String.ofList_toList
    · rename_i invalid
      simp only [reduceCtorEq, false_iff, not_and]
      rintro rfl tag
      exact invalid (isTag_iff_all.mpr (by rwa [String.ofList_toList]))
  · rename_i other
    simp only [reduceCtorEq, false_iff, not_and]
    exact fun spelled => absurd spelled (other _)

theorem IsTag.not_isBlank {name : String} (tag : IsTag name) :
    ∀ c ∈ name.toList, ¬isBlank c := by
  intro c member
  rcases tag.chars c member with isWordChar | rfl | rfl
  · exact not_isBlank_of_isAlphanum isWordChar
  · decide
  · decide

theorem IsTag.hash_not_mem {name : String} (tag : IsTag name) : '#' ∉ name.toList := by
  intro member
  have := tag.chars '#' member
  revert this
  decide

/-! ## What the written lines are read as -/

theorem trim_indented (level : Nat) (text : List Char) :
    trim (indented level text) = trim text :=
  trim_append_of_blank (blank_spaces (2 * level)) text

/-- The words that tags are written as. -/
def tagWordsOf (tags : List String) : List (List Char) :=
  tags.map fun tag => '@' :: tag.toList

theorem tagWordsOf_isWord {tags : List String} (valid : ∀ tag ∈ tags, IsTag tag) :
    ∀ word ∈ tagWordsOf tags, word ≠ [] ∧ ∀ c ∈ word, ¬isBlank c := by
  intro word member
  obtain ⟨tag, tagMember, rfl⟩ := List.mem_map.mp member
  constructor
  · exact List.cons_ne_nil _ _
  · intro c inWord
    rcases List.mem_cons.mp inWord with rfl | inTag
    · decide
    · exact (valid tag tagMember).not_isBlank c inTag

theorem hash_not_mem_join_tagWordsOf {tags : List String} (valid : ∀ tag ∈ tags, IsTag tag) :
    '#' ∉ join [' '] (tagWordsOf tags) := by
  intro member
  rcases mem_of_mem_join member with space | ⟨word, found, inWord⟩
  · exact absurd space (by decide)
  · obtain ⟨tag, tagMember, rfl⟩ := List.mem_map.mp found
    rcases List.mem_cons.mp inWord with sign | inTag
    · exact absurd sign (by decide)
    · exact (valid tag tagMember).hash_not_mem inTag

/-- The tag line of tags is read as their words. -/
theorem classify_tagLine {tags : List String} (nonempty : tags ≠ [])
    (valid : ∀ tag ∈ tags, IsTag tag) (level : Nat) :
    Line.classify (indented level (join [' '] (tagWordsOf tags))) =
      .tags ((tagWordsOf tags).map String.ofList) := by
  have trimmed : trim (indented level (join [' '] (tagWordsOf tags))) =
      join [' '] (tagWordsOf tags) :=
    (trim_indented level _).trans (trimmed_join (tagWordsOf_isWord valid))
  have sign : ∃ rest, join [' '] (tagWordsOf tags) = '@' :: rest := by
    cases tags with
    | nil => exact absurd rfl nonempty
    | cons tag tags => cases tags <;> exact ⟨_, rfl⟩
  obtain ⟨rest, begins⟩ := sign
  have whole : before [' ', '#'] ('@' :: rest) = '@' :: rest :=
    before_eq_self_of_not_mem (by simp) (begins ▸ hash_not_mem_join_tagWordsOf valid)
  rw [Line.classify_of_trim_eq_sign (trimmed.trans begins), Line.tagWords, whole, ← begins,
    words_join (tagWordsOf_isWord valid)]

theorem tagNames_tagWordsOf {tags : List String} (valid : ∀ tag ∈ tags, IsTag tag) :
    tagNames ((tagWordsOf tags).map String.ofList) = .ok tags := by
  induction tags with
  | nil => rfl
  | cons tag tags ih =>
      have first : tagName? (String.ofList ('@' :: tag.toList)) = some tag :=
        tagName?_eq_some_iff.mpr ⟨String.toList_ofList, valid tag List.mem_cons_self⟩
      have later := ih fun other member => valid other (List.mem_cons_of_mem tag member)
      simp only [tagWordsOf, List.map_cons] at later ⊢
      rw [tagNames, first]
      simp only [later]
      rfl

/-- A line that begins with another character than those of comments, rows and
tags is told by its first words. -/
theorem classify_indented {c : Char} (solid : ¬isBlank c) (comment : c ≠ '#') (bar : c ≠ '|')
    (sign : c ≠ '@') (level : Nat) (cs : List Char) :
    Line.classify (indented level (c :: cs)) =
      Line.classifyWords (List.replicate (2 * level) ' ') (trim (c :: cs)) := by
  obtain ⟨rest, trimmed⟩ := trim_cons_of_solid solid cs
  have whole : trim (indented level (c :: cs)) = c :: rest :=
    (trim_indented level _).trans trimmed
  rw [Line.classify_of_trim_eq_cons whole comment bar sign, trimmed, indented,
    Line.indentOf_append (blank_spaces (2 * level)) solid]

/-- A word and a text behind it leave the text when the word is taken away. -/
theorem trim_append_title {word : List Char} (wordTrimmed : Trimmed word) (wordNonempty : word ≠ [])
    {title : List Char} (titleTrimmed : Trimmed title) :
    ∃ rest, trim (word ++ ' ' :: title) = word ++ rest ∧ trim rest = title := by
  rw [trim_append_space wordTrimmed wordNonempty titleTrimmed]
  by_cases empty : title = []
  · exact ⟨[], by simp [empty], by simp [empty]⟩
  · refine ⟨' ' :: title, by simp [empty], ?_⟩
    rw [trim_cons_of_blank (by decide)]
    exact titleTrimmed

/-- What all the words of headers have in common. -/
theorem header_word_facts {kind : Header} {word : String}
    (known : (word, kind) ∈ Header.keywords) :
    ∃ c cs, word.toList = c :: cs ∧ ¬isBlank c ∧ c ≠ '#' ∧ c ≠ '|' ∧ c ≠ '@' ∧
      Trimmed word.toList ∧ '\n' ∉ word.toList := by
  simp only [Header.keywords, List.mem_cons, Prod.mk.injEq, List.not_mem_nil, or_false] at known
  rcases known with ⟨rfl, -⟩ | ⟨rfl, -⟩ | ⟨rfl, -⟩ | ⟨rfl, -⟩ | ⟨rfl, -⟩ | ⟨rfl, -⟩ |
    ⟨rfl, -⟩ | ⟨rfl, -⟩ <;> exact ⟨_, _, rfl, by decide⟩

theorem Header.word_mem_keywords (kind : Header) (second : Bool) :
    (kind.word second, kind) ∈ Header.keywords := by
  cases kind <;> cases second <;> decide

/-- A header line is read as the header, with its title. -/
theorem classify_headerLine {title : String} (valid : IsTitle title) (kind : Header)
    (second : Bool) (level : Nat) :
    Line.classify (headerLine level (kind.word second) title) =
      .header kind (kind.word second) title := by
  have known := kind.word_mem_keywords second
  obtain ⟨c, cs, spelled, solid, comment, bar, sign, trimmed, -⟩ := header_word_facts known
  obtain ⟨rest, whole, restTrim⟩ := trim_append_title trimmed (by simp [spelled]) valid.trimmed
  have line : headerLine level (kind.word second) title =
      indented level (c :: (cs ++ ' ' :: title.toList)) := by
    rw [headerLine, spelled, List.cons_append]
  have text : trim (c :: (cs ++ ' ' :: title.toList)) = (kind.word second).toList ++ rest := by
    rw [← whole, spelled, List.cons_append]
  rw [line, classify_indented solid comment bar sign, text, Line.classifyWords_header known,
    restTrim, String.ofList_toList]

/-- A header without a title is read as the header. -/
theorem classify_bareHeader (kind : Header) (second : Bool) (level : Nat) :
    Line.classify (indented level (kind.word second).toList) =
      .header kind (kind.word second) "" := by
  have known := kind.word_mem_keywords second
  obtain ⟨c, cs, spelled, solid, comment, bar, sign, trimmed, -⟩ := header_word_facts known
  have line : indented level (kind.word second).toList = indented level (c :: cs) := by
    rw [spelled]
  have text : trim (c :: cs) = (kind.word second).toList ++ [] := by
    rw [← spelled, List.append_nil]
    exact trimmed
  rw [line, classify_indented solid comment bar sign, text, Line.classifyWords_header known,
    trim_nil, String.ofList_nil]

/-- A step is read as the step. -/
theorem classify_stepLine {text : String} (valid : IsTitle text) (nonempty : text.toList ≠ [])
    (keyword : Keyword) (level : Nat) :
    Line.classify (indented level (keyword.word.toList ++ ' ' :: text.toList)) =
      .step keyword text (String.ofList (keyword.word.toList ++ ' ' :: text.toList)) := by
  obtain ⟨c, cs, spelled, solid, comment, bar, sign, trimmed⟩ :
      ∃ c cs, keyword.word.toList = c :: cs ∧ ¬isBlank c ∧ c ≠ '#' ∧ c ≠ '|' ∧ c ≠ '@' ∧
        Trimmed keyword.word.toList := by
    cases keyword <;> exact ⟨_, _, rfl, by decide⟩
  have line : indented level (keyword.word.toList ++ ' ' :: text.toList) =
      indented level (c :: (cs ++ ' ' :: text.toList)) := by
    rw [spelled, List.cons_append]
  have whole : trim (c :: (cs ++ ' ' :: text.toList)) =
      keyword.word.toList ++ ' ' :: text.toList := by
    rw [← List.cons_append, ← spelled,
      trim_append_space trimmed (by simp [spelled]) valid.trimmed, if_neg nonempty]
  rw [line, classify_indented solid comment bar sign, whole, Line.classifyWords_step,
    show trim text.toList = text.toList from valid.trimmed, String.ofList_toList]

/-- A written row is read as the row. -/
theorem classify_rowLine {cells : List String} (nonempty : cells ≠ []) (level : Nat) :
    Line.classify (indented level (Row.write cells)) = .row (Row.body cells) := by
  have trimmed : Trimmed (Row.write cells) := by
    rw [Row.write_eq, trimmed_iff]
    constructor
    · intro c first
      obtain rfl : '|' = c := by simpa using first
      decide
    · intro c last
      obtain ⟨front, final, rfl⟩ : ∃ front final, cells = front ++ [final] :=
        ⟨_, _, (List.dropLast_concat_getLast nonempty).symm⟩
      have ends : '|' :: Row.body (front ++ [final]) =
          ('|' :: Row.body front ++ ' ' :: final.toList.flatMap Row.escapeChar ++ [' ']) ++
            ['|'] := by
        simp [Row.body]
      rw [ends, List.getLast?_concat] at last
      obtain rfl := Option.some.inj last
      decide
  exact Line.classify_of_trim_eq_bar ((trim_indented level _).trans trimmed)

/-- The content type that a fence can carry. -/
def IsContentType : Option String → Prop
  | none => True
  | some name => IsTitle name ∧ name.toList ≠ []

instance (contentType : Option String) : Decidable (IsContentType contentType) :=
  match contentType with
  | none => inferInstanceAs (Decidable True)
  | some name => inferInstanceAs (Decidable (IsTitle name ∧ name.toList ≠ []))

/-- An opening fence is read as the fence, with its content type. -/
theorem classify_fenceLine {contentType : Option String} (valid : IsContentType contentType)
    (level : Nat) :
    Line.classify
        (indented level (Fence.quotes.text ++ (contentType.getD "").toList)) =
      .fence .quotes (List.replicate (2 * level) ' ') contentType := by
  have solid : ¬isBlank Fence.quotes.char := by decide
  have trimmed : Trimmed (Fence.quotes.text ++ (contentType.getD "").toList) := by
    cases contentType with
    | none => decide
    | some name =>
        have fenceTrimmed : Trimmed Fence.quotes.text := by decide
        exact fenceTrimmed.append (by decide) valid.1.trimmed valid.2 []
  have line : Fence.quotes.text ++ (contentType.getD "").toList =
      Fence.quotes.char ::
        ([Fence.quotes.char, Fence.quotes.char] ++ (contentType.getD "").toList) :=
    rfl
  rw [line, classify_indented solid (by decide) (by decide) (by decide), ← line,
    show trim _ = _ from trimmed, Line.classifyWords_fence]
  cases contentType with
  | none => rfl
  | some name =>
      simp only [Option.getD_some, show trim name.toList = name.toList from valid.1.trimmed,
        String.ofList_toList]
      rw [if_neg (by simpa using valid.2)]

/-- Free text is read as free text. -/
theorem classify_textLine {text : String} (valid : IsFreeText text) (level : Nat) :
    Line.classify (indented level text.toList) = .text text := by
  cases spelled : text.toList with
  | nil => exact absurd spelled valid.nonempty
  | cons c cs =>
      have trimmed := valid.trimmed
      have plain := valid.plain
      rw [spelled] at trimmed plain
      have first : ∀ d, [d] ∈ Line.openings → c ≠ d := by
        rintro d member rfl
        exact plain [c] member ⟨cs, rfl⟩
      have solid : ¬isBlank c := ((trimmed_iff _).mp trimmed).1 c rfl
      rw [classify_indented solid (first '#' (by decide)) (first '|' (by decide))
        (first '@' (by decide)), show trim (c :: cs) = c :: cs from trimmed,
        Line.classifyWords_text plain, ← spelled, String.ofList_toList]

end Gherkin.Document
