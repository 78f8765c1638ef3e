import Gherkin.Outline.Placeholder
import Gherkin.Proofs.Record
import Gherkin.Proofs.Text.Blank
import Mathlib.Data.List.Infix

/-!
# The meaning of placeholders

Every text can be cut in exactly one way into placeholders and texts that hold none.  The
names found in it are those of this cut, and filling it in replaces each placeholder where it
stands and changes nothing else.
-/

namespace Gherkin.Placeholder

open Gherkin.Text

/-! ## Placeholders in a text -/

/-- A name that makes a placeholder between angle brackets. -/
structure IsName (name : List Char) : Prop where
  nonempty : name ≠ []
  noBracket : '<' ∉ name ∧ '>' ∉ name
  trimmed : Trimmed name

/-- A placeholder as it is written. -/
def token (name : List Char) : List Char :=
  '<' :: (name ++ ['>'])

/-- A text that holds no placeholder. -/
def Plain (text : List Char) : Prop :=
  ∀ name, IsName name → ¬token name <:+: text

theorem isBracket_eq_true_iff {c : Char} : isBracket c = true ↔ c = '<' ∨ c = '>' := by
  simp [isBracket]

theorem isName_eq_true_iff {name : List Char} : isName name = true ↔ IsName name := by
  have brackets : name.any isBracket = false ↔ '<' ∉ name ∧ '>' ∉ name := by
    rw [List.any_eq_false]
    constructor
    · intro plain
      exact ⟨fun member => plain _ member rfl, fun member => plain _ member rfl⟩
    · rintro ⟨noOpening, noClosing⟩ c member bracket
      rcases isBracket_eq_true_iff.mp bracket with rfl | rfl
      · exact noOpening member
      · exact noClosing member
  rw [isName]
  split
  · rename_i first last firstEq lastEq
    have nonempty : name ≠ [] := by
      rintro rfl
      simp at firstEq
    have ends : Trimmed name ↔ ¬isBlank first ∧ ¬isBlank last := by
      simp [trimmed_iff, firstEq, lastEq]
    simp only [Bool.and_eq_true, Bool.not_eq_true', brackets]
    constructor
    · rintro ⟨⟨noBracket, firstSolid⟩, lastSolid⟩
      exact ⟨nonempty, noBracket, ends.mpr (by simp [firstSolid, lastSolid])⟩
    · rintro ⟨-, noBracket, trimmed⟩
      simpa [noBracket] using ends.mp trimmed
  · rename_i missing
    have empty : name = [] := by
      by_contra nonempty
      exact missing _ _ (List.head?_eq_some_head nonempty) (List.getLast?_eq_some_getLast nonempty)
    simp only [Bool.false_eq_true, false_iff]
    exact fun valid => valid.nonempty empty

theorem IsName.not_isBracket {name : List Char} (valid : IsName name) :
    ∀ c ∈ name, (!isBracket c) = true := by
  intro c member
  rw [Bool.not_eq_true', Bool.eq_false_iff, Ne, isBracket_eq_true_iff]
  rintro (rfl | rfl)
  · exact valid.noBracket.1 member
  · exact valid.noBracket.2 member

/-- No bracket opens inside a placeholder. -/
theorem IsName.not_mem_tail {name : List Char} (valid : IsName name) : '<' ∉ name ++ ['>'] := by
  simpa using valid.noBracket.1

/-- A name is found after an opening bracket exactly when it is closed there. -/
theorem nameAt_eq_some_iff {cs name : List Char} :
    nameAt cs = some name ↔ IsName name ∧ name ++ ['>'] <+: cs := by
  rw [nameAt]
  constructor
  · intro found
    split at found
    · rename_i rest closes
      split at found
      · rename_i valid
        obtain rfl := Option.some.inj found
        refine ⟨isName_eq_true_iff.mp valid, rest, ?_⟩
        rw [List.append_assoc, List.singleton_append, ← closes, List.takeWhile_append_dropWhile]
      · simp at found
    · simp at found
  · rintro ⟨valid, rest, rfl⟩
    have plain := valid.not_isBracket
    have dropped : ('>' :: rest).dropWhile (fun c => !isBracket c) = '>' :: rest := rfl
    have taken : ('>' :: rest).takeWhile (fun c => !isBracket c) = [] := rfl
    rw [List.append_assoc, List.singleton_append, List.dropWhile_append_of_pos plain,
      List.takeWhile_append_of_pos plain, dropped, taken, List.append_nil]
    exact if_pos (isName_eq_true_iff.mpr valid)

theorem nameAt_eq_none_iff {cs : List Char} :
    nameAt cs = none ↔ ∀ name, IsName name → ¬token name <+: '<' :: cs := by
  rw [Option.eq_none_iff_forall_ne_some]
  simp only [ne_eq, nameAt_eq_some_iff, not_and, token, List.cons_prefix_cons, true_and]

/-! ## The pieces of a text -/

theorem piecesAux_eq_drop (skip : Nat) (cs : List Char) :
    piecesAux skip cs = pieces (cs.drop skip) := by
  induction skip generalizing cs with
  | zero => rfl
  | succ skip ih =>
      cases cs with
      | nil => rfl
      | cons c cs => rw [piecesAux, ih, List.drop_succ_cons]

/-- A placeholder at the front is one piece. -/
theorem pieces_token_append {name : List Char} (valid : IsName name) (rest : List Char) :
    pieces (token name ++ rest) = .column name :: pieces rest := by
  have found : nameAt ((name ++ ['>']) ++ rest) = some name :=
    nameAt_eq_some_iff.mpr ⟨valid, List.prefix_append _ _⟩
  have skipped : ((name ++ ['>']) ++ rest).drop (name.length + 1) = rest := by
    rw [← List.length_singleton (a := '>'), ← List.length_append, List.drop_left]
  rw [pieces, token, List.cons_append, piecesAux, if_pos rfl, found]
  simp only [piecesAux_eq_drop, skipped]

/-- A character at which no placeholder begins is a piece of its own. -/
theorem pieces_cons {c : Char} {cs : List Char}
    (none : ∀ name, IsName name → ¬token name <+: c :: cs) :
    pieces (c :: cs) = .literal c :: pieces cs := by
  rw [pieces, piecesAux]
  split
  · rename_i opening
    subst c
    rw [nameAt_eq_none_iff.mpr none]
    rfl
  · rfl

/-- A property of all texts, by walking over the text: a placeholder is met, or a character at
which none begins. -/
theorem text_induction {motive : List Char → Prop} (nil : motive [])
    (met : ∀ name rest, IsName name → motive rest → motive (token name ++ rest))
    (passed : ∀ c cs, (∀ name, IsName name → ¬token name <+: c :: cs) → motive cs →
      motive (c :: cs))
    (text : List Char) : motive text := by
  induction length : text.length using Nat.strongRecOn generalizing text with
  | ind n ih =>
      by_cases begins : ∃ name, IsName name ∧ token name <+: text
      · rcases begins with ⟨name, valid, rest, rfl⟩
        apply met name rest valid
        apply ih rest.length _ rest rfl
        simp only [← length, token, List.length_append, List.length_cons]
        omega
      · cases text with
        | nil => exact nil
        | cons c cs =>
            apply passed c cs
            · exact fun name valid found => begins ⟨name, valid, found⟩
            · exact ih cs.length (by simp [← length]) cs rfl

/-- The characters of a text without placeholders are pieces of their own, also in front of an
opening bracket. -/
theorem pieces_plain_append {literal : List Char} (plain : Plain literal) {rest : List Char}
    (opens : ∀ c ∈ rest.head?, c = '<') :
    pieces (literal ++ rest) = literal.map .literal ++ pieces rest := by
  induction literal with
  | nil => rfl
  | cons c cs ih =>
      have later : Plain cs := fun name valid found =>
        plain name valid (found.trans (List.suffix_cons c cs).isInfix)
      have none : ∀ name, IsName name → ¬token name <+: c :: (cs ++ rest) := by
        intro name valid found
        rcases List.prefix_or_prefix_of_prefix found (List.prefix_append (c :: cs) rest) with
          within | beyond
        · exact plain name valid within.isInfix
        · -- The bracket that follows the literal would stand inside the placeholder.
          rcases beyond with ⟨back, whole⟩
          rw [← whole, List.cons_append, List.cons_prefix_cons, List.prefix_append_right_inj]
            at found
          rw [token, List.cons_append, List.cons.injEq] at whole
          cases back with
          | nil =>
              apply plain name valid
              rw [token, ← whole.2, whole.1, List.append_nil]
          | cons d ds =>
              have first : d = '<' := by
                apply opens
                rcases found.2 with ⟨later, rfl⟩
                rfl
              apply valid.not_mem_tail
              simp [← whole.2, first]
      rw [List.cons_append, pieces_cons none, ih later, List.map_cons, List.cons_append]

/-! ## Cutting a text at its placeholders -/

/-- A text in parts: what stands in front of the first placeholder, and the name of every
placeholder with what stands behind it. -/
structure Cut where
  front : List Char
  parts : List (List Char × List Char)

namespace Cut

/-- The text with every placeholder written in some way. -/
def render (cut : Cut) (write : List Char → List Char) : List Char :=
  cut.front ++ cut.parts.flatMap fun part => write part.1 ++ part.2

/-- The names of the placeholders. -/
def names (cut : Cut) : List String :=
  cut.parts.map fun part => String.ofList part.1

/-- The parts make up the text, and there are no placeholders in it but those named. -/
structure Of (cut : Cut) (text : List Char) : Prop where
  whole : cut.render token = text
  front : Plain cut.front
  parts : ∀ part ∈ cut.parts, IsName part.1 ∧ Plain part.2

/-- The pieces that the parts are made of. -/
def pieces (cut : Cut) : List Piece :=
  cut.front.map .literal ++
    cut.parts.flatMap fun part => .column part.1 :: part.2.map .literal

/-- The parts that are made of pieces. -/
def ofPieces : List Piece → Cut
  | [] => ⟨[], []⟩
  | .literal c :: rest => ⟨c :: (ofPieces rest).front, (ofPieces rest).parts⟩
  | .column name :: rest => ⟨[], (name, (ofPieces rest).front) :: (ofPieces rest).parts⟩

theorem ofPieces_map_append (literal : List Char) (rest : List Piece) :
    ofPieces (literal.map .literal ++ rest) =
      ⟨literal ++ (ofPieces rest).front, (ofPieces rest).parts⟩ := by
  induction literal with
  | nil => rfl
  | cons c cs ih => rw [List.map_cons, List.cons_append, ofPieces, ih, List.cons_append]

theorem ofPieces_pieces (cut : Cut) : ofPieces cut.pieces = cut := by
  rcases cut with ⟨front, parts⟩
  have tail : ofPieces (parts.flatMap fun part => .column part.1 :: part.2.map .literal) =
      ⟨[], parts⟩ := by
    induction parts with
    | nil => rfl
    | cons part parts ih =>
        rw [List.flatMap_cons, List.cons_append, ofPieces, ofPieces_map_append, ih,
          List.append_nil]
  rw [pieces, ofPieces_map_append, tail, List.append_nil]

/-- The pieces of a text are those of its parts. -/
theorem Of.pieces_eq {cut : Cut} {text : List Char} (cuts : cut.Of text) :
    Placeholder.pieces text = cut.pieces := by
  have opens (parts : List (List Char × List Char)) :
      ∀ c ∈ (parts.flatMap fun part => token part.1 ++ part.2).head?, c = '<' := by
    cases parts <;> simp [token]
  have tail {parts : List (List Char × List Char)}
      (valid : ∀ part ∈ parts, IsName part.1 ∧ Plain part.2) :
      Placeholder.pieces (parts.flatMap fun part => token part.1 ++ part.2) =
        parts.flatMap fun part => .column part.1 :: part.2.map .literal := by
    induction parts with
    | nil => rfl
    | cons part parts ih =>
        rw [List.forall_mem_cons] at valid
        rw [List.flatMap_cons, List.append_assoc, pieces_token_append valid.1.1,
          pieces_plain_append valid.1.2 (opens parts), ih valid.2, List.flatMap_cons,
          List.cons_append]
  rw [← cuts.whole, render, pieces_plain_append cuts.front (opens cut.parts), tail cuts.parts,
    pieces]

/-- A text can be cut in one way at most. -/
theorem Of.unique {cut other : Cut} {text : List Char} (cuts : cut.Of text)
    (otherCuts : other.Of text) : other = cut := by
  rw [← ofPieces_pieces other, ← ofPieces_pieces cut, ← cuts.pieces_eq, ← otherCuts.pieces_eq]

theorem of_ofPieces (text : List Char) : (ofPieces (Placeholder.pieces text)).Of text := by
  have empty : Plain [] := by
    intro name valid found
    exact List.cons_ne_nil _ _ (List.eq_nil_of_infix_nil found)
  induction text using text_induction with
  | nil =>
      constructor
      · rfl
      · exact empty
      · intro part member
        contradiction
  | met name rest valid ih =>
      rw [pieces_token_append valid, ofPieces]
      constructor
      · rw [render, List.flatMap_cons, List.nil_append, List.append_assoc, ← render, ih.whole]
      · exact empty
      · intro part member
        rcases List.mem_cons.mp member with rfl | later
        · exact ⟨valid, ih.front⟩
        · exact ih.parts part later
  | passed c cs none ih =>
      rw [pieces_cons none, ofPieces]
      constructor
      · rw [render, List.cons_append, ← render, ih.whole]
      · intro name valid found
        rcases List.infix_cons_iff.mp found with here | later
        · apply none name valid
          have frontFirst : (ofPieces (Placeholder.pieces cs)).front <+: cs := by
            conv_rhs => rw [← ih.whole]
            exact List.prefix_append _ _
          exact here.trans (List.cons_prefix_cons.mpr ⟨rfl, frontFirst⟩)
        · exact ih.front name valid later
      · exact ih.parts

end Cut

/-! ## Names and values -/

theorem names_eq {text : String} {cut : Cut} (cuts : cut.Of text.toList) :
    names text = cut.names := by
  have literals (literal : List Char) :
      (literal.map Piece.literal).filterMap Piece.name? = [] := by
    simp [List.filterMap_map, Piece.name?, Function.comp_def]
  rw [names, cuts.pieces_eq, Cut.pieces, List.filterMap_append, literals, List.nil_append,
    List.filterMap_flatMap, Cut.names, List.map_eq_flatMap]
  apply List.flatMap_congr
  intro part _
  have name : Piece.name? (.column part.1) = some (String.ofList part.1) := rfl
  rw [List.filterMap_cons_some name, literals]

/-- What stands for a placeholder: the value of its column, or the placeholder itself when
there is no such column. -/
def valueOr (values : Record String) (name : List Char) : List Char :=
  match values.find? (String.ofList name) with
  | some value => value.toList
  | none => token name

theorem fill_eq {text : String} {cut : Cut} (cuts : cut.Of text.toList)
    (values : Record String) :
    fill values text = String.ofList (cut.render (valueOr values)) := by
  have literals (literal : List Char) :
      (literal.map Piece.literal).flatMap (Piece.fill values) = literal := by
    simp [List.flatMap_map, Piece.fill]
  have columns (name : List Char) : Piece.fill values (.column name) = valueOr values name := by
    rw [Piece.fill, valueOr]
    cases values.find? (String.ofList name) <;> rfl
  rw [fill, cuts.pieces_eq, Cut.pieces, List.flatMap_append, literals, Cut.render,
    List.flatMap_assoc]
  simp only [List.flatMap_cons, columns, literals]

/-- Only the value of each name matters. -/
theorem fill_congr {values other : Record String}
    (alike : ∀ name, values.find? name = other.find? name) (text : String) :
    fill values text = fill other text := by
  have cuts := Cut.of_ofPieces text.toList
  have same : valueOr values = valueOr other := by
    funext name
    rw [valueOr, valueOr, alike]
  rw [fill_eq cuts, fill_eq cuts, same]

/-- A text is cut at its placeholders in exactly one way.  The names found in it are those of
the cut, in order.  Filling it in puts the value of its column in the place of each
placeholder, leaves a placeholder without a column as it is, and keeps all else; in which order
the columns are given does not matter. -/
theorem fill_of_cut (text : String) (values : Record String) :
    ∃ cut : Cut, cut.Of text.toList ∧ (∀ other : Cut, other.Of text.toList → other = cut) ∧
      names text = cut.names ∧
      (fill values text).toList = cut.render (valueOr values) ∧
      ∀ pairs other : List (String × String), pairs.Perm other → (pairs.map Prod.fst).Nodup →
        fill (Record.ofPairs pairs) text = fill (Record.ofPairs other) text := by
  have cuts := Cut.of_ofPieces text.toList
  refine ⟨_, cuts, fun other otherCuts => cuts.unique otherCuts, names_eq cuts, ?_, ?_⟩
  · rw [fill_eq cuts, String.toList_ofList]
  · intro pairs other reordered once
    apply fill_congr
    exact Record.find?_ofPairs_perm reordered once

/-- Brackets that enclose no name are text, and a name may hold any other character. -/
example : names "<<a>> <= < b > <c\nd>" = ["a", "c\nd"] := by
  decide

end Gherkin.Placeholder
