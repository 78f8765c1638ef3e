import Gherkin.Proofs.Path.TrailingLines
import Gherkin.Proofs.Text.Numeral
import Mathlib.Algebra.Order.Ring.Int

/-!
# Path specs that are printed

A path in normal form begins with its root and goes on with names, so it ends with a slash only
when it is a root.  Written with a colon before every line number, it is read back with the same
lines in the same order.  A number with more digits than are written cannot be printed.
-/

namespace Gherkin

open Gherkin.Text

namespace Path

/-! ## Normal forms -/

theorem rootOf_cases (path : List Char) :
    rootOf path = [] ∨ rootOf path = ['/'] ∨ rootOf path = ['/', '/'] := by
  fun_cases rootOf path <;> simp

/-- A name of a path is not empty, and has no slash. -/
theorem of_mem_names {path name : List Char} (member : name ∈ names path) :
    name ≠ [] ∧ '/' ∉ name := by
  obtain ⟨piece, said⟩ := List.mem_filter.mp member
  have nonempty : name ≠ [] := by
    rintro rfl
    contradiction
  exact ⟨nonempty, not_mem_of_mem_splitAt piece⟩

theorem mem_of_mem_follow {absolute : Bool} {before : List (List Char)} {name other : List Char}
    (member : other ∈ follow absolute before name) : other ∈ before ∨ other = name := by
  have kept : other ∈ before ++ [name] → other ∈ before ∨ other = name := by simp
  revert member
  fun_cases follow absolute before name with
  | case1 => exact Or.inl
  | case2 => exact kept
  | case3 => exact kept
  | case4 => exact fun member => Or.inl ((List.dropLast_sublist before).subset member)
  | case5 => exact kept

/-- Following names brings in no others. -/
theorem mem_of_mem_foldl_follow {absolute : Bool} {before followed : List (List Char)}
    {name : List Char} (member : name ∈ followed.foldl (follow absolute) before) :
    name ∈ before ∨ name ∈ followed := by
  induction followed generalizing before with
  | nil => exact Or.inl member
  | cons first rest ih =>
      rcases ih member with inFollowed | later
      · rcases mem_of_mem_follow inFollowed with earlier | rfl
        · exact Or.inl earlier
        · exact Or.inr List.mem_cons_self
      · exact Or.inr (List.mem_cons_of_mem first later)

theorem ofNames_of_root {root : List Char} (rooted : root ≠ []) (list : List (List Char)) :
    ofNames root list = root ++ join ['/'] list := by
  obtain ⟨c, rest, rfl⟩ := List.exists_cons_of_ne_nil rooted
  rfl

/-- An absolute path in normal form is its root followed by names. -/
theorem exists_names_of_normal {path : List Char} (rooted : rootOf path ≠ [])
    (normal : normalize path = path) :
    ∃ list, path = rootOf path ++ join ['/'] list ∧
      ∀ name ∈ list, name ≠ [] ∧ '/' ∉ name := by
  refine ⟨(names path).foldl (follow (!(rootOf path).isEmpty)) [], ?_, ?_⟩
  · rw [← ofNames_of_root rooted]
    exact normal.symm
  · intro name member
    exact of_mem_names ((mem_of_mem_foldl_follow member).resolve_left List.not_mem_nil)

/-- A path in normal form ends with a slash only if it is a root. -/
theorem eq_rootOf_of_getLast? {path : List Char} (rooted : rootOf path ≠ [])
    (normal : normalize path = path) (slash : path.getLast? = some '/') : path = rootOf path := by
  obtain ⟨list, whole, proper⟩ := exists_names_of_normal rooted normal
  by_cases noNames : list = []
  · rw [noNames, join, List.append_nil] at whole
    exact whole
  · obtain ⟨last, member, same⟩ :=
      exists_getLast?_join ['/'] noNames fun name inside => (proper name inside).1
    obtain ⟨nonempty, noSlash⟩ := proper last member
    rw [whole, List.getLast?_append, same, List.getLast?_eq_some_getLast nonempty] at slash
    have ends : last.getLast nonempty = '/' := Option.some.inj slash
    exact absurd (ends ▸ List.getLast_mem nonempty) noSlash

/-- A root is a directory. -/
theorem isDirectory_of_eq_rootOf (tree : FileTree) {path : String}
    (rooted : rootOf path.toList ≠ []) (root : path.toList = rootOf path.toList) :
    tree.isDirectory path := by
  have noNames : names path.toList = [] := by
    rcases rootOf_cases path.toList with empty | single | double
    · contradiction
    · rw [root, single]
      rfl
    · rw [root, double]
      rfl
  have nonempty : path.toList ≠ [] := root ▸ rooted
  simp [FileTree.isDirectory, FileTree.find, noNames, nonempty, rooted, FileTree.walk]

/-- An absolute path in normal form is the same from every base. -/
theorem resolve_of_normal {path : String} (absolute : path.toList.head? = some '/')
    (normal : normalize path.toList = path.toList) (base : String) :
    resolve base path = path := by
  obtain ⟨rest, same⟩ := List.head?_eq_some_iff.mp absolute
  have own : append base.toList path.toList = path.toList := by
    rw [same]
    rfl
  rw [resolve, own, normal, String.ofList_toList]

end Path

namespace PathSpec

/-! ## What is printed -/

/-- Line numbers are written one by one; all of them can be written or none is. -/
theorem writeInteger_eq (n : Int) :
    writeInteger n =
      if n.natAbs < 10 ^ maxIntegerDigits then .ok (toString n) else .error .unwritten := by
  rw [writeInteger, Nat.pow_eq]

theorem mapM_writeInteger (lines : List Int) :
    lines.mapM writeInteger =
      if ∀ line ∈ lines, line.natAbs < 10 ^ maxIntegerDigits then .ok (lines.map toString)
      else .error .unwritten := by
  induction lines with
  | nil => rfl
  | cons line rest ih =>
      rw [List.mapM_cons, ih, writeInteger_eq]
      by_cases all : ∀ each ∈ line :: rest, each.natAbs < 10 ^ maxIntegerDigits
      · obtain ⟨first, later⟩ := List.forall_mem_cons.mp all
        rw [if_pos all, if_pos first, if_pos later]
        rfl
      · rw [if_neg all]
        by_cases first : line.natAbs < 10 ^ maxIntegerDigits
        · have later : ¬∀ each ∈ rest, each.natAbs < 10 ^ maxIntegerDigits := fun later =>
            all (List.forall_mem_cons.mpr ⟨first, later⟩)
          rw [if_pos first, if_neg later]
          rfl
        · rw [if_neg first]
          rfl

/-- Line numbers as they are printed. -/
def numerals (numbers : List Nat) : List (List Char) :=
  numbers.map fun n => (toString n).toList

/-- What is printed for a path and line numbers. -/
def printed (path : String) (numbers : List Nat) : String :=
  ":".intercalate (path :: numbers.map toString)

/-- A path spec is printed unless a line number is too long. -/
theorem format_ofNat (path : String) (numbers : List Nat) :
    format { path, lines := numbers.map Int.ofNat } =
      if ∀ n ∈ numbers, n < 10 ^ maxIntegerDigits then .ok (printed path numbers)
      else .error .unwritten := by
  have written : (numbers.map Int.ofNat).map toString = numbers.map toString := by
    rw [List.map_map]
    rfl
  rw [format, mapM_writeInteger, written]
  simp only [List.forall_mem_map, Int.ofNat_eq_natCast, Int.natAbs_natCast]
  split
  · rfl
  · rfl

/-- What is printed is the path and the line numbers, with colons between them. -/
theorem toList_printed (path : String) (numbers : List Nat) :
    (printed path numbers).toList = join [':'] (path.toList :: numerals numbers) := by
  rw [printed, String.toList_intercalate, join_eq_intercalate, List.map_cons, List.map_map]
  rfl

/-- A path that stays what it is when it is read: it is absolute and in normal form, it has no
colon and no white space around it, and it is no directory. -/
structure Plain (tree : FileTree) (path : String) : Prop where
  absolute : path.toList.head? = some '/'
  normal : Path.normalize path.toList = path.toList
  noColon : ':' ∉ path.toList
  trimmed : Trimmed path.toList
  noDirectory : tree.isDirectory path = false

theorem Plain.rooted {tree : FileTree} {path : String} (plain : Plain tree path) :
    Path.rootOf path.toList ≠ [] := by
  obtain ⟨rest, same⟩ := List.head?_eq_some_iff.mp plain.absolute
  rw [same, Path.rootOf.eq_def]
  split
  · simp
  · simp
  · simp
  · rename_i noSlash
    exact absurd rfl (noSlash rest)

section

variable {tree : FileTree} {path : String} {numbers : List Nat}

theorem Plain.not_slash (plain : Plain tree path) : path.toList.getLast? ≠ some '/' := by
  intro slash
  have root := Path.eq_rootOf_of_getLast? plain.rooted plain.normal slash
  have directory := Path.isDirectory_of_eq_rootOf tree plain.rooted root
  rw [plain.noDirectory] at directory
  contradiction

theorem Plain.trimmed_printed (plain : Plain tree path) :
    Trimmed (printed path numbers).toList := by
  rw [toList_printed, ← append_flatMap_eq_join]
  -- Only the path at the front and the last number can have white space at an end of the text.
  cases numbers using List.reverseRecOn with
  | nil => simpa [numerals] using plain.trimmed
  | append_singleton numbers last =>
      have nonempty : path.toList ≠ [] := fun empty => by simpa [empty] using plain.absolute
      have pieces : path.toList ++ (numerals (numbers ++ [last])).flatMap (':' :: ·) =
          path.toList ++
            ((numerals numbers).flatMap (':' :: ·) ++ [':'] ++ (toString last).toList) := by
        simp [numerals]
      rw [pieces]
      exact plain.trimmed.append nonempty (trimmed_of_solid (solid_numeral last))
        (numeral_ne_nil last) _

theorem Plain.splitAt_printed (plain : Plain tree path) :
    splitAt ':' (trim (printed path numbers).toList) =
      path.toList :: numerals numbers := by
  have absent : ∀ piece ∈ path.toList :: numerals numbers, ':' ∉ piece := by
    rw [List.forall_mem_cons]
    refine ⟨plain.noColon, ?_⟩
    intro piece member
    obtain ⟨n, -, rfl⟩ := List.mem_map.mp member
    exact not_mem_numeral (by decide) n
  rw [plain.trimmed_printed, toList_printed, splitAt_join (List.cons_ne_nil _ _) absent]

theorem isNumeral_numeral (n : Nat) : isNumeral (toString n).toList := by
  rw [isNumeral_iff]
  refine ⟨numeral_ne_nil n, ?_⟩
  intro c member
  exact isDigit_of_isDecimal (isDecimal_of_isDigit (isDigit_of_mem_numeral member))

/-- A numeral is misread only when it has too many digits. -/
theorem misread_numeral_iff (n : Nat) :
    Misread (toString n).toList ↔ 10 ^ maxIntegerDigits ≤ n := by
  rw [misread_iff_tooLong fun _ c => isDigit_of_mem_numeral, TooLong,
    and_iff_right (isNumeral_numeral n), ← Nat.not_le, length_numeral_le_iff (by decide),
    Nat.not_lt]

theorem lineIn?_numeral {n : Nat} (positive : 0 < n) :
    lineIn? (toString n).toList = some (n : Int) := by
  rw [lineIn?, isNumeral_numeral, valueOf_numeral, decide_eq_true positive]
  rfl

/-- Positive numbers are read as lines, in their order. -/
theorem foldr_put_numerals (positive : ∀ n ∈ numbers, 0 < n) :
    (numerals numbers).foldr put ([], []) = ([], numbers.map Int.ofNat) := by
  induction numbers with
  | nil => rfl
  | cons n rest ih =>
      obtain ⟨first, later⟩ := List.forall_mem_cons.mp positive
      have read := ih later
      rw [numerals] at read ⊢
      rw [List.map_cons, List.foldr_cons, read, put, lineIn?_numeral first]
      rfl

/-! ## What is read back -/

theorem Plain.not_blank_printed (plain : Plain tree path) :
    ¬∀ c ∈ (printed path numbers).toList, isBlank c := by
  intro blank
  have member : '/' ∈ (printed path numbers).toList := by
    rw [toList_printed, ← append_flatMap_eq_join]
    exact List.mem_append_left _ (List.mem_of_head? plain.absolute)
  exact absurd (blank '/' member) (by decide)

/-- What is printed is read back. -/
theorem Plain.parse_printed (plain : Plain tree path) (positive : ∀ n ∈ numbers, 0 < n)
    (short : ∀ n ∈ numbers, n < 10 ^ maxIntegerDigits) (base : String) :
    parse tree base (printed path numbers) =
      .ok (some { path, lines := numbers.map Int.ofNat }) := by
  have readable : ∀ component ∈ numerals numbers, ¬Misread component := by
    intro component member
    obtain ⟨n, inNumbers, rfl⟩ := List.mem_map.mp member
    rw [misread_numeral_iff, Nat.not_le]
    exact short n inNumbers
  have part : ofPart tree base path.toList (numbers.map Int.ofNat) =
      { path, lines := numbers.map Int.ofNat } := by
    have resolved := Path.resolve_of_normal plain.absolute plain.normal base
    simp [ofPart, resolved, plain.noDirectory, plain.not_slash]
  rw [parse_of_not_blank tree base plain.not_blank_printed, laterComponents, firstComponent,
    plain.splitAt_printed, List.tail_cons, List.headD_cons, components_of_readable readable,
    foldr_put_numerals positive, Except.map, List.append_nil, part]

end

theorem exists_numbers {lines : List Int} (positive : ∀ line ∈ lines, 0 < line) :
    ∃ numbers : List Nat, lines = numbers.map Int.ofNat ∧ ∀ n ∈ numbers, 0 < n := by
  refine ⟨lines.map Int.toNat, ?_, ?_⟩
  · have kept : lines.map (Int.ofNat ∘ Int.toNat) = lines.map id :=
      List.map_congr_left fun line member =>
        Int.toNat_of_nonneg (Int.le_of_lt (positive line member))
    rw [List.map_map, kept, List.map_id]
  · rw [List.forall_mem_map]
    intro line member
    exact Int.pos_iff_toNat_pos.mp (positive line member)

theorem pow_le_ofNat_iff {n : Nat} :
    10 ^ maxIntegerDigits ≤ Int.ofNat n ↔ 10 ^ maxIntegerDigits ≤ n := by
  rw [Int.ofNat_eq_natCast]
  exact_mod_cast Iff.rfl

/-- A path spec cannot be printed exactly when a line has too many digits. -/
theorem exists_error_format_iff (path : String) {lines : List Int}
    (positive : ∀ line ∈ lines, 0 < line) :
    (∃ error, format { path, lines } = .error error) ↔
      ∃ line ∈ lines, 10 ^ maxIntegerDigits ≤ line := by
  obtain ⟨numbers, rfl, -⟩ := exists_numbers positive
  rw [format_ofNat]
  simp only [List.mem_map, exists_exists_and_eq_and, pow_le_ofNat_iff]
  split
  · rename_i short
    refine iff_of_false nofun ?_
    rintro ⟨n, member, long⟩
    exact Nat.not_le.mpr (short n member) long
  · rename_i long
    refine iff_of_true ⟨_, rfl⟩ ?_
    simpa only [not_forall, Nat.not_lt, exists_prop] using long

/-- A path spec of such a path and positive lines is printed and read back, from any base, with
the same path and the same lines in the same order, and not as a directory, exactly when no line
has more digits than are written.  A line with more makes the printing fail. -/
theorem parse_format_iff {tree : FileTree} {path : String} (plain : Plain tree path)
    {lines : List Int} (positive : ∀ line ∈ lines, 0 < line) (base : String) :
    ((format { path, lines }).bind (parse tree base) =
        .ok (some { path, lines, isDirectory := false }) ↔
      ∀ line ∈ lines, line < 10 ^ maxIntegerDigits) ∧
    ((∃ error, format { path, lines } = .error error) ↔
      ∃ line ∈ lines, 10 ^ maxIntegerDigits ≤ line) := by
  have refused := exists_error_format_iff path positive
  refine ⟨?_, refused⟩
  constructor
  · intro readBack line member
    by_contra long
    obtain ⟨error, failed⟩ := refused.mpr ⟨line, member, Int.not_lt.mp long⟩
    rw [failed] at readBack
    exact absurd readBack nofun
  · intro short
    obtain ⟨numbers, rfl, positiveNumbers⟩ := exists_numbers positive
    have shortNumbers : ∀ n ∈ numbers, n < 10 ^ maxIntegerDigits := by
      intro n member
      rw [← Nat.not_le, ← pow_le_ofNat_iff, Int.not_le]
      exact short _ (List.mem_map_of_mem member)
    rw [format_ofNat, if_pos shortNumbers]
    exact plain.parse_printed positiveNumbers shortNumbers base

/-- A file in a directory that is there. -/
def oneDirectory : FileTree :=
  { workingDirectory := ["w"], directories := [["w"], ["abs"]] }

theorem plain_feature : Plain oneDirectory "/abs/a b.feature" where
  absolute := by decide
  normal := by decide
  noColon := by decide
  trimmed := by decide
  noDirectory := by decide

theorem parse_format_iff_repeated :
    Plain oneDirectory "/abs/a b.feature" ∧ (∀ line ∈ [25, 10, (25 : Int)], 0 < line) ∧
      (format { path := "/abs/a b.feature", lines := [25, 10, 25] }).bind
          (parse oneDirectory "../x") =
        .ok (some { path := "/abs/a b.feature", lines := [25, 10, 25] }) := by
  have positive : ∀ line ∈ [25, 10, (25 : Int)], 0 < line := by decide
  have small : ∀ line ∈ [25, 10, (25 : Int)], line < 10 ^ 2 := by decide
  obtain ⟨readBack, -⟩ := parse_format_iff plain_feature positive "../x"
  refine ⟨plain_feature, positive, readBack.mpr ?_⟩
  intro line member
  exact (small line member).trans_le (pow_le_pow_right₀ (by decide) (by decide))

/-- A line of too many digits cannot be printed, so that nothing is read back. -/
theorem parse_format_fails_at_long_line :
    Plain oneDirectory "/abs/a b.feature" ∧ 0 < (10 : Int) ^ maxIntegerDigits ∧
      ∀ spec, (format { path := "/abs/a b.feature", lines := [10 ^ maxIntegerDigits] }).bind
        (parse oneDirectory "/") ≠ .ok spec := by
  have positive : 0 < (10 : Int) ^ maxIntegerDigits := pow_pos (by decide) _
  have refused :=
    exists_error_format_iff "/abs/a b.feature" (List.forall_mem_singleton.mpr positive)
  obtain ⟨error, failed⟩ := refused.mpr ⟨_, List.mem_cons_self, Int.le_refl _⟩
  refine ⟨plain_feature, positive, fun spec readBack => ?_⟩
  rw [failed] at readBack
  exact absurd readBack nofun

end PathSpec

end Gherkin
