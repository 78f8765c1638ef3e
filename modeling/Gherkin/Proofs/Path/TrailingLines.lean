import Gherkin.Proofs.Path.Spec
import Mathlib.Data.List.DropRight
import Mathlib.Data.List.Pairwise

/-!
# Line numbers at the end of a path spec

The line numbers of a path spec are meant to be its last components, and everything before them
the path.  A positive number among the components is taken for a line wherever it stands, so this
is what a path spec says exactly when no such number stands before a component of the path.
-/

namespace Gherkin.PathSpec

open Gherkin.Text

/-! ## The numbers at the end -/

/-- Whether a component is a positive number. -/
def isLine (component : List Char) : Bool :=
  (lineIn? component).isSome

/-- The positive numbers at the end of some components. -/
def linesAtEnd (list : List (List Char)) : List (List Char) :=
  list.rtakeWhile isLine

/-- What stands before the positive numbers at the end. -/
def beforeLines (list : List (List Char)) : List (List Char) :=
  list.rdropWhile isLine

/-- No positive number stands before something else. -/
def LinesLast (list : List (List Char)) : Prop :=
  list.Pairwise fun component later => isLine component → isLine later

theorem beforeLines_append_linesAtEnd (list : List (List Char)) :
    beforeLines list ++ linesAtEnd list = list :=
  List.rdropWhile_append_rtakeWhile

instance (list : List (List Char)) : Decidable (LinesLast list) :=
  inferInstanceAs (Decidable (list.Pairwise fun component later => isLine component → isLine later))

/-- Positive numbers stand last when there are none before those at the end. -/
theorem linesLast_iff {list : List (List Char)} :
    LinesLast list ↔ ∀ component ∈ beforeLines list, ¬isLine component := by
  constructor
  · intro ordered component member number
    have nonempty : beforeLines list ≠ [] := List.ne_nil_of_mem member
    have noNumber : ¬isLine ((beforeLines list).getLast nonempty) :=
      List.rdropWhile_last_not isLine list nonempty
    have split := List.dropLast_append_getLast nonempty
    have orderedBefore : LinesLast (beforeLines list) :=
      ordered.sublist (List.rdropWhile_prefix isLine list).sublist
    rw [LinesLast, ← split, List.pairwise_append] at orderedBefore
    rw [← split, List.mem_append, List.mem_singleton] at member
    rcases member with earlier | rfl
    · exact noNumber (orderedBefore.2.2 component earlier _ (List.mem_singleton_self _) number)
    · exact noNumber number
  · intro noNumber
    rw [LinesLast, ← beforeLines_append_linesAtEnd list, List.pairwise_append]
    refine ⟨?_, ?_, ?_⟩
    · exact List.pairwise_of_forall_mem_list fun component member _ _ number =>
        absurd number (noNumber component member)
    · exact List.pairwise_of_forall_mem_list fun _ _ _ member _ => List.mem_rtakeWhile_imp member
    · exact fun _ _ _ member _ => List.mem_rtakeWhile_imp member

theorem filterMap_lineIn?_eq_nil_iff {list : List (List Char)} :
    list.filterMap lineIn? = [] ↔ ∀ component ∈ list, ¬isLine component := by
  simp [isLine, List.filterMap_eq_nil_iff]

/-- The lines are those at the end exactly when positive numbers stand last. -/
theorem filterMap_linesAtEnd_iff {list : List (List Char)} :
    list.filterMap lineIn? = (linesAtEnd list).filterMap lineIn? ↔ LinesLast list := by
  have split : list.filterMap lineIn? =
      (beforeLines list).filterMap lineIn? ++ (linesAtEnd list).filterMap lineIn? := by
    rw [← List.filterMap_append, beforeLines_append_linesAtEnd]
  rw [linesLast_iff, ← filterMap_lineIn?_eq_nil_iff, split, List.append_left_eq_self]

/-- The components that are no positive number. -/
def withoutLines (list : List (List Char)) : List (List Char) :=
  list.filter fun component => (lineIn? component).isNone

/-- When positive numbers stand last, the other components are those before them. -/
theorem withoutLines_eq_beforeLines {list : List (List Char)} (ordered : LinesLast list) :
    withoutLines list = beforeLines list := by
  have none : withoutLines (linesAtEnd list) = [] := by
    rw [withoutLines, List.filter_eq_nil_iff]
    intro component member
    have number : isLine component := List.mem_rtakeWhile_imp member
    simpa [isLine, Option.isSome_iff_ne_none] using number
  have all : withoutLines (beforeLines list) = beforeLines list := by
    rw [withoutLines, List.filter_eq_self]
    intro component member
    simpa [isLine] using linesLast_iff.mp ordered component member
  calc
    withoutLines list = withoutLines (beforeLines list ++ linesAtEnd list) := by
      rw [beforeLines_append_linesAtEnd]
    _ = withoutLines (beforeLines list) ++ withoutLines (linesAtEnd list) :=
      List.filter_append _ _
    _ = beforeLines list := by rw [none, all, List.append_nil]

/-! ## Reading -/

/-- Components with a colon before each of them follow the first. -/
theorem append_flatMap_eq_join (first : List Char) (rest : List (List Char)) :
    first ++ rest.flatMap (':' :: ·) = join [':'] (first :: rest) := by
  induction rest generalizing first with
  | nil => exact List.append_nil first
  | cons next rest ih =>
      calc
        first ++ (next :: rest).flatMap (':' :: ·) =
            first ++ [':'] ++ (next ++ rest.flatMap (':' :: ·)) := by simp
        _ = join [':'] (first :: next :: rest) := by rw [ih]; rfl

/-- The text of the path consists of the components that give no line. -/
theorem foldr_put_fst (list : List (List Char)) :
    (list.foldr put ([], [])).1 = (withoutLines list).flatMap (':' :: ·) := by
  induction list with
  | nil => rfl
  | cons component rest ih =>
      rw [List.foldr_cons, put, withoutLines]
      cases line : lineIn? component with
      | none =>
          rw [List.filter_cons_of_pos (by simp [line]), List.flatMap_cons, joinText, ih]
          rfl
      | some n =>
          rw [List.filter_cons_of_neg (by simp [line])]
          exact ih

/-- The path of components, seen from a base. -/
def pathOf (base : String) (list : List (List Char)) : String :=
  Path.resolve base (String.ofList (join [':'] list))

/-- When no component is misread, the positive numbers are the lines, and the others make up the
path. -/
theorem exists_parse_of_readable (tree : FileTree) (base : String) {raw : String}
    (solid : ¬∀ c ∈ raw.toList, isBlank c) (readable : ¬Unreadable raw.toList) :
    ∃ spec, parse tree base raw = .ok (some spec) ∧
      spec.lines = (laterComponents raw.toList).filterMap lineIn? ∧
      spec.path =
        pathOf base (firstComponent raw.toList :: withoutLines (laterComponents raw.toList)) := by
  have each : ∀ component ∈ laterComponents raw.toList, ¬Misread component :=
    fun component member misread => readable ⟨component, member, misread⟩
  rw [parse_of_not_blank tree base solid, components_of_readable each]
  refine ⟨_, rfl, foldr_put_snd _, ?_⟩
  rw [pathOf, ← append_flatMap_eq_join, ← foldr_put_fst]
  rfl

/-! ## Numbers of ASCII digits -/

/-- A component is a numeral that is too long to be read. -/
def TooLong (component : List Char) : Prop :=
  isNumeral component ∧ maxIntegerDigits < component.length

instance (component : List Char) : Decidable (TooLong component) :=
  inferInstanceAs (Decidable (isNumeral component ∧ maxIntegerDigits < component.length))

/-- Numerals of ASCII digits are misread only when they are too long. -/
theorem misread_iff_tooLong {component : List Char}
    (ascii : isNumeral component → ∀ c ∈ component, c.isDigit) :
    Misread component ↔ TooLong component := by
  refine and_congr_right fun numeral => ⟨?_, Or.inr⟩
  rintro (⟨c, member, special⟩ | long)
  · exact absurd (isDecimal_of_isDigit (ascii numeral c member)) special
  · exact long

/-- A path spec says what stands in its components when the positive numbers at the end are its
lines and everything before them is its path. -/
structure SaysTrailing (base : String) (raw : List Char) (spec : PathSpec) : Prop where
  lines : spec.lines = (linesAtEnd (laterComponents raw)).filterMap lineIn?
  path : spec.path = pathOf base (firstComponent raw :: beforeLines (laterComponents raw))

/-- A path spec whose numerals consist of ASCII digits is refused exactly when one of them is too
long.  Otherwise every positive number after the first component is a line, and the other
components are the path; so the positive numbers at the end are the lines, and everything before
them the path, exactly when no positive number stands before another component. -/
theorem parse_trailing_iff (tree : FileTree) (base : String) {raw : String}
    (solid : ¬∀ c ∈ raw.toList, isBlank c)
    (ascii : ∀ component ∈ laterComponents raw.toList, isNumeral component →
      ∀ c ∈ component, c.isDigit) :
    ((∃ error, parse tree base raw = .error error) ↔
        ∃ component ∈ laterComponents raw.toList, TooLong component) ∧
      ((∀ component ∈ laterComponents raw.toList, ¬TooLong component) →
        ∃ spec, parse tree base raw = .ok (some spec) ∧
          spec.lines = (laterComponents raw.toList).filterMap lineIn? ∧
          spec.path =
            pathOf base
              (firstComponent raw.toList :: withoutLines (laterComponents raw.toList)) ∧
          (SaysTrailing base raw.toList spec ↔ LinesLast (laterComponents raw.toList))) := by
  have unreadable : Unreadable raw.toList ↔
      ∃ component ∈ laterComponents raw.toList, TooLong component :=
    exists_congr fun component => and_congr_right fun member =>
      misread_iff_tooLong (ascii component member)
  refine ⟨(exists_error_parse_iff tree base).trans unreadable, fun short => ?_⟩
  have readable : ¬Unreadable raw.toList := by
    rw [unreadable]
    rintro ⟨component, member, long⟩
    exact short component member long
  obtain ⟨spec, read, lines, path⟩ := exists_parse_of_readable tree base solid readable
  refine ⟨spec, read, lines, path, ?_⟩
  constructor
  · intro trailing
    exact filterMap_linesAtEnd_iff.mp (lines.symm.trans trailing.lines)
  · intro ordered
    refine ⟨lines.trans (filterMap_linesAtEnd_iff.mpr ordered), ?_⟩
    rw [path, withoutLines_eq_beforeLines ordered]

theorem parse_trailing_iff_mixed :
    ∃ spec, parse {} "/" "a:0::x:10:25" = .ok (some spec) ∧ spec.lines = [10, 25] ∧
      spec.path = "/a:0::x" ∧ SaysTrailing "/" "a:0::x:10:25".toList spec := by
  have solid : ¬∀ c ∈ "a:0::x:10:25".toList, isBlank c := fun blank =>
    absurd (blank 'a' (by decide)) (by decide)
  have ascii : ∀ component ∈ laterComponents "a:0::x:10:25".toList, isNumeral component →
      ∀ c ∈ component, c.isDigit := by
    simp only [← List.all_eq_true]
    decide
  have short : ∀ component ∈ laterComponents "a:0::x:10:25".toList, ¬TooLong component := by decide
  have ordered : LinesLast (laterComponents "a:0::x:10:25".toList) := by decide
  obtain ⟨-, reads⟩ := parse_trailing_iff {} "/" solid ascii
  obtain ⟨spec, read, lines, path, trailing⟩ := reads short
  exact ⟨spec, read, lines.trans (by decide), path.trans (by decide), trailing.mpr ordered⟩

/-- A number inside a path is taken out of the path. -/
theorem parse_takes_number_inside :
    ∃ spec, parse {} "/" "a.feature:10:b" = .ok (some spec) ∧ spec.lines = [10] ∧
      spec.path = "/a.feature:b" ∧ linesAtEnd (laterComponents "a.feature:10:b".toList) = [] ∧
      ¬SaysTrailing "/" "a.feature:10:b".toList spec := by
  have none : linesAtEnd (laterComponents "a.feature:10:b".toList) = [] := by decide
  refine ⟨{ path := "/a.feature:b", lines := [10] }, by decide +kernel, rfl, rfl, none, ?_⟩
  rintro ⟨lines, -⟩
  rw [none] at lines
  contradiction

end Gherkin.PathSpec
