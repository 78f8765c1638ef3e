import Gherkin.Path.Spec
import Gherkin.Proofs.Text.Blank
import Gherkin.Proofs.Text.Integer
import Gherkin.Proofs.Text.Search

/-!
# Which path specs can be read

A component that consists of digits is read as an integer.  Digits with which no integer is
written, and numerals that are too long, make the whole path spec unreadable; every other text is
blank or a path spec with positive lines.
-/

namespace Gherkin.PathSpec

open Gherkin.Text

/-! ## Components -/

/-- Whether a component is taken for a number. -/
def isNumeral (component : List Char) : Bool :=
  !component.isEmpty && component.all isDigit

/-- The component is taken for a number, but none can be read from it: not all of its digits are
decimal, or there are too many of them. -/
def Misread (component : List Char) : Prop :=
  isNumeral component ∧
    ((∃ c ∈ component, ¬isDecimal c) ∨ maxIntegerDigits < component.length)

/-- The line number that a component gives. -/
def lineIn? (component : List Char) : Option Int :=
  if isNumeral component && 0 < valueOf component then some (valueOf component) else none

theorem pos_of_lineIn? {component : List Char} {line : Int}
    (found : lineIn? component = some line) : 0 < line := by
  rw [lineIn?] at found
  split at found
  · rename_i positive
    obtain rfl := Option.some.inj found
    simp only [Bool.and_eq_true, decide_eq_true_eq] at positive
    exact Int.natCast_pos.mpr positive.2
  · contradiction

theorem isNumeral_iff {component : List Char} :
    isNumeral component ↔ component ≠ [] ∧ ∀ c ∈ component, isDigit c := by
  simp [isNumeral]

/-- The component joins the path. -/
def joinText (component : List Char) (after : List Char × List Int) : List Char × List Int :=
  (':' :: component ++ after.1, after.2)

/-- What a component adds to what was read of those after it. -/
def put (component : List Char) (after : List Char × List Int) : List Char × List Int :=
  match lineIn? component with
  | some line => (after.1, line :: after.2)
  | none => joinText component after

theorem components_cons_of_text {component : List Char} (text : ¬isNumeral component)
    (rest : List (List Char)) :
    components (component :: rest) = (components rest).map (joinText component) := by
  rw [isNumeral] at text
  rw [components, if_neg text]
  cases components rest <;> rfl

theorem components_cons_of_numeral {component : List Char} (numeral : isNumeral component)
    (rest : List (List Char)) :
    components (component :: rest) =
      match readInteger (String.ofList component) with
      | .error error => .error error
      | .ok n =>
          (components rest).map fun after =>
            if 0 < n then (after.1, n :: after.2) else joinText component after := by
  rw [isNumeral] at numeral
  rw [components, if_pos numeral]
  cases readInteger (String.ofList component) with
  | error error => rfl
  | ok n =>
      by_cases positive : 0 < n <;> cases components rest <;>
        simp [bind, Except.bind, positive, joinText, Except.map, pure, Except.pure]

/-- A component that is misread ends reading. -/
theorem components_cons_of_misread {component : List Char} (misread : Misread component)
    (rest : List (List Char)) : ∃ error, components (component :: rest) = .error error := by
  obtain ⟨numeral, unreadable⟩ := misread
  obtain ⟨nonempty, digits⟩ := isNumeral_iff.mp numeral
  have failed : ∃ error, readInteger (String.ofList component) = .error error := by
    by_cases decimal : ∀ c ∈ component, isDecimal c
    · rcases unreadable with ⟨c, member, special⟩ | long
      · exact absurd (decimal c member) special
      · rw [readInteger_of_isDecimal nonempty decimal, if_pos long]
        exact ⟨_, rfl⟩
    · push Not at decimal
      obtain ⟨c, member, special⟩ := decimal
      exact exists_error_of_not_isDecimal digits member special
  obtain ⟨error, failed⟩ := failed
  rw [components_cons_of_numeral numeral, failed]
  exact ⟨error, rfl⟩

/-- Any other component gives a line or joins the path. -/
theorem components_cons_of_readable {component : List Char} (readable : ¬Misread component)
    (rest : List (List Char)) :
    components (component :: rest) = (components rest).map (put component) := by
  by_cases numeral : isNumeral component
  · obtain ⟨nonempty, digits⟩ := isNumeral_iff.mp numeral
    simp only [Misread, numeral, true_and, not_or, not_exists, not_and, not_not,
      Nat.not_lt] at readable
    obtain ⟨decimal, short⟩ := readable
    rw [components_cons_of_numeral numeral, readInteger_of_isDecimal nonempty decimal,
      if_neg (Nat.not_lt.mpr short)]
    refine congrArg (Except.map · (components rest)) (funext fun after => ?_)
    rw [put, lineIn?, numeral, Bool.true_and]
    by_cases positive : 0 < valueOf component <;> simp [positive]
  · have noLine : lineIn? component = none := by simp [lineIn?, numeral]
    rw [components_cons_of_text numeral]
    refine congrArg (Except.map · (components rest)) (funext fun after => ?_)
    rw [put, noLine]

/-- Components of which none is misread are read one after the other. -/
theorem components_of_readable {list : List (List Char)}
    (readable : ∀ component ∈ list, ¬Misread component) :
    components list = .ok (list.foldr put ([], [])) := by
  induction list with
  | nil => rfl
  | cons component rest ih =>
      obtain ⟨first, later⟩ := List.forall_mem_cons.mp readable
      rw [components_cons_of_readable first, ih later]
      rfl

/-- A component that is misread ends reading, wherever it stands. -/
theorem exists_error_components {list : List (List Char)} {component : List Char}
    (member : component ∈ list) (misread : Misread component) :
    ∃ error, components list = .error error := by
  induction list with
  | nil => contradiction
  | cons first rest ih =>
      by_cases misreadFirst : Misread first
      · exact components_cons_of_misread misreadFirst rest
      · rcases List.mem_cons.mp member with rfl | later
        · exact absurd misread misreadFirst
        · obtain ⟨error, failed⟩ := ih later
          rw [components_cons_of_readable misreadFirst, failed]
          exact ⟨error, rfl⟩

/-- The lines are those that the components give. -/
theorem foldr_put_snd (list : List (List Char)) :
    (list.foldr put ([], [])).2 = list.filterMap lineIn? := by
  induction list with
  | nil => rfl
  | cons component rest ih =>
      rw [List.foldr_cons, put]
      cases line : lineIn? component with
      | none => rw [List.filterMap_cons_none line, ← ih, joinText]
      | some n => rw [List.filterMap_cons_some line, ← ih]

/-! ## Path specs -/

/-- What a path spec begins with, up to the first colon. -/
def firstComponent (raw : List Char) : List Char :=
  (splitAt ':' (trim raw)).headD []

/-- The components of a path spec after the first. -/
def laterComponents (raw : List Char) : List (List Char) :=
  (splitAt ':' (trim raw)).tail

/-- One of the components after the first is misread. -/
def Unreadable (raw : List Char) : Prop :=
  ∃ component ∈ laterComponents raw, Misread component

/-- The path spec of a path and lines. -/
def ofPart (tree : FileTree) (base : String) (part : List Char) (lines : List Int) : PathSpec :=
  let path := Path.resolve base (String.ofList part)
  { path, lines, isDirectory := part.getLast? == some '/' || tree.isDirectory path }

theorem parse_of_blank (tree : FileTree) (base : String) {raw : String}
    (blank : ∀ c ∈ raw.toList, isBlank c) : parse tree base raw = .ok none := by
  rw [parse, trim_eq_nil_iff.mpr blank]
  rfl

theorem parse_of_not_blank (tree : FileTree) (base : String) {raw : String}
    (solid : ¬∀ c ∈ raw.toList, isBlank c) :
    parse tree base raw =
      (components (laterComponents raw.toList)).map fun after =>
        some (ofPart tree base (firstComponent raw.toList ++ after.1) after.2) := by
  have nonempty : trim raw.toList ≠ [] := fun empty => solid (trim_eq_nil_iff.mp empty)
  obtain ⟨first, rest, pieces⟩ :=
    List.exists_cons_of_ne_nil (splitAt_ne_nil ':' (trim raw.toList))
  have notEmpty : first :: rest ≠ [[]] := by
    rintro alone
    have whole := join_splitAt ':' (trim raw.toList)
    rw [pieces, alone] at whole
    exact nonempty whole.symm
  rw [parse, firstComponent, laterComponents, pieces, List.tail_cons]
  split
  · contradiction
  · rename_i alone
    exact absurd alone notEmpty
  · rename_i same
    obtain ⟨rfl, rfl⟩ := List.cons.inj same
    cases components rest <;> rfl

theorem parse_eq_ok_none_iff {tree : FileTree} {base raw : String} :
    parse tree base raw = .ok none ↔ ∀ c ∈ raw.toList, isBlank c := by
  constructor
  · intro nothing
    by_contra solid
    rw [parse_of_not_blank tree base solid] at nothing
    cases read : components (laterComponents raw.toList) <;> rw [read] at nothing <;>
      simp [Except.map] at nothing
  · exact parse_of_blank tree base

/-- A text is read unless one of the components is misread. -/
theorem exists_error_parse_iff (tree : FileTree) (base : String) {raw : String} :
    (∃ error, parse tree base raw = .error error) ↔ Unreadable raw.toList := by
  by_cases blank : ∀ c ∈ raw.toList, isBlank c
  · have noComponents : laterComponents raw.toList = [] := by
      rw [laterComponents, trim_eq_nil_iff.mpr blank]
      rfl
    simp [parse_of_blank tree base blank, Unreadable, noComponents]
  · rw [parse_of_not_blank tree base blank]
    constructor
    · rintro ⟨error, failed⟩
      by_contra readable
      have each : ∀ component ∈ laterComponents raw.toList, ¬Misread component :=
        fun component member misread => readable ⟨component, member, misread⟩
      rw [components_of_readable each] at failed
      contradiction
    · rintro ⟨component, member, misread⟩
      obtain ⟨error, failed⟩ := exists_error_components member misread
      rw [failed]
      exact ⟨error, rfl⟩

/-- The lines of a path spec that was read are those that its components give. -/
theorem lines_of_parse {tree : FileTree} {base raw : String} {spec : PathSpec}
    (read : parse tree base raw = .ok (some spec)) :
    spec.lines = (laterComponents raw.toList).filterMap lineIn? := by
  have solid : ¬∀ c ∈ raw.toList, isBlank c := fun blank =>
    absurd ((parse_of_blank tree base blank).symm.trans read) nofun
  have each : ∀ component ∈ laterComponents raw.toList, ¬Misread component := by
    intro component member misread
    obtain ⟨error, failed⟩ := (exists_error_parse_iff tree base).mpr ⟨component, member, misread⟩
    exact absurd (failed.symm.trans read) nofun
  rw [parse_of_not_blank tree base solid, components_of_readable each] at read
  obtain rfl := Option.some.inj (Except.ok.inj read)
  exact foldr_put_snd _

/-! ## Lists of path specs -/

/-- Several path specs are read unless one of them cannot be. -/
theorem exists_error_parseAll_iff (tree : FileTree) (base : String) {list : List String} :
    (∃ error, parseAll tree base list = .error error) ↔
      ∃ raw ∈ list, Unreadable raw.toList := by
  induction list with
  | nil => simp [parseAll]
  | cons raw rest ih =>
      rw [List.exists_mem_cons_iff, ← ih, ← exists_error_parse_iff tree base, parseAll]
      cases parse tree base raw <;> cases parseAll tree base rest <;>
        simp [bind, Except.bind, pure, Except.pure]

/-- Some word of a text cannot be read. -/
def UnreadableIn (text : String) : Prop :=
  ∃ word ∈ words text.toList, Unreadable word

theorem exists_error_parseList_iff (tree : FileTree) (base : String) {text : String} :
    (∃ error, parseList tree base text = .error error) ↔ UnreadableIn text := by
  rw [parseList, exists_error_parseAll_iff, UnreadableIn]
  simp

theorem exists_error_ofEnvironment_iff {tree : FileTree} {environment : Environment} :
    (∃ error, ofEnvironment tree environment = .error error) ↔
      UnreadableIn ((environment.find? featuresVariable).getD "") := by
  rw [← exists_error_parseList_iff tree tree.workingPath, ofEnvironment]
  cases parseList tree tree.workingPath ((environment.find? featuresVariable).getD "") <;>
    simp [bind, Except.bind, pure, Except.pure]

/-- What the variable for features holds. -/
def featuresText (environment : Environment) : String :=
  (environment.find? featuresVariable).getD ""

/-- A text is no path spec exactly when it is blank, and the lines of a path spec are positive.  A
text, a list of texts and an environment can be read exactly when no component is misread. -/
theorem parse_unless_misread (tree : FileTree) (base raw : String) :
    (parse tree base raw = .ok none ↔ ∀ c ∈ raw.toList, isBlank c) ∧
      (∀ spec, parse tree base raw = .ok (some spec) →
        spec.lines = (laterComponents raw.toList).filterMap lineIn? ∧
          ∀ line ∈ spec.lines, 1 ≤ line) ∧
      ((∃ error, parse tree base raw = .error error) ↔ Unreadable raw.toList) ∧
      ((∃ error, parseList tree base raw = .error error) ↔ UnreadableIn raw) ∧
      ∀ environment : Environment, (∃ error, ofEnvironment tree environment = .error error) ↔
        UnreadableIn ((environment.find? featuresVariable).getD "") := by
  refine ⟨parse_eq_ok_none_iff, ?_, exists_error_parse_iff tree base,
    exists_error_parseList_iff tree base, fun _ => exists_error_ofEnvironment_iff⟩
  intro spec read
  have lines := lines_of_parse read
  refine ⟨lines, ?_⟩
  intro line member
  rw [lines] at member
  obtain ⟨component, -, found⟩ := List.mem_filterMap.mp member
  exact pos_of_lineIn? found

/-- A superscript is a digit with which no integer is written. -/
theorem parse_fails_at_superscript :
    parse {} "/" "a:²" = .error (.malformed "²") ∧ Unreadable "a:²".toList := by
  have failed : parse {} "/" "a:²" = .error (.malformed "²") := by decide +kernel
  exact ⟨failed, (exists_error_parse_iff {} "/").mp ⟨_, failed⟩⟩

end Gherkin.PathSpec
