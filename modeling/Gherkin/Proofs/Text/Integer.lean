import Gherkin.Text.Integer
import Mathlib.Data.List.TakeWhile

/-!
# Reading digits as integers

Digits in the wide sense include some with which no integer can be written.  A text of such
digits is read as an integer exactly when all of them are decimal and there are not too many of
them, and then its value is the one that the digits write in base ten.
-/

namespace Gherkin.Text

/-! ## Character classes -/

/-- Classes without a common character. -/
def Ranges.Apart (first second : Ranges) : Prop :=
  ∀ a ∈ first, ∀ b ∈ second, a.2 < b.1 ∨ b.2 < a.1

instance (first second : Ranges) : Decidable (first.Apart second) :=
  inferInstanceAs (Decidable (∀ a ∈ first, ∀ b ∈ second, a.2 < b.1 ∨ b.2 < a.1))

theorem Ranges.Apart.not_contains {first second : Ranges} (apart : first.Apart second) {c : Char}
    (inFirst : first.contains c) : ¬second.contains c := by
  intro inSecond
  obtain ⟨a, aMember, aStart, aEnd⟩ := contains_eq_true_iff.mp inFirst
  obtain ⟨b, bMember, bStart, bEnd⟩ := contains_eq_true_iff.mp inSecond
  rcases apart a aMember b bMember with before | after <;> omega

/-- The decimal digits of all scripts. -/
def decimalRanges : Ranges :=
  decimalZeros.map fun start => (start, start + 9)

theorem isDecimal_eq_contains (c : Char) : isDecimal c = decimalRanges.contains c := by
  rw [isDecimal, digitValue?, Option.isSome_map, List.isSome_find?, Ranges.contains,
    decimalRanges, List.any_map]
  refine congrArg (List.any decimalZeros) (funext fun start => ?_)
  simp [Nat.lt_succ_iff]

theorem isDigit_eq_contains (c : Char) :
    isDigit c = (decimalRanges ++ specialDigitRanges).contains c := by
  rw [isDigit, isDecimal_eq_contains, Ranges.contains, Ranges.contains, Ranges.contains,
    List.any_append]

/-- Digits are no white space. -/
theorem not_isBlank_of_isDigit {c : Char} (digit : isDigit c) : ¬isBlank c := by
  have apart : (decimalRanges ++ specialDigitRanges).Apart blankRanges := by decide +kernel
  exact apart.not_contains (isDigit_eq_contains c ▸ digit)

theorem isNumeralBlank_eq_false_of_isDigit {c : Char} (digit : isDigit c) :
    isNumeralBlank c = false := by
  rw [isNumeralBlank, Bool.eq_false_iff.mpr (not_isBlank_of_isDigit digit), Bool.false_and]

theorem isDigit_of_isDecimal {c : Char} (decimal : isDecimal c) : isDigit c := by
  rw [isDigit, decimal, Bool.true_or]

/-- The value of a digit of ASCII is its distance from zero. -/
theorem digitValue?_of_isDigit {c : Char} (digit : c.isDigit) :
    digitValue? c = some (c.toNat - '0'.toNat) := by
  have inRange : 0x30 ≤ c.toNat ∧ c.toNat ≤ 0x30 + 9 := by
    simpa [Char.isDigit, UInt32.le_iff_toNat_le] using digit
  have first : decimalZeros.find? (fun start => start ≤ c.toNat && c.toNat < start + 10) =
      some 0x30 :=
    List.find?_cons_of_pos (by simpa [Nat.lt_succ_iff] using inRange)
  rw [digitValue?, first]
  rfl

/-- The digits of ASCII are decimal. -/
theorem isDecimal_of_isDigit {c : Char} (digit : c.isDigit) : isDecimal c := by
  rw [isDecimal, digitValue?_of_isDigit digit]
  rfl

/-- A character that is no digit differs from all digits. -/
theorem ne_of_isDigit {c other : Char} (digit : isDigit c) (noDigit : isDigit other = false) :
    c ≠ other := by
  rintro rfl
  rw [noDigit] at digit
  contradiction

/-! ## Digits -/

/-- The number that the decimal digits of a text write. -/
def valueOf (cs : List Char) : Nat :=
  ofDigits (cs.filterMap digitValue?)

/-- No sign is taken off a text that begins with a digit. -/
theorem takeSign_of_isDigit {c : Char} (digit : isDigit c) (cs : List Char) :
    takeSign (c :: cs) = (false, c :: cs) := by
  have noMinus : c ≠ '-' := ne_of_isDigit digit (by decide)
  have noPlus : c ≠ '+' := ne_of_isDigit digit (by decide)
  rw [takeSign]
  · rintro rest ⟨rfl, -⟩
    exact noMinus rfl
  · rintro rest ⟨rfl, -⟩
    exact noPlus rfl

theorem takeDigits_cons_of_not_decimal {c : Char} (noValue : digitValue? c = none)
    (noUnderscore : c ≠ '_') (cs : List Char) : takeDigits (c :: cs) = some ([], c :: cs) := by
  rw [takeDigits]
  simp only [noValue]
  rw [if_neg noUnderscore]

/-- A digit is taken together with those that follow, unless an underscore follows. -/
theorem takeDigits_cons_of_decimal {c : Char} {digit : Nat} (value : digitValue? c = some digit)
    {cs : List Char} (noUnderscore : cs.head? ≠ some '_') :
    takeDigits (c :: cs) = (takeDigits cs).map fun (ds, after) => (digit :: ds, after) := by
  rw [takeDigits]
  simp only [value]
  split
  · exact absurd rfl noUnderscore
  · exact absurd rfl noUnderscore
  · rfl

/-- Of digits the decimal ones at the front are taken. -/
theorem takeDigits_of_isDigit {cs : List Char} (digits : ∀ c ∈ cs, isDigit c) :
    takeDigits cs =
      some ((cs.takeWhile isDecimal).filterMap digitValue?, cs.dropWhile isDecimal) := by
  have noUnderscore {c : Char} (member : c ∈ cs) : c ≠ '_' :=
    ne_of_isDigit (digits c member) (by decide)
  induction cs with
  | nil => rfl
  | cons c cs ih =>
      cases value : digitValue? c with
      | none =>
          have noDecimal : ¬isDecimal c := by simp [isDecimal, value]
          rw [takeDigits_cons_of_not_decimal value (noUnderscore List.mem_cons_self),
            List.takeWhile_cons_of_neg noDecimal, List.dropWhile_cons_of_neg noDecimal]
          rfl
      | some digit =>
          have decimal : isDecimal c := by simp [isDecimal, value]
          have next : cs.head? ≠ some '_' := fun first =>
            noUnderscore (List.mem_cons_of_mem c (List.mem_of_head? first)) rfl
          rw [takeDigits_cons_of_decimal value next,
            ih (fun d member => digits d (List.mem_cons_of_mem c member))
              (fun member => noUnderscore (List.mem_cons_of_mem c member)),
            List.takeWhile_cons_of_pos decimal, List.dropWhile_cons_of_pos decimal,
            List.filterMap_cons_some value]
          rfl

theorem length_filterMap_digitValue? {cs : List Char} (decimal : ∀ c ∈ cs, isDecimal c) :
    (cs.filterMap digitValue?).length = cs.length := by
  rw [List.length_filterMap_eq_countP, List.countP_eq_length]
  exact decimal

/-! ## Integers -/

/-- Nothing is left out in front of digits, and no sign is read. -/
theorem readInteger_of_isDigit {cs : List Char} (nonempty : cs ≠ [])
    (digits : ∀ c ∈ cs, isDigit c) :
    readInteger (String.ofList cs) =
      match (cs.takeWhile isDecimal).filterMap digitValue? with
      | [] => .error (.malformed (String.ofList cs))
      | values =>
          if maxIntegerDigits < values.length then .error (.tooLong values.length)
          else if !(cs.dropWhile isDecimal).all isNumeralBlank then
            .error (.malformed (String.ofList cs))
          else .ok (ofDigits values) := by
  obtain ⟨c, rest, rfl⟩ := List.exists_cons_of_ne_nil nonempty
  have first : isDigit c := digits c List.mem_cons_self
  have start : (c :: rest).dropWhile isNumeralBlank = c :: rest :=
    List.dropWhile_cons_of_neg (Bool.eq_false_iff.mp (isNumeralBlank_eq_false_of_isDigit first))
  rw [readInteger, String.toList_ofList, start, takeSign_of_isDigit first]
  simp only [takeDigits_of_isDigit digits]
  cases ((c :: rest).takeWhile isDecimal).filterMap digitValue? <;> rfl

/-- Decimal digits are an integer unless there are too many of them. -/
theorem readInteger_of_isDecimal {cs : List Char} (nonempty : cs ≠ [])
    (decimal : ∀ c ∈ cs, isDecimal c) :
    readInteger (String.ofList cs) =
      if maxIntegerDigits < cs.length then .error (.tooLong cs.length) else .ok (valueOf cs) := by
  have whole : cs.takeWhile isDecimal = cs := List.takeWhile_eq_self_iff.mpr decimal
  have nothingAfter : cs.dropWhile isDecimal = [] := List.dropWhile_eq_nil_iff.mpr decimal
  have length := length_filterMap_digitValue? decimal
  rw [readInteger_of_isDigit nonempty fun c member => isDigit_of_isDecimal (decimal c member),
    whole, nothingAfter, valueOf]
  cases values : cs.filterMap digitValue? with
  | nil =>
      rw [values] at length
      exact absurd (List.length_eq_zero_iff.mp length.symm) nonempty
  | cons value rest =>
      rw [values] at length
      simp only [length, List.all_nil, Bool.not_true, Bool.false_eq_true, if_false]

/-- Digits of which one is not decimal are no integer. -/
theorem exists_error_of_not_isDecimal {cs : List Char} (digits : ∀ c ∈ cs, isDigit c) {c : Char}
    (member : c ∈ cs) (special : ¬isDecimal c) :
    ∃ error, readInteger (String.ofList cs) = .error error := by
  rw [readInteger_of_isDigit (List.ne_nil_of_mem member) digits]
  split
  · exact ⟨_, rfl⟩
  · split
    · exact ⟨_, rfl⟩
    · have left : cs.dropWhile isDecimal ≠ [] := fun nothing =>
        special (List.dropWhile_eq_nil_iff.mp nothing c member)
      obtain ⟨d, rest, after⟩ := List.exists_cons_of_ne_nil left
      have inText : d ∈ cs :=
        (List.dropWhile_suffix isDecimal).subset (after ▸ List.mem_cons_self)
      have noBlank := isNumeralBlank_eq_false_of_isDigit (digits d inText)
      rw [after, List.all_cons, noBlank]
      exact ⟨_, rfl⟩

end Gherkin.Text
