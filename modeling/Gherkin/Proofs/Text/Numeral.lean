import Gherkin.Proofs.Text.Integer
import Gherkin.Proofs.Text.Search
import Mathlib.Algebra.Order.Ring.Nat

/-!
# Numerals

A number is written in base ten with digits of ASCII.  Its numeral is known among other texts,
and its digits give the number back, however many there are.
-/

namespace Gherkin.Text

theorem toList_numeral (n : Nat) : (toString n).toList = Nat.toDigits 10 n := by
  rw [Nat.toString_eq_ofList_toDigits, String.toList_ofList]

/-! ## Digits -/

theorem isDigit_of_mem_numeral {c : Char} {n : Nat} (member : c ∈ (toString n).toList) :
    c.isDigit := by
  rw [toList_numeral] at member
  exact Nat.isDigit_of_mem_toDigits (Nat.succ_pos 9) (Nat.le_refl 10) member

/-- A numeral holds nothing but digits. -/
theorem not_mem_numeral {c : Char} (noDigit : c.isDigit = false) (n : Nat) :
    c ∉ (toString n).toList := by
  intro member
  rw [isDigit_of_mem_numeral member] at noDigit
  contradiction

theorem numeral_ne_nil (n : Nat) : (toString n).toList ≠ [] := by
  rw [toList_numeral]
  exact Nat.toDigits_ne_nil

theorem solid_numeral (n : Nat) : ∀ c ∈ (toString n).toList, ¬isBlank c := by
  intro c member
  exact not_isBlank_of_isDigit
    (isDigit_of_isDecimal (isDecimal_of_isDigit (isDigit_of_mem_numeral member)))

/-- The number of digits tells the size of the number. -/
theorem length_numeral_le_iff {n digits : Nat} (positive : 0 < digits) :
    (toString n).toList.length ≤ digits ↔ n < 10 ^ digits := by
  rw [toList_numeral]
  exact Nat.length_toDigits_le_iff (by decide) positive

/-! ## Values -/

/-- Digits of ASCII write the number that they are a numeral of. -/
theorem valueOf_eq_ofDigitChars {cs : List Char} (digits : ∀ c ∈ cs, c.isDigit) :
    valueOf cs = Nat.ofDigitChars 10 cs 0 := by
  have values : cs.filterMap digitValue? = cs.map fun c => c.toNat - '0'.toNat := by
    rw [← List.filterMap_eq_map]
    apply List.filterMap_congr
    intro c member
    exact digitValue?_of_isDigit (digits c member)
  rw [valueOf, values, ofDigits, List.foldl_map, Nat.ofDigitChars_eq_foldl]

theorem valueOf_numeral (n : Nat) : valueOf (toString n).toList = n := by
  rw [valueOf_eq_ofDigitChars fun c => isDigit_of_mem_numeral, toList_numeral,
    Nat.ofDigitChars_ten_toDigits]

/-- Different numbers have different numerals. -/
theorem numeral_inj {m n : Nat} (equal : (toString m).toList = (toString n).toList) : m = n := by
  rw [← valueOf_numeral m, equal, valueOf_numeral]

/-- A numeral that is followed by no digit is known from the text. -/
theorem numeral_append_inj {m n : Nat} {c : Char} (noDigit : c.isDigit = false)
    {rest rest' : List Char}
    (equal : (toString m).toList ++ c :: rest = (toString n).toList ++ c :: rest') :
    m = n ∧ rest = rest' := by
  have pieces := congrArg (splitAt c) equal
  rw [splitAt_append_cons (not_mem_numeral noDigit m),
    splitAt_append_cons (not_mem_numeral noDigit n)] at pieces
  obtain rfl : m = n := numeral_inj (List.cons.inj pieces).1
  exact ⟨rfl, (List.cons.inj (List.append_cancel_left equal)).2⟩

end Gherkin.Text
