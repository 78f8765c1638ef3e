/-!
# Sorted lists of code-point ranges

Character classes of the Unicode standard are kept as lists of closed ranges.
A class is then plain data, and membership is one linear scan.
-/

namespace Gherkin.Text

/-- A character class: the closed ranges of code points that make it up. -/
abbrev Ranges := List (Nat × Nat)

/-- Whether a character's code point lies in one of the ranges. -/
def Ranges.contains (ranges : Ranges) (c : Char) : Bool :=
  ranges.any fun range => range.1 ≤ c.toNat && c.toNat ≤ range.2

theorem Ranges.contains_eq_true_iff {ranges : Ranges} {c : Char} :
    ranges.contains c = true ↔
      ∃ range ∈ ranges, range.1 ≤ c.toNat ∧ c.toNat ≤ range.2 := by
  simp [Ranges.contains]

end Gherkin.Text
