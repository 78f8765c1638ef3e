import Gherkin.Proofs.Text.Blank
import Gherkin.Text.LowerCase

/-!
# Laws of lower case

Lower case does not depend on how often it is taken: no lower-case form is itself a capital, in
whatever context it stands.  White space stays at the ends of a text where it was, and comes to no
other end.
-/

namespace Gherkin.Text

/-! ## Runs of capitals -/

namespace CapitalRun

/-- A code point is one of the capitals of a run. -/
def Has (run : CapitalRun) (n : Nat) : Prop :=
  run.first ≤ n ∧ n ≤ run.last ∧ (n - run.first) % run.step = 0

instance (run : CapitalRun) (n : Nat) : Decidable (run.Has n) :=
  inferInstanceAs (Decidable (_ ∧ _))

/-- The least code point of a lower-case form. -/
def least (run : CapitalRun) : Nat :=
  (run.first + run.shift).toNat

/-- The greatest code point of a lower-case form. -/
def greatest (run : CapitalRun) : Nat :=
  (run.last + run.shift).toNat

/-- Whether the lower-case forms of a run lie beyond the capitals of another one, or between
them. -/
def avoids (run other : CapitalRun) : Bool :=
  run.greatest.blt other.first || other.last.blt run.least ||
    (other.step.beq 2 && (run.step.beq 2 || run.first.beq run.last) &&
      ((run.least + other.first) % 2).beq 1)

/-- Whether the lower-case forms of a run are characters, and none of them white space. -/
def formsSolid (run : CapitalRun) : Bool :=
  0 ≤ run.first + run.shift && run.first ≤ run.last &&
    (run.greatest.blt 0xD800 || (Nat.blt 0xDFFF run.least && run.greatest.blt 0x110000)) &&
    blankRanges.all fun range => run.greatest.blt range.1 || range.2.blt run.least

/-- What a run does not have in common with other runs and with white space. -/
theorem apart {run : CapitalRun} (member : run ∈ capitalRuns) :
    (∀ other ∈ capitalRuns, run.avoids other) ∧ run.formsSolid := by
  have all : capitalRuns.all fun run =>
      capitalRuns.all (run.avoids ·) && run.formsSolid := by
    decide +kernel
  simpa using List.all_eq_true.mp all run member

/-- The code point of the lower-case form of a capital. -/
def formOf (run : CapitalRun) (n : Nat) : Nat :=
  (n + run.shift).toNat

variable {run : CapitalRun} {n : Nat}

theorem least_eq (member : run ∈ capitalRuns) : (run.least : Int) = run.first + run.shift := by
  have solid := (apart member).2
  simp only [formsSolid, Bool.and_eq_true, decide_eq_true_eq] at solid
  exact Int.toNat_of_nonneg solid.1.1.1

theorem formOf_between (member : run ∈ capitalRuns) (capital : run.Has n) :
    (run.formOf n : Int) = n + run.shift ∧ run.least ≤ run.formOf n ∧
      run.formOf n ≤ run.greatest := by
  have leastEq := least_eq member
  obtain ⟨start, finish, -⟩ := capital
  rw [formOf, greatest]
  omega

/-- The lower-case form of a capital is a character. -/
theorem toNat_formOf (member : run ∈ capitalRuns) (capital : run.Has n) :
    (Char.ofNat (run.formOf n)).toNat = run.formOf n := by
  have solid := (apart member).2
  simp only [formsSolid, Bool.and_eq_true, Bool.or_eq_true, Nat.blt_eq] at solid
  obtain ⟨-, start, finish⟩ := formOf_between member capital
  have isChar : (run.formOf n).isValidChar := by
    rcases solid.1.2 with below | above
    · exact Or.inl (by omega)
    · exact Or.inr (by omega)
  delta Char.ofNat
  rw [dif_pos isChar]
  rfl

/-- The lower-case form of a capital is no capital. -/
theorem not_has_formOf (member : run ∈ capitalRuns) (capital : run.Has n) {other : CapitalRun}
    (otherMember : other ∈ capitalRuns) : ¬other.Has (run.formOf n) := by
  have avoids := (apart member).1 other otherMember
  simp only [CapitalRun.avoids, Bool.or_eq_true, Bool.and_eq_true, Nat.blt_eq, Nat.beq_eq] at avoids
  obtain ⟨shifted, start, finish⟩ := formOf_between member capital
  obtain ⟨runStart, runFinish, runStep⟩ := capital
  rintro ⟨otherStart, otherFinish, otherStep⟩
  rcases avoids with (before | after) | ⟨⟨two, place⟩, odd⟩
  · omega
  · omega
  · have leastEq := least_eq member
    rw [two] at otherStep
    rcases place with runTwo | single
    · rw [runTwo] at runStep
      omega
    · omega

/-- The lower-case form of a capital is no white space. -/
theorem not_isBlank_formOf (member : run ∈ capitalRuns) (capital : run.Has n) :
    ¬isBlank (Char.ofNat (run.formOf n)) := by
  have solid := (apart member).2
  simp only [formsSolid, Bool.and_eq_true, List.all_eq_true, Bool.or_eq_true, Nat.blt_eq] at solid
  obtain ⟨-, start, finish⟩ := formOf_between member capital
  intro blank
  obtain ⟨range, rangeMember, rangeStart, rangeFinish⟩ := Ranges.contains_eq_true_iff.mp blank
  rw [toNat_formOf member capital] at rangeStart rangeFinish
  rcases solid.2 range rangeMember with before | after <;> omega

end CapitalRun

/-! ## Characters -/

/-- A character that is no capital. -/
def IsSmall (c : Char) : Prop :=
  ∀ run ∈ capitalRuns, ¬run.Has c.toNat

instance (c : Char) : Decidable (IsSmall c) :=
  inferInstanceAs (Decidable (∀ run ∈ capitalRuns, ¬run.Has c.toNat))

/-- In ASCII the capitals are those of the first run. -/
theorem toLower_cases {c : Char} (ascii : c.toNat < 0x80) :
    IsSmall c ∧ c.toLower = c ∨
      ∃ run ∈ capitalRuns, run.Has c.toNat ∧ c.toLower = Char.ofNat (run.formOf c.toNat) := by
  have first : (⟨0x41, 0x5A, 1, 32⟩ : CapitalRun) ∈ capitalRuns := List.mem_cons_self
  have later : ∀ run ∈ capitalRuns.tail, 0x80 ≤ run.first := by decide +kernel
  by_cases capital : 0x41 ≤ c.toNat ∧ c.toNat ≤ 0x5A
  · right
    have has : CapitalRun.Has ⟨0x41, 0x5A, 1, 32⟩ c.toNat := ⟨capital.1, capital.2, Nat.mod_one _⟩
    have isCapital : c.val ≥ 'A'.val ∧ c.val ≤ 'Z'.val := by
      simpa [UInt32.le_iff_toNat_le] using capital
    refine ⟨_, first, has, Char.ext (UInt32.toNat_inj.mp ?_)⟩
    calc
      c.toLower.val.toNat = (c.val + 32).toNat := by
        delta Char.toLower
        rw [dif_pos isCapital]
        rfl
      _ = c.toNat + 32 := by
        have small : c.val.toNat + 32 < 2 ^ 32 := Nat.lt_trans (Nat.add_lt_add_right ascii 32)
          (by decide)
        rw [UInt32.toNat_add]
        exact Nat.mod_eq_of_lt small
      _ = (Char.ofNat (CapitalRun.formOf ⟨0x41, 0x5A, 1, 32⟩ c.toNat)).toNat :=
        (CapitalRun.toNat_formOf first has).symm
  · left
    constructor
    · intro run member has
      rcases List.mem_cons.mp member with rfl | inTail
      · exact capital ⟨has.1, has.2.1⟩
      · have start := later run inTail
        have reached := has.1
        omega
    · have noCapital : ¬(c.val ≥ 'A'.val ∧ c.val ≤ 'Z'.val) := by
        simpa [UInt32.le_iff_toNat_le] using capital
      delta Char.toLower
      rw [dif_neg noCapital]

/-- A character is small and stays as it is, or it is a capital with a form of its own. -/
theorem lowerChar_cases (c : Char) :
    IsSmall c ∧ lowerChar c = c ∨
      ∃ run ∈ capitalRuns, run.Has c.toNat ∧ lowerChar c = Char.ofNat (run.formOf c.toNat) := by
  rw [lowerChar]
  split
  · rename_i ascii
    exact toLower_cases ascii
  · split
    · rename_i run found
      have has := List.find?_some found
      simp only [Bool.and_eq_true, decide_eq_true_eq, beq_iff_eq] at has
      exact Or.inr ⟨run, List.mem_of_find?_eq_some found, ⟨has.1.1, has.1.2, has.2⟩, rfl⟩
    · rename_i none
      refine Or.inl ⟨fun run member has => ?_, rfl⟩
      have absent := List.find?_eq_none.mp none run member
      exact absent (by simpa using ⟨⟨has.1, has.2.1⟩, has.2.2⟩)

theorem isSmall_lowerChar (c : Char) : IsSmall (lowerChar c) := by
  rcases lowerChar_cases c with ⟨small, same⟩ | ⟨run, member, has, form⟩
  · rwa [same]
  · intro other otherMember
    rw [form, CapitalRun.toNat_formOf member has]
    exact CapitalRun.not_has_formOf member has otherMember

theorem lowerChar_of_isSmall {c : Char} (small : IsSmall c) : lowerChar c = c := by
  rcases lowerChar_cases c with ⟨-, same⟩ | ⟨run, member, has, -⟩
  · exact same
  · exact absurd has (small run member)

theorem not_isBlank_lowerChar {c : Char} (solid : ¬isBlank c) : ¬isBlank (lowerChar c) := by
  rcases lowerChar_cases c with ⟨-, same⟩ | ⟨run, member, has, form⟩
  · rwa [same]
  · rw [form]
    exact CapitalRun.not_isBlank_formOf member has

/-- The capital sigma and the dotted capital I are capitals. -/
theorem IsSmall.ne {c : Char} (small : IsSmall c) : c.toNat ≠ 0x3A3 ∧ c.toNat ≠ 0x130 := by
  have sigma : ¬∀ run ∈ capitalRuns, ¬run.Has 0x3A3 := by decide +kernel
  have dotted : ¬∀ run ∈ capitalRuns, ¬run.Has 0x130 := by decide +kernel
  rw [IsSmall] at small
  constructor
  · intro same
    exact sigma (same ▸ small)
  · intro same
    exact dotted (same ▸ small)

/-! ## Texts -/

/-- What a character becomes between others. -/
def formAt (before : List Char) (c : Char) (after : List Char) : List Char :=
  if c.toNat == 0x3A3 then
    [Char.ofNat (if casedNext before && !casedNext after then 0x3C2 else 0x3C3)]
  else if c.toNat == 0x130 then ['i', Char.ofNat 0x307]
  else [lowerChar c]

theorem lowerAfter_cons (before : List Char) (c : Char) (cs : List Char) :
    lowerAfter before (c :: cs) = formAt before c cs ++ lowerAfter (c :: before) cs :=
  rfl

/-- Some characters that are small, and no white space unless the given character is. -/
structure IsForm (c : Char) (form : List Char) : Prop where
  nonempty : form ≠ []
  small : ∀ d ∈ form, IsSmall d
  solid : ¬isBlank c → ∀ d ∈ form, ¬isBlank d

theorem isForm_formAt (before : List Char) (c : Char) (after : List Char) :
    IsForm c (formAt before c after) := by
  have sigmas : ∀ n ∈ [0x3C2, 0x3C3], IsSmall (Char.ofNat n) ∧ ¬isBlank (Char.ofNat n) := by
    decide +kernel
  have i : IsSmall 'i' ∧ ¬isBlank 'i' := by decide +kernel
  have dot : IsSmall (Char.ofNat 0x307) ∧ ¬isBlank (Char.ofNat 0x307) := by decide +kernel
  have dotted : ∀ d ∈ ['i', Char.ofNat 0x307], IsSmall d ∧ ¬isBlank d :=
    List.forall_mem_cons.mpr ⟨i, List.forall_mem_singleton.mpr dot⟩
  rw [formAt]
  split
  · have sigma := sigmas (if casedNext before && !casedNext after then 0x3C2 else 0x3C3)
      (by split <;> simp)
    exact ⟨List.cons_ne_nil _ _, List.forall_mem_singleton.mpr sigma.1,
      fun _ => List.forall_mem_singleton.mpr sigma.2⟩
  · split
    · exact ⟨List.cons_ne_nil _ _, fun d member => (dotted d member).1,
        fun _ d member => (dotted d member).2⟩
    · exact ⟨List.cons_ne_nil _ _, List.forall_mem_singleton.mpr (isSmall_lowerChar c),
        fun solid => List.forall_mem_singleton.mpr (not_isBlank_lowerChar solid)⟩

theorem lowerAfter_ne_nil (before : List Char) {cs : List Char} (nonempty : cs ≠ []) :
    lowerAfter before cs ≠ [] := by
  obtain ⟨c, rest, rfl⟩ := List.exists_cons_of_ne_nil nonempty
  rw [lowerAfter_cons]
  exact List.append_ne_nil_of_left_ne_nil (isForm_formAt before c rest).nonempty _

theorem isSmall_of_mem_lowerAfter {before cs : List Char} {d : Char}
    (member : d ∈ lowerAfter before cs) : IsSmall d := by
  induction cs generalizing before with
  | nil => contradiction
  | cons c cs ih =>
      rw [lowerAfter_cons, List.mem_append] at member
      rcases member with inForm | later
      · exact (isForm_formAt before c cs).small d inForm
      · exact ih later

/-- A text without capitals stays as it is. -/
theorem lowerAfter_of_isSmall (before : List Char) {cs : List Char} (small : ∀ c ∈ cs, IsSmall c) :
    lowerAfter before cs = cs := by
  induction cs generalizing before with
  | nil => rfl
  | cons c cs ih =>
      obtain ⟨first, later⟩ := List.forall_mem_cons.mp small
      obtain ⟨noSigma, notDotted⟩ := first.ne
      rw [lowerAfter_cons, formAt, if_neg (by simpa using noSigma),
        if_neg (by simpa using notDotted), lowerChar_of_isSmall first, ih _ later]
      rfl

/-- Lower case taken again changes nothing. -/
theorem lower_lower (cs : List Char) : lower (lower cs) = lower cs :=
  lowerAfter_of_isSmall [] fun _ member => isSmall_of_mem_lowerAfter member

theorem not_isBlank_getLast?_lowerAfter {before cs : List Char}
    (solid : ∀ c, cs.getLast? = some c → ¬isBlank c) {d : Char}
    (last : (lowerAfter before cs).getLast? = some d) : ¬isBlank d := by
  induction cs generalizing before with
  | nil => exact absurd last nofun
  | cons c cs ih =>
      rw [lowerAfter_cons] at last
      by_cases nonempty : cs = []
      · subst nonempty
        rw [lowerAfter, List.append_nil] at last
        exact (isForm_formAt before c []).solid (solid c rfl) d (List.mem_of_getLast? last)
      · rw [List.getLast?_append_of_ne_nil _ (lowerAfter_ne_nil _ nonempty)] at last
        refine ih (fun e lastOfRest => solid e ?_) last
        rw [List.getLast?_cons, lastOfRest]
        rfl

/-- Lower case leaves a text trimmed. -/
theorem Trimmed.lower {cs : List Char} (trimmed : Trimmed cs) : Trimmed (lower cs) := by
  obtain ⟨first, last⟩ := (trimmed_iff cs).mp trimmed
  refine (trimmed_iff _).mpr ⟨?_, fun d => not_isBlank_getLast?_lowerAfter last⟩
  intro d head
  cases cs with
  | nil => exact absurd head nofun
  | cons c cs =>
      have isForm := isForm_formAt [] c cs
      rw [Text.lower, lowerAfter_cons, List.head?_append_of_ne_nil _ isForm.nonempty] at head
      exact isForm.solid (first c rfl) d (List.mem_of_head? head)

end Gherkin.Text
