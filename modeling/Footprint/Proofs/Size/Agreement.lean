import Footprint.Proofs.Decimal.Operations
import Footprint.Proofs.Size.Shown

/-!
# The two number systems agree

An operation on whole numbers has one exact result, and what either number system makes of it is
determined by that: decimals hold it, and whole numbers of 64 bits hold it if it is in their range
and are out of range otherwise (`Arithmetic.agree_check`). So the two systems agree on a sum, a
difference, a product and a quotient as soon as the decimal has the value and the exponent of the
exact result. It need not be the decimal that the result is written as: a product may be a negative
zero, which has the same text as zero (`Decimal.fixed_of_value`).

Halving is not a single operation. It adds one away from zero first, and at the two ends of the
range that sum leaves it, although the half would be in there (`Arithmetic.halfRounded_int64`).
-/

namespace Footprint

namespace Decimal

variable {d : Decimal} {n : ℤ}

theorem eq_ofInt_of_value (hvalue : d.value = n) (hexponent : d.exponent = 0) (hn : n ≠ 0) :
    d = ofInt n := by
  have hsigned : d.signed = n := by
    rw [value, hexponent, zpow_zero, mul_one] at hvalue
    exact_mod_cast hvalue
  obtain ⟨negative, coefficient, exponent⟩ := d
  obtain rfl : exponent = 0 := hexponent
  rw [ofInt, Decimal.mk.injEq]
  cases negative with
  | true =>
    have hneg : -(coefficient : ℤ) = n := hsigned
    exact ⟨(decide_eq_true (by omega)).symm, by omega, rfl⟩
  | false =>
    have hpos : (coefficient : ℤ) = n := hsigned
    exact ⟨(decide_eq_false (by omega)).symm, by omega, rfl⟩

/-- A decimal without exponent is shown as the whole number that it stands for, without a sign if
that is zero. -/
theorem fixed_of_value (hvalue : d.value = n) (hexponent : d.exponent = 0) :
    d.fixed = toString n := by
  by_cases hn : n = 0
  · subst hn
    have hzero : d.isZero = true := by
      rw [isZero_iff, ← value_eq_zero_iff, hvalue, Int.cast_zero]
    rw [fixed, if_pos hzero, fixedDigits, if_pos hexponent.ge, if_pos hzero]
    rfl
  · rw [eq_ofInt_of_value hvalue hexponent hn, fixed_ofInt]

end Decimal

namespace Int64Range

/-- The integers of 64 bits. -/
def Holds (n : ℤ) : Prop := least ≤ n ∧ n ≤ greatest

instance (n : ℤ) : Decidable (Holds n) := inferInstanceAs (Decidable (least ≤ n ∧ n ≤ greatest))

variable {a b n : ℤ}

theorem check_eq_ok_iff {r : ℤ} : check n = .ok r ↔ n = r ∧ Holds r := by
  rw [check_eq]
  split
  · next h =>
    rw [Except.ok.injEq]
    exact (and_iff_left_of_imp fun heq => heq ▸ h).symm
  · next h =>
    refine iff_of_false nofun ?_
    rintro ⟨rfl, hr⟩
    exact h hr

theorem check_eq_outOfRange_iff : check n = .error .outOfRange ↔ ¬Holds n := by
  rw [check_eq]
  split
  · next h => exact iff_of_false nofun (not_not_intro h)
  · next h => exact iff_of_true rfl h

theorem check_ne_divisionByZero (n : ℤ) : check n ≠ .error .divisionByZero := by
  rw [check_eq]
  split <;> nofun

/-- **Only one quotient leaves the range.** -/
theorem holds_tdiv_iff (ha : Holds a) (hb : b ≠ 0) :
    Holds (a.tdiv b) ↔ ¬(a = least ∧ b = -1) := by
  unfold Holds least greatest at *
  by_cases hone : b = -1
  · subst hone
    rw [Int.tdiv_neg, Int.tdiv_one]
    omega
  · refine iff_of_true ?_ fun h => hone h.2
    rcases eq_or_ne b 1 with rfl | hne
    · rwa [Int.tdiv_one]
    · -- A divisor that is neither one nor minus one halves the magnitude at least.
      have hhalf : (a.tdiv b).natAbs ≤ a.natAbs / 2 := by
        rw [Int.natAbs_tdiv]
        exact Nat.div_le_div_left (by omega) (by decide)
      omega

end Int64Range

namespace Arithmetic

open Int64Range

variable {a b n : ℤ}

/-- What the two number systems make of an operation on the same whole numbers. -/
structure Agree (whole : Except Error ℤ) (decimal : Except Error Decimal) : Prop where
  ok_iff : ∀ r, whole = .ok r ↔ (∃ d, decimal = .ok d ∧ d.value = r) ∧ Holds r
  outOfRange_iff : whole = .error .outOfRange ↔
    ∃ d, decimal = .ok d ∧ ∃ r : ℤ, d.value = r ∧ ¬Holds r
  divisionByZero_iff : whole = .error .divisionByZero ↔ decimal = .error .divisionByZero
  /-- Nothing else can come of it. -/
  exact : decimal = .error .divisionByZero ∨ ∃ d, decimal = .ok d ∧ ∃ r : ℤ, d.value = r
  text_eq : ∀ r d, whole = .ok r → decimal = .ok d → int64.text r = numeric.text d

/-- **One exact result.** Whole numbers of 64 bits hold it or are out of range, and the decimal has
its value. -/
theorem agree_check {d : Decimal} (hvalue : d.value = n) (hexponent : d.exponent = 0) :
    Agree (check n) (.ok d) := by
  have hvalue_iff : ∀ r : ℤ, d.value = r ↔ n = r := by
    intro r
    rw [hvalue, Int.cast_inj]
  refine ⟨fun r => ?_, ?_, ?_, Or.inr ⟨d, rfl, n, hvalue⟩, ?_⟩
  · rw [check_eq_ok_iff, ← hvalue_iff]
    simp
  · rw [check_eq_outOfRange_iff]
    simp [hvalue_iff]
  · exact iff_of_false (check_ne_divisionByZero n) nofun
  · rintro r _ hr ⟨⟩
    obtain ⟨rfl, -⟩ := check_eq_ok_iff.mp hr
    exact (Decimal.fixed_of_value hvalue hexponent).symm

theorem agree_divisionByZero : Agree (.error .divisionByZero) (.error .divisionByZero) where
  ok_iff _ := iff_of_false nofun nofun
  outOfRange_iff := iff_of_false nofun nofun
  divisionByZero_iff := iff_of_true rfl rfl
  exact := Or.inl rfl
  text_eq := nofun

/-! ### Sums, differences and products -/

theorem agree_add (a b : ℤ) : Agree (int64.add a b) (numeric.add (.ofInt a) (.ofInt b)) := by
  have hadd : numeric.add (.ofInt a) (.ofInt b) = .ok ((Decimal.ofInt a).add (.ofInt b)) :=
    congrArg Except.ok (Numeric.add_eq _ _)
  rw [hadd]
  refine agree_check ?_ rfl
  rw [Decimal.value_add, Decimal.value_ofInt, Decimal.value_ofInt, Int.cast_add]

theorem agree_subtract (a b : ℤ) :
    Agree (int64.subtract a b) (numeric.subtract (.ofInt a) (.ofInt b)) := by
  have hsub : numeric.subtract (.ofInt a) (.ofInt b) = .ok ((Decimal.ofInt a).sub (.ofInt b)) :=
    congrArg Except.ok (Numeric.subtract_eq _ _)
  rw [hsub]
  refine agree_check ?_ rfl
  rw [Decimal.value_sub, Decimal.value_ofInt, Decimal.value_ofInt, Int.cast_sub]

/-- A product with zero may be a negative zero. -/
theorem agree_multiply (a b : ℤ) :
    Agree (int64.multiply a b) (numeric.multiply (.ofInt a) (.ofInt b)) := by
  have hmul : numeric.multiply (.ofInt a) (.ofInt b) = .ok ((Decimal.ofInt a).mul (.ofInt b)) :=
    congrArg Except.ok (Numeric.multiply_eq _ _)
  rw [hmul]
  refine agree_check ?_ rfl
  rw [Decimal.value_mul, Decimal.value_ofInt, Decimal.value_ofInt, Int.cast_mul]

/-! ### Quotients -/

theorem divide_int64_of_ne_zero (hb : b ≠ 0) : int64.divide a b = check (a.tdiv b) := if_neg hb

theorem divide_numeric_of_ne_zero (hb : b ≠ 0) :
    numeric.divide (.ofInt a) (.ofInt b) = .ok (.ofInt (a.tdiv b)) :=
  carries_numeric.divide a b hb trivial

theorem agree_divide (a b : ℤ) :
    Agree (int64.divide a b) (numeric.divide (.ofInt a) (.ofInt b)) := by
  by_cases hb : b = 0
  · subst hb
    exact agree_divisionByZero
  · rw [divide_int64_of_ne_zero hb, divide_numeric_of_ne_zero hb]
    exact agree_check (Decimal.value_ofInt _) rfl

theorem divide_eq_divisionByZero_iff :
    int64.divide a b = .error .divisionByZero ↔ b = 0 := by
  by_cases hb : b = 0
  · exact iff_of_true (if_pos hb) hb
  · rw [divide_int64_of_ne_zero hb]
    exact iff_of_false (check_ne_divisionByZero _) hb

theorem divide_eq_outOfRange_iff (ha : Holds a) :
    int64.divide a b = .error .outOfRange ↔ a = least ∧ b = -1 := by
  by_cases hb : b = 0
  · subst hb
    exact iff_of_false nofun fun h => absurd h.2 (by decide)
  · rw [divide_int64_of_ne_zero hb, check_eq_outOfRange_iff, holds_tdiv_iff ha hb, not_not]

/-! ### Halves -/

/-- A half is the exact one, rounded with ties away from zero. -/
theorem halfAway_eq_round (n : ℤ) : halfAway n = n.sign * round ((|n| : ℚ) / 2) := by
  have hround := round_abs_div n le_rfl
  rw [pow_one, Nat.sub_self, pow_zero, Nat.div_one] at hround
  rw [hround, halfAway]

theorem halfRounded_int64 (ha : Holds a) : int64.halfRounded a =
    if a = least ∨ a = greatest then .error .outOfRange else .ok (halfAway a) := by
  by_cases hend : a = least ∨ a = greatest
  · rw [if_pos hend]
    rcases hend with rfl | rfl <;> rfl
  · rw [if_neg hend]
    refine carries_int64.halfRounded_eq ?_
    unfold Holds least greatest at *
    split <;> omega

/-- **The two number systems agree on whole numbers of 64 bits.** For a sum, a difference, a product
and a quotient, whole numbers of 64 bits have a result exactly if the value of the decimal fits, and
then it is that value and has the same text; otherwise they are out of range. Division by zero is an
error in both, and there is no other quotient that does not fit but that of the least number by
minus one. Numbers compare alike and are negative alike. A half is rounded with ties away from zero,
but for the two ends of the range, where whole numbers of 64 bits are out of range. -/
theorem systems_agree (a b : ℤ) (ha : Holds a) :
    Agree (int64.add a b) (numeric.add (.ofInt a) (.ofInt b)) ∧
    Agree (int64.subtract a b) (numeric.subtract (.ofInt a) (.ofInt b)) ∧
    Agree (int64.multiply a b) (numeric.multiply (.ofInt a) (.ofInt b)) ∧
    Agree (int64.divide a b) (numeric.divide (.ofInt a) (.ofInt b)) ∧
    (int64.divide a b = .error .divisionByZero ↔ b = 0) ∧
    (int64.divide a b = .error .outOfRange ↔ a = least ∧ b = -1) ∧
    int64.compare a b = numeric.compare (.ofInt a) (.ofInt b) ∧
    (int64.isNegative a = .ok (decide (a < 0)) ∧
      numeric.isNegative (.ofInt a) = .ok (decide (a < 0))) ∧
    (halfAway a = a.sign * round ((|a| : ℚ) / 2) ∧
      numeric.halfRounded (.ofInt a) = .ok (.ofInt (halfAway a)) ∧
      int64.halfRounded a =
        (if a = least ∨ a = greatest then .error .outOfRange else .ok (halfAway a)) ∧
      numeric.text (.ofInt (halfAway a)) = int64.text (halfAway a)) := by
  exact ⟨agree_add a b, agree_subtract a b, agree_multiply a b, agree_divide a b,
    divide_eq_divisionByZero_iff, divide_eq_outOfRange_iff ha, (carries_numeric.compare a b).symm,
    ⟨carries_int64.isNegative_eq a, carries_numeric.isNegative_eq a⟩, halfAway_eq_round a,
    carries_numeric.halfRounded_eq trivial, halfRounded_int64 ha,
    carries_numeric.text (halfAway a)⟩

/-- The least number by minus one. -/
theorem systems_agree_least : Holds least ∧
    int64.divide least (-1) = .error .outOfRange ∧
    int64.halfRounded least = .error .outOfRange := by
  have hleast : Holds least := by decide
  obtain ⟨-, -, -, -, -, hrange, -, -, -, -, hhalf, -⟩ := systems_agree least (-1) hleast
  exact ⟨hleast, hrange.mpr ⟨rfl, rfl⟩, hhalf⟩

end Arithmetic

end Footprint
