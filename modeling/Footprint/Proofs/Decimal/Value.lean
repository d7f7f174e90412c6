import Footprint.Decimal.Basic
import Mathlib.Algebra.Order.Field.Power
import Mathlib.Data.Rat.Floor
import Mathlib.Tactic.Linarith
import Mathlib.Tactic.NormNum
import Mathlib.Tactic.Positivity
import Mathlib.Tactic.Ring

/-!
# The value of a decimal

A decimal stands for the rational number `d.value`. Everything here is about two questions: where
the first digit of a number stands, and what is left of a number when its fraction is dropped.

The first is answered by `digitCount_le_iff`, which reads a number of digits as a bound by a power
of ten, and by `pow_adjusted_le` and `lt_pow_adjusted`, which read the place of the first digit off
the size of the value.

The second is answered by `truncate_eq_towardZero`: dropping the fraction of a decimal is rounding
its value toward zero. The digits that a working precision or the range of numbers takes away may
change a value, but as long as they stand behind the point they do not change its whole part
(`truncate_shorten`). A number whose first digit is within the working precision loses no other
digits, so `bounded` keeps its whole part (`exists_bounded`), however many digits it has and however
far behind the point they stand.
-/

namespace Footprint

/-! ### The number of digits -/

theorem digitCount_pos (n : ℕ) : 0 < digitCount n := Nat.length_toDigits_pos

theorem digitCount_le_iff {n k : ℕ} (hk : 0 < k) : digitCount n ≤ k ↔ n < 10 ^ k :=
  Nat.length_toDigits_le_iff (by decide) hk

theorem lt_pow_digitCount (n : ℕ) : n < 10 ^ digitCount n :=
  (digitCount_le_iff (digitCount_pos n)).mp le_rfl

theorem digitCount_zero : digitCount 0 = 1 := rfl

/-- A number other than zero has its first digit at the place before its number of digits. -/
theorem pow_pred_digitCount_le {n : ℕ} (hn : n ≠ 0) : 10 ^ (digitCount n - 1) ≤ n := by
  have hpos := digitCount_pos n
  by_contra hlt
  rw [not_le] at hlt
  rcases Nat.eq_zero_or_pos (digitCount n - 1) with h0 | h1
  · rw [h0, pow_zero] at hlt
    omega
  · have := (digitCount_le_iff h1).mpr hlt
    omega

/-- Dropping digits makes the number of digits smaller by as many, unless nothing is left. -/
theorem digitCount_div_pow_add_le {n k : ℕ} (h : n / 10 ^ k ≠ 0) :
    digitCount (n / 10 ^ k) + k ≤ digitCount n := by
  have hlt := lt_pow_digitCount n
  have hpow : 10 ^ k ≤ n := by
    by_contra hc
    exact h (Nat.div_eq_of_lt (not_le.mp hc))
  have hk : k < digitCount n := (Nat.pow_lt_pow_iff_right (by decide)).mp (hpow.trans_lt hlt)
  have hle : digitCount (n / 10 ^ k) ≤ digitCount n - k := by
    rw [digitCount_le_iff (by omega), Nat.div_lt_iff_lt_mul (by positivity), ← pow_add]
    rwa [Nat.sub_add_cancel hk.le]
  omega

/-! ### Rounding toward zero -/

/-- The whole part of a rational number: its fraction is dropped, toward zero. -/
def towardZero (x : ℚ) : ℤ := if 0 ≤ x then ⌊x⌋ else ⌈x⌉

theorem towardZero_of_nonneg {x : ℚ} (h : 0 ≤ x) : towardZero x = ⌊x⌋ := if_pos h

theorem towardZero_neg (x : ℚ) : towardZero (-x) = -towardZero x := by
  unfold towardZero
  rcases lt_trichotomy x 0 with h | h | h
  · rw [if_pos (by linarith), if_neg (by linarith), Int.floor_neg]
  · subst h
    simp
  · rw [if_neg (by linarith), if_pos h.le, Int.ceil_neg]

@[simp] theorem towardZero_intCast (n : ℤ) : towardZero (n : ℚ) = n := by
  unfold towardZero
  split
  · exact Int.floor_intCast n
  · exact Int.ceil_intCast n

/-- The whole part of a number that reaches an integer away from zero reaches it too. -/
theorem le_natAbs_towardZero {x : ℚ} {n : ℕ} (h : (n : ℚ) ≤ |x|) : n ≤ (towardZero x).natAbs := by
  wlog hx : 0 ≤ x with H
  · have := H (x := -x) (by rwa [abs_neg]) (by linarith)
    rwa [towardZero_neg, Int.natAbs_neg] at this
  · rw [abs_of_nonneg hx] at h
    have hfloor : (n : ℤ) ≤ ⌊x⌋ := Int.le_floor.mpr (by exact_mod_cast h)
    rw [towardZero_of_nonneg hx]
    omega

theorem abs_towardZero_le (x : ℚ) : |(towardZero x : ℚ)| ≤ |x| := by
  wlog hx : 0 ≤ x with H
  · have hneg := H (-x) (by linarith)
    rwa [towardZero_neg, Int.cast_neg, abs_neg, abs_neg] at hneg
  · have hfloor : (0 : ℚ) ≤ ⌊x⌋ := Int.cast_nonneg (Int.floor_nonneg.mpr hx)
    rw [towardZero_of_nonneg hx, abs_of_nonneg hfloor, abs_of_nonneg hx]
    exact Int.floor_le x

/-- A fraction can be dropped before a division by a whole number, or after it. -/
theorem towardZero_div_natCast (x : ℚ) (m : ℕ) :
    towardZero (x / m) = (towardZero x).tdiv m := by
  wlog hx : 0 ≤ x with H
  · have hneg := H (-x) m (by linarith)
    rw [neg_div, towardZero_neg, towardZero_neg, Int.neg_tdiv] at hneg
    exact neg_injective hneg
  · have hfloor : 0 ≤ ⌊x⌋ := Int.floor_nonneg.mpr hx
    rw [towardZero_of_nonneg hx, towardZero_of_nonneg (by positivity), Int.floor_div_natCast,
      Int.tdiv_eq_ediv_of_nonneg hfloor]

namespace Decimal

/-! ### Value and magnitude -/

/-- The rational number that a decimal stands for. -/
def value (d : Decimal) : ℚ := d.signed * (10 : ℚ) ^ d.exponent

/-- The value without its sign. -/
def magnitude (d : Decimal) : ℚ := d.coefficient * (10 : ℚ) ^ d.exponent

theorem value_eq (d : Decimal) : d.value = if d.negative then -d.magnitude else d.magnitude := by
  unfold value signed magnitude
  split
  · push_cast
    ring
  · push_cast
    rfl

theorem magnitude_nonneg (d : Decimal) : 0 ≤ d.magnitude := by
  unfold magnitude
  positivity

theorem abs_value (d : Decimal) : |d.value| = d.magnitude := by
  rw [value_eq]
  split
  · rw [abs_neg, abs_of_nonneg d.magnitude_nonneg]
  · exact abs_of_nonneg d.magnitude_nonneg

theorem value_abs (d : Decimal) : d.abs.value = |d.value| := by
  rw [abs_value, value_eq]
  exact if_neg Bool.false_ne_true

theorem isZero_iff (d : Decimal) : d.isZero = true ↔ d.coefficient = 0 := by
  unfold isZero
  exact beq_iff_eq

theorem value_eq_zero_iff (d : Decimal) : d.value = 0 ↔ d.coefficient = 0 := by
  rw [← abs_eq_zero, abs_value, magnitude, mul_eq_zero, Nat.cast_eq_zero]
  exact or_iff_left (zpow_ne_zero _ (by norm_num))

@[simp] theorem signed_ofInt (n : ℤ) : (ofInt n).signed = n := by
  unfold signed ofInt
  by_cases h : n < 0 <;> simp only [h, decide_true, decide_false, if_true] <;> grind

@[simp] theorem value_ofInt (n : ℤ) : (ofInt n).value = n := by
  rw [value, signed_ofInt]
  change (n : ℚ) * (10 : ℚ) ^ (0 : ℤ) = n
  rw [zpow_zero, mul_one]

theorem magnitude_mul (a b : Decimal) : (a.mul b).magnitude = a.magnitude * b.magnitude := by
  unfold magnitude mul
  rw [zpow_add₀ (by norm_num : (10 : ℚ) ≠ 0)]
  push_cast
  ring

theorem value_mul (a b : Decimal) : (a.mul b).value = a.value * b.value := by
  simp only [value_eq, magnitude_mul]
  change (if (a.negative ^^ b.negative) = true then _ else _) = _
  cases a.negative <;> cases b.negative <;> simp

/-! ### The place of the first digit -/

theorem lt_pow_adjusted (d : Decimal) : d.magnitude < (10 : ℚ) ^ (d.adjusted + 1) := by
  have hlt : (d.coefficient : ℚ) < (10 : ℚ) ^ (digitCount d.coefficient : ℤ) := by
    exact_mod_cast lt_pow_digitCount d.coefficient
  have hsplit : d.adjusted + 1 = digitCount d.coefficient + d.exponent := by
    unfold adjusted
    ring
  rw [hsplit, zpow_add₀ (by norm_num), magnitude]
  exact mul_lt_mul_of_pos_right hlt (by positivity)

theorem pow_adjusted_le {d : Decimal} (h : d.coefficient ≠ 0) :
    (10 : ℚ) ^ d.adjusted ≤ d.magnitude := by
  have hpos := digitCount_pos d.coefficient
  have hle : (10 : ℚ) ^ ((digitCount d.coefficient - 1 : ℕ) : ℤ) ≤ d.coefficient := by
    exact_mod_cast pow_pred_digitCount_le h
  have hsplit : d.adjusted = (digitCount d.coefficient - 1 : ℕ) + d.exponent := by
    unfold adjusted
    omega
  rw [hsplit, zpow_add₀ (by norm_num), magnitude]
  exact mul_le_mul_of_nonneg_right hle (by positivity)

/-- A number below a power of ten has its first digit below that place. -/
theorem adjusted_lt_of_magnitude_lt {d : Decimal} {k : ℤ} (h : d.coefficient ≠ 0)
    (hlt : d.magnitude < (10 : ℚ) ^ k) : d.adjusted < k :=
  (zpow_lt_zpow_iff_right₀ (by norm_num)).mp ((pow_adjusted_le h).trans_lt hlt)

/-! ### The whole part -/

/-- Behind the point, the whole part of a magnitude is a quotient by a power of ten. -/
theorem floor_magnitude_of_neg {d : Decimal} {k : ℕ} (h : d.exponent = -(k : ℤ)) :
    ⌊d.magnitude⌋ = ((d.coefficient / 10 ^ k : ℕ) : ℤ) := by
  have hdiv : d.magnitude = (d.coefficient : ℚ) / ((10 ^ k : ℕ) : ℚ) := by
    rw [magnitude, h, zpow_neg, zpow_natCast, div_eq_mul_inv]
    push_cast
    rfl
  rw [hdiv, Rat.floor_natCast_div_natCast, Int.natCast_ediv]

/-- Before the point, a magnitude is whole. -/
theorem floor_magnitude_of_nonneg {d : Decimal} {k : ℕ} (h : d.exponent = k) :
    ⌊d.magnitude⌋ = ((d.coefficient * 10 ^ k : ℕ) : ℤ) := by
  have hint : d.magnitude = (((d.coefficient * 10 ^ k : ℕ) : ℤ) : ℚ) := by
    rw [magnitude, h, zpow_natCast]
    push_cast
    rfl
  rw [hint, Int.floor_intCast]

/-- **The whole part of a decimal** is its value rounded toward zero. -/
theorem truncate_eq_towardZero (d : Decimal) : d.truncate = towardZero d.value := by
  have hsign : towardZero d.value = if d.negative then -⌊d.magnitude⌋ else ⌊d.magnitude⌋ := by
    rw [value_eq]
    split
    · rw [towardZero_neg, towardZero_of_nonneg d.magnitude_nonneg]
    · exact towardZero_of_nonneg d.magnitude_nonneg
  have hfloor : ⌊d.magnitude⌋ = ((if d.coefficient = 0 then 0
      else if 0 ≤ d.exponent then d.coefficient * Nat.pow 10 d.exponent.toNat
      else if digitCount d.coefficient ≤ (-d.exponent).toNat then 0
      else d.coefficient / Nat.pow 10 (-d.exponent).toNat : ℕ) : ℤ) := by
    split_ifs with hzero hexp hshort
    · rw [magnitude, hzero, Nat.cast_zero, zero_mul, Int.floor_zero]
      rfl
    · exact floor_magnitude_of_nonneg (Int.toNat_of_nonneg hexp).symm
    · have hk : d.exponent = -((-d.exponent).toNat : ℤ) := by omega
      rw [floor_magnitude_of_neg hk, Nat.div_eq_of_lt]
      exact (digitCount_le_iff (by omega)).mp hshort
    · have hk : d.exponent = -((-d.exponent).toNat : ℤ) := by omega
      exact floor_magnitude_of_neg hk
  rw [hsign, hfloor]
  rfl

/-! ### Digits that a result loses -/

theorem shorten_coefficient (k : ℕ) (d : Decimal) :
    (d.shorten k).coefficient = d.coefficient / 10 ^ k := by
  change (if digitCount d.coefficient ≤ k then 0 else d.coefficient / Nat.pow 10 k) = _
  split
  · next h =>
    have hk : 0 < k := (digitCount_pos _).trans_le h
    exact (Nat.div_eq_of_lt ((digitCount_le_iff hk).mp h)).symm
  · rfl

@[simp] theorem shorten_exponent (k : ℕ) (d : Decimal) :
    (d.shorten k).exponent = d.exponent + k := rfl

@[simp] theorem shorten_negative (k : ℕ) (d : Decimal) :
    (d.shorten k).negative = d.negative := rfl

@[simp] theorem shorten_zero (d : Decimal) : d.shorten 0 = d := by
  have hc : (d.shorten 0).coefficient = d.coefficient := by
    rw [shorten_coefficient, pow_zero, Nat.div_one]
  cases d
  exact congrArg₂ (Decimal.mk _) hc (Int.add_zero _)

/-- Digits behind the point can go without a change of the whole part. -/
theorem truncate_shorten {d : Decimal} {k : ℕ} (h : k = 0 ∨ d.exponent + k ≤ 0) :
    (d.shorten k).truncate = d.truncate := by
  rcases h with rfl | h
  · rw [shorten_zero]
  have hlow : d.exponent = -(((-d.exponent).toNat : ℕ) : ℤ) := by omega
  have hhigh : (d.shorten k).exponent = -(((-(d.exponent + k)).toNat : ℕ) : ℤ) := by
    rw [shorten_exponent]
    omega
  -- Two quotients by powers of ten in a row are one.
  have hfloor : ⌊(d.shorten k).magnitude⌋ = ⌊d.magnitude⌋ := by
    rw [floor_magnitude_of_neg hlow, floor_magnitude_of_neg hhigh, shorten_coefficient,
      Nat.div_div_eq_div_mul, ← pow_add,
      show k + (-(d.exponent + k)).toNat = (-d.exponent).toNat by omega]
  rw [truncate_eq_towardZero, truncate_eq_towardZero, value_eq, value_eq, shorten_negative]
  split
  · rw [towardZero_neg, towardZero_neg, towardZero_of_nonneg (magnitude_nonneg _),
      towardZero_of_nonneg (magnitude_nonneg _), hfloor]
  · rw [towardZero_of_nonneg (magnitude_nonneg _), towardZero_of_nonneg (magnitude_nonneg _),
      hfloor]

/-- The first digit stays where it is, unless nothing is left. -/
theorem adjusted_shorten_le {d : Decimal} {k : ℕ} (h : (d.shorten k).coefficient ≠ 0) :
    (d.shorten k).adjusted ≤ d.adjusted := by
  rw [shorten_coefficient] at h
  have hle := digitCount_div_pow_add_le h
  unfold adjusted
  rw [shorten_coefficient, shorten_exponent]
  omega

/-- A precision that reaches from the first digit to the point leaves the whole part alone. -/
theorem truncate_cut {d : Decimal} {precision : ℕ} (hp : 0 < precision)
    (h : d.coefficient = 0 ∨ d.adjusted < precision) :
    (d.cut precision).truncate = d.truncate := by
  refine truncate_shorten ?_
  rcases h with h | h
  · refine Or.inl ?_
    rw [h, digitCount_zero]
    omega
  · unfold adjusted at h
    omega

/-- **A result in the range keeps its whole part.** If the first digit stands inside the working
precision, the digits that are dropped, for being beyond it or too far behind the point, are all of
the fraction. -/
theorem exists_bounded {d : Decimal} {precision : ℕ} (hp : 0 < precision)
    (h : d.coefficient = 0 ∨ d.adjusted < precision ∧ d.adjusted ≤ highestPlace) :
    ∃ result, d.bounded precision = some result ∧ result.truncate = d.truncate := by
  unfold bounded
  by_cases hz : d.coefficient = 0
  · -- A zero is moved, and stays a zero.
    rw [if_pos ((isZero_iff d).mpr hz)]
    refine ⟨_, rfl, ?_⟩
    rw [truncate_eq_towardZero, truncate_eq_towardZero, (value_eq_zero_iff d).mpr hz]
    exact congrArg towardZero ((value_eq_zero_iff _).mpr hz)
  · obtain ⟨hplace, hhigh⟩ := h.resolve_left hz
    rw [if_neg (mt (isZero_iff d).mp hz), if_neg (not_lt.mpr hhigh)]
    refine ⟨_, rfl, ?_⟩
    -- The finest place stands behind the point, at every precision.
    have hfine : finestPlace precision ≤ 0 := by
      unfold finestPlace lowestFullPlace
      omega
    rw [truncate_cut hp ?_, truncate_shorten (by omega)]
    by_cases hs : (d.shorten (finestPlace precision - d.exponent).toNat).coefficient = 0
    · exact Or.inl hs
    · exact Or.inr ((adjusted_shorten_le hs).trans_lt hplace)

end Decimal

end Footprint
