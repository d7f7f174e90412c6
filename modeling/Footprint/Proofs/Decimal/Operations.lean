import Footprint.Proofs.Decimal.Exact

/-!
# The value of decimal arithmetic

Two decimals that are moved to one exponent are integers on one grid (`Decimal.value_eq_scaledTo`),
where a sum, a quotient and the order of two values are those of the integers. The exact operations
have the values that they should have: sum (`value_add`), difference (`value_sub`) and quotient
without its fraction (`quotient_eq_ofInt`). The number system computes these very decimals, so its
results are exact at any exponents and of any length, and no precision that it works at drops a
digit (`Numeric.arithmetic_exact`).

The precision is not the only thing that could change a result. Decimals have a range, in which the
first digit may not stand too high and the last one not too low. What `bounded` leaves of a result
in this range is the result itself (`bounded_eq_self`).
-/

namespace Footprint

/-- The quotient of two integers without its fraction. -/
theorem towardZero_div (m n : ℤ) : towardZero ((m : ℚ) / n) = m.tdiv n := by
  obtain ⟨k, rfl | rfl⟩ := n.eq_nat_or_neg
  · rw [Int.cast_natCast, towardZero_div_natCast, towardZero_intCast]
  · rw [Int.cast_neg, Int.cast_natCast, div_neg, towardZero_neg, towardZero_div_natCast,
      towardZero_intCast, Int.tdiv_neg]

namespace Decimal

variable {a b d : Decimal} {e : ℤ}

/-! ### One grid -/

/-- **A decimal on a finer grid** is an integer times the power of ten of the grid. -/
theorem value_eq_scaledTo (he : e ≤ d.exponent) : d.value = d.scaledTo e * (10 : ℚ) ^ e := by
  have hsplit : d.exponent = ((d.exponent - e).toNat : ℤ) + e := by omega
  calc d.value = d.signed * (10 : ℚ) ^ (((d.exponent - e).toNat : ℤ) + e) := by
        rw [value, ← hsplit]
    _ = d.signed * (10 : ℚ) ^ (d.exponent - e).toNat * (10 : ℚ) ^ e := by
        rw [zpow_add₀ (by norm_num), zpow_natCast, mul_assoc]
    _ = d.scaledTo e * (10 : ℚ) ^ e := by
        rw [scaledTo, Nat.pow_eq]
        push_cast
        rfl

/-- The sign of a number other than zero is that of its integer on any grid. -/
theorem negative_eq (hd : d.coefficient ≠ 0) (e : ℤ) :
    d.negative = decide (d.scaledTo e < 0) := by
  have hpos : (0 : ℤ) < d.coefficient * (10 : ℤ) ^ (d.exponent - e).toNat := by positivity
  have hscaled : d.scaledTo e =
      if d.negative then -(d.coefficient * (10 : ℤ) ^ (d.exponent - e).toNat)
      else d.coefficient * (10 : ℤ) ^ (d.exponent - e).toNat := by
    rw [scaledTo, signed]
    split
    · exact neg_mul _ _
    · rfl
  rw [hscaled]
  cases d.negative with
  | true => exact (decide_eq_true (neg_lt_zero.mpr hpos)).symm
  | false => exact (decide_eq_false (not_lt.mpr hpos.le)).symm

/-- Decimals are ordered by their values. -/
theorem compare_eq_lt_iff (a b : Decimal) : a.compare b = .lt ↔ a.value < b.value := by
  have hpow : (0 : ℚ) < 10 ^ min a.exponent b.exponent := by positivity
  rw [value_eq_scaledTo (min_le_left a.exponent b.exponent),
    value_eq_scaledTo (min_le_right a.exponent b.exponent), mul_lt_mul_iff_left₀ hpow,
    Int.cast_lt]
  exact compare_lt_iff_lt

/-! ### The exact operations -/

theorem value_neg (d : Decimal) : d.neg.value = -d.value := by
  rw [value_eq, value_eq]
  change (if (!d.negative) = true then -d.magnitude else d.magnitude) = _
  cases d.negative <;> simp

theorem value_add (a b : Decimal) : (a.add b).value = a.value + b.value := by
  have hsigned : (a.add b).signed =
      a.scaledTo (min a.exponent b.exponent) + b.scaledTo (min a.exponent b.exponent) := by
    unfold signed add
    dsimp only
    split_ifs <;> grind
  rw [value, hsigned, value_eq_scaledTo (min_le_left a.exponent b.exponent),
    value_eq_scaledTo (min_le_right a.exponent b.exponent), ← add_mul]
  push_cast
  rfl

theorem value_sub (a b : Decimal) : (a.sub b).value = a.value - b.value := by
  rw [sub, value_add, value_neg, sub_eq_add_neg]

/-- **A quotient without its fraction.** A zero that comes of it is given the sign of a zero. -/
theorem quotient_eq_ofInt (hb : b.coefficient ≠ 0) :
    (if (a.quotient b).isZero then ofInt 0 else a.quotient b) =
      ofInt (towardZero (a.value / b.value)) := by
  let e := min a.exponent b.exponent
  have hgrid : a.value / b.value = (a.scaledTo e : ℚ) / b.scaledTo e := by
    rw [value_eq_scaledTo (min_le_left a.exponent b.exponent),
      value_eq_scaledTo (min_le_right a.exponent b.exponent)]
    exact mul_div_mul_right _ _ (zpow_ne_zero _ (by norm_num))
  have hscaled : b.scaledTo e ≠ 0 := by
    rw [← Int.natAbs_ne_zero, natAbs_scaledTo]
    positivity
  rw [hgrid, towardZero_div, ← quotient_ofInt hscaled]
  -- On the grid the operands are integers, so the two quotients have the same digits.
  have hcoefficient : (a.quotient b).coefficient =
      ((ofInt (a.scaledTo e)).quotient (ofInt (b.scaledTo e))).coefficient := by
    unfold quotient
    simp only [show ∀ m n : ℤ, min (ofInt m).exponent (ofInt n).exponent = 0 from fun _ _ => rfl,
      scaledTo_zero_ofInt]
    rfl
  by_cases hzero : (a.quotient b).coefficient = 0
  · rw [if_pos ((isZero_iff _).mpr hzero),
      if_pos ((isZero_iff _).mpr (hcoefficient.symm.trans hzero))]
  · have ha : a.coefficient ≠ 0 := by
      intro ha
      refine hzero ?_
      change (a.scaledTo e).natAbs / (b.scaledTo e).natAbs = 0
      rw [natAbs_scaledTo, ha, zero_mul, Nat.zero_div]
    rw [if_neg (mt (isZero_iff _).mp hzero),
      if_neg (mt (isZero_iff _).mp (hcoefficient ▸ hzero)), Decimal.mk.injEq]
    refine ⟨?_, hcoefficient, rfl⟩
    change (a.negative ^^ b.negative) = (decide (a.scaledTo e < 0) ^^ decide (b.scaledTo e < 0))
    rw [negative_eq ha e, negative_eq hb e]

/-- A product has at most as many digits as its operands together. -/
theorem digitCount_mul_le (a b : Decimal) :
    digitCount (a.mul b).coefficient ≤ digitCount a.coefficient + digitCount b.coefficient := by
  rw [digitCount_le_iff (Nat.add_pos_left (digitCount_pos _) _), pow_add]
  exact Nat.mul_lt_mul'' (lt_pow_digitCount _) (lt_pow_digitCount _)

/-- **The range leaves a result in it alone**, if the working precision does. -/
theorem bounded_eq_self {precision : ℕ} (hdigits : digitCount d.coefficient ≤ precision)
    (hfirst : d.adjusted ≤ highestPlace) (hlast : finestPlace precision ≤ d.exponent) :
    d.bounded precision = some d := by
  unfold bounded
  by_cases hzero : d.coefficient = 0
  · have hplace : d.adjusted = d.exponent := by
      unfold adjusted
      rw [hzero, digitCount_zero]
      omega
    rw [if_pos ((isZero_iff d).mpr hzero), min_eq_left (hplace ▸ hfirst), max_eq_right hlast]
  · have hkept : (finestPlace precision - d.exponent).toNat = 0 := by omega
    rw [if_neg (mt (isZero_iff d).mp hzero), if_neg (not_lt.mpr hfirst), hkept, shorten_zero,
      cut_of_le hdigits]

end Decimal

namespace Numeric

open Decimal

variable {a b : Decimal}

/-! ### The number system -/

theorem multiply_eq (a b : Decimal) : multiply a b = a.mul b :=
  cut_of_le ((digitCount_mul_le a b).trans (le_precisionFor _))

theorem divide_eq_ofInt (hb : b.coefficient ≠ 0) :
    divide a b = .ok (ofInt (towardZero (a.value / b.value))) := by
  rw [divide_eq hb, quotient_eq_ofInt hb]

/-- A result that was asked for with so many digits is exact: it stands for `x` with its last digit
at `place`, the digits are enough for it, and the range of decimals leaves it alone if it lies in
there. -/
structure IsExact (digits : ℕ) (x : ℚ) (place : ℤ) (result : Decimal) : Prop where
  value : result.value = x
  exponent : result.exponent = place
  digits_le : digitCount result.coefficient ≤ digits
  bounded : result.adjusted ≤ highestPlace → finestPlace (precisionFor digits) ≤ place →
    result.bounded (precisionFor digits) = some result

theorem isExact {digits : ℕ} {x : ℚ} {place : ℤ} {result : Decimal} (hvalue : result.value = x)
    (hexponent : result.exponent = place) (hdigits : digitCount result.coefficient ≤ digits) :
    IsExact digits x place result where
  value := hvalue
  exponent := hexponent
  digits_le := hdigits
  bounded hfirst hlast :=
    bounded_eq_self (hdigits.trans (le_precisionFor _)) hfirst (hexponent ▸ hlast)

/-- **Decimal arithmetic is exact.** A sum and a difference stand for those of the values, with the
smaller exponent of the two operands, and a product for that of the values, with the sum of the
exponents. There is a quotient by any number but zero: the exact one without its fraction, with
exponent zero, and without a sign if it is zero. The digits that each operation asks for are
enough for its result. -/
theorem arithmetic_exact (a b : Decimal) :
    IsExact (a.span b + 1) (a.value + b.value) (min a.exponent b.exponent) (add a b) ∧
    IsExact (a.span b + 1) (a.value - b.value) (min a.exponent b.exponent) (subtract a b) ∧
    IsExact (digitCount a.coefficient + digitCount b.coefficient) (a.value * b.value)
      (a.exponent + b.exponent) (multiply a b) ∧
    (b.value ≠ 0 → ∃ q, divide a b = .ok q ∧
      IsExact ((a.adjusted - b.adjusted).toNat + 2) (towardZero (a.value / b.value)) 0 q ∧
      (q.value = 0 → q.negative = false)) := by
  refine ⟨?_, ?_, ?_, fun hb => ?_⟩
  · rw [add_eq]
    exact isExact (value_add a b) rfl (digitCount_add_le a b)
  · rw [subtract_eq]
    exact isExact (value_sub a b) rfl (digitCount_add_le a b.neg)
  · rw [multiply_eq]
    exact isExact (value_mul a b) rfl (digitCount_mul_le a b)
  · have hb' : b.coefficient ≠ 0 := mt b.value_eq_zero_iff.mpr hb
    refine ⟨_, divide_eq_ofInt hb', isExact (value_ofInt _) rfl ?_, ?_⟩
    · rw [← quotient_eq_ofInt hb']
      split
      · exact Nat.le_add_left 1 _
      · exact (digitCount_quotient_le hb').trans (Nat.le_succ _)
    · intro hzero
      rw [value_ofInt, Int.cast_eq_zero] at hzero
      rw [hzero]
      rfl

/-- A quotient that has more digits than the least working precision. -/
theorem arithmetic_exact_third :
    let a : Decimal := ⟨false, 1, 2000⟩
    let b : Decimal := ⟨true, 3, 0⟩
    b.value ≠ 0 ∧ ∃ q, divide a b = .ok q ∧ q.value = towardZero (a.value / b.value) ∧
      q.exponent = 0 := by
  intro a b
  have hb : b.value ≠ 0 := mt b.value_eq_zero_iff.mp (by decide)
  obtain ⟨q, hq, hexact, -⟩ := (arithmetic_exact a b).2.2.2 hb
  exact ⟨hb, q, hq, hexact.value, hexact.exponent⟩

end Numeric

end Footprint
