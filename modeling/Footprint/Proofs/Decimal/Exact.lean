import Footprint.Decimal.Printer
import Footprint.Proofs.Decimal.Value
import Footprint.Size.Arithmetic

/-!
# Decimal arithmetic at its own precision

The decimal number system gives every operation the precision that its operands ask for. Here this
precision is shown to be enough: a sum has at most one digit more than its operands span
(`digitCount_add_le`), and a quotient at most one more than the first digits are apart
(`digitCount_quotient_le`). So nothing is cut off, and the operations are the exact ones
(`Numeric.add_eq`, `Numeric.subtract_eq`, `Numeric.divide_eq`).

On whole numbers the exact operations are those of the integers, down to the sign of a zero, which
is never negative.
-/

namespace Footprint

namespace Decimal

variable {a b d : Decimal} {e : ℤ}

/-! ### Sizes of results -/

theorem cut_of_le {precision : ℕ} (h : digitCount d.coefficient ≤ precision) :
    d.cut precision = d := by
  rw [cut, Nat.sub_eq_zero_of_le h, shorten_zero]

theorem natAbs_scaledTo (e : ℤ) (d : Decimal) :
    (d.scaledTo e).natAbs = d.coefficient * 10 ^ (d.exponent - e).toNat := by
  have hsigned : d.signed.natAbs = d.coefficient := by
    unfold signed
    split <;> omega
  rw [scaledTo, Int.natAbs_mul, hsigned]
  rfl

theorem natAbs_scaledTo_lt (he : e ≤ d.exponent) :
    (d.scaledTo e).natAbs < 10 ^ (d.adjusted + 1 - e).toNat := by
  have hsplit : (d.adjusted + 1 - e).toNat =
      digitCount d.coefficient + (d.exponent - e).toNat := by
    unfold adjusted
    omega
  rw [natAbs_scaledTo, hsplit, pow_add]
  exact Nat.mul_lt_mul_of_pos_right (lt_pow_digitCount _) (by positivity)

theorem pow_le_natAbs_scaledTo (hd : d.coefficient ≠ 0) (he : e ≤ d.exponent) :
    10 ^ (d.adjusted - e).toNat ≤ (d.scaledTo e).natAbs := by
  have hpos := digitCount_pos d.coefficient
  have hsplit : (d.adjusted - e).toNat =
      (digitCount d.coefficient - 1) + (d.exponent - e).toNat := by
    unfold adjusted
    omega
  rw [natAbs_scaledTo, hsplit, pow_add]
  exact Nat.mul_le_mul_right _ (pow_pred_digitCount_le hd)

/-- **A sum** has at most one digit more than its operands span. -/
theorem digitCount_add_le (a b : Decimal) :
    digitCount (a.add b).coefficient ≤ a.span b + 1 := by
  have ha := natAbs_scaledTo_lt (min_le_left a.exponent b.exponent)
  have hb := natAbs_scaledTo_lt (min_le_right a.exponent b.exponent)
  -- Either operand stays below the power of ten that the span reaches.
  have hle : ∀ c ∈ [a, b], 10 ^ (c.adjusted + 1 - min a.exponent b.exponent).toNat ≤
      10 ^ a.span b := by
    intro c hc
    refine Nat.pow_le_pow_right (by decide) ?_
    unfold span
    rw [List.mem_cons, List.mem_singleton] at hc
    rcases hc with rfl | rfl <;> dsimp only <;> omega
  have hla := hle a (by simp)
  have hlb := hle b (by simp)
  rw [digitCount_le_iff (Nat.succ_pos _), pow_succ]
  have hsum : (a.add b).coefficient ≤ (a.scaledTo (min a.exponent b.exponent)).natAbs +
      (b.scaledTo (min a.exponent b.exponent)).natAbs := Int.natAbs_add_le _ _
  omega

/-- **A quotient** has at most one digit more than the first digits of its operands are apart. -/
theorem digitCount_quotient_le (hb : b.coefficient ≠ 0) :
    digitCount (a.quotient b).coefficient ≤ (a.adjusted - b.adjusted).toNat + 1 := by
  have hnum := natAbs_scaledTo_lt (min_le_left a.exponent b.exponent)
  have hden := pow_le_natAbs_scaledTo hb (min_le_right a.exponent b.exponent)
  have hpos : 0 < (b.scaledTo (min a.exponent b.exponent)).natAbs :=
    lt_of_lt_of_le (by positivity) hden
  rw [digitCount_le_iff (Nat.succ_pos _)]
  change (a.scaledTo _).natAbs / (b.scaledTo _).natAbs < _
  rw [Nat.div_lt_iff_lt_mul hpos]
  refine hnum.trans_le (le_trans ?_ (Nat.mul_le_mul_left _ hden))
  rw [← pow_add]
  exact Nat.pow_le_pow_right (by decide) (by omega)

end Decimal

namespace Numeric

open Decimal

variable {a b : Decimal}

theorem le_precisionFor (digits : ℕ) : digits ≤ precisionFor digits := le_max_left _ _

theorem add_eq (a b : Decimal) : add a b = a.add b :=
  cut_of_le ((digitCount_add_le a b).trans (le_precisionFor _))

theorem subtract_eq (a b : Decimal) : subtract a b = a.sub b :=
  cut_of_le ((digitCount_add_le a b.neg).trans (le_precisionFor _))

theorem divide_eq (hb : b.coefficient ≠ 0) : divide a b =
    .ok (if (a.quotient b).isZero then .ofInt 0 else a.quotient b) := by
  have hdigits : digitCount (a.quotient b).coefficient ≤
      precisionFor ((a.adjusted - b.adjusted).toNat + 2) :=
    (digitCount_quotient_le hb).trans ((Nat.le_succ _).trans (le_precisionFor _))
  unfold divide quotientWithin
  rw [if_neg (mt b.isZero_iff.mp hb)]
  simp only [if_pos hdigits]

end Numeric

/-! ### Whole numbers -/

namespace Decimal

theorem scaledTo_zero_ofInt (n : ℤ) : (ofInt n).scaledTo 0 = n := by
  rw [scaledTo, signed_ofInt]
  exact mul_one n

theorem neg_ofInt {n : ℤ} (hn : n ≠ 0) : (ofInt n).neg = ofInt (-n) := by
  unfold neg ofInt
  rw [Int.natAbs_neg, Decimal.mk.injEq]
  refine ⟨?_, rfl, rfl⟩
  rw [← decide_not, decide_eq_decide]
  omega

theorem add_ofInt (m n : ℤ) : (ofInt m).add (ofInt n) = ofInt (m + n) := by
  unfold add
  simp only [show min (ofInt m).exponent (ofInt n).exponent = 0 from rfl, scaledTo_zero_ofInt]
  rw [ofInt, Decimal.mk.injEq]
  refine ⟨?_, rfl, rfl⟩
  simp only [ofInt]
  grind

theorem sub_ofInt (m : ℤ) {n : ℤ} (hn : n ≠ 0) : (ofInt m).sub (ofInt n) = ofInt (m - n) := by
  rw [sub, neg_ofInt hn, add_ofInt, sub_eq_add_neg]

/-- A whole quotient, where a zero is given the sign of a zero. -/
theorem quotient_ofInt {m n : ℤ} (hn : n ≠ 0) :
    (if ((ofInt m).quotient (ofInt n)).isZero then ofInt 0 else (ofInt m).quotient (ofInt n)) =
      ofInt (m.tdiv n) := by
  have hcoefficient : ((ofInt m).quotient (ofInt n)).coefficient = (m.tdiv n).natAbs := by
    unfold quotient
    simp only [show min (ofInt m).exponent (ofInt n).exponent = 0 from rfl, scaledTo_zero_ofInt]
    rw [Int.natAbs_tdiv]
    rfl
  by_cases hzero : m.tdiv n = 0
  · rw [if_pos ((isZero_iff _).mpr (by rw [hcoefficient, hzero]; rfl)), hzero]
  · rw [if_neg (mt (isZero_iff _).mp (by rw [hcoefficient]; omega))]
    -- A quotient other than zero has the product of the signs.
    have hsign : (m.tdiv n).sign = m.sign * n.sign := by
      rw [Int.sign_tdiv, if_neg]
      intro hlt
      refine hzero (Int.natAbs_eq_zero.mp ?_)
      rw [Int.natAbs_tdiv]
      exact Nat.div_eq_of_lt hlt
    have hnegative : (decide (m < 0) ^^ decide (n < 0)) = decide (m.tdiv n < 0) := by
      have hproduct : decide (m.tdiv n < 0) = decide (m.sign * n.sign = -1) := by
        rw [decide_eq_decide, ← hsign, Int.sign_eq_neg_one_iff_neg]
      have hm : m ≠ 0 := by
        rintro rfl
        exact hzero (Int.zero_tdiv n)
      rw [hproduct]
      rcases lt_or_gt_of_ne hm with hm | hm <;> rcases lt_or_gt_of_ne hn with hn | hn <;>
        simp [Int.sign_eq_neg_one_of_neg, Int.sign_eq_one_of_pos, hm, hn, not_lt_of_gt]
    rw [ofInt, Decimal.mk.injEq]
    exact ⟨hnegative, hcoefficient, rfl⟩

theorem compare_ofInt (m n : ℤ) : (ofInt m).compare (ofInt n) = Ord.compare m n := by
  unfold compare
  simp only [show min (ofInt m).exponent (ofInt n).exponent = 0 from rfl, scaledTo_zero_ofInt]

theorem abs_ofInt (n : ℤ) : (ofInt n).abs = ofInt n.natAbs := by
  unfold abs ofInt
  rw [Decimal.mk.injEq]
  refine ⟨?_, rfl, rfl⟩
  rw [eq_comm, decide_eq_false_iff_not]
  omega

/-- A whole number other than zero is shown as its sign and its digits. -/
theorem fixed_ofInt_of_ne_zero {n : ℤ} (hn : n ≠ 0) : (ofInt n).fixed =
    String.ofList ((if n < 0 then ['-'] else []) ++ Nat.toDigits 10 n.natAbs) := by
  have hzero : ¬ (ofInt n).isZero = true := mt (isZero_iff _).mp (Int.natAbs_ne_zero.mpr hn)
  have hexponent : 0 ≤ (ofInt n).exponent := le_rfl
  have hsign : (ofInt n).signText = if n < 0 then ['-'] else [] :=
    if_congr decide_eq_true_iff rfl rfl
  rw [fixed, if_neg hzero, fixedDigits, if_pos hexponent, if_neg hzero, hsign]
  change String.ofList (_ ++ (Nat.toDigits 10 n.natAbs ++ [])) = _
  rw [List.append_nil]

theorem fixed_ofInt (n : ℤ) : (ofInt n).fixed = toString n := by
  rw [Int.toString_eq_repr, Int.repr_eq_if, Nat.repr_eq_ofList_toDigits,
    Nat.repr_eq_ofList_toDigits]
  rcases lt_trichotomy n 0 with hn | rfl | hn
  · rw [fixed_ofInt_of_ne_zero hn.ne, if_pos hn, if_neg (not_le.mpr hn), String.ofList_append,
      show n.natAbs = (-n).toNat by omega]
  · rfl
  · rw [fixed_ofInt_of_ne_zero hn.ne', if_neg (not_lt.mpr hn.le), if_pos hn.le,
      List.nil_append, show n.natAbs = n.toNat by omega]

end Decimal

end Footprint
