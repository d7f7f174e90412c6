import Footprint.Proofs.Size.Grammar
import Footprint.Proofs.Size.WholeNumbers

/-!
# The value of a size

A written size is worth its number times the power of two of its unit, a rational number, and the
parser yields the whole part of that number if it fits in 64 bits (`Written.parse_text`).

The parser computes something else: it refuses a number whose first digit stands too high before it
multiplies, and multiplies in decimals of a bounded precision and range. Neither can be seen in the
result. A number that is refused is out of range in every unit (`not_fits_of_greatestPlace_lt`). A
number that is not refused has a product with its first digit within the working precision, so
everything that the multiplication drops is of the fraction (`exists_product`).
-/

namespace Footprint.Size

/-- The largest unit is a petabyte. -/
theorem unitSpellings_bits_le : ∀ entry ∈ unitSpellings, entry.2 ≤ 50 := by decide +kernel

theorem Written.bits_le (w : Written) : w.bits ≤ 50 := by
  rw [bits]
  rcases hbits : w.unit.bind unitBits? with _ | bits
  · exact Nat.zero_le 50
  · obtain ⟨name, -, hname⟩ := Option.bind_eq_some_iff.mp hbits
    obtain ⟨front, back, hsplit, -⟩ := List.lookup_eq_some_iff.mp hname
    refine unitSpellings_bits_le (Text.lowerWords (String.ofList name), bits) ?_
    rw [hsplit]
    exact List.mem_append_right front List.mem_cons_self

/-! ### The shortcut -/

variable {d : Decimal} {bits : ℕ}

/-- **The shortcut is safe.** A number whose first digit stands too high is out of range in every
unit. -/
theorem not_fits_of_greatestPlace_lt (hd : d.value ≠ 0) (h : greatestPlace < d.adjusted) :
    ¬ (Int64Range.least ≤ towardZero (d.value * 2 ^ bits) ∧
      towardZero (d.value * 2 ^ bits) ≤ Int64Range.greatest) := by
  have hcoefficient := mt d.value_eq_zero_iff.mpr hd
  have hplace : (10 : ℚ) ^ (41 : ℤ) ≤ |d.value| := by
    rw [d.abs_value]
    refine le_trans ?_ (Decimal.pow_adjusted_le hcoefficient)
    exact zpow_le_zpow_right₀ (by norm_num) (Int.add_one_le_of_lt h)
  have hlarge : ((10 ^ 41 : ℕ) : ℚ) ≤ |d.value * 2 ^ bits| := by
    have hpow : (1 : ℚ) ≤ 2 ^ bits := one_le_pow₀ (by norm_num)
    rw [abs_mul, abs_of_nonneg (by positivity : (0 : ℚ) ≤ 2 ^ bits)]
    calc ((10 ^ 41 : ℕ) : ℚ) = (10 : ℚ) ^ (41 : ℤ) := by norm_num
      _ ≤ |d.value| := hplace
      _ ≤ |d.value| * 2 ^ bits := le_mul_of_one_le_right (abs_nonneg _) hpow
  have := le_natAbs_towardZero hlarge
  unfold Int64Range.least Int64Range.greatest
  omega

/-! ### The multiplication -/

/-- **The multiplication is exact in its whole part**, unless the number is refused before it. -/
theorem exists_product (hbits : bits ≤ 50) (h : d.value = 0 ∨ d.adjusted ≤ greatestPlace) :
    ∃ product, d.mulBounded Numeric.basePrecision (.ofInt (2 ^ bits : ℕ)) = some product ∧
      product.truncate = towardZero (d.value * 2 ^ bits) := by
  have hvalue : (d.mul (.ofInt (2 ^ bits : ℕ))).value = d.value * 2 ^ bits := by
    rw [Decimal.value_mul, Decimal.value_ofInt]
    push_cast
    rfl
  rw [← hvalue, ← Decimal.truncate_eq_towardZero]
  refine Decimal.exists_bounded (by decide) ?_
  by_cases hzero : (d.mul (.ofInt (2 ^ bits : ℕ))).coefficient = 0
  · exact Or.inl hzero
  · refine Or.inr ?_
    have hd : d.value ≠ 0 := by
      intro h0
      rw [h0, zero_mul, Decimal.value_eq_zero_iff] at hvalue
      exact hzero hvalue
    have hplace := h.resolve_left hd
    -- A petabyte is less than ten to the sixteenth bytes.
    have hmagnitude : (d.mul (.ofInt (2 ^ bits : ℕ))).magnitude < (10 : ℚ) ^ (57 : ℤ) := by
      have hnumber : d.magnitude < (10 : ℚ) ^ (41 : ℤ) :=
        (Decimal.lt_pow_adjusted d).trans_le
          (zpow_le_zpow_right₀ (by norm_num) (Int.add_le_add_right hplace 1))
      have hunit : (2 : ℚ) ^ bits ≤ 10 ^ (16 : ℤ) := by
        calc (2 : ℚ) ^ bits ≤ 2 ^ 50 := pow_le_pow_right₀ (by norm_num) hbits
          _ ≤ 10 ^ (16 : ℤ) := by norm_num
      rw [← Decimal.abs_value, hvalue, abs_mul, Decimal.abs_value,
        abs_of_nonneg (by positivity : (0 : ℚ) ≤ 2 ^ bits)]
      calc d.magnitude * 2 ^ bits < (10 : ℚ) ^ (41 : ℤ) * 10 ^ (16 : ℤ) :=
            mul_lt_mul hnumber hunit (by positivity) (by positivity)
        _ = (10 : ℚ) ^ (57 : ℤ) := by norm_num
    have hadjusted := Decimal.adjusted_lt_of_magnitude_lt hzero hmagnitude
    refine ⟨hadjusted.trans (by decide), ?_⟩
    unfold Decimal.highestPlace
    omega

/-- Multiplying out yields the whole part of the exact product if it fits in 64 bits. -/
theorem scale_eq (hbits : bits ≤ 50) :
    scale d (2 ^ bits) = Int64Range.check (towardZero (d.value * 2 ^ bits)) := by
  unfold scale
  by_cases hskip : (!d.isZero && decide (greatestPlace < d.adjusted)) = true
  · rw [if_pos hskip]
    rw [Bool.and_eq_true, Bool.not_eq_true', decide_eq_true_eq, ← Bool.not_eq_true, d.isZero_iff,
      ← d.value_eq_zero_iff] at hskip
    rw [Int64Range.check_eq, if_neg (not_fits_of_greatestPlace_lt hskip.1 hskip.2)]
  · rw [if_neg hskip]
    have hplace : d.value = 0 ∨ d.adjusted ≤ greatestPlace := by
      rw [d.value_eq_zero_iff, ← d.isZero_iff]
      simpa [Decidable.imp_iff_not_or, or_comm] using hskip
    -- In bytes there is no multiplication, and nothing to drop but the fraction.
    by_cases hone : 1 < 2 ^ bits
    · obtain ⟨product, hproduct, htruncate⟩ := exists_product hbits hplace
      simp only [if_pos hone, hproduct, htruncate]
    · have hzero : bits = 0 := by
        by_contra hne
        exact hone (Nat.one_lt_two_pow hne)
      subst hzero
      simp only [pow_zero, lt_self_iff_false, if_false, Decimal.truncate_eq_towardZero, mul_one]

theorem Written.parse_text (w : Written) (h : w.number.IsReadable) :
    parse w.text = Int64Range.check (towardZero (w.number.value * 2 ^ w.bits)) := by
  rw [(Verdict.size w rfl h).parse_eq, scale_eq w.bits_le, Numeral.value_decimal]

/-- **The value of a size** is its number times the power of two of its unit, exactly, with the
fraction dropped toward zero, and out of range where that does not fit in 64 bits. The shortcut
refuses nothing that fits, and the product at the working precision has the whole part of the exact
product. -/
theorem parse_value (w : Written) (h : w.number.IsReadable) :
    (parse w.text =
      if Int64Range.least ≤ towardZero (w.number.value * 2 ^ w.bits) ∧
          towardZero (w.number.value * 2 ^ w.bits) ≤ Int64Range.greatest then
        .ok (towardZero (w.number.value * 2 ^ w.bits))
      else .error .outOfRange) ∧
    (w.number.value ≠ 0 → greatestPlace < w.number.decimal.adjusted →
      ¬ (Int64Range.least ≤ towardZero (w.number.value * 2 ^ w.bits) ∧
        towardZero (w.number.value * 2 ^ w.bits) ≤ Int64Range.greatest)) ∧
    (w.number.value = 0 ∨ w.number.decimal.adjusted ≤ greatestPlace →
      ∃ product,
        w.number.decimal.mulBounded Numeric.basePrecision (.ofInt (2 ^ w.bits : ℕ)) =
          some product ∧
        product.truncate = towardZero (w.number.value * 2 ^ w.bits)) := by
  rw [w.parse_text h, Int64Range.check_eq, ← Numeral.value_decimal]
  exact ⟨rfl, not_fits_of_greatestPlace_lt, exists_product w.bits_le⟩

/-- A size in bytes that only its fraction takes beyond 64 bits. -/
def beyondGreatest : Written where
  lead := []
  number := ⟨none, "9223372036854775807".toList, some ['9'], none, by decide, by decide, by decide⟩
  gap := []
  unit := none
  trail := []
  lead_blank := isBlanks_nil
  gap_blank := isBlanks_nil
  trail_blank := isBlanks_nil
  unit_known := nofun
  trail_nil _ := rfl

theorem parse_beyondGreatest : beyondGreatest.number.IsReadable ∧
    parse "9223372036854775807.9" = .ok Int64Range.greatest := by
  have hdecimal : beyondGreatest.number.decimal = ⟨false, 92233720368547758079, -1⟩ := by
    decide +kernel
  have hreadable : beyondGreatest.number.IsReadable := by
    rw [Numeral.isReadable_iff, hdecimal]
    decide
  have hwhole : towardZero (beyondGreatest.number.value * 2 ^ beyondGreatest.bits) =
      Int64Range.greatest := by
    have hvalue : beyondGreatest.number.value * 2 ^ beyondGreatest.bits =
        92233720368547758079 / 10 := by
      rw [show beyondGreatest.bits = 0 from rfl, ← Numeral.value_decimal, hdecimal]
      norm_num [Decimal.value, Decimal.signed]
    rw [hvalue, towardZero_of_nonneg (by norm_num), Int.floor_eq_iff, Int64Range.greatest]
    norm_num
  have hparse := (parse_value beyondGreatest hreadable).1
  rw [hwhole, if_pos (by decide)] at hparse
  exact ⟨hreadable, hparse⟩

end Footprint.Size
