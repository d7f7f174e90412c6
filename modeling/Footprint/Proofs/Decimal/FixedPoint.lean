import Footprint.Decimal.Printer
import Footprint.Proofs.Decimal.Whole

/-!
# Fixed-point numerals

The fixed-point text of a decimal is a numeral (`Decimal.fixed_eq`) that denotes the value of the
decimal, without an exponent and with as many digits behind the point as the decimal has. Before the
point stand only the digits that are needed, one at least, and a minus sign only if the value is
below zero. No other numeral is like this (`Numeral.IsFixedPoint.unique`): since the digits behind
the point are counted, two of them spell the same number in as many digits.
-/

namespace Footprint

open Decimal

/-! ### Numbers in digits -/

theorem digitsNumber_zeros_append (k : ℕ) (ds : List Char) :
    digitsNumber (List.replicate k '0' ++ ds) = digitsNumber ds := by
  unfold digitsNumber
  rw [Nat.ofDigitChars_append, Nat.ofDigitChars_replicate_zero, Nat.mul_zero]

theorem digitsNumber_append_zeros (k : ℕ) (ds : List Char) :
    digitsNumber (ds ++ List.replicate k '0') = 10 ^ k * digitsNumber ds := by
  unfold digitsNumber
  rw [Nat.ofDigitChars_append, Nat.ofDigitChars_replicate_zero]

theorem digitsNumber_cons (c : Char) (ds : List Char) :
    digitsNumber (c :: ds) = 10 ^ ds.length * (c.toNat - '0'.toNat) + digitsNumber ds := by
  unfold digitsNumber
  rw [Nat.ofDigitChars_cons, Nat.mul_zero, Nat.zero_add, Nat.ofDigitChars_eq_ofDigitChars_zero]

theorem toNat_of_isAsciiDigit {c : Char} (h : Text.isAsciiDigit c = true) :
    '0'.toNat ≤ c.toNat ∧ c.toNat ≤ '9'.toNat := by
  rw [Text.isAsciiDigit, Bool.and_eq_true, decide_eq_true_eq, decide_eq_true_eq] at h
  exact h

theorem digitsNumber_lt {ds : List Char} (h : IsDigits ds) : digitsNumber ds < 10 ^ ds.length := by
  induction ds with
  | nil => exact Nat.one_pos
  | cons c ds ih =>
    have hrest := ih fun d hd => h d (List.mem_cons_of_mem c hd)
    have hdigit : c.toNat - '0'.toNat ≤ 9 := by
      have := (toNat_of_isAsciiDigit (h c List.mem_cons_self)).2
      change c.toNat - 48 ≤ 9
      change c.toNat ≤ 57 at this
      omega
    have hfirst := Nat.mul_le_mul_left (10 ^ ds.length) hdigit
    rw [digitsNumber_cons, List.length_cons, pow_succ]
    omega

/-- A run of digits that does not begin with a zero has no shorter form. -/
theorem le_digitsNumber {ds : List Char} (h : IsDigits ds) (hne : ds ≠ [])
    (hzero : ds.head? ≠ some '0') : 10 ^ (ds.length - 1) ≤ digitsNumber ds := by
  obtain ⟨c, ds, rfl⟩ := List.exists_cons_of_ne_nil hne
  have hdigit : 1 ≤ c.toNat - '0'.toNat := by
    have hlow := (toNat_of_isAsciiDigit (h c List.mem_cons_self)).1
    have hne : c.toNat ≠ '0'.toNat := fun heq => hzero (congrArg some (Char.toNat_inj.mp heq))
    omega
  rw [digitsNumber_cons, List.length_cons, Nat.add_sub_cancel]
  exact (Nat.le_mul_of_pos_right _ hdigit).trans (Nat.le_add_right _ _)

/-- Runs of equally many digits are told apart by their numbers. -/
theorem digitsNumber_inj {ds es : List Char} (hd : IsDigits ds) (he : IsDigits es)
    (hlength : ds.length = es.length) (h : digitsNumber ds = digitsNumber es) : ds = es := by
  induction ds generalizing es with
  | nil => exact (List.length_eq_zero_iff.mp hlength.symm).symm
  | cons c ds ih =>
    obtain ⟨c', es, rfl⟩ := List.exists_cons_of_length_eq_add_one hlength.symm
    have hlength' : ds.length = es.length := Nat.succ.inj hlength
    have hd' : IsDigits ds := fun d hmem => hd d (List.mem_cons_of_mem c hmem)
    have he' : IsDigits es := fun d hmem => he d (List.mem_cons_of_mem c' hmem)
    rw [digitsNumber_cons, digitsNumber_cons, ← hlength'] at h
    have hlt := digitsNumber_lt hd'
    have hlt' := digitsNumber_lt he'
    rw [← hlength'] at hlt'
    -- The first digit is the quotient by a power of ten and the others are the rest.
    have hfirst : c.toNat - '0'.toNat = c'.toNat - '0'.toNat := by
      have hquotient := congrArg (· / 10 ^ ds.length) h
      rwa [Nat.mul_add_div (by positivity), Nat.mul_add_div (by positivity),
        Nat.div_eq_of_lt hlt, Nat.div_eq_of_lt hlt'] at hquotient
    rw [hfirst] at h
    have hlow := (toNat_of_isAsciiDigit (hd c List.mem_cons_self)).1
    have hlow' := (toNat_of_isAsciiDigit (he c' List.mem_cons_self)).1
    have hc : c = c' := Char.toNat_inj.mp (by omega)
    rw [hc, ih hd' he' hlength' (Nat.add_left_cancel h)]

/-! ### The fixed-point numeral -/

/-- The numeral denotes the value of the decimal in fixed-point form: without an exponent, with the
digits behind the point that the decimal has, with no zero at the front but a single one before the
point, and with a minus sign only if the value is below zero. -/
structure Numeral.IsFixedPoint (n : Numeral) (d : Decimal) : Prop where
  value : n.value = d.value
  exponent : n.exponent = none
  sign : n.sign = if d.value < 0 then some .minus else none
  fraction : n.fraction.map List.length =
    if d.exponent < 0 then some (-d.exponent).toNat else none
  whole_ne_nil : n.whole ≠ []
  head_zero : n.whole.head? = some '0' → n.whole.length = 1

namespace Numeral.IsFixedPoint

variable {n n' : Numeral} {d : Decimal}

theorem length_fraction (h : n.IsFixedPoint d) :
    n.fractionDigits.length = (-d.exponent).toNat := by
  have hfraction := h.fraction
  unfold fractionDigits
  split at hfraction
  · obtain ⟨ds, hds, hlength⟩ := Option.map_eq_some_iff.mp hfraction
    rw [hds, Option.getD_some, hlength]
  · rw [Option.map_eq_none_iff] at hfraction
    rw [hfraction, Option.getD_none, List.length_nil]
    omega

theorem decimal_exponent (h : n.IsFixedPoint d) : n.decimal.exponent = min d.exponent 0 := by
  change exponentPower n.exponent - (n.fractionDigits.length : ℤ) = _
  rw [h.exponent, h.length_fraction]
  change 0 - ((-d.exponent).toNat : ℤ) = _
  omega

/-- All fixed-point numerals of a decimal have the same number in their digits. -/
theorem digitsNumber_eq (h : n.IsFixedPoint d) (h' : n'.IsFixedPoint d) :
    digitsNumber (n.whole ++ n.fractionDigits) = digitsNumber (n'.whole ++ n'.fractionDigits) := by
  have hmagnitude : n.decimal.magnitude = n'.decimal.magnitude := by
    rw [← abs_value, ← abs_value, value_decimal, value_decimal, h.value, h'.value]
  rw [magnitude, magnitude, h.decimal_exponent, h'.decimal_exponent] at hmagnitude
  have hpow : (10 : ℚ) ^ min d.exponent 0 ≠ 0 := zpow_ne_zero _ (by norm_num)
  exact Nat.cast_injective (mul_right_cancel₀ hpow hmagnitude)

/-- Of two fixed-point numerals neither has more digits before the point. -/
theorem length_whole_le (h : n.IsFixedPoint d) (h' : n'.IsFixedPoint d) :
    n.whole.length ≤ n'.whole.length := by
  by_contra hlt
  rw [not_le] at hlt
  have hpos := List.length_pos_iff.mpr h'.whole_ne_nil
  have hhead : (n.whole ++ n.fractionDigits).head? ≠ some '0' := by
    rw [List.head?_append_of_ne_nil _ h.whole_ne_nil]
    intro hzero
    have := h.head_zero hzero
    omega
  have hlow := le_digitsNumber (n.whole_isDigits.append n.fraction_isDigits) n.digits_ne_nil hhead
  have hhigh := digitsNumber_lt (n'.whole_isDigits.append n'.fraction_isDigits)
  change digitsNumber (n'.whole ++ n'.fractionDigits) < _ at hhigh
  rw [← h.digitsNumber_eq h'] at hhigh
  have hpow := (Nat.pow_lt_pow_iff_right (by decide : 1 < 10)).mp (hlow.trans_lt hhigh)
  rw [List.length_append, List.length_append] at hpow
  have hlength := h.length_fraction
  have hlength' := h'.length_fraction
  unfold fractionDigits at *
  omega

/-- **There is one fixed-point numeral** for a decimal. -/
theorem unique (h : n.IsFixedPoint d) (h' : n'.IsFixedPoint d) : n = n' := by
  have hwhole := le_antisymm (h.length_whole_le h') (h'.length_whole_le h)
  have hdigits : n.whole ++ n.fractionDigits = n'.whole ++ n'.fractionDigits := by
    refine digitsNumber_inj (n.whole_isDigits.append n.fraction_isDigits)
      (n'.whole_isDigits.append n'.fraction_isDigits) ?_ (h.digitsNumber_eq h')
    rw [List.length_append, List.length_append, hwhole, h.length_fraction, h'.length_fraction]
  obtain ⟨hwhole, hfraction⟩ := List.append_inj hdigits hwhole
  refine Numeral.ext (h.sign.trans h'.sign.symm) hwhole ?_ (h.exponent.trans h'.exponent.symm)
  -- Whether there is a point is known from the exponent of the decimal.
  have hmap := h.fraction.trans h'.fraction.symm
  unfold fractionDigits at hfraction
  rcases hn : n.fraction with _ | ds <;> rcases hn' : n'.fraction with _ | ds' <;>
    rw [hn, hn'] at hmap hfraction
  · cases hmap
  · cases hmap
  · exact congrArg some hfraction

end Numeral.IsFixedPoint

namespace Decimal

/-- The digits of the fixed-point text without its point. Zeros fill up to a digit before the point,
and a number with a positive exponent is filled up to it. -/
def placedDigits (d : Decimal) : List Char :=
  List.replicate ((-d.exponent).toNat + 1 - d.digits.length) '0' ++
    (d.digits ++ if d.isZero then [] else List.replicate d.exponent.toNat '0')

/-- The number of digits before the point. -/
def wholeLength (d : Decimal) : ℕ := d.placedDigits.length - (-d.exponent).toNat

variable {d : Decimal}

/-- No zero is filled in behind the digits of a number that has no place above them. -/
theorem placedDigits_of_nonpos (h : d.exponent ≤ 0) : d.placedDigits =
    List.replicate ((-d.exponent).toNat + 1 - d.digits.length) '0' ++ d.digits := by
  rw [placedDigits, show d.exponent.toNat = 0 by omega, List.replicate_zero, ite_self,
    List.append_nil]

theorem isDigits_replicate_zero (k : ℕ) : IsDigits (List.replicate k '0') := by
  intro c hc
  rw [List.eq_of_mem_replicate hc]
  rfl

theorem isDigits_placedDigits (d : Decimal) : IsDigits d.placedDigits := by
  refine (isDigits_replicate_zero _).append ((isDigits_toDigits _).append ?_)
  split
  · exact List.forall_mem_nil _
  · exact isDigits_replicate_zero _

theorem length_placedDigits_gt (d : Decimal) : (-d.exponent).toNat < d.placedDigits.length := by
  have hlength : d.placedDigits.length =
      (-d.exponent).toNat + 1 - d.digits.length + (d.digits.length +
        (if d.isZero then [] else List.replicate d.exponent.toNat '0').length) := by
    rw [placedDigits, List.length_append, List.length_append, List.length_replicate]
  omega

theorem digitsNumber_placedDigits (d : Decimal) :
    digitsNumber d.placedDigits = 10 ^ d.exponent.toNat * d.coefficient := by
  have hdigits : digitsNumber d.digits = d.coefficient := Nat.ofDigitChars_ten_toDigits
  rw [placedDigits, digitsNumber_zeros_append]
  split
  · next hzero =>
    rw [List.append_nil, hdigits, (isZero_iff d).mp hzero, Nat.mul_zero]
  · rw [digitsNumber_append_zeros, hdigits]

/-- A zero at the front is the only digit before the point. -/
theorem length_placedDigits_of_zero (h : d.placedDigits.head? = some '0') :
    d.placedDigits.length = (-d.exponent).toNat + 1 := by
  have hpos : 0 < d.digits.length := Nat.length_toDigits_pos
  by_cases hshort : d.digits.length ≤ (-d.exponent).toNat
  · -- Zeros fill up to the one digit before the point.
    rw [placedDigits_of_nonpos (by omega), List.length_append, List.length_replicate]
    omega
  · -- The front is that of the coefficient, which is zero.
    have hfill : List.replicate ((-d.exponent).toNat + 1 - d.digits.length) '0' = [] := by
      rw [show (-d.exponent).toNat + 1 - d.digits.length = 0 by omega, List.replicate_zero]
    rw [placedDigits, hfill, List.nil_append] at h ⊢
    rw [List.head?_append_of_ne_nil _ (List.length_pos_iff.mp hpos)] at h
    have hzero : d.coefficient = 0 :=
      Nat.eq_zero_of_not_pos fun hne => head?_toDigits_ne_zero hne h
    have hdigits : d.digits = ['0'] := by
      rw [digits, hzero]
      rfl
    rw [if_pos ((isZero_iff d).mpr hzero), hdigits]
    rw [hdigits, List.length_singleton] at hshort
    rw [List.append_nil, List.length_singleton]
    omega

/-- The digits before the point. -/
def fixedWhole (d : Decimal) : List Char := d.placedDigits.take d.wholeLength

/-- The digits behind the point, if there is one. -/
def fixedFraction (d : Decimal) : Option (List Char) :=
  if 0 ≤ d.exponent then none else some (d.placedDigits.drop d.wholeLength)

theorem wholeLength_pos (d : Decimal) : 0 < d.wholeLength := by
  have hgt := d.length_placedDigits_gt
  unfold wholeLength
  omega

theorem length_fixedWhole (d : Decimal) : d.fixedWhole.length = d.wholeLength := by
  rw [fixedWhole, List.length_take]
  exact min_eq_left (Nat.sub_le _ _)

theorem fixedWhole_ne_nil (d : Decimal) : d.fixedWhole ≠ [] := by
  rw [← List.length_pos_iff, length_fixedWhole]
  exact d.wholeLength_pos

theorem isDigits_fixedWhole (d : Decimal) : IsDigits d.fixedWhole :=
  fun c hc => d.isDigits_placedDigits c (List.mem_of_mem_take hc)

theorem isDigits_fixedFraction (d : Decimal) : IsDigits (d.fixedFraction.getD []) := by
  unfold fixedFraction
  split
  · exact List.forall_mem_nil _
  · exact fun c hc => d.isDigits_placedDigits c (List.mem_of_mem_drop hc)

theorem fixedWhole_append_fixedFraction (d : Decimal) :
    d.fixedWhole ++ d.fixedFraction.getD [] = d.placedDigits := by
  unfold fixedWhole fixedFraction
  split
  · next hexponent =>
    rw [Option.getD_none, List.append_nil, List.take_of_length_le]
    unfold wholeLength
    omega
  · rw [Option.getD_some, List.take_append_drop]

/-- The numeral that the fixed-point text is. -/
def fixedNumeral (d : Decimal) : Numeral where
  sign := if d.negative && !d.isZero then some .minus else none
  whole := d.fixedWhole
  fraction := d.fixedFraction
  exponent := none
  whole_isDigits := d.isDigits_fixedWhole
  fraction_isDigits := d.isDigits_fixedFraction
  digits_ne_nil h := d.fixedWhole_ne_nil (List.append_eq_nil_iff.mp h).1

theorem value_neg_iff (d : Decimal) : d.value < 0 ↔ (d.negative && !d.isZero) = true := by
  have hnonneg := d.magnitude_nonneg
  rw [Bool.and_eq_true, Bool.not_eq_true', ← Bool.not_eq_true, isZero_iff, ← value_eq_zero_iff,
    value_eq]
  split
  · next hnegative =>
    rw [neg_lt_zero, neg_eq_zero, and_iff_right hnegative]
    exact ⟨fun hpos => hpos.ne', fun hne => hnonneg.lt_of_ne' hne⟩
  · next hpositive =>
    exact iff_of_false (not_lt.mpr hnonneg) fun h => hpositive h.1

theorem magnitude_fixedNumeral (d : Decimal) :
    d.fixedNumeral.decimal.magnitude = d.magnitude := by
  have hcoefficient :
      d.fixedNumeral.decimal.coefficient = 10 ^ d.exponent.toNat * d.coefficient := by
    rw [← digitsNumber_placedDigits, ← fixedWhole_append_fixedFraction]
    rfl
  have hexponent : d.fixedNumeral.decimal.exponent = min d.exponent 0 := by
    have hlength := congrArg List.length d.fixedWhole_append_fixedFraction
    have hgt := d.length_placedDigits_gt
    rw [List.length_append, length_fixedWhole, wholeLength] at hlength
    change 0 - ((d.fixedFraction.getD []).length : ℤ) = _
    omega
  have hsplit : d.exponent = (d.exponent.toNat : ℤ) + min d.exponent 0 := by omega
  calc d.fixedNumeral.decimal.magnitude
      = ((10 ^ d.exponent.toNat * d.coefficient : ℕ) : ℚ) * (10 : ℚ) ^ min d.exponent 0 := by
        rw [magnitude, hcoefficient, hexponent]
    _ = d.coefficient * ((10 : ℚ) ^ (d.exponent.toNat : ℤ) * (10 : ℚ) ^ min d.exponent 0) := by
        rw [zpow_natCast]
        push_cast
        ring
    _ = d.magnitude := by
        rw [← zpow_add₀ (by norm_num), ← hsplit, magnitude]

theorem value_fixedNumeral (d : Decimal) : d.fixedNumeral.value = d.value := by
  have hnegative : d.fixedNumeral.decimal.negative = (d.negative && !d.isZero) := by
    change ((if (d.negative && !d.isZero) = true then some Numeral.Sign.minus else none) ==
      some .minus) = _
    cases d.negative && !d.isZero <;> rfl
  rw [← Numeral.value_decimal, value_eq, hnegative, magnitude_fixedNumeral]
  by_cases hzero : d.isZero = true
  · -- The sign of a zero is left out, which does not change its value.
    have hvalue := d.value_eq_zero_iff.mpr ((isZero_iff d).mp hzero)
    rw [hvalue, ← abs_value, hvalue, abs_zero, neg_zero, ite_self]
  · rw [Bool.eq_false_of_not_eq_true hzero, Bool.not_false, Bool.and_true, value_eq]

theorem isFixedPoint_fixedNumeral (d : Decimal) : d.fixedNumeral.IsFixedPoint d where
  value := d.value_fixedNumeral
  exponent := rfl
  sign := if_congr d.value_neg_iff.symm rfl rfl
  fraction := by
    change d.fixedFraction.map List.length = _
    have hgt := d.length_placedDigits_gt
    unfold fixedFraction
    split
    · next hexponent => rw [if_neg (not_lt.mpr hexponent), Option.map_none]
    · next hexponent =>
      rw [if_pos (not_le.mp hexponent), Option.map_some, List.length_drop, wholeLength]
      congr 1
      omega
  whole_ne_nil := d.fixedWhole_ne_nil
  head_zero h := by
    change d.fixedWhole.head? = some '0' at h
    rw [fixedWhole, List.head?_take, if_neg d.wholeLength_pos.ne'] at h
    change d.fixedWhole.length = 1
    rw [length_fixedWhole, wholeLength, length_placedDigits_of_zero h]
    omega

/-- The digits and the point of the fixed-point text. -/
theorem fixedDigits_eq (d : Decimal) :
    d.fixedDigits = d.fixedWhole ++ Numeral.pointChars d.fixedFraction := by
  have hpos : 0 < d.digits.length := Nat.length_toDigits_pos
  unfold fixedDigits fixedWhole fixedFraction wholeLength
  split
  · next hexponent =>
    have hnone : (-d.exponent).toNat = 0 := by omega
    have hfill : 0 + 1 - d.digits.length = 0 := by omega
    rw [hnone, Nat.sub_zero, List.take_length, Numeral.pointChars, List.append_nil, placedDigits,
      hnone, hfill, List.replicate_zero, List.nil_append]
    split
    · next hzero =>
      rw [List.append_nil, digits, (isZero_iff d).mp hzero]
      rfl
    · rfl
  · next hexponent =>
    have hplaces : (-d.exponent).toNat ≠ 0 := by omega
    rw [pointed, if_neg hplaces, placedDigits_of_nonpos (not_le.mp hexponent).le]
    rfl

/-- **The fixed-point text** is the fixed-point numeral. -/
theorem fixed_eq (d : Decimal) : d.fixed = String.ofList d.fixedNumeral.chars := by
  have hsign : Numeral.Sign.chars d.fixedNumeral.sign = if d.isZero then [] else d.signText := by
    change Numeral.Sign.chars (if (d.negative && !d.isZero) = true then some .minus else none) = _
    unfold signText
    cases d.negative <;> cases d.isZero <;> rfl
  have hbody : d.fixedNumeral.body = d.fixedDigits := by
    rw [fixedDigits_eq]
    exact congrArg (d.fixedWhole ++ ·) (List.append_nil _)
  rw [fixed, ← hsign, ← hbody]
  rfl

end Decimal

end Footprint
