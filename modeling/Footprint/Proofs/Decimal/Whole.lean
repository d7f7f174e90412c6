import Footprint.Proofs.Decimal.Numeral

/-!
# Whole numbers as numerals

The text of an integer is a numeral without point and exponent (`Numeral.ofInt`), which denotes the
integer itself (`Numeral.value_ofInt`).
-/

namespace Footprint

open Decimal

theorem isDigits_toDigits (n : ℕ) : IsDigits (Nat.toDigits 10 n) := by
  intro c hc
  have hdigit := Nat.isDigit_of_mem_toDigits (by decide) (by decide) hc
  rw [Char.isDigit, Bool.and_eq_true, decide_eq_true_eq, decide_eq_true_eq] at hdigit
  rw [Text.isAsciiDigit, Bool.and_eq_true, decide_eq_true_eq, decide_eq_true_eq]
  exact hdigit

/-- A number other than zero is written without a leading zero. -/
theorem head?_toDigits_ne_zero {n : ℕ} (h : 0 < n) : (Nat.toDigits 10 n).head? ≠ some '0' := by
  -- The first digit of a longer number is that of its tenth part.
  induction n using Nat.strong_induction_on with
  | _ n ih =>
    rw [Nat.toDigits_eq_if (by decide)]
    split
    · next hlt =>
      rw [List.head?_cons, Ne, Option.some_inj, Nat.digitChar_eq_zero]
      omega
    · next hge =>
      rw [List.head?_append_of_ne_nil _ Nat.toDigits_ne_nil]
      exact ih (n / 10) (by omega) (by omega)

namespace Numeral

/-- The numeral that an integer is shown as. -/
def ofInt (n : ℤ) : Numeral where
  sign := if n < 0 then some .minus else none
  whole := Nat.toDigits 10 n.natAbs
  fraction := none
  exponent := none
  whole_isDigits := isDigits_toDigits n.natAbs
  fraction_isDigits := nofun
  digits_ne_nil h := Nat.toDigits_ne_nil (List.append_eq_nil_iff.mp h).1

theorem toList_toString (n : ℤ) : (toString n).toList =
    Sign.chars (if n < 0 then some .minus else none) ++ Nat.toDigits 10 n.natAbs := by
  rw [Int.toString_eq_repr, Int.repr_eq_if]
  rcases lt_or_ge n 0 with hn | hn
  · rw [if_neg (by omega), if_pos hn, String.toList_append, Nat.toList_repr,
      show (-n).toNat = n.natAbs by omega]
    rfl
  · rw [if_pos hn, if_neg (by omega), Nat.toList_repr, show n.toNat = n.natAbs by omega]
    rfl

theorem chars_ofInt (n : ℤ) : (ofInt n).chars = (toString n).toList := by
  rw [toList_toString]
  change Sign.chars _ ++ (Nat.toDigits 10 n.natAbs ++ ([] ++ [])) = _
  rw [List.append_nil, List.append_nil]
  rfl

theorem decimal_ofInt (n : ℤ) : (ofInt n).decimal = Decimal.ofInt n := by
  have hsign : ((ofInt n).sign == some .minus) = decide (n < 0) := by
    change ((if n < 0 then some Sign.minus else none) == some Sign.minus) = _
    split
    · next hn => rw [decide_eq_true hn]; rfl
    · next hn => rw [decide_eq_false hn]; rfl
  have hdigits : digitsNumber ((ofInt n).whole ++ (ofInt n).fractionDigits) = n.natAbs := by
    change digitsNumber (Nat.toDigits 10 n.natAbs ++ []) = _
    rw [List.append_nil, digitsNumber, Nat.ofDigitChars_ten_toDigits]
  rw [decimal, hsign, hdigits]
  rfl

theorem value_ofInt (n : ℤ) : (ofInt n).value = n := by
  rw [← value_decimal, decimal_ofInt, Decimal.value_ofInt]

/-- An integer of at most twenty digits can be read. -/
theorem isReadable_ofInt {n : ℤ} (h : n.natAbs < 10 ^ 20) : (ofInt n).IsReadable := by
  have hdigits := (digitCount_le_iff (by decide : 0 < 20)).mpr h
  have hplace : (Decimal.ofInt n).adjusted ≤ 19 := by
    unfold adjusted
    change 0 + (digitCount n.natAbs : ℤ) - 1 ≤ 19
    omega
  rw [isReadable_iff, decimal_ofInt, inRange, Bool.and_eq_true, decide_eq_true_eq,
    decide_eq_true_eq]
  have hexponent : (Decimal.ofInt n).exponent = 0 := rfl
  refine ⟨?_, by rw [hexponent]; decide⟩
  split
  · rw [hexponent]
    decide
  · exact hplace.trans (by decide)

end Numeral

end Footprint
