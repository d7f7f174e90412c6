import Footprint.Proofs.Decimal.FixedPoint
import Footprint.Proofs.Decimal.Operations
import Footprint.Proofs.Size.RoundTrip

/-!
# Sizes with a fraction

A decimal number of bytes may have a fraction. Below the limit of bytes it is shown with all its
digits, in the only fixed-point numeral that the decimal has, and the parser reads that text as the
whole part. At the limit and above it the first step of the loop over units divides, and division
drops the fraction: the whole part goes through the same step to the same quotient
(`Arithmetic.fit_of_le`), so from there on the two are one number.
-/

namespace Footprint

namespace Decimal

variable {d : Decimal}

/-- A number below the limit of bytes whose last digit does not stand too low can be read in its
fixed-point form. -/
theorem isReadable_fixedNumeral (hlast : lowestPlace ≤ d.exponent) (h : |d.value| < 10240) :
    d.fixedNumeral.IsReadable := by
  rw [Numeral.IsReadable, d.isFixedPoint_fixedNumeral.decimal_exponent, d.value_fixedNumeral]
  refine ⟨le_min hlast (by decide), fun _ => (min_le_right _ _).trans (by decide), fun _ => ?_⟩
  have hfive : (5 : ℤ) ≤ highestPlace + 1 := by decide
  calc |d.value| < 10240 := h
    _ ≤ (10 : ℚ) ^ (5 : ℤ) := by norm_num
    _ ≤ (10 : ℚ) ^ (highestPlace + 1) := zpow_le_zpow_right₀ (by norm_num) hfive

end Decimal

/-! ### The loop over units -/

namespace Arithmetic

variable {d : Decimal} {next : SizeUnit} {rest : List SizeUnit}

theorem belowLimit_bytes (d : Decimal) :
    numeric.belowLimit .bytes d = .ok (decide (|d.value| < 10240)) := by
  have hcompare : (d.abs.compare (.ofInt 10240) == .lt) = decide (|d.value| < 10240) := by
    rw [Bool.eq_iff_iff, beq_iff_eq, decide_eq_true_iff, Decimal.compare_eq_lt_iff,
      Decimal.value_abs, Decimal.value_ofInt, Int.cast_ofNat]
  exact congrArg Except.ok hcompare

/-- Division by a whole number is division of the whole part. -/
theorem divide_natCast (d : Decimal) {m : ℕ} (hm : m ≠ 0) :
    numeric.divide d (.ofInt m) = .ok (.ofInt ((towardZero d.value).tdiv m)) := by
  have hdivisor : (Decimal.ofInt m).coefficient ≠ 0 := hm
  change Numeric.divide _ _ = _
  rw [Numeric.divide_eq_ofInt hdivisor, Decimal.value_ofInt, Int.cast_natCast,
    towardZero_div_natCast]

theorem fit_of_lt (h : |d.value| < 10240) :
    numeric.fit .bytes (next :: rest) d = .ok (d, .bytes) := by
  rw [fit, belowLimit_bytes, ok_bind, if_pos (decide_eq_true h)]
  rfl

/-- **The first step drops the fraction.** -/
theorem fit_of_le (h : 10240 ≤ |d.value|) : numeric.fit .bytes (next :: rest) d =
    numeric.fit next rest
      (.ofInt ((towardZero d.value).tdiv (2 ^ (SizeUnit.bytes.shift next).toNat : ℕ))) := by
  have hlimit : ¬decide (|d.value| < 10240) = true := by
    rw [decide_eq_true_iff]
    exact not_lt.mpr h
  have hdivisor (k : ℕ) : numeric.ofInt (Nat.pow 2 k) = .ok (.ofInt (2 ^ k : ℕ)) := rfl
  rw [fit, belowLimit_bytes, ok_bind, if_neg hlimit, hdivisor, ok_bind,
    divide_natCast d (by positivity), ok_bind]

theorem pretty_of_lt (h : |d.value| < 10240) :
    numeric.pretty d = .ok (d.fixed ++ " " ++ SizeUnit.bytes.name) := by
  have hunit : numeric.inUnit d = .ok (d, .bytes) := fit_of_lt h
  rw [pretty, hunit, ok_bind]
  rfl

/-- A number that has left the bytes is shown as its whole part. -/
theorem pretty_of_le (h : 10240 ≤ |d.value|) :
    numeric.pretty d = .ok (shown (towardZero d.value)) := by
  -- The whole part does not fall below the limit, and its first step has the same quotient.
  have hwhole : (10240 : ℚ) ≤ |(Decimal.ofInt (towardZero d.value)).value| := by
    have hle := le_natAbs_towardZero (n := 10240) (by exact_mod_cast h)
    rw [Decimal.value_ofInt, ← Int.cast_abs, Int.abs_eq_natAbs]
    exact_mod_cast hle
  have hunit : numeric.inUnit d = numeric.inUnit (.ofInt (towardZero d.value)) := by
    rw [inUnit, inUnit, SizeUnit.larger, fit_of_le h, fit_of_le hwhole, Decimal.value_ofInt,
      towardZero_intCast]
  rw [← carries_numeric.pretty_eq trivial, pretty, pretty, hunit]

end Arithmetic

/-! ### Reading a fraction back -/

namespace Size

open Decimal

variable {d : Decimal}

/-- A numeral in a unit of the table. -/
def Written.ofNumeral (number : Numeral) {unit : SizeUnit} (h : unit ∈ SizeUnit.table) : Written :=
  { Written.ofCount 0 h with number := number }

theorem Written.text_ofNumeral (number : Numeral) {unit : SizeUnit} (h : unit ∈ SizeUnit.table) :
    (Written.ofNumeral number h).text = String.ofList number.chars ++ " " ++ unit.name := by
  rw [← String.toList_inj, Written.text, String.toList_ofList, String.toList_append,
    String.toList_append, String.toList_ofList]
  change [] ++ (_ ++ ([' '] ++ (unit.name.toList ++ []))) = _
  rw [List.nil_append, List.append_nil, List.append_assoc]
  rfl

/-- A fixed-point text in bytes is read as its whole part. -/
theorem parse_fixed (hlast : lowestPlace ≤ d.exponent) (h : |d.value| < 10240) :
    parse (d.fixed ++ " " ++ SizeUnit.bytes.name) = .ok (towardZero d.value) := by
  have hbytes : SizeUnit.bytes ∈ SizeUnit.table := List.mem_cons_self
  have hrange : Int64Range.least ≤ towardZero d.value ∧
      towardZero d.value ≤ Int64Range.greatest := by
    have hwhole : |towardZero d.value| < 10240 := by
      exact_mod_cast (abs_towardZero_le d.value).trans_lt h
    rw [abs_lt] at hwhole
    unfold Int64Range.least Int64Range.greatest
    omega
  have hvalue : (Written.ofNumeral d.fixedNumeral hbytes).number.value *
      2 ^ (Written.ofNumeral d.fixedNumeral hbytes).bits = d.value := by
    change d.fixedNumeral.value * 2 ^ 0 = _
    rw [pow_zero, mul_one, d.value_fixedNumeral]
  rw [d.fixed_eq, ← Written.text_ofNumeral _ hbytes,
    Written.parse_text _ (d.isReadable_fixedNumeral hlast h), hvalue,
    Arithmetic.check_of_fits hrange]

/-- **A size with a fraction.** Below the limit of bytes a decimal is shown in its fixed-point
numeral, of which it has only one, and that text is read back as the whole part, at any exponent
that a readable number may have. From the limit on it is shown as its whole part is. A loose value
is shown as the decimal that it stands for. -/
theorem pretty_fraction (d : Decimal) :
    (|d.value| < 10240 → ∃ n : Numeral, n.IsFixedPoint d ∧
      (∀ n' : Numeral, n'.IsFixedPoint d → n' = n) ∧
      Arithmetic.numeric.pretty d = .ok (String.ofList n.chars ++ " bytes") ∧
      (lowestPlace ≤ d.exponent →
        parse (String.ofList n.chars ++ " bytes") = .ok (towardZero d.value))) ∧
    (10240 ≤ |d.value| → ∃ text, Arithmetic.numeric.pretty d = .ok text ∧
      NumberSystem.numeric.pretty (.int (towardZero d.value)) = .ok text) ∧
    (∀ size, Numeric.ofDatum size = .ok d →
      NumberSystem.numeric.pretty size = Arithmetic.numeric.pretty d) := by
  have htext : d.fixed ++ " " ++ SizeUnit.bytes.name =
      String.ofList d.fixedNumeral.chars ++ " bytes" := by
    rw [d.fixed_eq, String.append_assoc]
    rfl
  refine ⟨fun h => ?_, fun h => ?_, fun size hsize => ?_⟩
  · refine ⟨d.fixedNumeral, d.isFixedPoint_fixedNumeral,
      fun n' hn' => hn'.unique d.isFixedPoint_fixedNumeral, ?_, fun hlast => ?_⟩
    · rw [← htext, Arithmetic.pretty_of_lt h]
    · rw [← htext, parse_fixed hlast h]
  · exact ⟨_, Arithmetic.pretty_of_le h, NumberSystem.pretty_numeric _⟩
  · unfold NumberSystem.pretty
    rw [hsize]
    rfl

/-- A fraction below zero, one that is dropped, and a text. -/
theorem pretty_fraction_half :
    (|(⟨true, 1050, -2⟩ : Decimal).value| < 10240 ∧
      ∃ text, Arithmetic.numeric.pretty ⟨true, 1050, -2⟩ = .ok text ∧
        parse text = .ok (towardZero (⟨true, 1050, -2⟩ : Decimal).value)) ∧
    (10240 ≤ |(⟨false, 10000005, -1⟩ : Decimal).value| ∧
      ∃ text, Arithmetic.numeric.pretty ⟨false, 10000005, -1⟩ = .ok text) ∧
    (Numeric.ofDatum (.text "-10.50") = .ok ⟨true, 1050, -2⟩ ∧
      NumberSystem.numeric.pretty (.text "-10.50") =
        Arithmetic.numeric.pretty ⟨true, 1050, -2⟩) := by
  have hsmall : |(⟨true, 1050, -2⟩ : Decimal).value| < 10240 := by
    norm_num [value, signed]
  have hlarge : 10240 ≤ |(⟨false, 10000005, -1⟩ : Decimal).value| := by
    norm_num [value, signed]
  have hread : Numeric.ofDatum (.text "-10.50") = .ok ⟨true, 1050, -2⟩ := by
    decide +kernel
  obtain ⟨hbytes, -, hdatum⟩ := pretty_fraction ⟨true, 1050, -2⟩
  obtain ⟨-, hwhole, -⟩ := pretty_fraction ⟨false, 10000005, -1⟩
  obtain ⟨n, -, -, htext, hparse⟩ := hbytes hsmall
  obtain ⟨text, hlargeText, -⟩ := hwhole hlarge
  exact ⟨⟨hsmall, _, htext, hparse (by decide)⟩, ⟨hlarge, text, hlargeText⟩, hread,
    hdatum _ hread⟩

end Size

end Footprint
