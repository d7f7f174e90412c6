import Footprint.Proofs.Size.Ladder
import Mathlib.Algebra.Order.Round
import Mathlib.Order.Bounds.Basic
import Mathlib.Tactic.IntervalCases

/-!
# What is shown of a size

A whole number of bytes is shown in one unit, `SizeUnit.chosen n`, with one count: the number itself
in bytes, and in any other unit the nearest integer to the exact quotient, a tie going away from
zero. That count is a single rounding (`SizeUnit.count_eq_shownCount`), whatever the number of steps
in which the unit was reached, and the unit is the first of the table whose limit the number is
below (`SizeUnit.isLeast_chosen`). The two number systems show the same text
(`NumberSystem.pretty_int64`, `NumberSystem.pretty_numeric`).

Unit and count depend on the magnitude only, so the text of a negative number is that of the
positive one behind a minus sign (`shown_neg`). A number that has left the bytes counts ten at least
in its unit (`SizeUnit.ten_le_amount`), hence none is shown as zero but zero.
-/

namespace Footprint

namespace SizeUnit

/-- The first unit of the table that holds a number of bytes. -/
def chosen (n : ℤ) : SizeUnit := (table.find? (holds n)).getD bytes

/-- The last unit holds every number. -/
theorem find?_table (n : ℤ) : table.find? (holds n) = some (chosen n) := by
  have hsome : (table.find? (holds n)).isSome = true := by
    rw [List.find?_isSome]
    exact ⟨⟨"PB", 50, none, true⟩, by decide, rfl⟩
  obtain ⟨unit, hunit⟩ := Option.isSome_iff_exists.mp hsome
  rw [chosen, hunit]
  rfl

/-- A magnitude as it is shown in a unit. -/
def amount (unit : SizeUnit) (a : ℕ) : ℕ :=
  if unit.rounds then (a / 2 ^ unit.carried + 1) / 2 else a / 2 ^ unit.carried

/-- The count has the sign of the number, and its magnitude depends on that of the number only. -/
theorem count_eq (unit : SizeUnit) (n : ℤ) : unit.count n = n.sign * unit.amount n.natAbs := by
  unfold count amount
  split
  · rw [halfAway, natAbs_carry, carry, tdiv_natCast]
    -- A quotient that is zero has lost its sign, and its half is zero.
    rcases Nat.eq_zero_or_pos (n.natAbs / 2 ^ unit.carried) with hzero | hpos
    · rw [hzero]
      simp
    · have hsign : ((n.natAbs / 2 ^ unit.carried : ℕ) : ℤ).sign = 1 :=
        Int.sign_eq_one_of_pos (by exact_mod_cast hpos)
      rw [Int.sign_mul, Int.sign_sign, hsign, mul_one]
  · rw [carry, tdiv_natCast]

theorem chosen_neg (n : ℤ) : chosen (-n) = chosen n := by
  unfold chosen holds
  rw [Int.natAbs_neg]

theorem count_neg (unit : SizeUnit) (n : ℤ) : unit.count (-n) = -unit.count n := by
  rw [count_eq, count_eq, Int.sign_neg, Int.natAbs_neg, neg_mul]

end SizeUnit

/-- The text that a whole number of bytes is shown as. -/
def shown (n : ℤ) : String :=
  toString ((SizeUnit.chosen n).count n) ++ " " ++ (SizeUnit.chosen n).name

namespace Arithmetic.Carries

open SizeUnit

variable {ν : Type} {A : Arithmetic ν} {embed : ℤ → ν} {Fits : ℤ → Prop} {n : ℤ}

theorem inUnit_eq (hA : A.Carries embed Fits) (hn : Fits n) :
    A.inUnit (embed n) = .ok (embed ((chosen n).count n), chosen n) := by
  have hcarry : bytes.carry n = n := Int.tdiv_one n
  have h := hA.fit_eq hn table_isLadder (find?_table n)
  rwa [hcarry] at h

theorem pretty_eq (hA : A.Carries embed Fits) (hn : Fits n) :
    A.pretty (embed n) = .ok (shown n) := by
  unfold pretty
  rw [hA.inUnit_eq hn, ok_bind]
  change Except.ok (A.text (embed _) ++ " " ++ _) = _
  rw [hA.text]
  rfl

end Arithmetic.Carries

namespace NumberSystem

variable {n : ℤ}

theorem pretty_int64 (h : Int64Range.least ≤ n ∧ n ≤ Int64Range.greatest) :
    NumberSystem.int64.pretty (.int n) = .ok (shown n) := by
  unfold NumberSystem.pretty Int64Range.ofDatum
  dsimp only
  rw [Arithmetic.check_of_fits h, ok_bind]
  exact Arithmetic.carries_int64.pretty_eq h

theorem unitFor_int64 (h : Int64Range.least ≤ n ∧ n ≤ Int64Range.greatest) :
    NumberSystem.int64.unitFor (.int n) = .ok (SizeUnit.chosen n) := by
  have hunit : Arithmetic.int64.inUnit n = .ok ((SizeUnit.chosen n).count n, SizeUnit.chosen n) :=
    Arithmetic.carries_int64.inUnit_eq h
  unfold NumberSystem.unitFor Int64Range.ofDatum
  dsimp only
  rw [Arithmetic.check_of_fits h, ok_bind, hunit]
  rfl

theorem pretty_numeric (n : ℤ) : NumberSystem.numeric.pretty (.int n) = .ok (shown n) := by
  unfold NumberSystem.pretty Numeric.ofDatum
  dsimp only
  rw [ok_bind]
  exact Arithmetic.carries_numeric.pretty_eq trivial

end NumberSystem

/-! ### The closed form -/

/-- The limit of the unit at position `k` of the table, for the exact number of bytes. -/
def ShownIn (n : ℤ) (k : ℕ) : Prop :=
  (k = 0 ∧ |n| < 10240) ∨
    (1 ≤ k ∧ k ≤ 4 ∧ ⌊(|n| : ℚ) / 2 ^ (10 * k - 1)⌋ < 20479) ∨
    k = 5

/-- The exact quotient for the unit at position `k` of the table, rounded once; the magnitude that
is rounded is not negative, so a tie goes away from zero. -/
def shownCount (n : ℤ) (k : ℕ) : ℤ :=
  if k = 0 then n else n.sign * round ((|n| : ℚ) / 2 ^ (10 * k))

theorem abs_intCast_eq (n : ℤ) : (|n| : ℚ) = (n.natAbs : ℚ) := by
  rw [Nat.cast_natAbs, Int.cast_abs]

theorem floor_abs_div (n : ℤ) (j : ℕ) :
    ⌊(|n| : ℚ) / 2 ^ j⌋ = ((n.natAbs / 2 ^ j : ℕ) : ℤ) := by
  have hcast : (|n| : ℚ) / 2 ^ j = (n.natAbs : ℚ) / ((2 ^ j : ℕ) : ℚ) := by
    rw [abs_intCast_eq]
    push_cast
    rfl
  rw [hcast, Rat.floor_natCast_div_natCast, Int.natCast_ediv]

/-- Rounding a quotient once is halving the next finer quotient away from zero. -/
theorem round_abs_div (n : ℤ) {b : ℕ} (hb : 1 ≤ b) :
    round ((|n| : ℚ) / 2 ^ b) = (((n.natAbs / 2 ^ (b - 1) + 1) / 2 : ℕ) : ℤ) := by
  obtain ⟨c, rfl⟩ := Nat.exists_eq_add_of_le' hb
  have hcast : (|n| : ℚ) / 2 ^ (c + 1) + 1 / 2 =
      ((n.natAbs + 2 ^ c : ℕ) : ℚ) / ((2 ^ (c + 1) : ℕ) : ℚ) := by
    rw [abs_intCast_eq]
    push_cast
    field_simp
    ring
  rw [round_eq, hcast, Rat.floor_natCast_div_natCast, Nat.add_sub_cancel, ← Int.natCast_ediv,
    pow_succ, ← Nat.div_div_eq_div_mul, Nat.add_div_right _ (by positivity)]

theorem shownIn_iff_natAbs (n : ℤ) (k : ℕ) : ShownIn n k ↔
    (k = 0 ∧ n.natAbs < 10240) ∨
      (1 ≤ k ∧ k ≤ 4 ∧ n.natAbs / 2 ^ (10 * k - 1) < 20479) ∨
      k = 5 := by
  have hfloor : ⌊(|n| : ℚ) / 2 ^ (10 * k - 1)⌋ < 20479 ↔ n.natAbs / 2 ^ (10 * k - 1) < 20479 := by
    rw [floor_abs_div]
    exact Nat.cast_lt (α := ℤ)
  have hbytes : |n| < 10240 ↔ n.natAbs < 10240 := by
    rw [Int.abs_eq_natAbs]
    omega
  rw [ShownIn, hfloor, hbytes]

namespace SizeUnit

variable {n : ℤ} {k : ℕ} {unit : SizeUnit}

/-- The units of the table: bytes, and above them powers of 1024 with one limit and a last one
without. -/
theorem table_spec (h : table[k]? = some unit) : (k = 0 ∧ unit = bytes) ∨
    (1 ≤ k ∧ k ≤ 5 ∧ unit.bits = 10 * k ∧ unit.rounds = true ∧
      unit.limit = if k ≤ 4 then some 20479 else none) := by
  obtain ⟨hk, rfl⟩ := List.getElem?_eq_some_iff.mp h
  have hle : k ≤ 5 := Nat.le_of_lt_succ hk
  interval_cases k
  · exact Or.inl ⟨rfl, rfl⟩
  all_goals exact Or.inr ⟨by decide, by decide, rfl, rfl, rfl⟩

/-- The unit at a position holds a number that is shown there. -/
theorem holds_iff_shownIn (h : table[k]? = some unit) : unit.holds n = true ↔ ShownIn n k := by
  rw [shownIn_iff_natAbs]
  rcases table_spec h with ⟨rfl, rfl⟩ | ⟨hpos, hle, hbits, hrounds, hlimit⟩
  · rw [holds, show bytes.limit = some 10240 from rfl, show bytes.carried = 0 from rfl,
      Option.all_some, decide_eq_true_iff, pow_zero, Nat.div_one]
    omega
  · rw [holds, carried, hbits, hrounds, if_pos rfl, hlimit]
    split
    · rw [Option.all_some, decide_eq_true_iff]
      omega
    · refine iff_of_true rfl (Or.inr (Or.inr ?_))
      omega

/-- **The chosen unit** is the least one that the number is shown in. -/
theorem isLeast_chosen (n : ℤ) :
    ∃ k, IsLeast {k | ShownIn n k} k ∧ table[k]? = some (chosen n) := by
  obtain ⟨hholds, k, hk, hunit, hleast⟩ := List.find?_eq_some_iff_getElem.mp (find?_table n)
  have hunit' : table[k]? = some (chosen n) := by rw [List.getElem?_eq_getElem hk, hunit]
  refine ⟨k, ⟨(holds_iff_shownIn hunit').mp hholds, fun j hj => ?_⟩, hunit'⟩
  by_contra hlt
  rw [not_le] at hlt
  have hbefore := hleast j hlt
  rw [(holds_iff_shownIn (List.getElem?_eq_getElem _)).mpr hj] at hbefore
  exact absurd hbefore (by decide)

/-- The magnitude that is shown in the unit at a position. -/
theorem amount_eq (h : table[k]? = some unit) (a : ℕ) :
    unit.amount a = if k = 0 then a else (a / 2 ^ (10 * k - 1) + 1) / 2 := by
  rcases table_spec h with ⟨rfl, rfl⟩ | ⟨hpos, -, hbits, hrounds, -⟩
  · exact Nat.div_one a
  · rw [amount, carried, hbits, hrounds, if_pos rfl, if_pos rfl, if_neg (by omega)]

/-- **The count is rounded once.** -/
theorem count_eq_shownCount (h : table[k]? = some unit) (n : ℤ) :
    unit.count n = shownCount n k := by
  rw [count_eq, amount_eq h, shownCount]
  split
  · exact Int.sign_mul_natAbs n
  · rw [round_abs_div n (by omega)]

/-- A number that has left the bytes counts ten at least. -/
theorem ten_le_amount (h : 10240 ≤ n.natAbs) : 10 ≤ (chosen n).amount n.natAbs := by
  obtain ⟨k, ⟨hk, hleast⟩, hunit⟩ := isLeast_chosen n
  have hk' := (shownIn_iff_natAbs n k).mp hk
  -- The unit before would not do, so the number has reached its limit.
  have hbefore : ¬ ShownIn n (k - 1) := by
    intro hshown
    have := hleast hshown
    omega
  rw [shownIn_iff_natAbs] at hbefore
  rw [amount_eq hunit, if_neg (by omega)]
  rcases Nat.lt_or_ge 1 k with hlarge | hone
  · -- Two units apart are 1024 times apart, also in half units.
    have hpow : 2 ^ (10 * k - 1) = 2 ^ (10 * (k - 1) - 1) * 1024 := by
      rw [show (1024 : ℕ) = 2 ^ 10 from rfl, ← pow_add]
      congr 1
      omega
    rw [hpow, ← Nat.div_div_eq_div_mul]
    omega
  · obtain rfl : k = 1 := by omega
    omega

/-- No number but zero is shown as zero. -/
theorem amount_pos (hn : n ≠ 0) : 0 < (chosen n).amount n.natAbs := by
  rcases Nat.lt_or_ge n.natAbs 10240 with hbytes | hlarge
  · obtain ⟨k, ⟨-, hleast⟩, hunit⟩ := isLeast_chosen n
    have hzero : ShownIn n 0 := (shownIn_iff_natAbs n 0).mpr (Or.inl ⟨rfl, hbytes⟩)
    rw [amount_eq hunit, if_pos (Nat.le_zero.mp (hleast hzero))]
    omega
  · have := ten_le_amount hlarge
    omega

end SizeUnit

/-! ### Negative numbers -/

theorem toString_neg {m : ℤ} (hm : 0 < m) : toString (-m) = "-" ++ toString m := by
  rw [Int.toString_eq_repr, Int.toString_eq_repr, Int.repr_eq_if, Int.repr_eq_if,
    if_neg (by omega), if_pos hm.le, neg_neg]

/-- **The text of a negative number** is a minus sign and the text of its magnitude. -/
theorem shown_neg {n : ℤ} (hn : 0 < n) : shown (-n) = "-" ++ shown n := by
  have hcount : 0 < (SizeUnit.chosen n).count n := by
    rw [SizeUnit.count_eq, Int.sign_eq_one_of_pos hn, one_mul]
    exact_mod_cast SizeUnit.amount_pos hn.ne'
  rw [shown, shown, SizeUnit.chosen_neg, SizeUnit.count_neg, toString_neg hcount,
    String.append_assoc, String.append_assoc, String.append_assoc]

/-- **The closed form of a shown size.** The unit is the first of the table that the exact number of
bytes is below the limit of, and the count is the exact quotient rounded once, a tie going away from
zero. Both number systems show the same text, whole numbers of 64 bits without an error for each
number they hold, and the text of a negative number is that of the positive one behind a minus
sign. -/
theorem pretty_int (n : ℤ) :
    (∃ k unit, IsLeast {k | ShownIn n k} k ∧ SizeUnit.table[k]? = some unit ∧
      NumberSystem.numeric.pretty (.int n) =
        .ok (toString (shownCount n k) ++ " " ++ unit.name) ∧
      (Int64Range.least ≤ n ∧ n ≤ Int64Range.greatest →
        NumberSystem.int64.pretty (.int n) =
          .ok (toString (shownCount n k) ++ " " ++ unit.name))) ∧
    (0 < n → ∃ text, NumberSystem.numeric.pretty (.int n) = .ok text ∧
      NumberSystem.numeric.pretty (.int (-n)) = .ok ("-" ++ text)) ∧
    (0 < n ∧ n ≤ Int64Range.greatest → ∃ text, NumberSystem.int64.pretty (.int n) = .ok text ∧
      NumberSystem.int64.pretty (.int (-n)) = .ok ("-" ++ text)) := by
  obtain ⟨k, hleast, hunit⟩ := SizeUnit.isLeast_chosen n
  have htext : shown n = toString (shownCount n k) ++ " " ++ (SizeUnit.chosen n).name := by
    rw [shown, SizeUnit.count_eq_shownCount hunit]
  refine ⟨⟨k, SizeUnit.chosen n, hleast, hunit, ?_, fun h => ?_⟩, fun h => ?_, fun h => ?_⟩
  · rw [NumberSystem.pretty_numeric, htext]
  · rw [NumberSystem.pretty_int64 h, htext]
  · refine ⟨shown n, NumberSystem.pretty_numeric n, ?_⟩
    rw [NumberSystem.pretty_numeric, shown_neg h]
  · have hpos : Int64Range.least ≤ n ∧ n ≤ Int64Range.greatest := by
      unfold Int64Range.least
      omega
    have hneg : Int64Range.least ≤ -n ∧ -n ≤ Int64Range.greatest := by
      unfold Int64Range.least Int64Range.greatest at *
      omega
    refine ⟨shown n, NumberSystem.pretty_int64 hpos, ?_⟩
    rw [NumberSystem.pretty_int64 hneg, shown_neg h.1]

end Footprint
