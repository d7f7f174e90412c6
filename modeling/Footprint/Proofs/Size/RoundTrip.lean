import Footprint.Proofs.Decimal.Whole
import Footprint.Proofs.Size.Scale
import Footprint.Proofs.Size.Shown

/-!
# Reading back what is shown

The text of a size is a written size itself (`Written.ofCount`), so the parser reads back its count
times its unit exactly (`parse_shown`). What is left is arithmetic: that product is the multiple of
the unit nearest to the number of bytes (`SizeUnit.near_amount`), it is shown in the same unit with
the same count (`SizeUnit.shown_count_mul`), and it fits in 64 bits unless the number is within half
a petabyte of the greatest one (`SizeUnit.count_mul_range`).
-/

namespace Footprint

open Decimal

namespace Size

/-! ### Shown sizes as written sizes -/

theorem unitBits?_table : ∀ unit ∈ SizeUnit.table, unitBits? unit.name.toList = some unit.bits := by
  decide +kernel

/-- A count in a unit of the table, as it is shown. -/
def Written.ofCount (count : ℤ) {unit : SizeUnit} (h : unit ∈ SizeUnit.table) : Written where
  lead := []
  number := .ofInt count
  gap := [' ']
  unit := some unit.name.toList
  trail := []
  lead_blank := isBlanks_nil
  gap_blank := fun c hc => (List.mem_singleton.mp hc) ▸ rfl
  trail_blank := isBlanks_nil
  unit_known := by
    rintro _ ⟨⟩
    rw [unitBits?_table unit h]
    rfl
  trail_nil _ := rfl

theorem Written.text_ofCount (count : ℤ) {unit : SizeUnit} (h : unit ∈ SizeUnit.table) :
    (Written.ofCount count h).text = toString count ++ " " ++ unit.name := by
  rw [← String.toList_inj, Written.text, String.toList_ofList, String.toList_append,
    String.toList_append, ← Numeral.chars_ofInt]
  change [] ++ (_ ++ ([' '] ++ (unit.name.toList ++ []))) = _
  rw [List.nil_append, List.append_nil, List.append_assoc]
  rfl

theorem Written.bits_ofCount (count : ℤ) {unit : SizeUnit} (h : unit ∈ SizeUnit.table) :
    (Written.ofCount count h).bits = unit.bits := by
  change ((some unit.name.toList).bind unitBits?).getD 0 = _
  rw [Option.bind_some, unitBits?_table unit h]
  rfl

/-- A shown count is read back times its unit. -/
theorem parse_count {count : ℤ} {unit : SizeUnit} (hunit : unit ∈ SizeUnit.table)
    (hcount : count.natAbs < 10 ^ 20) : parse (toString count ++ " " ++ unit.name) =
      Int64Range.check (count * 2 ^ unit.bits) := by
  have hwhole : towardZero ((Written.ofCount count hunit).number.value *
      2 ^ (Written.ofCount count hunit).bits) = count * 2 ^ unit.bits := by
    have hvalue : (Written.ofCount count hunit).number.value = count := Numeral.value_ofInt count
    rw [hvalue, Written.bits_ofCount, ← towardZero_intCast (count * 2 ^ unit.bits)]
    push_cast
    rfl
  rw [← Written.text_ofCount count hunit, Written.parse_text _ (Numeral.isReadable_ofInt hcount),
    hwhole]

end Size

/-! ### Rounded to a unit -/

namespace SizeUnit

variable {n : ℤ} {k : ℕ} {unit : SizeUnit}

theorem amount_le (unit : SizeUnit) (a : ℕ) : unit.amount a ≤ a := by
  have hle : a / 2 ^ unit.carried ≤ a := Nat.div_le_self _ _
  unfold amount
  split <;> omega

theorem natAbs_count (unit : SizeUnit) (n : ℤ) :
    (unit.count n).natAbs = unit.amount n.natAbs := by
  rw [count_eq, Int.natAbs_mul, Int.natAbs_natCast]
  rcases eq_or_ne n 0 with rfl | hn
  · have hzero := unit.amount_le (0 : ℤ).natAbs
    rw [Int.sign_zero, Int.natAbs_zero, zero_mul]
    exact (Nat.le_zero.mp hzero).symm
  · rw [Int.natAbs_sign_of_ne_zero hn, one_mul]

/-- A unit above bytes is twice what a number is carried in. -/
theorem two_pow_bits (hunit : table[k]? = some unit) (hk : k ≠ 0) :
    2 ^ unit.bits = 2 * 2 ^ (10 * k - 1) := by
  obtain ⟨rfl, -⟩ | ⟨hpos, -, hbits, -⟩ := table_spec hunit
  · exact absurd rfl hk
  · rw [hbits, ← pow_succ']
    congr 1
    omega

/-- **The nearest multiple of a unit.** A number and its count in the unit are half a unit apart at
most, and exactly half a unit only where the count is rounded up. -/
theorem near_amount (hunit : table[k]? = some unit) (hk : k ≠ 0) (a : ℕ) :
    2 * (unit.amount a * 2 ^ unit.bits) ≤ 2 * a + 2 ^ unit.bits ∧
      2 * a < 2 * (unit.amount a * 2 ^ unit.bits) + 2 ^ unit.bits := by
  have hhalf : 0 < 2 ^ (10 * k - 1) := by positivity
  rw [two_pow_bits hunit hk, amount_eq hunit, if_neg hk]
  generalize 2 ^ (10 * k - 1) = half at hhalf ⊢
  have hbelow := Nat.mul_div_le a half
  have habove := Nat.lt_mul_div_succ a hhalf
  generalize a / half = q at hbelow habove ⊢
  -- With `q` halves in the number, the count is the half of `q` that is rounded up.
  have hlow : 2 * ((q + 1) / 2) * half ≤ (q + 1) * half := Nat.mul_le_mul_right half (by omega)
  have hhigh : (q + 1) * half ≤ (2 * ((q + 1) / 2) + 1) * half :=
    Nat.mul_le_mul_right half (by omega)
  constructor
  · linarith
  · linarith

/-- A multiple of a unit has the count that it is a multiple by. -/
theorem amount_mul (hunit : table[k]? = some unit) (c : ℕ) :
    unit.amount (c * 2 ^ unit.bits) = c := by
  rcases Nat.eq_zero_or_pos k with rfl | hk
  · obtain ⟨-, rfl⟩ | ⟨hpos, -⟩ := table_spec hunit
    · exact (Nat.div_one _).trans (Nat.mul_one c)
    · omega
  · have hhalf : 0 < 2 ^ (10 * k - 1) := by positivity
    rw [amount_eq hunit, if_neg hk.ne', two_pow_bits hunit hk.ne', ← mul_assoc,
      Nat.mul_div_cancel _ hhalf]
    omega

theorem mem_table (n : ℤ) : chosen n ∈ table := List.mem_of_find?_eq_some (find?_table n)

/-- A number that is not shown in bytes has left them. -/
theorem le_natAbs_of_isLeast (hleast : IsLeast {k | ShownIn n k} k) (hk : k ≠ 0) :
    10240 ≤ n.natAbs := by
  by_contra hlt
  have hzero : ShownIn n 0 := (shownIn_iff_natAbs n 0).mpr (Or.inl ⟨rfl, by omega⟩)
  have := hleast.2 hzero
  omega

/-- A number that is rounded to its unit is still shown in that unit: its count is neither too large
for the unit nor so small that the unit before it would do. -/
theorem isLeast_of_natAbs_eq (hleast : IsLeast {k | ShownIn n k} k)
    (hunit : table[k]? = some (chosen n)) (hk : k ≠ 0) {m : ℤ}
    (hm : m.natAbs = (chosen n).amount n.natAbs * 2 ^ (chosen n).bits) :
    IsLeast {k | ShownIn m k} k := by
  have hten := ten_le_amount (le_natAbs_of_isLeast hleast hk)
  have hshown := (shownIn_iff_natAbs n k).mp hleast.1
  have hamount : (chosen n).amount n.natAbs = (n.natAbs / 2 ^ (10 * k - 1) + 1) / 2 := by
    rw [amount_eq hunit, if_neg hk]
  rw [two_pow_bits hunit hk, ← mul_assoc] at hm
  refine ⟨(shownIn_iff_natAbs m k).mpr ?_, fun j hj => ?_⟩
  · rw [hm, Nat.mul_div_cancel _ (by positivity)]
    omega
  · by_contra hlt
    rw [not_le] at hlt
    rcases (shownIn_iff_natAbs m j).mp hj with ⟨rfl, hbytes⟩ | ⟨hpos, -, hlimit⟩ | rfl
    · -- Ten of any unit above bytes are 10240 bytes at least.
      have hpow : 2 ^ 9 ≤ 2 ^ (10 * k - 1) := Nat.pow_le_pow_right (by decide) (by omega)
      have hprod := Nat.mul_le_mul (Nat.mul_le_mul_right 2 hten) hpow
      omega
    · -- Ten of a unit are 20480 halves of the unit before it, and more of those before that.
      have hsplit : 2 ^ (10 * k - 1) = 2 ^ (10 * (k - j)) * 2 ^ (10 * j - 1) := by
        rw [← pow_add]
        congr 1
        omega
      have hpow : 2 ^ 10 ≤ 2 ^ (10 * (k - j)) := Nat.pow_le_pow_right (by decide) (by omega)
      have hprod := Nat.mul_le_mul (Nat.mul_le_mul_right 2 hten) hpow
      rw [hm, hsplit, ← mul_assoc, Nat.mul_div_cancel _ (by positivity)] at hlimit
      omega
    · omega

/-- **Rounding is a projection.** A number that is rounded to the unit that it is shown in is shown
the same. -/
theorem shown_count_mul (n : ℤ) : shown ((chosen n).count n * 2 ^ (chosen n).bits) = shown n := by
  obtain ⟨k, hleast, hunit⟩ := isLeast_chosen n
  by_cases hk : k = 0
  · have hbytes : chosen n = bytes := by
      subst hk
      exact (Option.some.inj hunit).symm
    have hcount : (chosen n).count n = n := by
      rw [count_eq_shownCount hunit, shownCount, if_pos hk]
    rw [hcount, hbytes]
    exact congrArg shown (mul_one n)
  · -- Above bytes the rounded number keeps its sign, its unit and its count.
    have hn : n ≠ 0 := by
      rintro rfl
      exact absurd (le_natAbs_of_isLeast hleast hk) (by decide)
    have hpos := amount_pos hn
    have hnatAbs : ((chosen n).count n * 2 ^ (chosen n).bits).natAbs =
        (chosen n).amount n.natAbs * 2 ^ (chosen n).bits := by
      rw [Int.natAbs_mul, natAbs_count, Int.natAbs_pow]
      rfl
    have hsign : ((chosen n).count n * 2 ^ (chosen n).bits).sign = n.sign := by
      have hpow : ((2 : ℤ) ^ (chosen n).bits).sign = 1 := Int.sign_eq_one_of_pos (by positivity)
      rw [count_eq, Int.sign_mul, Int.sign_mul, Int.sign_sign,
        Int.sign_natCast_of_ne_zero hpos.ne', mul_one, hpow, mul_one]
    have hchosen : chosen ((chosen n).count n * 2 ^ (chosen n).bits) = chosen n := by
      obtain ⟨j, hleast', hunit'⟩ := isLeast_chosen ((chosen n).count n * 2 ^ (chosen n).bits)
      obtain rfl := hleast'.unique (isLeast_of_natAbs_eq hleast hunit hk hnatAbs)
      exact Option.some.inj (hunit'.symm.trans hunit)
    rw [shown, hchosen, count_eq, hsign, hnatAbs, amount_mul hunit, ← count_eq, ← shown]

/-! ### Half a unit, and the ends of the range -/

theorem count_of_bytes (h : chosen n = bytes) : (chosen n).count n * 2 ^ (chosen n).bits = n := by
  have hcount : bytes.count n = n := Int.tdiv_one n
  rw [h, hcount]
  exact mul_one n

/-- The rounded number lies on the same side of zero. -/
theorem count_mul_eq (unit : SizeUnit) (n : ℤ) : unit.count n * 2 ^ unit.bits =
    n.sign * (unit.amount n.natAbs * 2 ^ unit.bits : ℕ) := by
  rw [count_eq]
  push_cast
  ring

/-- **Half a unit** is as far as rounding goes, and it goes that far only away from zero. -/
theorem abs_count_sub_le (h : chosen n ≠ bytes) :
    2 * |(chosen n).count n * 2 ^ (chosen n).bits - n| ≤ 2 ^ (chosen n).bits ∧
      (2 * |(chosen n).count n * 2 ^ (chosen n).bits - n| = 2 ^ (chosen n).bits →
        |n| < |(chosen n).count n * 2 ^ (chosen n).bits|) := by
  obtain ⟨k, hleast, hunit⟩ := isLeast_chosen n
  have hk : k ≠ 0 := by
    rintro rfl
    exact h (Option.some.inj hunit).symm
  have hlarge := le_natAbs_of_isLeast hleast hk
  obtain ⟨hup, hdown⟩ := near_amount hunit hk n.natAbs
  have hunit' : ((2 ^ (chosen n).bits : ℕ) : ℤ) = 2 ^ (chosen n).bits := by
    push_cast
    rfl
  rw [count_mul_eq, ← hunit', Int.abs_eq_natAbs, Int.abs_eq_natAbs, Int.abs_eq_natAbs]
  generalize (chosen n).amount n.natAbs * 2 ^ (chosen n).bits = rounded at hup hdown ⊢
  rcases lt_or_gt_of_ne (show n ≠ 0 by omega) with hn | hn
  · rw [Int.sign_eq_neg_one_of_neg hn]
    omega
  · rw [Int.sign_eq_one_of_pos hn]
    omega

/-- Of the magnitudes up to the first one beyond 64 bits, those within half a petabyte of it are
rounded to it, and no others. -/
theorem amount_mul_eq_iff (h : n.natAbs ≤ 2 ^ 63) :
    (chosen n).amount n.natAbs * 2 ^ (chosen n).bits ≤ 2 ^ 63 ∧
      ((chosen n).amount n.natAbs * 2 ^ (chosen n).bits = 2 ^ 63 ↔
        2 ^ 63 - 2 ^ 49 ≤ n.natAbs) := by
  obtain ⟨k, hleast, hunit⟩ := isLeast_chosen n
  have hshown := (shownIn_iff_natAbs n k).mp hleast.1
  rcases table_spec hunit with ⟨rfl, hbytes⟩ | ⟨hpos, hle, hbits, -⟩
  · rw [amount_eq hunit, if_pos rfl, hbytes, show bytes.bits = 0 from rfl]
    omega
  · obtain ⟨hup, hdown⟩ := near_amount hunit (by omega) n.natAbs
    rw [hbits] at hup hdown ⊢
    generalize (chosen n).amount n.natAbs = count at hup hdown ⊢
    -- Only in petabytes does the number come near the end of the range.
    interval_cases k <;> norm_num at hshown hup hdown ⊢ <;> omega

/-- Within the range of 64 bits, only rounding up to the first number beyond it leaves it. -/
theorem count_mul_range (h : Int64Range.least ≤ n ∧ n ≤ Int64Range.greatest) :
    (Int64Range.least ≤ (chosen n).count n * 2 ^ (chosen n).bits ∧
      (chosen n).count n * 2 ^ (chosen n).bits ≤ Int64Range.greatest) ↔ n < 2 ^ 63 - 2 ^ 49 := by
  unfold Int64Range.least Int64Range.greatest at *
  obtain ⟨hle, hiff⟩ := amount_mul_eq_iff (n := n) (by omega)
  rw [count_mul_eq]
  generalize (chosen n).amount n.natAbs * 2 ^ (chosen n).bits = rounded at hle hiff ⊢
  rcases lt_trichotomy n 0 with hn | rfl | hn
  · rw [Int.sign_eq_neg_one_of_neg hn]
    omega
  · rw [Int.sign_zero]
    omega
  · rw [Int.sign_eq_one_of_pos hn]
    omega

end SizeUnit

namespace Size

variable {n : ℤ}

theorem parse_shown (h : Int64Range.least ≤ n ∧ n ≤ Int64Range.greatest) :
    parse (shown n) =
      Int64Range.check ((SizeUnit.chosen n).count n * 2 ^ (SizeUnit.chosen n).bits) := by
  refine parse_count (SizeUnit.mem_table n) ?_
  have hle := SizeUnit.amount_le (SizeUnit.chosen n) n.natAbs
  rw [SizeUnit.natAbs_count]
  unfold Int64Range.least Int64Range.greatest at h
  omega

/-- **Showing a size and reading it back.** What is read is the number of bytes if it is shown in
bytes, and otherwise at most half a unit away from it, exactly half a unit only where it was rounded
away from zero; shown again it gives the same text. The only sizes that cannot be read back are
those within half a petabyte of the greatest one, whose text is out of range. -/
theorem parse_pretty (n : ℤ) (h : Int64Range.least ≤ n ∧ n ≤ Int64Range.greatest) :
    ∃ (text : String) (unit : SizeUnit) (count : ℤ),
      NumberSystem.int64.pretty (.int n) = .ok text ∧
      NumberSystem.int64.unitFor (.int n) = .ok unit ∧
      text = toString count ++ " " ++ unit.name ∧
      (n < 2 ^ 63 - 2 ^ 49 → ∃ m, parse text = .ok m ∧
        (unit = .bytes → m = n) ∧
        (unit ≠ .bytes → 2 * |m - n| ≤ 2 ^ unit.bits ∧
          (2 * |m - n| = 2 ^ unit.bits → |n| < |m|)) ∧
        NumberSystem.int64.pretty (.int m) = .ok text) ∧
      (2 ^ 63 - 2 ^ 49 ≤ n → parse text = .error .outOfRange) ∧
      (n < 0 → ∃ m, parse text = .ok m) := by
  have hrange := SizeUnit.count_mul_range h
  have hread : n < 2 ^ 63 - 2 ^ 49 → parse (shown n) =
      .ok ((SizeUnit.chosen n).count n * 2 ^ (SizeUnit.chosen n).bits) := by
    intro hn
    rw [parse_shown h, Int64Range.check_eq, if_pos (hrange.mpr hn)]
  refine ⟨shown n, SizeUnit.chosen n, (SizeUnit.chosen n).count n, NumberSystem.pretty_int64 h,
    NumberSystem.unitFor_int64 h, rfl, fun hn => ?_, fun hn => ?_, fun hn => ?_⟩
  · refine ⟨_, hread hn, SizeUnit.count_of_bytes, SizeUnit.abs_count_sub_le, ?_⟩
    rw [NumberSystem.pretty_int64 (hrange.mpr hn), SizeUnit.shown_count_mul]
  · rw [parse_shown h, Int64Range.check_eq, if_neg (mt hrange.mp (by omega))]
  · exact ⟨_, hread (by omega)⟩

/-- The least number of 64 bits can be read back, although its magnitude cannot. -/
theorem parse_pretty_least :
    (Int64Range.least ≤ Int64Range.least ∧ Int64Range.least ≤ Int64Range.greatest) ∧
      ∃ text m, NumberSystem.int64.pretty (.int Int64Range.least) = .ok text ∧
        parse text = .ok m := by
  have hrange : Int64Range.least ≤ Int64Range.least ∧ Int64Range.least ≤ Int64Range.greatest := by
    decide
  obtain ⟨text, unit, count, htext, -, -, -, -, hread⟩ := parse_pretty Int64Range.least hrange
  obtain ⟨m, hm⟩ := hread (by decide)
  exact ⟨hrange, text, m, htext, hm⟩

end Size

end Footprint
