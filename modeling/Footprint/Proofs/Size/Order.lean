import Footprint.Proofs.Size.RoundTrip
import Footprint.Proofs.Text.Numbers

/-!
# The order of shown sizes

Sizes that are shown keep the order of the numbers that they are shown of. A shown size stands for
so many bytes, its count times its unit (`SizeUnit.worth`), and these grow with the number: within a
unit because a quotient that is rounded grows with what is divided, and from a unit to a larger one
because of two bounds. A unit that is not the last counts 10239 at most, and one that is not the
first counts ten at least, which is 10240 of the unit before it (`SizeUnit.amount_le_of_not_last`,
`SizeUnit.ten_le_amount`).

Unit and count depend on the magnitude alone, so the order of magnitudes is shown first
(`SizeUnit.amount_mul_mono`), and negative numbers mirror it.
-/

namespace Footprint

namespace SizeUnit

/-- The bytes that a count in a unit stands for. -/
def worth (unit : SizeUnit) (count : ℤ) : ℤ := count * 2 ^ unit.bits

variable {m n : ℤ} {j k : ℕ} {unit : SizeUnit}

/-! ### Units -/

/-- What is shown in a unit is shown in it or in a smaller one if its magnitude is smaller. -/
theorem shownIn_mono (h : m.natAbs ≤ n.natAbs) (hn : ShownIn n k) : ShownIn m k := by
  rw [shownIn_iff_natAbs] at hn ⊢
  have hdiv : m.natAbs / 2 ^ (10 * k - 1) ≤ n.natAbs / 2 ^ (10 * k - 1) := Nat.div_le_div_right h
  omega

/-- **A larger magnitude is shown in a unit that is no smaller.** -/
theorem position_mono (h : m.natAbs ≤ n.natAbs) (hm : IsLeast {k | ShownIn m k} j)
    (hn : IsLeast {k | ShownIn n k} k) : j ≤ k :=
  hm.2 (shownIn_mono h hn.1)

theorem bits_eq (h : table[k]? = some unit) : unit.bits = 10 * k := by
  rcases table_spec h with ⟨rfl, rfl⟩ | ⟨-, -, hbits, -⟩
  · rfl
  · exact hbits

/-! ### Counts -/

theorem amount_mono (unit : SizeUnit) {a b : ℕ} (h : a ≤ b) : unit.amount a ≤ unit.amount b := by
  have hdiv : a / 2 ^ unit.carried ≤ b / 2 ^ unit.carried := Nat.div_le_div_right h
  unfold amount
  split <;> omega

/-- Only the last unit counts more than 10239. -/
theorem amount_le_of_not_last (hleast : IsLeast {k | ShownIn n k} k)
    (hunit : table[k]? = some unit) (hk : k ≠ 5) : unit.amount n.natAbs ≤ 10239 := by
  have hshown := (shownIn_iff_natAbs n k).mp hleast.1
  rw [amount_eq hunit]
  split <;> omega

/-- **The bytes that are shown grow with the magnitude.** -/
theorem amount_mul_mono (h : m.natAbs ≤ n.natAbs) :
    (chosen m).amount m.natAbs * 2 ^ (chosen m).bits ≤
      (chosen n).amount n.natAbs * 2 ^ (chosen n).bits := by
  obtain ⟨j, hj, hunit⟩ := isLeast_chosen m
  obtain ⟨k, hk, hunit'⟩ := isLeast_chosen n
  rcases (position_mono h hj hk).eq_or_lt with rfl | hlt
  · -- In one unit the counts are those of two quotients by the same number.
    have hsame : chosen m = chosen n := Option.some.inj (hunit.symm.trans hunit')
    rw [hsame]
    exact Nat.mul_le_mul_right _ (amount_mono _ h)
  · have hlast : k ≤ 5 := by
      rcases table_spec hunit' with ⟨rfl, -⟩ | ⟨-, hle, -⟩
      · exact Nat.zero_le 5
      · exact hle
    have hsmall : (chosen m).amount m.natAbs ≤ 10239 := amount_le_of_not_last hj hunit (by omega)
    have hlarge : 10 ≤ (chosen n).amount n.natAbs :=
      ten_le_amount (le_natAbs_of_isLeast hk (by omega))
    rw [bits_eq hunit, bits_eq hunit']
    calc (chosen m).amount m.natAbs * 2 ^ (10 * j)
        ≤ 10240 * 2 ^ (10 * j) := Nat.mul_le_mul_right _ (by omega)
      _ = 10 * 2 ^ (10 * (j + 1)) := by ring
      _ ≤ 10 * 2 ^ (10 * k) := Nat.mul_le_mul_left 10 (Nat.pow_le_pow_right (by decide) (by omega))
      _ ≤ (chosen n).amount n.natAbs * 2 ^ (10 * k) := Nat.mul_le_mul_right _ hlarge

/-- **The bytes that are shown grow with the number.** -/
theorem worth_mono (h : m ≤ n) :
    (chosen m).worth ((chosen m).count m) ≤ (chosen n).worth ((chosen n).count n) := by
  unfold worth
  rw [count_mul_eq, count_mul_eq]
  rcases lt_trichotomy n 0 with hn | rfl | hn
  · -- Of two negative numbers the smaller one has the larger magnitude.
    have hmirror := amount_mul_mono (m := n) (n := m) (by omega)
    rw [Int.sign_eq_neg_one_of_neg hn, Int.sign_eq_neg_one_of_neg (h.trans_lt hn)]
    omega
  · rw [Int.sign_zero, zero_mul]
    rcases h.eq_or_lt with rfl | hm
    · rw [Int.sign_zero, zero_mul]
    · rw [Int.sign_eq_neg_one_of_neg hm]
      omega
  · rw [Int.sign_eq_one_of_pos hn]
    rcases lt_trichotomy m 0 with hm | rfl | hm
    · rw [Int.sign_eq_neg_one_of_neg hm]
      omega
    · rw [Int.sign_zero]
      omega
    · have hgrow := amount_mul_mono (m := m) (n := n) (by omega)
      rw [Int.sign_eq_one_of_pos hm]
      omega

end SizeUnit

/-! ### What is shown -/

namespace NumberSystem

open SizeUnit

/-- A number system shows a whole number of bytes as a count in a unit. -/
structure Displays (system : NumberSystem) (n count : ℤ) (unit : SizeUnit) : Prop where
  mem_table : unit ∈ table
  text : system.pretty (.int n) = .ok (toString count ++ " " ++ unit.name)

variable {system : NumberSystem} {n count : ℤ} {unit : SizeUnit}

theorem pretty_eq_shown {text : String} (h : system.pretty (.int n) = .ok text) :
    text = shown n := by
  cases system with
  | numeric => exact Except.ok.inj (h.symm.trans (pretty_numeric n))
  | int64 =>
    by_cases hn : Int64Range.least ≤ n ∧ n ≤ Int64Range.greatest
    · exact Except.ok.inj (h.symm.trans (pretty_int64 hn))
    · -- A number that does not fit is not shown at all.
      unfold NumberSystem.pretty Int64Range.ofDatum at h
      dsimp only at h
      rw [Int64Range.check_eq, if_neg hn] at h
      cases h

theorem name_inj : ∀ unit ∈ table, ∀ other ∈ table, unit.name = other.name → unit = other := by
  decide

/-- **The text of a shown size tells its count and its unit.** -/
theorem Displays.eq (h : system.Displays n count unit) :
    unit = chosen n ∧ count = (chosen n).count n := by
  have hstop : ∀ name : String, ∀ c ∈ (" " ++ name).toList.head?, isNumeral c = false := by
    intro name c hc
    rw [String.toList_append] at hc
    cases hc
    rfl
  have htext : toString count ++ (" " ++ unit.name) =
      toString ((chosen n).count n) ++ (" " ++ (chosen n).name) := by
    rw [← String.append_assoc, ← String.append_assoc]
    exact pretty_eq_shown h.text
  obtain ⟨hcount, hrest⟩ := toString_append_inj (hstop _) (hstop _) htext
  have hname := (String.append_right_inj " ").mp hrest
  exact ⟨name_inj unit h.mem_table (chosen n) (SizeUnit.mem_table n) hname, hcount⟩

/-- **Shown sizes are ordered as the numbers that they are shown of.** Every whole number is shown
as one count in one unit, the same in both number systems if it fits in 64 bits. A larger number is
shown as a size of no fewer bytes, and a larger magnitude in a unit that is no smaller. Only
petabytes are counted beyond 10239, and only bytes below ten. -/
theorem display_order :
    (∀ n, ∃ count unit, NumberSystem.numeric.Displays n count unit ∧
      (Int64Range.least ≤ n ∧ n ≤ Int64Range.greatest →
        NumberSystem.int64.Displays n count unit)) ∧
    ∀ (system system' : NumberSystem) (m n count count' : ℤ) (unit unit' : SizeUnit),
      system.Displays m count unit → system'.Displays n count' unit' →
        (m ≤ n → unit.worth count ≤ unit'.worth count') ∧
        (|m| ≤ |n| → unit.bits ≤ unit'.bits) ∧
        (unit.name ≠ "PB" → |count| ≤ 10239) ∧
        (unit.name ≠ "bytes" → 10 ≤ |count|) := by
  refine ⟨fun n => ⟨(chosen n).count n, chosen n, ?_, fun hn => ?_⟩, ?_⟩
  · exact ⟨SizeUnit.mem_table n, pretty_numeric n⟩
  · exact ⟨SizeUnit.mem_table n, pretty_int64 hn⟩
  · intro system system' m n count count' unit unit' hm hn
    obtain ⟨rfl, rfl⟩ := hm.eq
    obtain ⟨rfl, rfl⟩ := hn.eq
    obtain ⟨j, hj, hunit⟩ := isLeast_chosen m
    obtain ⟨k, hk, hunit'⟩ := isLeast_chosen n
    rw [Int.abs_eq_natAbs, Int.abs_eq_natAbs, Int.abs_eq_natAbs, natAbs_count]
    refine ⟨worth_mono, fun habs => ?_, fun hname => ?_, fun hname => ?_⟩
    · rw [bits_eq hunit, bits_eq hunit']
      exact Nat.mul_le_mul_left 10 (position_mono (by omega) hj hk)
    · have hlast : j ≠ 5 := by
        rintro rfl
        exact hname (congrArg SizeUnit.name (Option.some.inj hunit).symm)
      exact_mod_cast amount_le_of_not_last hj hunit hlast
    · have hfirst : j ≠ 0 := by
        rintro rfl
        exact hname (congrArg SizeUnit.name (Option.some.inj hunit).symm)
      exact_mod_cast ten_le_amount (le_natAbs_of_isLeast hj hfirst)

/-- The largest number that is shown in kilobytes, and the next one. -/
example : NumberSystem.int64.pretty (.int 10485247) = .ok "10239 kB" ∧
    NumberSystem.int64.pretty (.int 10485248) = .ok "10 MB" := by decide

end NumberSystem

end Footprint
