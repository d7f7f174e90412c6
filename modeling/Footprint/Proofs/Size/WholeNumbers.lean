import Footprint.Proofs.Decimal.Exact

/-!
# Whole numbers in both number systems

Both number systems hold whole numbers and compute on them as on the integers, as long as the result
fits. `Arithmetic.Carries A embed Fits` says so of the system `A`, where `embed n` is the integer
`n` in it and `Fits n` that it can be held: whole numbers of 64 bits hold those in range
(`carries_int64`), decimals hold all of them (`carries_numeric`). What is proved of a formatter from
this interface holds in both systems at once.

Halving with ties away from zero is `halfAway` on the integers.
-/

namespace Footprint

/-- Half of an integer, with ties away from zero. -/
def halfAway (n : ℤ) : ℤ := n.sign * ((n.natAbs + 1) / 2 : ℕ)

/-- A truncated quotient by a natural number divides without the sign. -/
theorem tdiv_natCast (n : ℤ) (m : ℕ) : n.tdiv m = n.sign * (n.natAbs / m : ℕ) := by
  rcases n.eq_nat_or_neg with ⟨k, rfl | rfl⟩
  · rcases Nat.eq_zero_or_pos k with rfl | hk
    · simp
    · rw [Int.sign_natCast_of_ne_zero hk.ne', one_mul]
      rfl
  · rcases Nat.eq_zero_or_pos k with rfl | hk
    · simp
    · rw [Int.neg_tdiv, Int.sign_neg, Int.sign_natCast_of_ne_zero hk.ne', Int.natAbs_neg,
        neg_one_mul]
      rfl

theorem tdiv_two_eq_halfAway (n : ℤ) : (if n < 0 then n - 1 else n + 1).tdiv 2 = halfAway n := by
  rw [show (2 : ℤ) = ((2 : ℕ) : ℤ) from rfl, tdiv_natCast, halfAway]
  split
  · next hn =>
    rw [Int.sign_eq_neg_one_of_neg hn, Int.sign_eq_neg_one_of_neg (by omega),
      show (n - 1).natAbs = n.natAbs + 1 by omega]
  · next hn =>
    rw [show (n + 1).natAbs = n.natAbs + 1 by omega, Int.sign_eq_one_of_pos (by omega)]
    rcases (not_lt.mp hn).eq_or_lt with rfl | hpos
    · rfl
    · rw [Int.sign_eq_one_of_pos hpos]

/-- A result that is there goes on to what follows. -/
@[simp] theorem ok_bind {α β : Type} (a : α) (f : α → Except Error β) :
    ((.ok a : Except Error α) >>= f) = f a := rfl

/-! ### Number systems that carry the integers -/

theorem Int64Range.check_eq (n : ℤ) : check n =
    if least ≤ n ∧ n ≤ greatest then .ok n else .error .outOfRange := by
  unfold check
  by_cases h : least ≤ n ∧ n ≤ greatest
  · rw [if_pos h, if_neg (by omega)]
  · rw [if_neg h, if_pos (by omega)]

namespace Arithmetic

/-- The number system computes on whole numbers as on the integers, as long as the result fits. -/
structure Carries {ν : Type} (A : Arithmetic ν) (embed : ℤ → ν) (Fits : ℤ → Prop) : Prop where
  fits_small : ∀ n : ℤ, n.natAbs ≤ 2 ^ 62 → Fits n
  fits_half : ∀ m n : ℤ, Fits n → 2 * m.natAbs ≤ n.natAbs → Fits m
  ofInt : ∀ n, Fits n → A.ofInt n = .ok (embed n)
  add : ∀ m n : ℤ, Fits (m + n) → A.add (embed m) (embed n) = .ok (embed (m + n))
  subtract : ∀ m n : ℤ, n ≠ 0 → Fits (m - n) →
    A.subtract (embed m) (embed n) = .ok (embed (m - n))
  divide : ∀ m n : ℤ, n ≠ 0 → Fits (m.tdiv n) →
    A.divide (embed m) (embed n) = .ok (embed (m.tdiv n))
  compare : ∀ m n : ℤ, A.compare (embed m) (embed n) = Ord.compare m n
  absolute : ∀ n : ℤ, A.absolute (embed n) = embed n.natAbs
  text : ∀ n, A.text (embed n) = toString n

/-! ### The two systems -/

theorem check_of_fits {n : ℤ} (h : Int64Range.least ≤ n ∧ n ≤ Int64Range.greatest) :
    Int64Range.check n = .ok n := by
  rw [Int64Range.check_eq, if_pos h]

theorem carries_int64 :
    int64.Carries id fun n => Int64Range.least ≤ n ∧ n ≤ Int64Range.greatest where
  fits_small n h := by
    unfold Int64Range.least Int64Range.greatest
    omega
  fits_half m n h hm := by
    unfold Int64Range.least Int64Range.greatest at *
    omega
  ofInt n h := check_of_fits h
  add m n h := check_of_fits h
  subtract m n _ h := check_of_fits h
  divide m n hn h := (if_neg hn).trans (check_of_fits h)
  compare m n := rfl
  absolute n := rfl
  text n := rfl

theorem carries_numeric : numeric.Carries Decimal.ofInt fun _ => True where
  fits_small _ _ := trivial
  fits_half _ _ _ _ := trivial
  ofInt n _ := rfl
  add m n _ := by
    change Except.ok (Numeric.add _ _) = _
    rw [Numeric.add_eq, Decimal.add_ofInt]
  subtract m n hn _ := by
    change Except.ok (Numeric.subtract _ _) = _
    rw [Numeric.subtract_eq, Decimal.sub_ofInt m hn]
  divide m n hn _ := by
    change Numeric.divide _ _ = _
    rw [Numeric.divide_eq (Int.natAbs_ne_zero.mpr hn), Decimal.quotient_ofInt hn]
  compare := Decimal.compare_ofInt
  absolute := Decimal.abs_ofInt
  text := Decimal.fixed_ofInt

/-! ### Derived operations -/

theorem compare_beq_lt (m n : ℤ) : (Ord.compare m n == .lt) = decide (m < n) := by
  rw [Bool.eq_iff_iff, beq_iff_eq, decide_eq_true_iff]
  exact compare_lt_iff_lt

namespace Carries

variable {ν : Type} {A : Arithmetic ν} {embed : ℤ → ν} {Fits : ℤ → Prop}

theorem isNegative_eq (hA : A.Carries embed Fits) (n : ℤ) :
    A.isNegative (embed n) = .ok (decide (n < 0)) := by
  unfold isNegative
  rw [hA.ofInt 0 (hA.fits_small 0 (by decide)), ok_bind, hA.compare, compare_beq_lt]
  rfl

/-- Halving, where the number that is divided fits. -/
theorem halfRounded_eq (hA : A.Carries embed Fits) {n : ℤ}
    (h : Fits (if n < 0 then n - 1 else n + 1)) :
    A.halfRounded (embed n) = .ok (embed (halfAway n)) := by
  have hhalf : Fits ((if n < 0 then n - 1 else n + 1).tdiv 2) := by
    refine hA.fits_half _ _ h ?_
    rw [Int.natAbs_tdiv]
    exact Nat.mul_div_le _ 2
  have hdivide := hA.divide _ 2 two_ne_zero hhalf
  rw [tdiv_two_eq_halfAway] at hdivide
  unfold halfRounded
  simp only [hA.ofInt 1 (hA.fits_small 1 (by decide)), hA.ofInt 2 (hA.fits_small 2 (by decide)),
    hA.isNegative_eq, ok_bind]
  by_cases hn : n < 0
  · rw [if_pos hn] at h hdivide
    rw [if_pos (decide_eq_true hn), hA.subtract n 1 one_ne_zero h, ok_bind, hdivide]
  · rw [if_neg hn] at h hdivide
    rw [if_neg (by simpa using hn), hA.add n 1 h, ok_bind, hdivide]

end Carries

end Arithmetic

end Footprint
