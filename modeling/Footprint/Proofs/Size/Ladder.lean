import Footprint.Proofs.Size.WholeNumbers
import Footprint.Size.Pretty

/-!
# The loop over units

A whole number of bytes is brought to its unit in steps: from each unit to the next the value is
divided again, fraction dropped, and only the last step rounds. Here all of this is shown to come to
one division. Dropping fractions in steps is dropping the fraction once, so at each unit the loop
carries `unit.carry n`, one quotient of the whole number `n` that it began with; it stops at the
first unit that holds `n`, and what it yields there is `unit.count n` (`fit_eq`).

This needs little of the units: each is larger than the one before it, none is too large for 64
bits, and one that rounds leaves room for the halving. Units of this kind are a ladder (`IsLadder`),
and the table is one (`table_isLadder`).
-/

namespace Footprint

/-- Dropping fractions in steps. -/
theorem tdiv_tdiv_natCast (n : ℤ) (a b : ℕ) : (n.tdiv a).tdiv b = n.tdiv (a * b : ℕ) := by
  rcases n.eq_nat_or_neg with ⟨k, rfl | rfl⟩
  · exact congrArg Nat.cast (Nat.div_div_eq_div_mul k a b)
  · rw [Int.neg_tdiv, Int.neg_tdiv, Int.neg_tdiv]
    exact congrArg (fun m : ℕ => -(m : ℤ)) (Nat.div_div_eq_div_mul k a b)

namespace SizeUnit

/-- The power of two by which a number of bytes has been divided while it is carried in a unit. -/
def carried (unit : SizeUnit) : ℕ := unit.bits - if unit.rounds then 1 else 0

/-- A number of bytes as it is carried in a unit. -/
def carry (unit : SizeUnit) (n : ℤ) : ℤ := n.tdiv (2 ^ unit.carried : ℕ)

/-- A number of bytes as it is shown in a unit. -/
def count (unit : SizeUnit) (n : ℤ) : ℤ :=
  if unit.rounds then halfAway (unit.carry n) else unit.carry n

/-- A number of bytes is below the limit of a unit. -/
def holds (n : ℤ) (unit : SizeUnit) : Bool :=
  unit.limit.all fun limit => n.natAbs / 2 ^ unit.carried < limit

theorem natAbs_carry (unit : SizeUnit) (n : ℤ) :
    (unit.carry n).natAbs = n.natAbs / 2 ^ unit.carried := by
  rw [carry, Int.natAbs_tdiv]
  rfl

/-- What the loop needs of the units that it goes through. -/
structure IsLadder (units : List SizeUnit) : Prop where
  ascending : units.IsChain fun unit next => unit.carried < next.carried
  carried_le : ∀ unit ∈ units, unit.carried ≤ 62
  rounds_bits : ∀ unit ∈ units, unit.rounds = true → 3 ≤ unit.bits
  limit_le : ∀ unit ∈ units, ∀ limit ∈ unit.limit, limit ≤ 2 ^ 62

theorem table_isLadder : IsLadder table := by
  refine ⟨?_, ?_, ?_, ?_⟩ <;> decide

namespace IsLadder

variable {unit next : SizeUnit} {rest : List SizeUnit}

theorem tail (h : IsLadder (unit :: next :: rest)) : IsLadder (next :: rest) where
  ascending := (List.isChain_cons_cons.mp h.ascending).2
  carried_le u hu := h.carried_le u (List.mem_cons_of_mem unit hu)
  rounds_bits u hu := h.rounds_bits u (List.mem_cons_of_mem unit hu)
  limit_le u hu := h.limit_le u (List.mem_cons_of_mem unit hu)

theorem carried_lt (h : IsLadder (unit :: next :: rest)) : unit.carried < next.carried :=
  (List.isChain_cons_cons.mp h.ascending).1

/-- The shift to the next unit is what its carried value lacks. -/
theorem shift_eq (h : IsLadder (unit :: next :: rest)) :
    (unit.shift next).toNat = next.carried - unit.carried := by
  have hunit := h.rounds_bits unit List.mem_cons_self
  have hnext := h.rounds_bits next (List.mem_cons_of_mem unit List.mem_cons_self)
  unfold shift carried
  split_ifs with hn hu <;> simp_all <;> omega

/-- The step to the next unit. -/
theorem carry_tdiv (h : IsLadder (unit :: next :: rest)) (n : ℤ) :
    (unit.carry n).tdiv (2 ^ (unit.shift next).toNat : ℕ) = next.carry n := by
  have hlt := h.carried_lt
  rw [carry, carry, h.shift_eq, tdiv_tdiv_natCast, ← pow_add, Nat.add_sub_cancel' hlt.le]

end IsLadder

end SizeUnit

namespace Arithmetic

open SizeUnit

variable {ν : Type} {A : Arithmetic ν} {embed : ℤ → ν} {Fits : ℤ → Prop}
variable {unit next : SizeUnit} {rest : List SizeUnit} {n : ℤ}

namespace Carries

/-- The test against the limit of a unit. -/
theorem belowLimit_eq (hA : A.Carries embed Fits) (hl : IsLadder (unit :: rest)) (n : ℤ) :
    A.belowLimit unit (embed (unit.carry n)) = .ok (unit.holds n) := by
  unfold belowLimit holds
  rcases hlimit : unit.limit with _ | limit
  · rfl
  · have hle := hl.limit_le unit List.mem_cons_self limit hlimit
    simp only [hA.ofInt limit (hA.fits_small limit hle), ok_bind]
    rw [Option.all_some, hA.absolute, natAbs_carry, hA.compare, compare_beq_lt,
      decide_eq_decide.mpr Nat.cast_lt]
    rfl

/-- The value in a unit that has been chosen. -/
theorem settle_eq (hA : A.Carries embed Fits) (hl : IsLadder (unit :: rest)) (hn : Fits n) :
    A.settle unit (embed (unit.carry n)) = .ok (embed (unit.count n), unit) := by
  unfold settle count
  by_cases hr : unit.rounds = true
  · have hbits := hl.rounds_bits unit List.mem_cons_self hr
    -- A value that is halved is a quarter of the number of bytes at most, so one can be added.
    have hcarry : (unit.carry n).natAbs ≤ n.natAbs / 4 := by
      have hpow : 2 ^ 2 ≤ 2 ^ unit.carried := by
        refine Nat.pow_le_pow_right (by decide) ?_
        rw [carried, if_pos hr]
        omega
      rw [natAbs_carry]
      exact Nat.div_le_div_left hpow (by decide)
    have hmoved : Fits (if unit.carry n < 0 then unit.carry n - 1 else unit.carry n + 1) := by
      rcases Nat.lt_or_ge n.natAbs 4 with hsmall | hlarge
      · exact hA.fits_small _ (by omega)
      · exact hA.fits_half _ n hn (by omega)
    rw [if_pos hr, if_pos hr, hA.halfRounded_eq hmoved, ok_bind]
    rfl
  · rw [if_neg hr, if_neg hr]
    rfl

/-- The step from a unit that does not hold the number of bytes. -/
theorem divide_eq (hA : A.Carries embed Fits) (hl : IsLadder (unit :: next :: rest)) (hn : Fits n) :
    (A.ofInt (Nat.pow 2 (unit.shift next).toNat) >>= fun divisor =>
      A.divide (embed (unit.carry n)) divisor) = .ok (embed (next.carry n)) := by
  have hlt := hl.carried_lt
  have hshift : ((2 ^ (unit.shift next).toNat : ℕ) : ℤ).natAbs ≤ 2 ^ 62 := by
    refine Nat.pow_le_pow_right (by decide) ?_
    have := hl.carried_le next (List.mem_cons_of_mem unit List.mem_cons_self)
    rw [hl.shift_eq]
    omega
  have hdivisor : ((2 ^ (unit.shift next).toNat : ℕ) : ℤ) ≠ 0 := by positivity
  have hquotient : Fits (next.carry n) := by
    refine hA.fits_half _ n hn ?_
    have hpow : 2 ^ 1 ≤ 2 ^ next.carried := Nat.pow_le_pow_right (by decide) (by omega)
    rw [natAbs_carry]
    calc 2 * (n.natAbs / 2 ^ next.carried) ≤ 2 * (n.natAbs / 2) :=
          Nat.mul_le_mul_left 2 (Nat.div_le_div_left hpow (by decide))
      _ ≤ n.natAbs := Nat.mul_div_le _ 2
  rw [show Nat.pow 2 (unit.shift next).toNat = 2 ^ (unit.shift next).toNat from rfl,
    hA.ofInt _ (hA.fits_small _ hshift), ok_bind]
  rw [← hl.carry_tdiv n] at hquotient ⊢
  exact hA.divide _ _ hdivisor hquotient

/-- **The loop over units** stops at the first unit that holds the number of bytes, with the count
of that unit. -/
theorem fit_eq (hA : A.Carries embed Fits) (hn : Fits n) {chosen : SizeUnit}
    (hl : IsLadder (unit :: rest)) (h : (unit :: rest).find? (holds n) = some chosen) :
    A.fit unit rest (embed (unit.carry n)) = .ok (embed (chosen.count n), chosen) := by
  -- Whatever units came before, the loop carries the one quotient of the unit at hand.
  induction rest generalizing unit with
  | nil =>
    obtain rfl : unit = chosen := List.mem_singleton.mp (List.mem_of_find?_eq_some h) |>.symm
    exact hA.settle_eq hl hn
  | cons next rest ih =>
    unfold fit
    rw [hA.belowLimit_eq hl n, ok_bind]
    rw [List.find?_cons] at h
    by_cases hholds : unit.holds n = true
    · rw [if_pos hholds]
      rw [hholds] at h
      obtain rfl := Option.some.inj h
      exact hA.settle_eq hl hn
    · rw [if_neg hholds]
      rw [Bool.not_eq_true] at hholds
      rw [hholds] at h
      rw [← ih hl.tail h, ← bind_assoc, hA.divide_eq hl hn]
      rfl

end Carries

end Arithmetic

end Footprint
