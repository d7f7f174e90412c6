import Footprint.Proofs.Text.Runs
import Footprint.Text.Whole
import Mathlib.Data.Nat.Digits.Defs

/-!
# Texts of digits

There are more digits than a number is written with. A decimal digit of any script has a value
(`isDecimal`), whereas a superscript or a circled digit is only like one (`isDigitLike`). The tables
of these two and of the blanks do not overlap (`inRanges_eq_false_of_apart`), so nothing is trimmed
from a text of digits and of signs that are like them, and it has no sign and no underscore.

So the reader sees the decimal digits at the front, as many as there are (`takeNumber_eq`), and then
either nothing more or a digit sign (`wholeNumber_of_digitLike`). It is the number of these digits
that is compared with the limit, whether or not something follows.
-/

namespace Footprint.Text

variable {c : Char} {cs : List Char} {s : String}

/-- A decimal digit of any script. -/
def isDecimal (c : Char) : Bool := (digitValue? c).isSome

/-- The number that the decimal digits of a text denote. -/
def numeralValue (s : String) : Nat := Nat.ofDigits 10 (s.toList.filterMap digitValue?).reverse

/-! ### Tables -/

theorem inRanges_iff {ranges : List (Nat × Nat)} :
    inRanges ranges c = true ↔ ∃ range ∈ ranges, range.1 ≤ c.toNat ∧ c.toNat ≤ range.2 := by
  simp [inRanges]

/-- Tables that do not overlap have no character in common. -/
theorem inRanges_eq_false_of_apart {ranges others : List (Nat × Nat)}
    (happart : ∀ range ∈ ranges, ∀ other ∈ others, range.2 < other.1 ∨ other.2 < range.1)
    (h : inRanges ranges c = true) : inRanges others c = false := by
  obtain ⟨range, hrange, hfirst, hlast⟩ := inRanges_iff.mp h
  rw [← Bool.not_eq_true, inRanges_iff]
  rintro ⟨other, hother, hfirst', hlast'⟩
  rcases happart range hrange other hother with hbelow | habove
  · omega
  · omega

/-- The decimal digits of all scripts as ranges. -/
def decimalRanges : List (Nat × Nat) := digitZeros.map fun first => (first, first + 9)

theorem isDecimal_eq (c : Char) : isDecimal c = inRanges decimalRanges c := by
  rw [isDecimal, digitValue?, Option.isSome_map, List.isSome_find?, inRanges, decimalRanges,
    List.any_map]
  congr 1
  funext first
  simp only [Function.comp_apply, Nat.lt_succ_iff]

theorem isDigitLike_eq (c : Char) :
    isDigitLike c = inRanges (decimalRanges ++ digitSignRanges) c := by
  rw [isDigitLike, ← isDecimal, isDecimal_eq, inRanges, inRanges, inRanges, List.any_append]

/-- A digit sign is no decimal digit. -/
theorem isDecimal_of_digitSign (h : inRanges digitSignRanges c = true) : isDecimal c = false := by
  rw [isDecimal_eq]
  exact inRanges_eq_false_of_apart (by decide) h

theorem isBlank_of_isNumberBlank (h : isNumberBlank c = true) : isBlank c = true := by
  simp only [isNumberBlank, Bool.or_eq_true, Bool.and_eq_true, beq_iff_eq,
    decide_eq_true_eq] at h
  rcases h with (rfl | ⟨hfirst, hlast⟩) | ⟨-, hblank⟩
  · decide
  · refine inRanges_iff.mpr ⟨(0x09, 0x0D), by decide, ?_⟩
    exact ⟨hfirst, hlast⟩
  · exact hblank

/-- What is like a digit is no blank. -/
theorem not_blank_of_isDigitLike (h : isDigitLike c = true) : isNumberBlank c = false := by
  rw [isDigitLike_eq] at h
  have hblank : isBlank c = false := inRanges_eq_false_of_apart (by decide) h
  rw [← Bool.not_eq_true] at hblank ⊢
  exact fun hnumber => hblank (isBlank_of_isNumberBlank hnumber)

/-! ### Reading -/

theorem not_mem_of_digitLike (h : ∀ c ∈ cs, isDigitLike c = true) (hc : isDigitLike c = false) :
    c ∉ cs :=
  fun hmem => Bool.false_ne_true (hc.symm.trans (h c hmem))

/-- **The decimal digits at the front are taken, and nothing else.** -/
theorem takeNumber_eq (h : '_' ∉ cs) (afterDigit : Bool) : takeNumber afterDigit cs =
    ((cs.takeWhile isDecimal).filterMap digitValue?, cs.dropWhile isDecimal) := by
  -- The flag is looked at only where an underscore stands, so it may be either.
  induction cs generalizing afterDigit with
  | nil => rfl
  | cons c cs ih =>
    rw [List.mem_cons, not_or] at h
    rw [takeNumber]
    cases hvalue : digitValue? c with
    | some n =>
      have hdecimal : isDecimal c = true := Option.isSome_of_eq_some hvalue
      rw [ih h.2, List.takeWhile_cons_of_pos hdecimal, List.dropWhile_cons_of_pos hdecimal,
        List.filterMap_cons_some hvalue]
    | none =>
      have hdecimal : ¬isDecimal c = true := by
        rw [isDecimal, hvalue]
        exact Bool.false_ne_true
      have hunderscore : decide (c = '_') = false := decide_eq_false (Ne.symm h.1)
      rw [List.takeWhile_cons_of_neg hdecimal, List.dropWhile_cons_of_neg hdecimal, hunderscore,
        Bool.false_and, Bool.false_and]
      rfl

/-- Every decimal digit has a value. -/
theorem length_values (h : ∀ c ∈ cs, isDecimal c = true) :
    (cs.filterMap digitValue?).length = cs.length := by
  induction cs with
  | nil => rfl
  | cons c cs ih =>
    obtain ⟨n, hvalue⟩ := Option.isSome_iff_exists.mp (h c List.mem_cons_self)
    rw [List.filterMap_cons_some hvalue, List.length_cons, List.length_cons,
      ih fun x hx => h x (List.mem_cons_of_mem c hx)]

theorem foldl_values (ns : List Nat) : ns.foldl (10 * · + ·) 0 = Nat.ofDigits 10 ns.reverse := by
  rw [Nat.ofDigits_eq_foldr, List.foldr_reverse]
  congr 1
  funext a n
  exact Nat.add_comm _ _

/-- **A text of digits and digit signs is read by the decimal digits in front of the first sign.** -/
theorem wholeNumber_of_digitLike (hne : s ≠ "") (h : ∀ c ∈ s.toList, isDigitLike c = true) :
    wholeNumber s =
      if digitLimit < (s.toList.takeWhile isDecimal).length then
        .error (.integerTooLong (s.toList.takeWhile isDecimal).length)
      else if s.toList.all isDecimal then .ok (numeralValue s)
      else .error (notWhole s) := by
  -- Nothing that the reader has a case of its own for is like a digit.
  have hminus : '-' ∉ s.toList := not_mem_of_digitLike h (by decide)
  have hplus : '+' ∉ s.toList := not_mem_of_digitLike h (by decide)
  have hunderscore : '_' ∉ s.toList := not_mem_of_digitLike h (by decide)
  have hstop : (s.toList.dropWhile isDecimal).head? ≠ some '_' := fun hhead =>
    hunderscore ((List.dropWhile_sublist isDecimal).subset (List.mem_of_mem_head? hhead))
  have hlength := length_values (mem_takeWhile (p := isDecimal) s.toList)
  unfold wholeNumber
  rw [trim_eq_self fun c hc => not_blank_of_isDigitLike (h c hc)]
  dsimp only
  split
  · next rest hchars =>
    exact absurd (hchars ▸ List.mem_cons_self) hminus
  · next rest hchars =>
    exact absurd (hchars ▸ List.mem_cons_self) hplus
  · dsimp only
    rw [takeNumber_eq hunderscore]
    dsimp only
    rw [hlength, if_neg hstop]
    -- What is left decides whether the text is a number, and it is not empty.
    refine if_congr Iff.rfl rfl ?_
    by_cases hall : s.toList.all isDecimal = true
    · have hrun : s.toList.takeWhile isDecimal = s.toList :=
        List.takeWhile_eq_self_iff.mpr (List.all_eq_true.mp hall)
      have hrest : s.toList.dropWhile isDecimal = [] :=
        List.dropWhile_eq_nil_iff.mpr (List.all_eq_true.mp hall)
      have hvalues : (s.toList.filterMap digitValue?).isEmpty = false := by
        rw [List.isEmpty_eq_false_iff, ← List.length_pos_iff, ← hrun, hlength, hrun,
          List.length_pos_iff]
        exact fun hnil => hne (String.toList_eq_nil_iff.mp hnil)
      rw [hrun, hrest, hvalues, if_neg (by decide), if_pos hall, if_neg Bool.false_ne_true,
        foldl_values]
      rfl
    · have hrest : s.toList.dropWhile isDecimal ≠ [] := fun hnil =>
        hall (List.all_eq_true.mpr (List.dropWhile_eq_nil_iff.mp hnil))
      rw [List.isEmpty_eq_false_iff.mpr hrest, Bool.not_false, Bool.or_true, if_pos rfl,
        if_neg hall]

end Footprint.Text
