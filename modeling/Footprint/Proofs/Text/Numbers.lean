import Footprint.Proofs.Text.Runs
import Mathlib

/-!
# Whole numbers in texts

The text of a whole number consists of digits and perhaps a minus sign (`isNumeral`), and tells the
number. Anything else ends it, so in a longer text a number is read up to the first such character
(`toString_append_inj`).
-/

namespace Footprint

/-- Is a character one of those that numbers are written with? -/
def isNumeral (c : Char) : Bool := c.isDigit || c == '-'

theorem isNumeral_of_mem_repr {n : Nat} {c : Char} (h : c ∈ n.repr.toList) :
    isNumeral c = true := by
  rw [Nat.toList_repr] at h
  exact Bool.or_eq_true_iff.mpr (Or.inl (Nat.isDigit_of_mem_toDigits (by decide) (by decide) h))

theorem isNumeral_of_mem_toString {n : Int} {c : Char} (h : c ∈ (toString n).toList) :
    isNumeral c = true := by
  rw [Int.toString_eq_repr, Int.repr_eq_if] at h
  split at h
  · exact isNumeral_of_mem_repr h
  · rw [String.toList_append, List.mem_append] at h
    rcases h with hsign | hdigit
    · rw [List.mem_singleton.mp hsign]
      rfl
    · exact isNumeral_of_mem_repr hdigit

theorem toString_ne_empty (n : Int) : toString n ≠ "" := by
  rw [Int.toString_eq_repr, Int.repr_eq_if]
  split
  · exact Nat.repr_ne_empty
  · rw [Ne, String.append_eq_empty_iff]
    exact fun h => Nat.repr_ne_empty h.2

theorem toString_inj {m n : Int} : toString m = toString n ↔ m = n := by
  refine ⟨fun h => ?_, fun h => congrArg toString h⟩
  rw [Int.toString_eq_repr, Int.toString_eq_repr] at h
  exact Int.repr_injective h

/-- A number is read up to the first character that belongs to none. -/
theorem toString_append_inj {m n : Int} {rest rest' : String}
    (hstop : ∀ c ∈ rest.toList.head?, isNumeral c = false)
    (hstop' : ∀ c ∈ rest'.toList.head?, isNumeral c = false)
    (h : toString m ++ rest = toString n ++ rest') : m = n ∧ rest = rest' := by
  have hchars := congrArg String.toList h
  rw [String.toList_append, String.toList_append] at hchars
  obtain ⟨hm, hrest⟩ := append_inj_of_stop (fun _ => isNumeral_of_mem_toString) hstop
    (fun _ => isNumeral_of_mem_toString) hstop' hchars
  exact ⟨toString_inj.mp (String.toList_inj.mp hm), String.toList_inj.mp hrest⟩

theorem not_mem_toString {c : Char} (hc : isNumeral c = false) (n : Int) :
    c ∉ (toString n).toList :=
  fun h => Bool.false_ne_true (hc.symm.trans (isNumeral_of_mem_toString h))

end Footprint
