import Footprint.Text.FinalSigma

/-!
# Small letters

Two functions write a text in small letters: `lower` looks at each character by itself, and
`lowerWords` also gives a sigma at the end of a word its own form. They differ in nothing but the
form of a small sigma, so a name in which no sigma occurs is matched by the same texts under both
(`lowerWords_eq_iff`).

No character before the capital `A` is a letter: those stand for themselves in small letters
(`lowerChar_of_lt`). A text that is a word of letters in small form therefore holds no blank, no
digit and no point (`isLetters_of_lower_eq`).
-/

namespace Footprint.Text

/-- Every run of the table of small forms begins at the capital `A` or after it. -/
theorem lowerRuns_ge : ∀ run ∈ lowerRuns, 'A'.toNat ≤ run.1 := by decide +kernel

theorem lowerChar_of_lt {c : Char} (h : c.toNat < 'A'.toNat) : lowerChar c = [c] := by
  have hexception : lowerExceptions.lookup c.toNat = none := by
    rw [lowerExceptions, List.lookup_cons, List.lookup_nil]
    have hne : (c.toNat == 0x130) = false := by
      rw [beq_eq_false_iff_ne]
      intro heq
      rw [heq] at h
      exact absurd h (by decide)
    rw [hne]
  have hrun : lowerRuns.find? (CaseRun.covers · c.toNat) = none := by
    rw [List.find?_eq_none]
    intro run hrun hcovers
    have hge := lowerRuns_ge run hrun
    simp only [CaseRun.covers, Bool.and_eq_true, decide_eq_true_eq] at hcovers
    omega
  unfold lowerChar mapCase
  rw [hexception, hrun]

/-- Characters from the capital `A` on: letters, and no blank, digit or point. -/
def IsLetters (cs : List Char) : Prop := ∀ c ∈ cs, 'A'.toNat ≤ c.toNat

instance (cs : List Char) : Decidable (IsLetters cs) :=
  List.decidableBAll (fun c : Char => 'A'.toNat ≤ c.toNat) cs

/-- A word of letters is the small form of letters only. -/
theorem isLetters_of_lower_eq {cs word : List Char} (hword : IsLetters word)
    (h : cs.flatMap lowerChar = word) : IsLetters cs := by
  intro c hc
  rcases Nat.lt_or_ge c.toNat 'A'.toNat with hlt | hge
  · refine hword c ?_
    rw [← h, List.mem_flatMap]
    exact ⟨c, hc, by rw [lowerChar_of_lt hlt]; exact List.mem_singleton_self c⟩
  · exact hge

/-! ### The form of a sigma -/

theorem lowerAfter_eq_flatMap {cs : List Char} (h : 'Σ' ∉ cs) (before : List Char) :
    lowerAfter before cs = cs.flatMap lowerChar := by
  induction cs generalizing before with
  | nil => rfl
  | cons c rest ih =>
    have hc : c ≠ 'Σ' := fun heq => h (heq ▸ List.mem_cons_self)
    rw [lowerAfter, if_neg (fun hand => hc hand.1), List.flatMap_cons,
      ih (fun hmem => h (List.mem_cons_of_mem c hmem))]

/-- A capital sigma leaves one of the two small forms. -/
theorem exists_sigma_of_mem {cs : List Char} (h : 'Σ' ∈ cs) (before : List Char) :
    'σ' ∈ lowerAfter before cs ∨ 'ς' ∈ lowerAfter before cs := by
  induction cs generalizing before with
  | nil => exact absurd h List.not_mem_nil
  | cons c rest ih =>
    rw [lowerAfter]
    rcases List.mem_cons.mp h with rfl | hrest
    · split
      · exact Or.inr (List.mem_append_left _ List.mem_cons_self)
      · refine Or.inl (List.mem_append_left _ ?_)
        decide +kernel
    · exact (ih hrest (c :: before)).imp (List.mem_append_right _) (List.mem_append_right _)

/-- **Words without a sigma** are matched by the same texts, whether or not final sigmas are told
apart. -/
theorem lowerAfter_eq_iff {word : List Char} (hmid : 'σ' ∉ word) (hend : 'ς' ∉ word)
    (before cs : List Char) : lowerAfter before cs = word ↔ cs.flatMap lowerChar = word := by
  by_cases h : 'Σ' ∈ cs
  · -- A capital sigma leaves a small one under either function, so neither side holds.
    constructor
    · rintro rfl
      exact absurd (exists_sigma_of_mem h before) (not_or.mpr ⟨hmid, hend⟩)
    · rintro rfl
      refine absurd (List.mem_flatMap.mpr ⟨'Σ', h, ?_⟩) hmid
      decide +kernel
  · rw [lowerAfter_eq_flatMap h]

theorem lowerWords_eq_iff {word : String} (hmid : 'σ' ∉ word.toList) (hend : 'ς' ∉ word.toList)
    (s : String) : lowerWords s = word ↔ lower s = word := by
  unfold lowerWords lower
  rw [← String.ofList_toList (s := word), String.ofList_inj, String.ofList_inj]
  exact lowerAfter_eq_iff hmid hend [] s.toList

end Footprint.Text
