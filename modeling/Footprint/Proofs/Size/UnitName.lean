import Footprint.Proofs.Text.LetterCase
import Footprint.Size.Parser
import Mathlib.Algebra.Ring.Nat

/-!
# Names of units

A size may name its unit in any letter case. The names are listed here in small letters, each with
the power of two that it stands for (`unitSpellings`), and a text names a unit when its small form
is in the list. That is what looking a text up in the table of units and then among the further
names comes to (`find?_bits`), so the multiplier of a size is a power of two (`multiplier_eq`).

A name is a word of letters and does not begin with the mark of an exponent (`UnitLetters`): it can
follow a number or a blank without being taken for a part of either.
-/

namespace Footprint.Size

/-- The names of units in small letters, each with its power of two. -/
def unitSpellings : List (String × ℕ) :=
  [("bytes", 0), ("kb", 10), ("mb", 20), ("gb", 30), ("tb", 40), ("pb", 50), ("b", 0)]

/-- The power of two of the unit that a text names in any letter case. -/
def unitBits? (name : List Char) : Option ℕ :=
  unitSpellings.lookup (Text.lowerWords (String.ofList name))

/-! ### The table of units -/

/-- Two keys that equal the same entries of a list are looked up alike. -/
theorem lookup_congr {α β : Type} [DecidableEq α] {a b : α} {entries : List (α × β)}
    (h : ∀ entry ∈ entries, a = entry.1 ↔ b = entry.1) :
    entries.lookup a = entries.lookup b := by
  induction entries with
  | nil => rfl
  | cons entry rest ih =>
    have hkey : (a == entry.1) = (b == entry.1) := by
      rw [Bool.eq_iff_iff, beq_iff_eq, beq_iff_eq]
      exact h entry List.mem_cons_self
    rw [List.lookup_cons, List.lookup_cons, hkey,
      ih fun e he => h e (List.mem_cons_of_mem entry he)]

/-- What every listed name is: a word of letters without a sigma that does not begin with the mark
of an exponent. -/
theorem unitSpellings_letters : ∀ entry ∈ unitSpellings,
    ('σ' ∉ entry.1.toList ∧ 'ς' ∉ entry.1.toList) ∧ entry.1.toList ≠ [] ∧
      entry.1.toList.head? ≠ some 'e' ∧ Text.IsLetters entry.1.toList := by
  decide +kernel

/-- Looking up the small form, with or without final sigmas. -/
theorem lookup_lower (s : String) :
    unitSpellings.lookup (Text.lower s) = unitSpellings.lookup (Text.lowerWords s) := by
  refine lookup_congr fun entry hentry => ?_
  obtain ⟨⟨hmid, hend⟩, -⟩ := unitSpellings_letters entry hentry
  exact (Text.lowerWords_eq_iff hmid hend s).symm

/-- Searching a list by a key is looking the key up among the pairs of keys and values. -/
theorem map_find?_eq_lookup {α β γ : Type} [DecidableEq α] (key : γ → α) (f : γ → β)
    (items : List γ) (a : α) :
    (items.find? fun item => key item = a).map f =
      (items.map fun item => (key item, f item)).lookup a := by
  induction items with
  | nil => rfl
  | cons item rest ih =>
    rw [List.map_cons, List.lookup_cons, List.find?_cons, ← ih]
    by_cases h : key item = a
    · rw [decide_eq_true h, h, beq_self_eq_true]
      rfl
    · rw [decide_eq_false h, beq_false_of_ne fun h' => h h'.symm]

/-- The table of units and the further names, in small letters. -/
theorem unitSpellings_eq : unitSpellings =
    (SizeUnit.table.map fun unit => (Text.lower unit.name, unit.bits)) ++
      SizeUnit.aliases.map fun entry => (Text.lower entry.1, entry.2.bits) := by
  decide +kernel

/-- **Looking up a unit.** The table first and the further names after it, both in small letters,
come to one list of names. -/
theorem find?_bits (s : String) :
    (SizeUnit.find? s).map SizeUnit.bits = unitSpellings.lookup (Text.lower s) := by
  rw [unitSpellings_eq, List.lookup_append, ← map_find?_eq_lookup, ← map_find?_eq_lookup]
  unfold SizeUnit.find?
  dsimp only
  generalize SizeUnit.table.find? (fun unit => Text.lower unit.name = Text.lower s) = found
  rcases found with _ | unit
  · exact Option.map_map ..
  · rfl

theorem multiplier_nil : multiplier (String.ofList []) = some 1 := rfl

/-- The multiplier of a size is a power of two. -/
theorem multiplier_eq {name : List Char} (h : name ≠ []) :
    multiplier (String.ofList name) = (unitBits? name).map fun bits => 2 ^ bits := by
  have hne : ¬ (String.ofList name).isEmpty = true := by
    rwa [String.isEmpty_iff, String.ofList_eq_empty_iff]
  rw [multiplier, if_neg hne, unitBits?, ← lookup_lower, ← find?_bits, Option.map_map]
  rfl

/-! ### The letters of a name -/

/-- A word of letters that does not begin with the mark of an exponent. -/
structure UnitLetters (name : List Char) : Prop where
  ne_nil : name ≠ []
  letters : Text.IsLetters name
  no_mark : ∀ c ∈ name.head?, c ≠ 'e' ∧ c ≠ 'E'

theorem unitLetters_of_unitBits? {name : List Char} (h : (unitBits? name).isSome = true) :
    UnitLetters name := by
  obtain ⟨bits, hbits⟩ := Option.isSome_iff_exists.mp h
  obtain ⟨front, back, hsplit, -⟩ := List.lookup_eq_some_iff.mp hbits
  have hentry : (Text.lowerWords (String.ofList name), bits) ∈ unitSpellings := by
    rw [hsplit]
    exact List.mem_append_right front List.mem_cons_self
  obtain ⟨⟨hmid, hend⟩, hne, hhead, hletters⟩ := unitSpellings_letters _ hentry
  -- The small form of the name, with the final sigmas left out.
  have hlower : name.flatMap Text.lowerChar = (Text.lowerWords (String.ofList name)).toList := by
    have := (Text.lowerWords_eq_iff hmid hend (String.ofList name)).mp rfl
    dsimp only at this
    rw [← this, Text.lower, String.toList_ofList, String.toList_ofList]
  refine ⟨?_, Text.isLetters_of_lower_eq hletters hlower, ?_⟩
  · rintro rfl
    exact hne hlower.symm
  · rcases name with _ | ⟨c, cs⟩
    · exact nofun
    · rintro d ⟨⟩
      refine ⟨?_, ?_⟩ <;>
      · rintro rfl
        rw [← hlower, List.flatMap_cons] at hhead
        exact hhead rfl

end Footprint.Size
