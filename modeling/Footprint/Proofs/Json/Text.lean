import Footprint.Json.Reader
import Footprint.Json.Writer
import Mathlib.Tactic.Common

/-!
# Texts in JSON

A text is written character by character, and each character is read back on its own whatever comes
behind it (`Json.readText_escapeChar`), so that a written text is read back up to its closing
quotation mark (`Json.readText_escaped`).

What comes behind matters at one place. An escaped number may be the first half of a character
outside the basic plane, whose second half has to follow as another escaped number. Only controls
are written as escaped numbers, and a control is no first half (`Json.readText_number`).
-/

namespace Footprint.Json

/-- A character before the text that is read from the rest. -/
def before (c : Char) : Option (List Char × List Char) → Option (List Char × List Char) :=
  Option.map fun (cs, left) => (c :: cs, left)

theorem readText_faulty {a b c d : Char} (hunit : hexUnit? a b c d = none) (rest : List Char) :
    readText ('\\' :: 'u' :: a :: b :: c :: d :: rest) = none := by
  by_cases hpair : ∃ e f g h more, rest = '\\' :: 'u' :: e :: f :: g :: h :: more
  · obtain ⟨e, f, g, h, more, rfl⟩ := hpair
    rw [readText.eq_3, hunit]
  · rw [readText.eq_4 a b c d rest fun e f g h more heq => hpair ⟨e, f, g, h, more, heq⟩, hunit]

/-- An escaped number that is no half of a character is a character by itself. -/
theorem readText_number {a b c d : Char} {unit : Nat} (hunit : hexUnit? a b c d = some unit)
    (hhalf : unit < 0xD800) (rest : List Char) :
    readText ('\\' :: 'u' :: a :: b :: c :: d :: rest) =
      before (Char.ofNat unit) (readText rest) := by
  by_cases hpair : ∃ e f g h more, rest = '\\' :: 'u' :: e :: f :: g :: h :: more
  · obtain ⟨e, f, g, h, more, rfl⟩ := hpair
    rw [readText.eq_3, hunit]
    cases hsecond : hexUnit? e f g h with
    | none =>
      -- The second number is faulty, and so it is when it is read by itself.
      rw [readText_faulty hsecond]
      rfl
    | some second =>
      dsimp only
      rw [if_neg (by omega)]
      rfl
  · rw [readText.eq_4 a b c d rest fun e f g h more heq => hpair ⟨e, f, g, h, more, heq⟩, hunit]
    rfl

/-- An escape of one letter is the character it stands for. -/
theorem readText_letter {letter c : Char} (hletter : letter ≠ 'u')
    (hc : unescape? letter = some c) (rest : List Char) :
    readText ('\\' :: letter :: rest) = before c (readText rest) := by
  rw [readText.eq_5 letter rest (fun _ _ _ _ _ _ _ _ _ h => absurd h hletter)
    (fun _ _ _ _ _ h => absurd h hletter), hc]
  rfl

/-- A character that is not escaped stands for itself. -/
theorem readText_plain {c : Char} (hmark : c ≠ '"') (hescape : c ≠ '\\') (hcontrol : 0x20 ≤ c.toNat)
    (rest : List Char) : readText (c :: rest) = before c (readText rest) := by
  have hshown : ¬(c.toNat < 0x20 ∨ c = '\\') := not_or.mpr ⟨by omega, hescape⟩
  rw [readText.eq_6 c rest hmark (fun _ _ _ _ _ _ _ _ _ h => absurd h hescape)
    (fun _ _ _ _ _ h => absurd h hescape) (fun _ _ h => absurd h hescape), if_neg hshown]
  rfl

theorem hexDigits_control : ∀ n < 0x20, ∃ a b c d,
    Text.hexDigits 4 n = [a, b, c, d] ∧ hexUnit? a b c d = some n := by
  have hdigits : ∀ n < 0x20, Text.hexDigits 4 n =
      ['0', '0', Nat.digitChar (n / 16), Nat.digitChar (n % 16)] ∧
      hexUnit? '0' '0' (Nat.digitChar (n / 16)) (Nat.digitChar (n % 16)) = some n := by decide
  exact fun n hn => ⟨_, _, _, _, hdigits n hn⟩

/-- **A character is read back as it was written.** -/
theorem readText_escapeChar (c : Char) (rest : List Char) :
    readText (escapeChar c ++ rest) = before c (readText rest) := by
  unfold escapeChar
  split_ifs with hmark hescape hfeed hreturn htab hform hback hcontrol
  · rw [hmark]; exact readText_letter (by decide) rfl rest
  · rw [hescape]; exact readText_letter (by decide) rfl rest
  · rw [hfeed]; exact readText_letter (by decide) rfl rest
  · rw [hreturn]; exact readText_letter (by decide) rfl rest
  · rw [htab]; exact readText_letter (by decide) rfl rest
  · rw [hform]; exact readText_letter (by decide) rfl rest
  · rw [hback]; exact readText_letter (by decide) rfl rest
  · obtain ⟨a, b, d, e, hdigits, hunit⟩ := hexDigits_control c.toNat hcontrol
    have hread := readText_number hunit (by omega) rest
    rw [Char.ofNat_toNat] at hread
    rw [hdigits]
    exact hread
  · exact readText_plain hmark hescape (by omega) rest

/-- **A text is read back up to its closing quotation mark.** -/
theorem readText_escaped (cs rest : List Char) :
    readText (cs.flatMap escapeChar ++ '"' :: rest) = some (cs, rest) := by
  induction cs with
  | nil => rw [List.flatMap_nil, List.nil_append, readText]
  | cons c cs ih =>
    rw [List.flatMap_cons, List.append_assoc, readText_escapeChar, ih]
    rfl

/-- The text behind its first quotation mark. -/
theorem writeText_append (s : String) (rest : List Char) :
    writeText s ++ rest = '"' :: (s.toList.flatMap escapeChar ++ '"' :: rest) := by
  rw [writeText, List.append_assoc]
  rfl

end Footprint.Json
