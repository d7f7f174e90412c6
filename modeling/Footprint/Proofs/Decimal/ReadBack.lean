import Footprint.Proofs.Decimal.FixedPoint
import Footprint.Proofs.Text.Digits
import Footprint.Size.Arithmetic

/-!
# Decimals that are read back

The fixed-point text of a decimal is read as a decimal of the same value (`Numeric.text_faithful`).
Neither side knows of the other: the printer lays out digits, and the reader takes text from
outside, which it first trims, writes in ASCII and frees from underscores. What joins them is the
numeral. The text is the numeral of the decimal (`Decimal.fixed_eq`), what is made of text from
outside leaves the characters of a numeral alone (`Numeral.normalize_chars`), and a numeral that
makes up a whole text is read as its decimal (`Numeral.ofText?_chars`).

A decimal that the reader could have read in some other form is in the range of numbers, and its
fixed-point numeral is too (`Decimal.isReadable_of_inRange`): the zeros that are filled in behind
its digits move neither its first digit nor the last one behind the point.

Since a numeral is known by its characters, two decimals have the same text if and only if they
have the same value and as many digits behind the point.
-/

namespace Footprint

open Decimal

/-! ### Numerals as text from outside -/

namespace Numeral

theorem endsBefore_nil (n : Numeral) : n.EndsBefore [] where
  no_digit := nofun
  no_exponent _ _ _ h := by cases h
  no_point _ _ := nofun

/-- A numeral is known by its characters. -/
theorem eq_of_chars_eq {n n' : Numeral} (h : n.chars = n'.chars) : n = n' :=
  (n.endsBefore_nil.unique n'.endsBefore_nil (congrArg (· ++ []) h)).1

/-- The characters of a numeral that are no digits. -/
def marks : List Char := ['+', '-', '.', 'e', 'E']

theorem mem_signChars {sign : Option Sign} {c : Char} (h : c ∈ Sign.chars sign) : c ∈ marks := by
  rcases sign with _ | _ | _
  · cases h
  · rw [List.mem_singleton.mp h]
    decide
  · rw [List.mem_singleton.mp h]
    decide

theorem mem_exponentChars {exponent : Option Exponent} {c : Char}
    (h : c ∈ exponentChars exponent) : Text.isAsciiDigit c = true ∨ c ∈ marks := by
  rcases exponent with _ | e
  · cases h
  · rcases List.mem_cons.mp h with rfl | htail
    · rcases e.mark_eq with hmark | hmark <;> rw [hmark] <;> decide
    · rcases List.mem_append.mp htail with hsign | hdigit
      · exact Or.inr (mem_signChars hsign)
      · exact Or.inl (e.isDigits c hdigit)

theorem mem_chars {n : Numeral} {c : Char} (h : c ∈ n.chars) :
    Text.isAsciiDigit c = true ∨ c ∈ marks := by
  rw [chars, body, List.mem_append, List.mem_append, List.mem_append] at h
  rcases h with hsign | hwhole | hpoint | hexponent
  · exact Or.inr (mem_signChars hsign)
  · exact Or.inl (n.whole_isDigits c hwhole)
  · cases hfraction : n.fraction with
    | none =>
      rw [hfraction] at hpoint
      cases hpoint
    | some ds =>
      rw [hfraction] at hpoint
      rcases List.mem_cons.mp hpoint with rfl | hdigit
      · exact Or.inr (by decide)
      · have hdigits := n.fraction_isDigits
        rw [hfraction] at hdigits
        exact Or.inl (hdigits c hdigit)
  · exact mem_exponentChars hexponent

/-- The characters of a numeral lie between the blanks of ASCII and its end, and an underscore is
none of them. -/
theorem ascii_of_mem_chars {n : Numeral} {c : Char} (h : c ∈ n.chars) :
    0x20 < c.toNat ∧ c.toNat < 0x7F ∧ c ≠ '_' := by
  rcases mem_chars h with hdigit | hmark
  · obtain ⟨hlow, hhigh⟩ := toNat_of_isAsciiDigit hdigit
    change 48 ≤ c.toNat at hlow
    change c.toNat ≤ 57 at hhigh
    refine ⟨by omega, by omega, ?_⟩
    rintro rfl
    exact absurd hdigit (by decide)
  · simp only [marks, List.mem_cons, List.not_mem_nil, or_false] at hmark
    rcases hmark with rfl | rfl | rfl | rfl | rfl <;> decide

end Numeral

/-- There is no blank of any script between the last of ASCII and the first beyond it. -/
theorem Text.isBlank_of_ascii {c : Char} (hlow : 0x20 < c.toNat) (hhigh : c.toNat < 0x7F) :
    Text.isBlank c = false := by
  have hshown : Text.inRanges [(0x21, 0x7E)] c = true :=
    Text.inRanges_iff.mpr ⟨_, List.mem_singleton_self _, hlow, Nat.le_of_lt_succ hhigh⟩
  exact Text.inRanges_eq_false_of_apart (by decide) hshown

namespace Numeral

theorem mapM_asciiForm {cs : List Char} (h : ∀ c ∈ cs, 0 < c.toNat ∧ c.toNat < 128) :
    cs.mapM asciiForm = some cs := by
  induction cs with
  | nil => rfl
  | cons c cs ih =>
    obtain ⟨hc, hcs⟩ := List.forall_mem_cons.mp h
    have hform : asciiForm c = some c := if_pos hc
    rw [List.mapM_cons, hform, ih hcs]
    rfl

/-- Text from outside that is a numeral stays as it is. -/
theorem normalize_chars (n : Numeral) :
    Decimal.normalize (String.ofList n.chars) = some n.chars := by
  have hblank : ∀ c ∈ n.chars, Text.isBlank c = false := fun c hc =>
    Text.isBlank_of_ascii (ascii_of_mem_chars hc).1 (ascii_of_mem_chars hc).2.1
  have hunderscore : n.chars.filter (· ≠ '_') = n.chars :=
    List.filter_eq_self.mpr fun c hc => decide_eq_true (ascii_of_mem_chars hc).2.2
  rw [Decimal.normalize, String.toList_ofList, Text.trimBlank, trim_eq_self hblank, hunderscore]
  refine mapM_asciiForm fun c hc => ?_
  have := ascii_of_mem_chars hc
  omega

/-- **A text that is a numeral is read as its decimal**, if that is in range. -/
theorem ofText?_chars {n : Numeral} (h : n.IsReadable) :
    ofText? (String.ofList n.chars) = some n.decimal := by
  have hread : readNumber n.chars = some (n.decimal, []) := by
    have hends := n.endsBefore_nil.readNumber_eq
    rwa [List.append_nil] at hends
  rw [ofText?, normalize_chars, Option.bind_eq_bind, Option.bind_some, hread]
  exact if_pos (n.isReadable_iff.mp h)

/-- A fixed-point numeral is one for all decimals of the same value with as many digits behind the
point. -/
theorem IsFixedPoint.congr {n : Numeral} {d d' : Decimal} (h : n.IsFixedPoint d)
    (hvalue : d'.value = d.value) (hplaces : (-d'.exponent).toNat = (-d.exponent).toNat) :
    n.IsFixedPoint d' where
  value := h.value.trans hvalue.symm
  exponent := h.exponent
  sign := by rw [h.sign, hvalue]
  fraction := by
    have hpoint : d'.exponent < 0 ↔ d.exponent < 0 := by omega
    rw [h.fraction, hplaces]
    exact if_congr hpoint.symm rfl rfl
  whole_ne_nil := h.whole_ne_nil
  head_zero := h.head_zero

end Numeral

/-! ### The fixed-point text -/

namespace Decimal

variable {d : Decimal}

/-- **A decimal in range can be read in its fixed-point form.** -/
theorem isReadable_of_inRange (h : d.inRange = true) : d.fixedNumeral.IsReadable := by
  rw [inRange, Bool.and_eq_true, decide_eq_true_eq, decide_eq_true_eq] at h
  obtain ⟨hfirst, hlast⟩ := h
  rw [Numeral.IsReadable, d.isFixedPoint_fixedNumeral.decimal_exponent, d.value_fixedNumeral]
  refine ⟨le_min hlast (by decide), fun _ => (min_le_right _ _).trans (by decide), fun hne => ?_⟩
  rw [if_neg (mt (isZero_iff d).mp (mt d.value_eq_zero_iff.mpr hne))] at hfirst
  calc |d.value| = d.magnitude := abs_value d
    _ < (10 : ℚ) ^ (d.adjusted + 1) := lt_pow_adjusted d
    _ ≤ (10 : ℚ) ^ (highestPlace + 1) := zpow_le_zpow_right₀ (by norm_num) (by omega)

/-- The characters of the fixed-point text. -/
theorem toList_fixed (d : Decimal) : d.fixed.toList = (if d.value < 0 then ['-'] else []) ++
    (d.fixedWhole ++ if d.exponent < 0 then '.' :: d.fixedFraction.getD [] else []) := by
  have hsign : Numeral.Sign.chars d.fixedNumeral.sign = if d.value < 0 then ['-'] else [] := by
    rw [d.isFixedPoint_fixedNumeral.sign]
    split <;> rfl
  have hpoint : Numeral.pointChars d.fixedFraction =
      if d.exponent < 0 then '.' :: d.fixedFraction.getD [] else [] := by
    unfold fixedFraction
    split
    · next hexponent =>
      rw [if_neg (not_lt.mpr hexponent)]
      rfl
    · next hexponent =>
      rw [if_pos (not_le.mp hexponent)]
      rfl
  rw [fixed_eq, String.toList_ofList, Numeral.chars, hsign, ← hpoint]
  change _ ++ (_ ++ (_ ++ [])) = _
  rw [List.append_nil]
  rfl

/-- Behind the sign there are digits and a point. -/
theorem mem_unsigned {c : Char} (h : c ∈ d.fixedWhole ++
    if d.exponent < 0 then '.' :: d.fixedFraction.getD [] else []) :
    Text.isAsciiDigit c = true ∨ c = '.' := by
  rcases List.mem_append.mp h with hwhole | hpoint
  · exact Or.inl (d.isDigits_fixedWhole c hwhole)
  · split at hpoint
    · rcases List.mem_cons.mp hpoint with rfl | hfraction
      · exact Or.inr rfl
      · exact Or.inl (d.isDigits_fixedFraction c hfraction)
    · cases hpoint

/-- The sign of a number below zero is the only minus sign in a text. -/
theorem minus_mem_fixed (d : Decimal) : '-' ∈ d.fixed.toList ↔ d.value < 0 := by
  have hrest : '-' ∉ d.fixedWhole ++
      if d.exponent < 0 then '.' :: d.fixedFraction.getD [] else [] :=
    fun hmem => absurd (mem_unsigned hmem) (by decide)
  rw [toList_fixed, List.mem_append, or_iff_left hrest]
  split
  · next hbelow => exact iff_of_true List.mem_cons_self hbelow
  · next habove => exact iff_of_false List.not_mem_nil habove

/-- What is no digit, no point and no minus sign does not occur in a text. -/
theorem not_mem_fixed {c : Char} (hdigit : Text.isAsciiDigit c = false) (hpoint : c ≠ '.')
    (hminus : c ≠ '-') : c ∉ d.fixed.toList := by
  rw [toList_fixed, List.mem_append, not_or]
  constructor
  · split
    · exact fun hmem => hminus (List.mem_singleton.mp hmem)
    · exact List.not_mem_nil
  · intro hmem
    rcases mem_unsigned hmem with h | h
    · exact Bool.false_ne_true (hdigit.symm.trans h)
    · exact hpoint h

/-- **Decimals have the same text if and only if they have the same value and as many digits behind
the point.** -/
theorem fixed_eq_fixed_iff {other : Decimal} : other.fixed = d.fixed ↔
    other.value = d.value ∧ (-other.exponent).toNat = (-d.exponent).toNat := by
  constructor
  · intro h
    rw [fixed_eq, fixed_eq, String.ofList_inj] at h
    have hsame := Numeral.eq_of_chars_eq h
    constructor
    · rw [← value_fixedNumeral, hsame, value_fixedNumeral]
    · rw [← other.isFixedPoint_fixedNumeral.length_fraction, hsame,
        d.isFixedPoint_fixedNumeral.length_fraction]
  · rintro ⟨hvalue, hplaces⟩
    have hfixed := d.isFixedPoint_fixedNumeral.congr hvalue hplaces
    rw [fixed_eq, fixed_eq, other.isFixedPoint_fixedNumeral.unique hfixed]

end Decimal

namespace Numeric

open Decimal

theorem ofDatum_fixed {d : Decimal} (h : d.inRange = true) :
    ofDatum (.text d.fixed) = .ok d.fixedNumeral.decimal := by
  rw [ofDatum, ofDatum.read, d.fixed_eq, Numeral.ofText?_chars (isReadable_of_inRange h)]

/-- **The text of a decimal is faithful.** It is a minus sign if the number is below zero, digits,
and behind a point as many digits as the exponent asks for; there is no exponent in it. A decimal
that is in the range of numbers at all is read back from it as a decimal of the same value, whose
last digit stands behind the point where it stood or else before it. Two decimals have the same text
if and only if they have the same value and as many digits behind the point. -/
theorem text_faithful (d : Decimal) :
    let text := Arithmetic.numeric.text d
    (∃ whole fraction : List Char, IsDigits whole ∧ whole ≠ [] ∧ IsDigits fraction ∧
      fraction.length = (-d.exponent).toNat ∧
      text.toList = (if d.value < 0 then ['-'] else []) ++
        (whole ++ if d.exponent < 0 then '.' :: fraction else [])) ∧
    ('-' ∈ text.toList ↔ d.value < 0) ∧
    ('e' ∉ text.toList ∧ 'E' ∉ text.toList) ∧
    (d.inRange = true → ∃ result, Numeric.ofDatum (.text text) = .ok result ∧
      result.value = d.value ∧ result.exponent = min d.exponent 0) ∧
    ∀ other : Decimal, Arithmetic.numeric.text other = text ↔
      other.value = d.value ∧ (-other.exponent).toNat = (-d.exponent).toNat := by
  intro text
  refine ⟨⟨d.fixedWhole, d.fixedFraction.getD [], d.isDigits_fixedWhole, d.fixedWhole_ne_nil,
    d.isDigits_fixedFraction, d.isFixedPoint_fixedNumeral.length_fraction, d.toList_fixed⟩,
    d.minus_mem_fixed, ⟨?_, ?_⟩, fun h => ?_, fun other => fixed_eq_fixed_iff⟩
  · exact not_mem_fixed rfl (by decide) (by decide)
  · exact not_mem_fixed rfl (by decide) (by decide)
  · refine ⟨_, ofDatum_fixed h, ?_, d.isFixedPoint_fixedNumeral.decimal_exponent⟩
    rw [Numeral.value_decimal, d.value_fixedNumeral]

/-- A number below zero, and a zero below which nothing is lost: its sign goes and its digits
stay. -/
theorem text_faithful_zero :
    (∃ result, Numeric.ofDatum (.text (Arithmetic.numeric.text ⟨true, 1050, -2⟩)) = .ok result ∧
      result.value = (⟨true, 1050, -2⟩ : Decimal).value) ∧
    (∃ result, Numeric.ofDatum (.text (Arithmetic.numeric.text ⟨true, 0, -3⟩)) = .ok result ∧
      result.value = 0) ∧
    Arithmetic.numeric.text ⟨true, 0, -3⟩ = "0.000" := by
  obtain ⟨-, -, -, hfraction, -⟩ := text_faithful ⟨true, 1050, -2⟩
  obtain ⟨-, -, -, hzero, -⟩ := text_faithful ⟨true, 0, -3⟩
  obtain ⟨result, hread, hvalue, -⟩ := hfraction (by decide)
  obtain ⟨zero, hreadZero, hvalueZero, -⟩ := hzero (by decide)
  refine ⟨⟨result, hread, hvalue⟩, ⟨zero, hreadZero, ?_⟩, by decide⟩
  rw [hvalueZero]
  exact (value_eq_zero_iff _).mpr rfl

end Numeric

end Footprint
