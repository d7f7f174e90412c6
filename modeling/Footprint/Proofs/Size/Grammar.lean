import Footprint.Proofs.Decimal.Numeral
import Footprint.Proofs.Size.UnitName

/-!
# The grammar of sizes

A `Written` is a size as it is written: blanks, a numeral, blanks, and a unit that may be missing
with blanks after it. Every size is written in one way only (`Written.chars_injective`): blanks,
numerals and names of units begin with different characters, and a numeral is followed by nothing
that could go on with it (`Written.endsBefore_tail`).

What the parser makes of a text is a `Verdict`. There are four, by the order of the parser's checks:
no numeral at the front, a numeral out of range, an unknown unit, and a written size that is
multiplied out. Each says in terms of the grammar when it applies, and `parse_eq_iff` that it
applies exactly when the parser comes to it. From this it is read off which texts are refused for
their syntax (`parse_ne_sizeSyntax_iff`) and with which detail (`parse_eq_no_detail_iff`,
`parse_eq_detail_iff`).
-/

namespace Footprint.Size

/-! ### Blanks -/

/-- A run of blanks, possibly empty. -/
def IsBlanks (cs : List Char) : Prop := ∀ c ∈ cs, isSpace c = true

instance (cs : List Char) : Decidable (IsBlanks cs) :=
  List.decidableBAll (fun c => isSpace c = true) cs

theorem isBlanks_nil : IsBlanks [] := nofun

/-- `core` is what remains of `cs` without the blanks at its two ends. -/
structure IsTrimmed (core cs : List Char) : Prop where
  split : ∃ front back, cs = front ++ (core ++ back) ∧ IsBlanks front ∧ IsBlanks back
  head_not_blank : ∀ c ∈ core.head?, isSpace c = false
  last_not_blank : ∀ c ∈ core.getLast?, isSpace c = false

theorem isTrimmed_trimSpace (cs : List Char) : IsTrimmed (trimSpace cs) cs := by
  have hfront := List.takeWhile_append_dropWhile (p := isSpace) (l := cs)
  have hback := List.takeWhile_append_dropWhile (p := isSpace) (l := (cs.dropWhile isSpace).reverse)
  have hsplit : cs.dropWhile isSpace =
      trimSpace cs ++ ((cs.dropWhile isSpace).reverse.takeWhile isSpace).reverse := by
    rw [trimSpace, ← List.reverse_append, hback, List.reverse_reverse]
  have hblank : IsBlanks ((cs.dropWhile isSpace).reverse.takeWhile isSpace).reverse :=
    fun c hc => mem_takeWhile _ c (List.mem_reverse.mp hc)
  refine ⟨⟨cs.takeWhile isSpace, _, ?_, mem_takeWhile cs, hblank⟩, ?_, ?_⟩
  · rw [← hsplit, hfront]
  · intro c hc
    refine head?_dropWhile_stop cs c ?_
    rw [hsplit, List.head?_append, Option.mem_def.mp hc, Option.some_or]
    rfl
  · rw [trimSpace, List.getLast?_reverse]
    exact head?_dropWhile_stop _

theorem dropWhile_blanks {cs : List Char} (h : IsBlanks cs) : cs.dropWhile isSpace = [] := by
  have hdrop : (cs ++ []).dropWhile isSpace = [] := dropWhile_append_of_stop h nofun
  rwa [List.append_nil] at hdrop

/-- Trimming is determined by what it leaves. -/
theorem trimSpace_eq_iff {core cs : List Char} : trimSpace cs = core ↔ IsTrimmed core cs := by
  constructor
  · rintro rfl
    exact isTrimmed_trimSpace cs
  · rintro ⟨⟨front, back, rfl, hfront, hback⟩, hhead, hlast⟩
    rcases core with _ | ⟨c, core⟩
    · have hall : IsBlanks (front ++ ([] ++ back)) := by
        intro d hd
        rcases List.mem_append.mp hd with h | h
        · exact hfront d h
        · exact hback d h
      rw [trimSpace, dropWhile_blanks hall]
      rfl
    · have hstop : ∀ d ∈ ((c :: core) ++ back).head?, isSpace d = false := hhead
      rw [trimSpace, dropWhile_append_of_stop hfront hstop, List.reverse_append,
        dropWhile_append_of_stop (fun d hd => hback d (List.mem_reverse.mp hd)) ?_,
        List.reverse_reverse]
      rw [List.head?_reverse]
      exact hlast

/-! ### Kinds of characters -/

/-- A blank comes before the letters. -/
theorem toNat_lt_of_isSpace {c : Char} (h : isSpace c = true) : c.toNat < 'A'.toNat := by
  unfold isSpace at h
  simp only [Bool.or_eq_true, beq_iff_eq] at h
  rcases h with ((((rfl | rfl) | rfl) | rfl) | rfl) | rfl <;> decide

/-- A digit comes before the letters. -/
theorem toNat_lt_of_isAsciiDigit {c : Char} (h : Text.isAsciiDigit c = true) :
    c.toNat < 'A'.toNat := by
  unfold Text.isAsciiDigit at h
  rw [Bool.and_eq_true, decide_eq_true_eq, decide_eq_true_eq] at h
  exact lt_of_le_of_lt (show c.toNat ≤ '9'.toNat from h.2) (by decide)

/-- A blank does not go on with a numeral. -/
theorem not_numeral_of_isSpace {c : Char} (h : isSpace c = true) :
    Text.isAsciiDigit c = false ∧ c ≠ '.' ∧ c ≠ 'e' ∧ c ≠ 'E' := by
  unfold isSpace at h
  simp only [Bool.or_eq_true, beq_iff_eq] at h
  rcases h with ((((rfl | rfl) | rfl) | rfl) | rfl) | rfl <;> decide

/-- A numeral does not begin with a blank. -/
theorem numeral_head_not_blank (n : Numeral) (tail : List Char) :
    ∀ c ∈ (n.chars ++ tail).head?, isSpace c = false := by
  intro c hc
  rw [← Bool.not_eq_true]
  intro hspace
  obtain ⟨hdigit, hpoint, -⟩ := not_numeral_of_isSpace hspace
  rcases n.chars_head? tail c hc with rfl | rfl | hd | rfl
  · exact absurd hspace (by decide)
  · exact absurd hspace (by decide)
  · exact absurd hd (by rw [hdigit]; exact Bool.false_ne_true)
  · exact hpoint rfl

/-- A name of a unit neither begins nor ends with a blank. -/
theorem UnitLetters.not_blank {name : List Char} (h : UnitLetters name) {c : Char}
    (hc : c ∈ name) : isSpace c = false := by
  rw [← Bool.not_eq_true]
  intro hspace
  have := toNat_lt_of_isSpace hspace
  have := h.letters c hc
  omega

/-- A name of a unit does not go on with a numeral. -/
theorem UnitLetters.not_numeral {name : List Char} (h : UnitLetters name) {c : Char}
    (hc : c ∈ name.head?) : Text.isAsciiDigit c = false ∧ c ≠ '.' ∧ c ≠ 'e' ∧ c ≠ 'E' := by
  have hletter := h.letters c (List.mem_of_mem_head? hc)
  refine ⟨?_, ?_, (h.no_mark c hc).1, (h.no_mark c hc).2⟩
  · rw [← Bool.not_eq_true]
    intro hdigit
    have := toNat_lt_of_isAsciiDigit hdigit
    omega
  · rintro rfl
    exact absurd hletter (by decide)

/-! ### Written sizes -/

/-- A size as it is written. Without a unit the blanks before and after it are one run, which counts
as the one before it. -/
@[ext] structure Written where
  lead : List Char
  number : Numeral
  gap : List Char
  unit : Option (List Char)
  trail : List Char
  lead_blank : IsBlanks lead
  gap_blank : IsBlanks gap
  trail_blank : IsBlanks trail
  unit_known : ∀ name ∈ unit, (unitBits? name).isSome = true
  trail_nil : unit = none → trail = []

namespace Written

variable {w w' : Written}

/-- The characters of the unit; there are none when it is missing. -/
def unitChars (w : Written) : List Char := w.unit.getD []

/-- What follows the numeral. -/
def tail (w : Written) : List Char := w.gap ++ (w.unitChars ++ w.trail)

/-- The characters of a written size. -/
def chars (w : Written) : List Char := w.lead ++ (w.number.chars ++ w.tail)

/-- The text of a written size. -/
def text (w : Written) : String := String.ofList w.chars

/-- The power of two of the unit; without a unit it is zero. -/
def bits (w : Written) : ℕ := (w.unit.bind unitBits?).getD 0

theorem unitLetters {name : List Char} (h : w.unit = some name) : UnitLetters name :=
  unitLetters_of_unitBits? (w.unit_known name h)

theorem not_blank_of_mem_unitChars {c : Char} (hc : c ∈ w.unitChars) : isSpace c = false := by
  rcases hu : w.unit with _ | name
  · rw [unitChars, hu] at hc
    exact absurd hc List.not_mem_nil
  · rw [unitChars, hu] at hc
    exact (unitLetters hu).not_blank hc

/-- A unit is not empty, so what stands behind it does not begin before it. -/
theorem head?_unitChars_append {name : List Char} (h : w.unit = some name) :
    (w.unitChars ++ w.trail).head? = name.head? := by
  obtain ⟨c, cs, hname⟩ := List.exists_cons_of_ne_nil (unitLetters h).ne_nil
  rw [unitChars, h, Option.getD_some, hname]
  rfl

/-- What follows the numeral does not go on with it. -/
theorem endsBefore_tail (w : Written) : w.number.EndsBefore w.tail := by
  have hhead : ∀ c ∈ w.tail.head?, Text.isAsciiDigit c = false ∧ c ≠ '.' ∧ c ≠ 'e' ∧ c ≠ 'E' := by
    intro c hc
    rw [tail, List.head?_append] at hc
    rcases hgap : w.gap.head? with _ | d
    · -- The unit follows the numeral directly, or nothing does.
      rw [hgap, Option.none_or] at hc
      rcases hu : w.unit with _ | name
      · rw [unitChars, hu, w.trail_nil hu] at hc
        exact absurd hc (Option.not_mem_none c)
      · rw [head?_unitChars_append hu] at hc
        exact (unitLetters hu).not_numeral hc
    · -- A blank follows the numeral.
      rw [hgap, Option.some_or] at hc
      refine not_numeral_of_isSpace (w.gap_blank c (List.mem_of_mem_head? ?_))
      rw [hgap]
      exact hc
  refine ⟨fun c hc => (hhead c hc).1, ?_, ?_⟩
  · rintro - e more heq
    have hmark := hhead e.mark (by rw [heq]; rfl)
    rcases e.mark_eq with h | h
    · exact hmark.2.2.1 h
    · exact hmark.2.2.2 h
  · intro _ _ heq
    exact (hhead '.' heq).2.1 rfl

theorem dropWhile_chars (w : Written) :
    w.chars.dropWhile isSpace = w.number.chars ++ w.tail :=
  dropWhile_append_of_stop w.lead_blank (numeral_head_not_blank w.number w.tail)

/-- The parser finds the numeral and what follows it. -/
theorem isLongest (w : Written) : w.number.IsLongest (w.chars.dropWhile isSpace) w.tail :=
  Numeral.endsBefore_iff_isLongest.mp ⟨w.dropWhile_chars, w.endsBefore_tail⟩

/-- The parser finds the unit. -/
theorem isTrimmed (w : Written) : IsTrimmed w.unitChars w.tail := by
  refine ⟨⟨w.gap, w.trail, rfl, w.gap_blank, w.trail_blank⟩, ?_, ?_⟩
  · intro c hc
    exact not_blank_of_mem_unitChars (List.mem_of_mem_head? hc)
  · intro c hc
    exact not_blank_of_mem_unitChars (List.mem_of_mem_getLast? hc)

theorem unit_eq (h : w.unitChars = w'.unitChars) : w.unit = w'.unit := by
  unfold unitChars at h
  rcases hu : w.unit with _ | name <;> rcases hu' : w'.unit with _ | name'
  · rfl
  · rw [hu, hu'] at h
    exact absurd h.symm (unitLetters hu').ne_nil
  · rw [hu, hu'] at h
    exact absurd h (unitLetters hu).ne_nil
  · rw [hu, hu'] at h
    exact congrArg some h

/-- **A size is written in one way.** The parts of a written size can be told from its
characters. -/
theorem chars_injective : Function.Injective chars := by
  intro w w' h
  -- From the front to the back: each part ends where the next one begins.
  have hlead : w.lead = w'.lead := by
    have := congrArg (List.takeWhile isSpace) h
    rwa [chars, chars, takeWhile_append_of_stop w.lead_blank (numeral_head_not_blank _ _),
      takeWhile_append_of_stop w'.lead_blank (numeral_head_not_blank _ _)] at this
  obtain ⟨hnumber, htail⟩ := w.endsBefore_tail.unique w'.endsBefore_tail
    (by rw [← dropWhile_chars, ← dropWhile_chars, h])
  have hunitChars : w.unitChars = w'.unitChars := by
    rw [← trimSpace_eq_iff.mpr w.isTrimmed, ← trimSpace_eq_iff.mpr w'.isTrimmed, htail]
  have hunit := unit_eq hunitChars
  have hgap : w.gap = w'.gap := by
    rcases hu : w.unit with _ | name
    · -- Without a unit the gap is all that is left.
      have hu' : w'.unit = none := hunit.symm.trans hu
      rw [tail, tail, hunitChars, w.trail_nil hu, w'.trail_nil hu'] at htail
      exact List.append_cancel_right htail
    · have hstop : ∀ v : Written, v.unit = some name →
          ∀ c ∈ (v.unitChars ++ v.trail).head?, isSpace c = false := by
        intro v hv c hc
        rw [head?_unitChars_append hv] at hc
        exact (unitLetters hv).not_blank (List.mem_of_mem_head? hc)
      have := congrArg (List.takeWhile isSpace) htail
      rwa [tail, tail, takeWhile_append_of_stop w.gap_blank (hstop w hu),
        takeWhile_append_of_stop w'.gap_blank (hstop w' (hunit.symm.trans hu))] at this
  have htrail : w.trail = w'.trail := by
    rw [tail, tail, hgap, hunitChars] at htail
    exact List.append_cancel_left (List.append_cancel_left htail)
  exact Written.ext hlead hnumber hgap hunit htrail

theorem text_injective : Function.Injective text :=
  fun _ _ h => chars_injective (String.ofList_inj.mp h)

/-- A text that is taken apart into blanks, a numeral and an empty or known unit is a written
size. -/
theorem exists_written {cs rest name : List Char} {number : Numeral}
    (hnumber : number.IsLongest (cs.dropWhile isSpace) rest) (hname : IsTrimmed name rest)
    (hunit : name = [] ∨ (unitBits? name).isSome = true) :
    ∃ w : Written, w.chars = cs ∧ w.number = number ∧ w.unitChars = name := by
  have hsplit : cs = cs.takeWhile isSpace ++ (number.chars ++ rest) := by
    rw [← hnumber.split, List.takeWhile_append_dropWhile]
  obtain ⟨front, back, hrest, hfront, hback⟩ := hname.split
  by_cases h : name = []
  · -- Nothing is left but blanks, which are the gap.
    subst h
    have hblank : IsBlanks rest := by
      rw [hrest]
      exact fun c hc => (List.mem_append.mp hc).elim (hfront c) (hback c)
    refine ⟨⟨_, number, rest, none, [], mem_takeWhile cs, hblank, nofun, nofun, fun _ => rfl⟩,
      ?_, rfl, rfl⟩
    change cs.takeWhile isSpace ++ (number.chars ++ (rest ++ [])) = cs
    rw [List.append_nil, ← hsplit]
  · refine ⟨⟨_, number, front, some name, back, mem_takeWhile cs, hfront, hback, ?_, nofun⟩,
      ?_, rfl, rfl⟩
    · rintro _ ⟨⟩
      exact hunit.resolve_left h
    · change cs.takeWhile isSpace ++ (number.chars ++ (front ++ (name ++ back))) = cs
      rw [← hrest, ← hsplit]

end Written

/-! ### What the parser makes of a text -/

/-- What is left of a text without the blanks before it. -/
def unindented (text : String) : List Char := text.toList.dropWhile isSpace

/-- What the parser makes of a text, by the first of its checks that decides. -/
inductive Verdict (text : String) : Except Error Int → Prop
  | noNumeral (h : ∀ (n : Numeral) rest, unindented text ≠ n.chars ++ rest) :
      Verdict text (.error (.sizeSyntax text none))
  | unreadable (n : Numeral) (rest : List Char) (h : n.IsLongest (unindented text) rest)
      (hn : ¬ n.IsReadable) : Verdict text (.error (.sizeSyntax text none))
  | unknownUnit (n : Numeral) (rest name : List Char) (h : n.IsLongest (unindented text) rest)
      (hn : n.IsReadable) (hname : IsTrimmed name rest) (hne : name ≠ [])
      (hu : unitBits? name = none) :
      Verdict text (.error (.sizeSyntax text (some (String.ofList name))))
  | size (w : Written) (h : w.text = text) (hw : w.number.IsReadable) :
      Verdict text (scale w.number.decimal (2 ^ w.bits))

theorem Written.multiplier_unit (w : Written) :
    multiplier (String.ofList w.unitChars) = some (2 ^ w.bits) := by
  rw [bits, unitChars]
  rcases hu : w.unit with _ | name
  · exact multiplier_nil
  · obtain ⟨bits, hbits⟩ := Option.isSome_iff_exists.mp (w.unit_known name hu)
    rw [Option.getD_some, multiplier_eq (unitLetters hu).ne_nil, Option.bind_some, hbits]
    rfl

/-- The parser at the longest numeral. -/
theorem parse_of_isLongest {text : String} {n : Numeral} {rest : List Char}
    (h : n.IsLongest (unindented text) rest) : parse text =
      if n.decimal.inRange then
        match multiplier (String.ofList (trimSpace rest)) with
        | none => .error (.sizeSyntax text (some (String.ofList (trimSpace rest))))
        | some m => scale n.decimal m
      else .error (.sizeSyntax text none) := by
  have hread : Decimal.readNumber (text.toList.dropWhile isSpace) = some (n.decimal, rest) :=
    Numeral.readNumber_eq_some_iff.mpr ⟨n, h, rfl⟩
  unfold parse
  generalize Decimal.readNumber (text.toList.dropWhile isSpace) = read at hread ⊢
  subst hread
  rfl

/-- **Each verdict is reached.** Where one applies, the parser comes to it. -/
theorem Verdict.parse_eq {text : String} {result : Except Error Int} (h : Verdict text result) :
    parse text = result := by
  cases h with
  | noNumeral h =>
    unfold parse
    rw [show Decimal.readNumber (text.toList.dropWhile isSpace) = none from
      Numeral.readNumber_eq_none_iff.mpr h]
  | unreadable n rest h hn =>
    rw [parse_of_isLongest h, if_neg (mt n.isReadable_iff.mpr hn)]
  | unknownUnit n rest name h hn hname hne hu =>
    rw [parse_of_isLongest h, if_pos (n.isReadable_iff.mp hn), trimSpace_eq_iff.mpr hname,
      multiplier_eq hne, hu]
    rfl
  | size w h hw =>
    have hlongest : w.number.IsLongest (unindented text) w.tail := by
      rw [← h, unindented, Written.text, String.toList_ofList]
      exact w.isLongest
    rw [parse_of_isLongest hlongest, if_pos (w.number.isReadable_iff.mp hw),
      trimSpace_eq_iff.mpr w.isTrimmed, w.multiplier_unit]

/-- **Some verdict applies** to every text. -/
theorem exists_verdict (text : String) : ∃ result, Verdict text result := by
  -- The cases are those of the parser, in its order.
  by_cases hnumeral : ∀ (n : Numeral) rest, unindented text ≠ n.chars ++ rest
  · exact ⟨_, .noNumeral hnumeral⟩
  push Not at hnumeral
  obtain ⟨m, more, hm⟩ := hnumeral
  -- Some numeral stands at the front, and grows into the longest one.
  obtain ⟨n, rest, hsplit, hends, -⟩ := m.exists_endsBefore more
  have hlongest := Numeral.endsBefore_iff_isLongest.mp ⟨hm.trans hsplit, hends⟩
  by_cases hn : n.IsReadable
  swap
  · exact ⟨_, .unreadable n rest hlongest hn⟩
  have hname := isTrimmed_trimSpace rest
  by_cases hunit : trimSpace rest = [] ∨ (unitBits? (trimSpace rest)).isSome = true
  · obtain ⟨w, hw, rfl, -⟩ := Written.exists_written hlongest hname hunit
    refine ⟨_, .size w ?_ hn⟩
    rw [Written.text, hw, String.ofList_toList]
  · obtain ⟨hne, hu⟩ := not_or.mp hunit
    rw [Option.not_isSome_iff_eq_none] at hu
    exact ⟨_, .unknownUnit n rest _ hlongest hn hname hne hu⟩

theorem parse_eq_iff {text : String} {result : Except Error Int} :
    parse text = result ↔ Verdict text result := by
  constructor
  · rintro rfl
    obtain ⟨result, h⟩ := exists_verdict text
    rwa [h.parse_eq]
  · exact Verdict.parse_eq

/-! ### The errors of the parser -/

/-- Multiplying out fails in one way only. -/
theorem scale_error {number : Decimal} {multiplier : ℕ} {e : Error}
    (h : scale number multiplier = .error e) : e = .outOfRange := by
  unfold scale Int64Range.check at h
  grind

theorem scale_ne_sizeSyntax (number : Decimal) (multiplier : ℕ) (text : String)
    (unit : Option String) : scale number multiplier ≠ .error (.sizeSyntax text unit) :=
  fun h => Error.noConfusion (scale_error h)

/-- A text is refused without a detail where no numeral can be read. -/
theorem parse_eq_no_detail_iff (s : String) : parse s = .error (.sizeSyntax s none) ↔
    (∀ (n : Numeral) rest, unindented s ≠ n.chars ++ rest) ∨
      ∃ (n : Numeral) (rest : List Char), n.IsLongest (unindented s) rest ∧ ¬ n.IsReadable := by
  constructor
  · intro h
    generalize hresult : Except.error (Error.sizeSyntax s none) = result at h
    rcases parse_eq_iff.mp h with hnone | ⟨n, rest, hlongest, hn⟩ | _ | w
    · exact Or.inl hnone
    · exact Or.inr ⟨n, rest, hlongest, hn⟩
    · exact absurd hresult nofun
    · exact absurd hresult.symm (scale_ne_sizeSyntax _ _ _ _)
  · rintro (hnone | ⟨n, rest, hlongest, hn⟩)
    · exact (Verdict.noNumeral hnone).parse_eq
    · exact (Verdict.unreadable n rest hlongest hn).parse_eq

/-- A text is refused for its unit where the text after the longest numeral names none. -/
theorem parse_eq_detail_iff (s name : String) : parse s = .error (.sizeSyntax s (some name)) ↔
    ∃ (n : Numeral) (rest : List Char), n.IsLongest (unindented s) rest ∧ n.IsReadable ∧
      IsTrimmed name.toList rest ∧ name ≠ "" ∧ unitBits? name.toList = none := by
  constructor
  · intro h
    generalize hresult : Except.error (Error.sizeSyntax s (some name)) = result at h
    rcases parse_eq_iff.mp h with _ | _ | ⟨n, rest, name', hlongest, hn, hname, hne, hu⟩ | w
    · exact absurd hresult nofun
    · exact absurd hresult nofun
    · obtain rfl : name = String.ofList name' := by
        injection hresult with hresult
        injection hresult with _ hresult
        exact Option.some.inj hresult
      rw [String.toList_ofList]
      exact ⟨n, rest, hlongest, hn, hname, mt String.ofList_eq_empty_iff.mp hne, hu⟩
    · exact absurd hresult.symm (scale_ne_sizeSyntax _ _ _ _)
  · rintro ⟨n, rest, hlongest, hn, hname, hne, hu⟩
    have := (Verdict.unknownUnit n rest name.toList hlongest hn hname
      (mt String.toList_eq_nil_iff.mp hne) hu).parse_eq
    rwa [String.ofList_toList] at this

/-- The only errors are one for the range and one for the syntax of this very text. -/
theorem parse_error (s : String) {e : Error} (h : parse s = .error e) :
    e = .outOfRange ∨ ∃ unit, e = .sizeSyntax s unit := by
  generalize hresult : Except.error e = result at h
  rcases parse_eq_iff.mp h with _ | _ | _ | w
  · exact Or.inr ⟨_, Except.error.inj hresult⟩
  · exact Or.inr ⟨_, Except.error.inj hresult⟩
  · exact Or.inr ⟨_, Except.error.inj hresult⟩
  · exact Or.inl (scale_error hresult.symm)

/-- A text is not refused for its syntax if it is a size that can be read. -/
theorem parse_ne_sizeSyntax_iff (s : String) :
    (∀ text unit, parse s ≠ .error (.sizeSyntax text unit)) ↔
      ∃ w : Written, w.text = s ∧ w.number.IsReadable := by
  constructor
  · intro h
    generalize hresult : parse s = result at h
    rcases parse_eq_iff.mp hresult with _ | _ | _ | ⟨w, hw, hn⟩
    · exact absurd rfl (h _ _)
    · exact absurd rfl (h _ _)
    · exact absurd rfl (h _ _)
    · exact ⟨w, hw, hn⟩
  · rintro ⟨w, hw, hn⟩ text unit
    rw [(Verdict.size w hw hn).parse_eq]
    exact scale_ne_sizeSyntax _ _ _ _

/-- **The parser accepts exactly the grammar of sizes**, and every size in one way. An error of
syntax quotes the whole text. It has no detail where no numeral stands at the front or the longest
one there cannot be read. Otherwise its detail is the text after that numeral without the blanks
around it, which names no unit, however large the number is. -/
theorem parse_grammar (s : String) :
    ((∀ text unit, parse s ≠ .error (.sizeSyntax text unit)) ↔
      ∃ w : Written, w.text = s ∧ w.number.IsReadable) ∧
    (∀ w w' : Written, w.text = s → w'.text = s → w = w') ∧
    (∀ text unit, parse s = .error (.sizeSyntax text unit) →
      text = s ∧ (Error.sizeSyntax text unit).message = "invalid size: \"" ++ s ++ "\"" ∧
      (Error.sizeSyntax text unit).detail =
        unit.map fun name => "Invalid size unit: \"" ++ name ++ "\".") ∧
    (parse s = .error (.sizeSyntax s none) ↔
      (∀ (n : Numeral) rest, unindented s ≠ n.chars ++ rest) ∨
        ∃ (n : Numeral) (rest : List Char),
          n.IsLongest (unindented s) rest ∧ ¬ n.IsReadable) ∧
    (∀ name, parse s = .error (.sizeSyntax s (some name)) ↔
      ∃ (n : Numeral) (rest : List Char), n.IsLongest (unindented s) rest ∧ n.IsReadable ∧
        IsTrimmed name.toList rest ∧ name ≠ "" ∧ unitBits? name.toList = none) := by
  refine ⟨parse_ne_sizeSyntax_iff s, fun w w' hw hw' => Written.text_injective (hw.trans hw'.symm),
    ?_, parse_eq_no_detail_iff s, parse_eq_detail_iff s⟩
  intro text unit h
  obtain habsurd | ⟨unit', hunit⟩ := parse_error s h
  · exact absurd habsurd nofun
  obtain ⟨rfl, -⟩ := Error.sizeSyntax.inj hunit
  refine ⟨rfl, rfl, ?_⟩
  rcases unit with _ | name
  · rfl
  · rfl

end Footprint.Size
