import Footprint.Decimal.Reader
import Footprint.Proofs.Decimal.Value
import Footprint.Proofs.Text.Runs
import Mathlib.Tactic.FieldSimp

/-!
# Numerals

A `Numeral` is a number as it is written: a sign that may be missing, digits with at most one point
among or beside them, and an exponent that may be missing. It is the grammar that `readNumber` reads
by, kept apart from the reader: `n.chars` is its text, `n.value` the rational number it denotes and
`n.decimal` the decimal it is read as, which has that value (`value_decimal`).

The reader takes as much as it can. On the side of the grammar this is said twice: `n.EndsBefore
rest` says that what comes next does not go on with the numeral, which can be checked at the next
few characters, and `n.IsLongest cs rest` that no numeral at the front of `cs` is longer. The two
agree (`endsBefore_iff_isLongest`), and the reader finds exactly the numeral that they single out
(`readNumber_eq_some_iff`), and none only where there is none (`readNumber_eq_none_iff`).

The bridge is `exists_longer`: a numeral that does not end before the rest can be made longer. Since
a text is finite, every numeral at the front grows into one that ends (`exists_endsBefore`), and
there is only one of those (`EndsBefore.unique`).
-/

namespace Footprint

open Decimal

/-- A run of ASCII digits, possibly empty. -/
def IsDigits (ds : List Char) : Prop := ∀ c ∈ ds, Text.isAsciiDigit c = true

instance (ds : List Char) : Decidable (IsDigits ds) :=
  List.decidableBAll (fun c => Text.isAsciiDigit c = true) ds

theorem IsDigits.append {ds es : List Char} (hd : IsDigits ds) (he : IsDigits es) :
    IsDigits (ds ++ es) :=
  fun c hc => (List.mem_append.mp hc).elim (hd c) (he c)

theorem isDigits_singleton {c : Char} (h : Text.isAsciiDigit c = true) : IsDigits [c] := by
  intro d hd
  rwa [List.mem_singleton.mp hd]

/-- The number that a run of digits denotes in base ten. -/
def digitsNumber (ds : List Char) : ℕ := Nat.ofDigitChars 10 ds 0

theorem digitsValue_eq (ds : List Char) : digitsValue ds = digitsNumber ds :=
  Nat.ofDigitChars_eq_foldl.symm

theorem digitsNumber_append (ds es : List Char) :
    digitsNumber (ds ++ es) = 10 ^ es.length * digitsNumber ds + digitsNumber es := by
  unfold digitsNumber
  rw [Nat.ofDigitChars_append, Nat.ofDigitChars_eq_ofDigitChars_zero]

/-! ### The grammar -/

namespace Numeral

/-- A sign as it is written. -/
inductive Sign where
  | plus
  | minus
  deriving DecidableEq, Repr

namespace Sign

/-- The characters of a sign that may be missing. -/
def chars : Option Sign → List Char
  | none => []
  | some .plus => ['+']
  | some .minus => ['-']

/-- The factor that a sign that may be missing stands for. -/
def factor : Option Sign → ℤ
  | some .minus => -1
  | _ => 1

theorem chars_injective : Function.Injective chars := by
  intro s t h
  rcases s with _ | _ | _ <;> rcases t with _ | _ | _ <;> first | rfl | exact absurd h (by decide)

end Sign

/-- An exponent as it is written: a mark, a sign that may be missing and at least one digit. -/
@[ext] structure Exponent where
  mark : Char
  sign : Option Sign
  digits : List Char
  mark_eq : mark = 'e' ∨ mark = 'E'
  isDigits : IsDigits digits
  digits_ne_nil : digits ≠ []

namespace Exponent

/-- The text of an exponent. -/
def chars (e : Exponent) : List Char := e.mark :: (Sign.chars e.sign ++ e.digits)

/-- The power of ten that an exponent stands for. -/
def power (e : Exponent) : ℤ := Sign.factor e.sign * digitsNumber e.digits

end Exponent

/-- The text of an exponent that may be missing. -/
def exponentChars : Option Exponent → List Char
  | none => []
  | some e => e.chars

/-- The power of ten of an exponent that may be missing. -/
def exponentPower : Option Exponent → ℤ
  | none => 0
  | some e => e.power

/-- The text of a point with the digits after it; both may be missing. -/
def pointChars : Option (List Char) → List Char
  | none => []
  | some ds => '.' :: ds

end Numeral

/-- A number as it is written. The digits before the point may be missing and so may those after it,
but not both. -/
@[ext] structure Numeral where
  sign : Option Numeral.Sign
  whole : List Char
  fraction : Option (List Char)
  exponent : Option Numeral.Exponent
  whole_isDigits : IsDigits whole
  fraction_isDigits : IsDigits (fraction.getD [])
  digits_ne_nil : whole ++ fraction.getD [] ≠ []

namespace Numeral

variable {n n' : Numeral} {cs rest rest' : List Char}

/-- The digits after the point. -/
def fractionDigits (n : Numeral) : List Char := n.fraction.getD []

/-- The text of a numeral behind its sign. -/
def body (n : Numeral) : List Char :=
  n.whole ++ (pointChars n.fraction ++ exponentChars n.exponent)

/-- The text of a numeral. -/
def chars (n : Numeral) : List Char := Sign.chars n.sign ++ n.body

/-- The rational number that a numeral denotes. -/
def value (n : Numeral) : ℚ :=
  Sign.factor n.sign *
    (digitsNumber n.whole + digitsNumber n.fractionDigits / 10 ^ n.fractionDigits.length) *
    10 ^ exponentPower n.exponent

/-- The decimal that a numeral is read as. -/
def decimal (n : Numeral) : Decimal :=
  ⟨n.sign == some .minus, digitsNumber (n.whole ++ n.fractionDigits),
    exponentPower n.exponent - n.fractionDigits.length⟩

/-- **A numeral is read exactly.** -/
theorem value_decimal (n : Numeral) : n.decimal.value = n.value := by
  have hsigned : (n.decimal.signed : ℚ) =
      Sign.factor n.sign * digitsNumber (n.whole ++ n.fractionDigits) := by
    unfold Decimal.signed decimal
    rcases n.sign with _ | _ | _ <;> simp [Sign.factor]
  have hten : (10 : ℚ) ≠ 0 := by norm_num
  rw [Decimal.value, hsigned]
  change _ * (10 : ℚ) ^ (exponentPower n.exponent - (n.fractionDigits.length : ℤ)) = _
  rw [zpow_sub₀ hten, zpow_natCast, digitsNumber_append, value]
  push_cast
  field_simp

/-- A numeral can be read exactly: its last digit does not stand too low, and neither the first
digit of a number other than zero nor the last one of a zero stands too high. -/
def IsReadable (n : Numeral) : Prop :=
  lowestPlace ≤ n.decimal.exponent ∧
    (n.value = 0 → n.decimal.exponent ≤ highestPlace) ∧
    (n.value ≠ 0 → |n.value| < 10 ^ (highestPlace + 1))

theorem isReadable_iff (n : Numeral) : n.IsReadable ↔ n.decimal.inRange = true := by
  have hrange : n.decimal.inRange = true ↔
      (if n.decimal.isZero then n.decimal.exponent else n.decimal.adjusted) ≤ highestPlace ∧
        lowestPlace ≤ n.decimal.exponent := by
    unfold inRange
    rw [Bool.and_eq_true, decide_eq_true_eq, decide_eq_true_eq]
  have hplace : n.decimal.coefficient ≠ 0 →
      (n.decimal.adjusted ≤ highestPlace ↔ |n.value| < 10 ^ (highestPlace + 1)) := by
    intro hne
    rw [← value_decimal, abs_value]
    constructor
    · intro hle
      refine (lt_pow_adjusted _).trans_le (zpow_le_zpow_right₀ (by norm_num) (by omega))
    · intro hlt
      exact Int.lt_add_one_iff.mp (adjusted_lt_of_magnitude_lt hne hlt)
  rw [hrange, IsReadable, ← value_decimal, ne_eq, value_eq_zero_iff]
  by_cases h0 : n.decimal.coefficient = 0
  · rw [if_pos ((isZero_iff _).mpr h0)]
    tauto
  · rw [if_neg (mt (isZero_iff _).mp h0), hplace h0, value_decimal]
    tauto

/-! ### Where a numeral ends -/

/-- What comes next does not go on with the numeral. -/
structure EndsBefore (n : Numeral) (rest : List Char) : Prop where
  no_digit : ∀ c ∈ rest.head?, Text.isAsciiDigit c = false
  no_exponent : n.exponent = none → ∀ (e : Exponent) more, rest ≠ e.chars ++ more
  no_point : n.exponent = none → n.fraction = none → rest.head? ≠ some '.'

/-- The numeral stands at the front of a text, and none there is longer. -/
structure IsLongest (n : Numeral) (cs rest : List Char) : Prop where
  split : cs = n.chars ++ rest
  longest : ∀ (n' : Numeral) rest', cs = n'.chars ++ rest' → n'.chars.length ≤ n.chars.length

/-- **A numeral that does not end can be made longer.** A digit goes to whatever stands last, an
exponent is taken as a whole and a point starts an empty fraction. -/
theorem exists_longer (h : ¬ n.EndsBefore rest) :
    ∃ (n' : Numeral) (rest' : List Char), n.chars ++ rest = n'.chars ++ rest' ∧
      n.chars.length < n'.chars.length := by
  obtain ⟨sign, whole, fraction, exponent, hw, hf, hne⟩ := n
  by_cases hdigit : ∀ c ∈ rest.head?, Text.isAsciiDigit c = false
  · -- No digit comes next, so there is no exponent yet and one of the other two cases applies.
    by_cases hexp : ∃ (e : Exponent) (more : List Char), exponent = none ∧ rest = e.chars ++ more
    · obtain ⟨e, more, rfl, rfl⟩ := hexp
      refine ⟨⟨sign, whole, fraction, some e, hw, hf, hne⟩, more, ?_, ?_⟩
      · simp [chars, body, exponentChars]
      · simp [chars, body, exponentChars, Exponent.chars]
    · by_cases hpoint : exponent = none ∧ fraction = none ∧ rest.head? = some '.'
      · obtain ⟨rfl, rfl, hhead⟩ := hpoint
        obtain ⟨more, rfl⟩ : ∃ more, rest = '.' :: more :=
          ⟨rest.tail, List.eq_cons_of_mem_head? hhead⟩
        refine ⟨⟨sign, whole, some [], none, hw, hf, hne⟩, more, ?_, ?_⟩
        · simp [chars, body, exponentChars, pointChars]
        · simp [chars, body, exponentChars, pointChars]
      · refine absurd ⟨hdigit, fun h0 e more hr => hexp ⟨e, more, h0, hr⟩,
          fun h0 h1 hr => hpoint ⟨h0, h1, hr⟩⟩ h
  · push Not at hdigit
    obtain ⟨c, hhead, hc⟩ := hdigit
    rw [ne_eq, Bool.not_eq_false] at hc
    obtain ⟨more, rfl⟩ : ∃ more, rest = c :: more := ⟨rest.tail, List.eq_cons_of_mem_head? hhead⟩
    rcases exponent with _ | e
    · rcases fraction with _ | ds
      · refine ⟨⟨sign, whole ++ [c], none, none, hw.append (isDigits_singleton hc), hf, ?_⟩,
          more, ?_, ?_⟩
        · simp
        · simp [chars, body, exponentChars, pointChars]
        · simp [chars, body, exponentChars, pointChars]
      · refine ⟨⟨sign, whole, some (ds ++ [c]), none, hw, hf.append (isDigits_singleton hc), ?_⟩,
          more, ?_, ?_⟩
        · simp
        · simp [chars, body, exponentChars, pointChars]
        · simp [chars, body, exponentChars, pointChars]
    · refine ⟨⟨sign, whole, fraction, some ⟨e.mark, e.sign, e.digits ++ [c], e.mark_eq,
        e.isDigits.append (isDigits_singleton hc), by simp⟩, hw, hf, hne⟩, more, ?_, ?_⟩
      · simp [chars, body, exponentChars, Exponent.chars]
      · simp [chars, body, exponentChars, Exponent.chars]

/-- Every numeral at the front of a text grows into one that ends there. -/
theorem exists_endsBefore (n : Numeral) (rest : List Char) :
    ∃ (n' : Numeral) (rest' : List Char), n.chars ++ rest = n'.chars ++ rest' ∧
      n'.EndsBefore rest' ∧ n.chars.length ≤ n'.chars.length := by
  -- The rest gets shorter with each step.
  induction hk : rest.length using Nat.strong_induction_on generalizing n rest with
  | _ k ih =>
    by_cases h : n.EndsBefore rest
    · exact ⟨n, rest, rfl, h, le_rfl⟩
    · obtain ⟨m, more, hsplit, hlt⟩ := exists_longer h
      have hlen := congrArg List.length hsplit
      rw [List.length_append, List.length_append] at hlen
      obtain ⟨n', rest', hsplit', hends, hle⟩ := ih more.length (by omega) m more rfl
      exact ⟨n', rest', hsplit.trans hsplit', hends, hlt.le.trans hle⟩

/-! ### Reading the parts -/

theorem digit_ne_sign {c : Char} (h : Text.isAsciiDigit c = true) : c ≠ '+' ∧ c ≠ '-' := by
  refine ⟨?_, ?_⟩ <;> (rintro rfl; exact absurd h (by decide))

theorem readSign_append (sign : Option Sign) (h : ∀ c ∈ cs.head?, c ≠ '+' ∧ c ≠ '-') :
    readSign (Sign.chars sign ++ cs) = (sign == some .minus, cs) := by
  rcases sign with _ | _ | _
  · change readSign cs = (false, cs)
    unfold readSign
    split
    · exact absurd rfl (h '-' rfl).2
    · exact absurd rfl (h '+' rfl).1
    · rfl
  · rfl
  · rfl

/-- The reader finds a sign, which may be missing. -/
theorem exists_readSign (cs : List Char) :
    ∃ sign, cs = Sign.chars sign ++ (readSign cs).2 ∧
      (readSign cs).1 = (sign == some Sign.minus) := by
  unfold readSign
  split
  · exact ⟨some .minus, rfl, rfl⟩
  · exact ⟨some .plus, rfl, rfl⟩
  · exact ⟨none, rfl, rfl⟩

theorem readDigits_append {ds : List Char} (hd : IsDigits ds)
    (hstop : ∀ c ∈ rest.head?, Text.isAsciiDigit c = false) :
    readDigits (ds ++ rest) = (ds, rest) := by
  unfold readDigits
  rw [takeWhile_append_of_stop hd hstop, dropWhile_append_of_stop hd hstop]

theorem readMantissa_append {whole : List Char} {fraction : Option (List Char)}
    (hw : IsDigits whole) (hf : IsDigits (fraction.getD []))
    (hstop : ∀ c ∈ rest.head?, Text.isAsciiDigit c = false)
    (hpoint : fraction = none → rest.head? ≠ some '.') :
    readMantissa (whole ++ (pointChars fraction ++ rest)) = (whole, fraction.getD [], rest) := by
  unfold readMantissa
  rcases fraction with _ | ds
  · rw [pointChars, List.nil_append, readDigits_append hw hstop]
    rcases rest with _ | ⟨c, more⟩
    · rfl
    · have hc : c ≠ '.' := fun h => hpoint rfl (congrArg some h)
      simp [hc]
  · rw [readDigits_append hw (by rintro c ⟨⟩; decide)]
    change (whole, (readDigits (ds ++ rest)).1, (readDigits (ds ++ rest)).2) = _
    have hdigits : readDigits (ds ++ rest) = (ds, rest) := readDigits_append hf hstop
    rw [hdigits]
    rfl

/-- The reader finds digits, which may be missing, and takes all of them. -/
theorem exists_readMantissa (cs : List Char) :
    ∃ (whole : List Char) (fraction : Option (List Char)) (rest : List Char),
      cs = whole ++ (pointChars fraction ++ rest) ∧
      readMantissa cs = (whole, fraction.getD [], rest) ∧
      IsDigits whole ∧ IsDigits (fraction.getD []) ∧
      (∀ c ∈ rest.head?, Text.isAsciiDigit c = false) ∧
      (fraction = none → rest.head? ≠ some '.') := by
  have hsplit := (List.takeWhile_append_dropWhile (p := Text.isAsciiDigit) (l := cs)).symm
  have hw : IsDigits (cs.takeWhile Text.isAsciiDigit) := mem_takeWhile cs
  have hstop := head?_dropWhile_stop (p := Text.isAsciiDigit) cs
  rcases hr : cs.dropWhile Text.isAsciiDigit with _ | ⟨c, more⟩
  · -- The digits end with the text.
    rw [hr] at hsplit
    refine ⟨_, none, [], hsplit, ?_, hw, nofun, nofun, nofun⟩
    simp [readMantissa, readDigits, hr]
  · rw [hr] at hsplit hstop
    by_cases hc : c = '.'
    · -- A point ends the digits, and takes those behind it with it.
      subst hc
      refine ⟨_, some (more.takeWhile Text.isAsciiDigit), more.dropWhile Text.isAsciiDigit, ?_, ?_,
        hw, mem_takeWhile more, head?_dropWhile_stop more, nofun⟩
      · rw [pointChars, List.cons_append, List.takeWhile_append_dropWhile]
        exact hsplit
      · simp [readMantissa, readDigits, hr]
    · -- Something else ends them.
      refine ⟨_, none, c :: more, hsplit, ?_, hw, nofun, hstop, fun _ h => hc (Option.some.inj h)⟩
      simp [readMantissa, readDigits, hr, hc]

theorem mark_not_digit (e : Exponent) : Text.isAsciiDigit e.mark = false ∧ e.mark ≠ '.' := by
  rcases e.mark_eq with h | h <;> rw [h] <;> decide

theorem readExponent_some (e : Exponent)
    (hstop : ∀ c ∈ rest.head?, Text.isAsciiDigit c = false) :
    readExponent (e.chars ++ rest) = (e.power, rest) := by
  obtain ⟨mark, sign, digits, hmark, hd, hne⟩ := e
  obtain ⟨d, ds, rfl⟩ := List.exists_cons_of_ne_nil hne
  have hsign : readSign (Sign.chars sign ++ ((d :: ds) ++ rest)) =
      (sign == some .minus, (d :: ds) ++ rest) := by
    refine readSign_append sign ?_
    rintro c ⟨⟩
    exact digit_ne_sign (hd d List.mem_cons_self)
  have hmark' : (decide (mark = 'e') || decide (mark = 'E')) = true := by
    simpa using hmark
  unfold readExponent
  simp only [Exponent.chars, List.cons_append, List.append_assoc]
  rw [if_pos hmark', ← List.cons_append, hsign, readDigits_append hd hstop]
  simp only [digitsValue_eq, Exponent.power]
  rcases sign with _ | _ | _ <;> simp [Sign.factor]

/-- The reader finds an exponent, which may be missing, and takes all its digits. -/
theorem exists_readExponent (cs : List Char) :
    ∃ exponent, cs = exponentChars exponent ++ (readExponent cs).2 ∧
      (readExponent cs).1 = exponentPower exponent ∧
      (exponent ≠ none → ∀ c ∈ (readExponent cs).2.head?, Text.isAsciiDigit c = false) := by
  have hnone : (readExponent cs = (0, cs)) → ∃ exponent,
      cs = exponentChars exponent ++ (readExponent cs).2 ∧
      (readExponent cs).1 = exponentPower exponent ∧
      (exponent ≠ none → ∀ c ∈ (readExponent cs).2.head?, Text.isAsciiDigit c = false) := by
    intro h
    rw [h]
    exact ⟨none, rfl, rfl, fun h0 => absurd rfl h0⟩
  rcases cs with _ | ⟨mark, more⟩
  · exact hnone rfl
  by_cases hmark : mark = 'e' ∨ mark = 'E'
  swap
  · exact hnone (if_neg (by simpa using hmark))
  -- A mark alone is no exponent: it depends on the digits behind it and its sign.
  obtain ⟨sign, hsign, -⟩ := exists_readSign more
  have hdigits := (List.takeWhile_append_dropWhile (p := Text.isAsciiDigit)
    (l := (readSign more).2)).symm
  rcases hd : (readSign more).2.takeWhile Text.isAsciiDigit with _ | ⟨d, ds⟩
  · refine hnone ?_
    unfold readExponent
    simp [readDigits, hd]
  · have hall : IsDigits (d :: ds) := hd ▸ mem_takeWhile (readSign more).2
    rw [hd] at hdigits
    have hsplit : mark :: more = Exponent.chars ⟨mark, sign, d :: ds, hmark, hall, nofun⟩ ++
        (readSign more).2.dropWhile Text.isAsciiDigit := by
      rw [Exponent.chars, List.cons_append, List.append_assoc, ← hdigits, ← hsign]
    have hstop := head?_dropWhile_stop (p := Text.isAsciiDigit) (readSign more).2
    rw [hsplit, readExponent_some _ hstop]
    exact ⟨some _, rfl, rfl, fun _ => hstop⟩

/-- Where no exponent stands, the reader takes nothing. -/
theorem readExponent_none (h : ∀ (e : Exponent) more, cs ≠ e.chars ++ more) :
    readExponent cs = (0, cs) := by
  obtain ⟨exponent, hsplit, hpower, -⟩ := exists_readExponent cs
  rcases exponent with _ | e
  · exact Prod.ext hpower hsplit.symm
  · exact absurd hsplit (h e _)

/-- Where an exponent stands, the reader takes one. -/
theorem readExponent_ne (e : Exponent) (more : List Char) :
    (readExponent (e.chars ++ more)).2 ≠ e.chars ++ more := by
  -- The exponent with all digits that follow is the one that is taken.
  have hsplit : e.chars ++ more = Exponent.chars ⟨e.mark, e.sign,
      e.digits ++ more.takeWhile Text.isAsciiDigit, e.mark_eq,
      e.isDigits.append (mem_takeWhile more), by simp [e.digits_ne_nil]⟩ ++
        more.dropWhile Text.isAsciiDigit := by
    simp [Exponent.chars]
  have hshort := (List.dropWhile_suffix (l := more) Text.isAsciiDigit).length_le
  rw [hsplit, readExponent_some _ (head?_dropWhile_stop more), ← hsplit]
  intro h
  have hlen := congrArg List.length h
  rw [Exponent.chars, List.cons_append, List.length_cons, List.length_append] at hlen
  change (more.dropWhile Text.isAsciiDigit).length = _ at hlen
  omega

/-! ### Reading a numeral -/

/-- Behind its sign a numeral begins with a digit or a point. -/
theorem body_head? (n : Numeral) (tail : List Char) :
    ∀ c ∈ (n.body ++ tail).head?, Text.isAsciiDigit c = true ∨ c = '.' := by
  obtain ⟨sign, whole, fraction, exponent, hw, hf, hne⟩ := n
  rcases whole with _ | ⟨d, ds⟩
  · rcases fraction with _ | ds
    · exact absurd rfl hne
    · rintro c ⟨⟩
      exact Or.inr rfl
  · rintro c ⟨⟩
    exact Or.inl (hw d List.mem_cons_self)

/-- A numeral begins with a sign, a digit or a point. -/
theorem chars_head? (n : Numeral) (tail : List Char) :
    ∀ c ∈ (n.chars ++ tail).head?, c = '+' ∨ c = '-' ∨ Text.isAsciiDigit c = true ∨ c = '.' := by
  rw [chars, List.append_assoc]
  rcases n.sign with _ | _ | _
  · exact fun c hc => Or.inr (Or.inr (n.body_head? tail c hc))
  · rintro c ⟨⟩
    exact Or.inl rfl
  · rintro c ⟨⟩
    exact Or.inr (Or.inl rfl)

namespace EndsBefore

theorem readSign_eq (n : Numeral) (rest : List Char) :
    readSign (n.chars ++ rest) = (n.sign == some .minus, n.body ++ rest) := by
  rw [chars, List.append_assoc]
  refine readSign_append n.sign fun c hc => ?_
  rcases n.body_head? rest c hc with hd | rfl
  · exact digit_ne_sign hd
  · decide

theorem readMantissa_eq (h : n.EndsBefore rest) :
    readMantissa (n.body ++ rest) =
      (n.whole, n.fractionDigits, exponentChars n.exponent ++ rest) := by
  rw [body, List.append_assoc, List.append_assoc]
  refine readMantissa_append n.whole_isDigits n.fraction_isDigits ?_ ?_
  · rcases he : n.exponent with _ | e
    · exact h.no_digit
    · rintro c ⟨⟩
      exact (mark_not_digit e).1
  · rcases he : n.exponent with _ | e
    · exact h.no_point he
    · exact fun _ h0 => (mark_not_digit e).2 (Option.some.inj h0)

theorem readExponent_eq (h : n.EndsBefore rest) :
    readExponent (exponentChars n.exponent ++ rest) = (exponentPower n.exponent, rest) := by
  rcases he : n.exponent with _ | e
  · exact readExponent_none (h.no_exponent he)
  · exact readExponent_some e h.no_digit

/-- A numeral that ends before the rest is what the reader takes. -/
theorem readNumber_eq (h : n.EndsBefore rest) :
    readNumber (n.chars ++ rest) = some (n.decimal, rest) := by
  have hne : ¬ (n.whole.isEmpty && n.fractionDigits.isEmpty) = true := by
    rw [Bool.and_eq_true, List.isEmpty_iff, List.isEmpty_iff, ← List.append_eq_nil_iff]
    exact n.digits_ne_nil
  unfold readNumber
  rw [readSign_eq]
  simp only [h.readMantissa_eq]
  rw [if_neg hne]
  simp only [h.readExponent_eq, digitsValue_eq]
  rfl

theorem exponentChars_injective : Function.Injective exponentChars := by
  rintro (_ | e) (_ | e') h
  · rfl
  · exact absurd h nofun
  · exact absurd h nofun
  · obtain ⟨hmark, htail⟩ := List.cons.inj h
    have hread : ∀ e : Exponent, readSign (Sign.chars e.sign ++ e.digits) =
        (e.sign == some .minus, e.digits) := by
      intro e
      refine readSign_append e.sign ?_
      intro c hc
      exact digit_ne_sign (e.isDigits c (List.mem_of_mem_head? hc))
    have hdigits : e.digits = e'.digits := by
      have := congrArg Prod.snd (congrArg readSign htail)
      rwa [hread, hread] at this
    rw [hdigits] at htail
    have hsign := Sign.chars_injective (List.append_cancel_right htail)
    exact congrArg some (Exponent.ext hmark hsign hdigits)

theorem pointChars_injective : Function.Injective pointChars := by
  rintro (_ | ds) (_ | ds') h
  · rfl
  · exact absurd h nofun
  · exact absurd h nofun
  · exact congrArg some (List.cons.inj h).2

/-- **One numeral ends.** Of the numerals at the front of a text only one ends there: the reader
finds the same parts in both, and the parts make up the text. -/
theorem unique (h : n.EndsBefore rest) (h' : n'.EndsBefore rest')
    (heq : n.chars ++ rest = n'.chars ++ rest') : n = n' ∧ rest = rest' := by
  -- Front to back, each partial reader takes the same part off both texts. What the readers return
  -- of a sign or a fraction says less than its characters do, so these follow from the texts.
  have hbody : n.body ++ rest = n'.body ++ rest' := by
    have := congrArg (fun cs => (readSign cs).2) heq
    simpa only [readSign_eq] using this
  have hmantissa := congrArg readMantissa hbody
  rw [h.readMantissa_eq, h'.readMantissa_eq, Prod.mk.injEq, Prod.mk.injEq] at hmantissa
  obtain ⟨hwhole, -, htail⟩ := hmantissa
  have hexponent := congrArg readExponent htail
  rw [h.readExponent_eq, h'.readExponent_eq, Prod.mk.injEq] at hexponent
  obtain ⟨-, rfl⟩ := hexponent
  have hexp : n.exponent = n'.exponent :=
    exponentChars_injective (List.append_cancel_right htail)
  have hfraction : n.fraction = n'.fraction := by
    have hb := List.append_cancel_right hbody
    rw [body, body, hwhole, hexp, List.append_cancel_left_eq] at hb
    exact pointChars_injective (List.append_cancel_right hb)
  have hsign : n.sign = n'.sign := by
    rw [chars, chars, List.append_cancel_right hbody] at heq
    exact Sign.chars_injective (List.append_cancel_right (List.append_cancel_right heq))
  exact ⟨Numeral.ext hsign hwhole hfraction hexp, rfl⟩

end EndsBefore

/-- The reader finds a numeral that ends where it stops. -/
theorem exists_of_readNumber {d : Decimal} (h : readNumber cs = some (d, rest)) :
    ∃ n : Numeral, cs = n.chars ++ rest ∧ n.EndsBefore rest ∧ n.decimal = d := by
  -- What each partial reader takes is a part of the numeral.
  obtain ⟨sign, hsign, hminus⟩ := exists_readSign cs
  obtain ⟨whole, fraction, tail, hmantissa, hread, hw, hf, hstop, hpoint⟩ :=
    exists_readMantissa (readSign cs).2
  obtain ⟨exponent, hexponent, hpower, hdigits⟩ := exists_readExponent tail
  unfold readNumber at h
  simp only [hread] at h
  split at h
  · exact absurd h nofun
  · next hne =>
    obtain ⟨hd, hrest⟩ := Prod.mk.inj (Option.some.inj h)
    rw [hrest] at hexponent hdigits
    have hne' : whole ++ fraction.getD [] ≠ [] := by
      rwa [ne_eq, List.append_eq_nil_iff, ← List.isEmpty_iff, ← List.isEmpty_iff,
        ← Bool.and_eq_true]
    refine ⟨⟨sign, whole, fraction, exponent, hw, hf, hne'⟩, ?_, ?_, ?_⟩
    · rw [chars, body, List.append_assoc, List.append_assoc, List.append_assoc, ← hexponent,
        ← hmantissa, ← hsign]
    · refine ⟨?_, ?_, ?_⟩
      · rcases exponent with _ | e
        · rw [exponentChars, List.nil_append] at hexponent
          rw [← hexponent]
          exact hstop
        · exact hdigits nofun
      · rintro rfl e more rfl
        rw [exponentChars, List.nil_append] at hexponent
        subst hexponent
        exact readExponent_ne e more hrest
      · rintro rfl rfl
        rw [exponentChars, List.nil_append] at hexponent
        rw [← hexponent]
        exact hpoint rfl
    · rw [← hd, hminus, digitsValue_eq, hpower]
      rfl

/-- **The reader takes the longest numeral.** To end before the rest is to be the longest. -/
theorem endsBefore_iff_isLongest :
    (cs = n.chars ++ rest ∧ n.EndsBefore rest) ↔ n.IsLongest cs rest := by
  constructor
  · rintro ⟨rfl, hends⟩
    refine ⟨rfl, fun m more hm => ?_⟩
    -- Another numeral grows into one that ends, which can only be this one.
    obtain ⟨m', more', hsplit, hends', hle⟩ := exists_endsBefore m more
    obtain ⟨rfl, -⟩ := hends.unique hends' (hm.trans hsplit)
    exact hle
  · rintro ⟨hsplit, hlongest⟩
    refine ⟨hsplit, ?_⟩
    by_contra hgoes
    obtain ⟨m, more, hm, hlt⟩ := exists_longer hgoes
    have := hlongest m more (hsplit.trans hm)
    omega

theorem readNumber_eq_some_iff {d : Decimal} :
    readNumber cs = some (d, rest) ↔ ∃ n : Numeral, n.IsLongest cs rest ∧ n.decimal = d := by
  constructor
  · intro h
    obtain ⟨n, hsplit, hends, hd⟩ := exists_of_readNumber h
    exact ⟨n, endsBefore_iff_isLongest.mp ⟨hsplit, hends⟩, hd⟩
  · rintro ⟨n, hlongest, rfl⟩
    obtain ⟨rfl, hends⟩ := endsBefore_iff_isLongest.mpr hlongest
    exact hends.readNumber_eq

theorem readNumber_eq_none_iff :
    readNumber cs = none ↔ ∀ (n : Numeral) rest, cs ≠ n.chars ++ rest := by
  constructor
  · rintro h n rest rfl
    obtain ⟨n', rest', hsplit, hends, -⟩ := exists_endsBefore n rest
    rw [hsplit, hends.readNumber_eq] at h
    exact absurd h nofun
  · intro h
    rcases hr : readNumber cs with _ | ⟨d, rest⟩
    · rfl
    · obtain ⟨n, hsplit, -⟩ := exists_of_readNumber hr
      exact absurd hsplit (h n rest)

end Numeral

end Footprint
