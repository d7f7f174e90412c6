import Footprint.Proofs.Decimal.Whole
import Footprint.Proofs.Dictionary
import Footprint.Proofs.Json.Text

/-!
# Reading back written JSON

Plain data, that is data without broken numbers and without records that name a field twice, is read
back as it was written (`Json.read_render`), whatever the layout. The one thing that can go wrong is
an integer with more digits than are read, and then the first of them in the order of writing is
what reading fails with.

The proof follows the data: `Json.ReadsBack` says of a value that it is read back at any place of
the text where a value may end, and a list or a record reads back when its parts do
(`Json.readItems_write`, `Json.readFields_write`).
-/

namespace Footprint

/-! ### Plain data -/

/-- Data without broken numbers and without records that name a field twice. -/
inductive Datum.Plain : Datum → Prop
  | null : Plain .null
  | bool (value : Bool) : Plain (.bool value)
  | int (value : Int) : Plain (.int value)
  | text (value : String) : Plain (.text value)
  | list {items : List Datum} (parts : ∀ item ∈ items, Plain item) : Plain (.list items)
  | record {fields : List (String × Datum)} (names : (fields.map Prod.fst).Nodup)
      (parts : ∀ field ∈ fields, Plain field.2) : Plain (.record fields)

mutual

/-- The integers of a value, in the order in which they are written. -/
def Datum.integers : Datum → List Int
  | .int n => [n]
  | .list items => integersOfItems items
  | .record fields => integersOfFields fields
  | _ => []

/-- The integers of the items of a list. -/
def Datum.integersOfItems : List Datum → List Int
  | [] => []
  | item :: rest => item.integers ++ integersOfItems rest

/-- The integers of the fields of a record. -/
def Datum.integersOfFields : List (String × Datum) → List Int
  | [] => []
  | (_, value) :: rest => value.integers ++ integersOfFields rest

end

namespace Json

/-- Fails with the first of some integers that has too many digits. -/
def checkDigits (limit : Nat) : List Int → Except Fault Unit
  | [] => .ok ()
  | n :: rest =>
    if limit < digits n then .error (.numberTooLong (digits n)) else checkDigits limit rest

theorem checkDigits_append (limit : Nat) (ms ns : List Int) :
    checkDigits limit (ms ++ ns) = checkDigits limit ms >>= fun _ => checkDigits limit ns := by
  induction ms with
  | nil => rfl
  | cons m rest ih =>
    rw [List.cons_append, checkDigits, checkDigits, ih]
    split <;> rfl

theorem checkDigits_eq_ok_iff {limit : Nat} {ns : List Int} :
    checkDigits limit ns = .ok () ↔ ∀ n ∈ ns, digits n ≤ limit := by
  induction ns with
  | nil => simp [checkDigits]
  | cons n rest ih =>
    rw [checkDigits, List.forall_mem_cons, ← ih]
    split <;> simp <;> omega

/-! ### Blanks and ends -/

/-- What can stand behind a value in a written text: nothing, a comma or the end of a line. -/
def IsBreak (rest : List Char) : Prop := ∀ c ∈ rest.head?, c = ',' ∨ c = '\n'

theorem isBreak_newline (level : Nat) (rest : List Char) : IsBreak (newline level ++ rest) := by
  rintro c ⟨⟩
  exact Or.inr rfl

theorem isBreak_comma (rest : List Char) : IsBreak (',' :: rest) := by
  rintro c ⟨⟩
  exact Or.inl rfl

theorem skipSpace_newline (level : Nat) (cs : List Char) :
    skipSpace (newline level ++ cs) = skipSpace cs := by
  refine List.dropWhile_append_of_pos fun c hc => ?_
  rcases List.mem_cons.mp hc with rfl | hblank
  · rfl
  · rw [List.eq_of_mem_replicate hblank]
    rfl

theorem skipSpace_cons {c : Char} {cs : List Char} (h : isSpace c = false) :
    skipSpace (c :: cs) = c :: cs := List.dropWhile_cons_of_neg (by simp [h])

/-! ### Integers -/

section Integers

variable {rest : List Char} (hrest : IsBreak rest)

include hrest

theorem head?_not_digit : ∀ c ∈ rest.head?, Text.isAsciiDigit c = false := by
  intro c hc
  rcases hrest c hc with rfl | rfl <;> decide

theorem readFraction_break : readFraction rest = ([], rest) := by
  unfold readFraction
  split
  · rcases hrest '.' rfl with h | h <;> exact absurd h (by decide)
  · rfl

theorem readExponent_break : Decimal.readExponent rest = (0, rest) := by
  refine Numeral.readExponent_none fun e more h => ?_
  have hmark := hrest e.mark (by rw [h]; rfl)
  rcases e.mark_eq with he | he <;> rw [he] at hmark <;> exact absurd hmark (by decide)

theorem readWhole_toDigits (n : ℕ) :
    readWhole (Nat.toDigits 10 n ++ rest) = some (Nat.toDigits 10 n, rest) := by
  rcases Nat.eq_zero_or_pos n with rfl | hpos
  · rfl
  · have hdigits := Numeral.readDigits_append (isDigits_toDigits n) (head?_not_digit hrest)
    have hhead := head?_toDigits_ne_zero hpos
    rw [readWhole]
    · rw [hdigits]
      rcases hcs : Nat.toDigits 10 n with _ | ⟨d, ds⟩
      · exact absurd hcs Nat.toDigits_ne_nil
      · rfl
    · intro more hmore
      have hzero : (Nat.toDigits 10 n ++ rest).head? = some '0' := congrArg List.head? hmore
      rw [List.head?_append_of_ne_nil _ Nat.toDigits_ne_nil] at hzero
      exact hhead hzero

theorem readNumber_toDigits (limit : Nat) (negative : Bool) (n : ℕ) :
    readNumber (some limit) negative (Nat.toDigits 10 n ++ rest) =
      (checkDigits limit [(n : Int)]).map fun _ =>
        (.int (if negative then -(n : Int) else n), rest) := by
  have hvalue : Decimal.digitsValue (Nat.toDigits 10 n) = n := by
    rw [digitsValue_eq, digitsNumber, Nat.ofDigitChars_ten_toDigits]
  rw [readNumber, readWhole_toDigits hrest]
  simp only [readFraction_break hrest, readExponent_break hrest, readNumber.integer, hvalue,
    if_true, checkDigits]
  change (if limit < digits n then _ else _) = _
  split <;> rfl

end Integers

/-- A word is not read where the text differs from it at one place. -/
theorem afterWord_eq_none {word : String} {cs : List Char} {i : Nat}
    (hi : i < word.toList.length) (h : word.toList[i]? ≠ cs[i]?) : afterWord word cs = none := by
  refine if_neg fun hprefix => h ?_
  obtain ⟨more, rfl⟩ := List.isPrefixOf_iff_prefix.mp hprefix
  exact (List.getElem?_append_left hi).symm

theorem findSome?_words_eq_none {cs : List Char}
    (h : ∀ word ∈ words, afterWord word.1 cs = none) :
    (words.findSome? fun (word, value) => (afterWord word cs).map (Prod.mk value)) = none := by
  refine List.findSome?_eq_none_iff.mpr fun word hword => ?_
  change (afterWord word.1 cs).map (Prod.mk word.2) = none
  rw [h word hword]
  rfl

/-- Each word has a letter at its front, or behind a minus sign. -/
theorem words_letter : ∀ word ∈ words, 1 < word.1.toList.length ∧
    word.1.toList.head?.all (fun c => !Text.isAsciiDigit c) = true ∧
    (word.1.toList[0]? ≠ some '-' ∨ word.1.toList[1]? = some 'I') := by
  decide

theorem readScalar_digit (limit : Option Nat) {d : Char} (hd : Text.isAsciiDigit d = true)
    (cs : List Char) : readScalar limit (d :: cs) = readNumber limit false (d :: cs) := by
  have hnone := findSome?_words_eq_none fun word hword =>
    show afterWord word.1 (d :: cs) = none by
    obtain ⟨hlength, hletter, -⟩ := words_letter word hword
    refine afterWord_eq_none (i := 0) (by omega) fun heq => ?_
    rw [List.head?_eq_getElem?, heq] at hletter
    simp [hd] at hletter
  have hquote : d ≠ '"' := by rintro rfl; exact absurd hd (by decide)
  have hminus : d ≠ '-' := by rintro rfl; exact absurd hd (by decide)
  rw [readScalar, hnone]
  · exact fun _ h => hquote (List.cons.inj h).1
  · exact fun _ h => hminus (List.cons.inj h).1

theorem readScalar_minus (limit : Option Nat) {d : Char} (hd : Text.isAsciiDigit d = true)
    (cs : List Char) : readScalar limit ('-' :: d :: cs) = readNumber limit true (d :: cs) := by
  have hnone := findSome?_words_eq_none fun word hword =>
    show afterWord word.1 ('-' :: d :: cs) = none by
    obtain ⟨hlength, -, hminus | hletter⟩ := words_letter word hword
    · exact afterWord_eq_none (i := 0) (by omega) hminus
    · refine afterWord_eq_none (i := 1) hlength fun heq => ?_
      rw [hletter] at heq
      obtain rfl : 'I' = d := Option.some.inj heq
      exact absurd hd (by decide)
  rw [readScalar, hnone]

theorem readScalar_int (limit : Nat) (n : Int) {rest : List Char} (hrest : IsBreak rest) :
    readScalar (some limit) ((toString n).toList ++ rest) =
      (checkDigits limit [n]).map fun _ => (.int n, rest) := by
  obtain ⟨d, ds, hds⟩ := List.exists_cons_of_ne_nil (Nat.toDigits_ne_nil (b := 10) (n := n.natAbs))
  have hd : Text.isAsciiDigit d = true := isDigits_toDigits n.natAbs d (hds ▸ List.mem_cons_self)
  have hcheck : checkDigits limit [(n.natAbs : Int)] = checkDigits limit [n] := rfl
  rw [Numeral.toList_toString, List.append_assoc]
  rcases lt_or_ge n 0 with hn | hn
  · rw [if_pos hn]
    change readScalar (some limit) ('-' :: (Nat.toDigits 10 n.natAbs ++ rest)) = _
    rw [hds, List.cons_append, readScalar_minus _ hd, ← List.cons_append, ← hds,
      readNumber_toDigits hrest, hcheck, if_pos rfl, show -(n.natAbs : Int) = n by omega]
  · rw [if_neg (by omega)]
    change readScalar (some limit) (Nat.toDigits 10 n.natAbs ++ rest) = _
    rw [hds, List.cons_append, readScalar_digit _ hd, ← List.cons_append, ← hds,
      readNumber_toDigits hrest, hcheck, if_neg Bool.false_ne_true,
      show (n.natAbs : Int) = n by omega]

/-- The first character of an integer. -/
theorem exists_toString (n : Int) : ∃ c cs,
    (toString n).toList = c :: cs ∧ (c = '-' ∨ Text.isAsciiDigit c = true) := by
  obtain ⟨d, ds, hds⟩ := List.exists_cons_of_ne_nil (Nat.toDigits_ne_nil (b := 10) (n := n.natAbs))
  rw [Numeral.toList_toString, hds]
  split
  · exact ⟨'-', _, rfl, Or.inl rfl⟩
  · exact ⟨d, ds, rfl, Or.inr (isDigits_toDigits n.natAbs d (hds ▸ List.mem_cons_self))⟩

/-! ### Values -/

/-- A value is read back at any place of a text where a value may end, unless one of its integers
has too many digits. -/
def ReadsBack (limit : Nat) (d : Datum) : Prop :=
  ∀ (level fuel : Nat) (rest : List Char), IsBreak rest → (write level d).length ≤ fuel →
    readValue (some limit) fuel (write level d ++ rest) =
      (checkDigits limit d.integers).map fun _ => (d, rest)

theorem digit_not_space {c : Char} (h : Text.isAsciiDigit c = true) : isSpace c = false := by
  rw [Bool.eq_false_iff]
  intro hspace
  simp only [isSpace, Bool.or_eq_true, beq_iff_eq] at hspace
  rcases hspace with ((rfl | rfl) | rfl) | rfl <;> exact absurd h (by decide)

/-- A written value starts with a character that is neither a blank nor a closing bracket. -/
theorem exists_write (level : Nat) {d : Datum} (h : d.Plain) : ∃ c cs,
    write level d = c :: cs ∧ isSpace c = false ∧ c ≠ ']' := by
  cases h with
  | null => exact ⟨'n', _, rfl, rfl, by decide⟩
  | bool value =>
    cases value
    · exact ⟨'f', _, rfl, rfl, by decide⟩
    · exact ⟨'t', _, rfl, rfl, by decide⟩
  | int n =>
    obtain ⟨c, cs, hcs, hc⟩ := exists_toString n
    refine ⟨c, cs, hcs, ?_⟩
    rcases hc with rfl | hdigit
    · exact ⟨rfl, by decide⟩
    · exact ⟨digit_not_space hdigit, by rintro rfl; exact absurd hdigit (by decide)⟩
  | text s => exact ⟨'"', _, rfl, rfl, by decide⟩
  | @list items parts =>
    cases items
    · exact ⟨'[', _, rfl, rfl, by decide⟩
    · exact ⟨'[', _, rfl, rfl, by decide⟩
  | @record fields names parts =>
    cases fields
    · exact ⟨'\x7b', _, rfl, rfl, by decide⟩
    · exact ⟨'\x7b', _, rfl, rfl, by decide⟩

theorem skipSpace_write (level : Nat) {d : Datum} (h : d.Plain) (rest : List Char) :
    skipSpace (write level d ++ rest) = write level d ++ rest := by
  obtain ⟨c, cs, hcs, hblank, -⟩ := exists_write level h
  rw [hcs, List.cons_append, skipSpace_cons hblank]

/-- A value that is neither a list nor a record is read as a whole. -/
theorem readValue_scalar {limit : Option Nat} {fuel : Nat} {cs : List Char}
    (hlist : cs.head? ≠ some '[') (hrecord : cs.head? ≠ some '\x7b') :
    readValue limit (fuel + 1) cs = readScalar limit cs := by
  unfold readValue
  split
  · exact absurd rfl hlist
  · exact absurd rfl hrecord
  · rfl

/-- A list behind its first item, and what follows it. -/
def listTail (level last : Nat) (items : List Datum) (rest : List Char) : List Char :=
  writeItems level items ++ (newline last ++ ']' :: rest)

/-- Behind a comma the list goes on, on a new line. -/
theorem listTail_cons (level last : Nat) (item : Datum) (items : List Datum) (rest : List Char) :
    listTail level last (item :: items) rest =
      ',' :: (newline level ++ (write level item ++ listTail level last items rest)) := by
  simp only [listTail, writeItems, List.cons_append, List.append_assoc]

theorem isBreak_listTail (level last : Nat) (items : List Datum) (rest : List Char) :
    IsBreak (listTail level last items rest) := by
  cases items with
  | nil => exact isBreak_newline last _
  | cons => exact isBreak_comma _

/-- The text of a field up to its value. -/
def writeName (name : String) : List Char := writeText name ++ [':', ' ']

/-- A record behind its first field, and what follows it. -/
def recordTail (level last : Nat) (fields : List (String × Datum)) (rest : List Char) :
    List Char := writeFields level fields ++ (newline last ++ '\x7d' :: rest)

theorem recordTail_cons (level last : Nat) (name : String) (value : Datum)
    (fields : List (String × Datum)) (rest : List Char) :
    recordTail level last ((name, value) :: fields) rest =
      ',' :: (newline level ++
        (writeName name ++ (write level value ++ recordTail level last fields rest))) := by
  simp only [recordTail, writeFields, writeName, List.cons_append, List.append_assoc,
    List.nil_append]

theorem isBreak_recordTail (level last : Nat) (fields : List (String × Datum))
    (rest : List Char) : IsBreak (recordTail level last fields rest) := by
  cases fields with
  | nil => exact isBreak_newline last _
  | cons => exact isBreak_comma _

/-! ### Lists -/

section Lists

variable {limit : Option Nat} {fuel : Nat} {cs : List Char} {item : Datum}

theorem readItems_error {e : Fault} (h : readValue limit fuel cs = .error e) :
    readItems limit (fuel + 1) cs = .error e := by
  rw [readItems, h]
  rfl

theorem readItems_close {last : Nat} {rest : List Char}
    (h : readValue limit fuel cs = .ok (item, newline last ++ ']' :: rest)) :
    readItems limit (fuel + 1) cs = .ok ([item], rest) := by
  have hblank : skipSpace (newline last ++ ']' :: rest) = ']' :: rest := by
    rw [skipSpace_newline, skipSpace_cons rfl]
  rw [readItems, h]
  simp only [bind, Except.bind, hblank]

theorem readItems_comma {more : List Char}
    (h : readValue limit fuel cs = .ok (item, ',' :: more)) : readItems limit (fuel + 1) cs =
      (readItems limit fuel (skipSpace more)).map fun (items, left) => (item :: items, left) := by
  have hblank : skipSpace (',' :: more) = ',' :: more := skipSpace_cons rfl
  rw [readItems, h]
  simp only [bind, Except.bind, hblank]
  cases readItems limit fuel (skipSpace more) <;> rfl

end Lists

/-- A list from its first item on is read back when its items are. -/
theorem readItems_write {limit : Nat} {item : Datum} {items : List Datum}
    (hplain : ∀ d ∈ item :: items, d.Plain) (hback : ∀ d ∈ item :: items, ReadsBack limit d)
    (level last fuel : Nat) (rest : List Char)
    (hfuel : (write level item ++ writeItems level items).length < fuel) :
    readItems (some limit) fuel (write level item ++ listTail level last items rest) =
      (checkDigits limit (Datum.integersOfItems (item :: items))).map
        fun _ => (item :: items, rest) := by
  induction items generalizing item fuel with
  | nil =>
    obtain ⟨fuel, rfl⟩ : ∃ k, fuel = k + 1 := ⟨fuel - 1, by omega⟩
    have hitem := hback item List.mem_cons_self level fuel _ (isBreak_listTail level last [] rest)
      (by simp at hfuel; omega)
    rw [Datum.integersOfItems, checkDigits_append]
    cases hcheck : checkDigits limit item.integers with
    | error e =>
      rw [hcheck] at hitem
      exact readItems_error hitem
    | ok =>
      rw [hcheck] at hitem
      exact readItems_close hitem
  | cons next items ih =>
    obtain ⟨fuel, rfl⟩ : ∃ k, fuel = k + 1 := ⟨fuel - 1, by omega⟩
    rw [writeItems, List.length_append, List.length_append, List.length_append] at hfuel
    have hitem := hback item List.mem_cons_self level fuel _
      (isBreak_listTail level last (next :: items) rest) (by omega)
    have hnext := ih (fun d hd => hplain d (List.mem_cons_of_mem _ hd))
      (fun d hd => hback d (List.mem_cons_of_mem _ hd)) fuel
      (by rw [List.length_append]; simp at hfuel; omega)
    have hblank := skipSpace_write level (hplain next (by simp)) (listTail level last items rest)
    rw [Datum.integersOfItems, checkDigits_append]
    rw [listTail_cons] at hitem ⊢
    cases hcheck : checkDigits limit item.integers with
    | error e =>
      rw [hcheck] at hitem
      exact readItems_error hitem
    | ok =>
      rw [hcheck] at hitem
      rw [readItems_comma hitem, skipSpace_newline, hblank, hnext]
      change _ = Except.map _ (checkDigits limit (Datum.integersOfItems (next :: items)))
      cases checkDigits limit (Datum.integersOfItems (next :: items)) <;> rfl

/-! ### Records -/

section Records

variable {limit : Option Nat} {fuel : Nat} {before : List (String × Datum)} {name : String}
  {value : Datum} {cs : List Char}

/-- How reading a record goes on behind the value of a field. -/
def afterField (limit : Option Nat) (fuel : Nat) (before : List (String × Datum)) (name : String)
    (found : Datum × List Char) : Except Fault (List (String × Datum) × List Char) :=
  match skipSpace found.2 with
  | '\x7d' :: left => .ok (putEntry name found.1 before, left)
  | ',' :: more => readFields limit fuel (putEntry name found.1 before) (skipSpace more)
  | _ => .error .malformed

/-- A field is read back up to its value. -/
theorem readFields_name (hblank : skipSpace cs = cs) :
    readFields limit (fuel + 1) before (writeName name ++ cs) =
      readValue limit fuel cs >>= afterField limit fuel before name := by
  have htext : writeName name ++ cs =
      '"' :: (name.toList.flatMap escapeChar ++ '"' :: ':' :: ' ' :: cs) := by
    rw [writeName, List.append_assoc, writeText_append]
    rfl
  have hcolon : skipSpace (':' :: ' ' :: cs) = ':' :: ' ' :: cs := skipSpace_cons rfl
  have hspace : skipSpace (' ' :: cs) = cs := hblank
  rw [htext, readFields, readText_escaped]
  simp only [hcolon, hspace, String.ofList_toList]
  rfl

theorem readFields_error {e : Fault} (hblank : skipSpace cs = cs)
    (h : readValue limit fuel cs = .error e) :
    readFields limit (fuel + 1) before (writeName name ++ cs) = .error e := by
  rw [readFields_name hblank, h]
  rfl

theorem readFields_close {last : Nat} {rest : List Char} (hblank : skipSpace cs = cs)
    (h : readValue limit fuel cs = .ok (value, newline last ++ '\x7d' :: rest)) :
    readFields limit (fuel + 1) before (writeName name ++ cs) =
      .ok (putEntry name value before, rest) := by
  have hbrace : skipSpace (newline last ++ '\x7d' :: rest) = '\x7d' :: rest := by
    rw [skipSpace_newline, skipSpace_cons rfl]
  rw [readFields_name hblank, h]
  simp only [bind, Except.bind, afterField, hbrace]

theorem readFields_comma {more : List Char} (hblank : skipSpace cs = cs)
    (h : readValue limit fuel cs = .ok (value, ',' :: more)) :
    readFields limit (fuel + 1) before (writeName name ++ cs) =
      readFields limit fuel (putEntry name value before) (skipSpace more) := by
  have hcomma : skipSpace (',' :: more) = ',' :: more := skipSpace_cons rfl
  rw [readFields_name hblank, h]
  simp only [bind, Except.bind, afterField, hcomma]

end Records

theorem skipSpace_writeName (name : String) (cs : List Char) :
    skipSpace (writeName name ++ cs) = writeName name ++ cs := by
  rw [writeName, List.append_assoc, writeText_append]
  exact skipSpace_cons rfl

theorem putEntry_of_nodup {name : String} {value : Datum} {before fields : List (String × Datum)}
    (h : ((before ++ (name, value) :: fields).map Prod.fst).Nodup) :
    putEntry name value before = before ++ [(name, value)] := by
  refine putEntry_of_not_mem fun hmem => ?_
  rw [List.map_append, List.nodup_append] at h
  exact h.2.2 name hmem name List.mem_cons_self rfl

/-- A record from its first field on is read back when its values are. -/
theorem readFields_write {limit : Nat} {name : String} {value : Datum}
    {fields before : List (String × Datum)}
    (hplain : ∀ field ∈ (name, value) :: fields, field.2.Plain)
    (hback : ∀ field ∈ (name, value) :: fields, ReadsBack limit field.2)
    (hnames : ((before ++ (name, value) :: fields).map Prod.fst).Nodup)
    (level last fuel : Nat) (rest : List Char)
    (hfuel : (writeName name ++ (write level value ++ writeFields level fields)).length < fuel) :
    readFields (some limit) fuel before
        (writeName name ++ (write level value ++ recordTail level last fields rest)) =
      (checkDigits limit (Datum.integersOfFields ((name, value) :: fields))).map
        fun _ => (before ++ (name, value) :: fields, rest) := by
  have hvalue : ReadsBack limit value := hback (name, value) List.mem_cons_self
  have hblank := skipSpace_write level (hplain (name, value) List.mem_cons_self)
    (recordTail level last fields rest)
  induction fields generalizing name value before fuel with
  | nil =>
    obtain ⟨fuel, rfl⟩ : ∃ k, fuel = k + 1 := ⟨fuel - 1, by omega⟩
    have hread := hvalue level fuel _ (isBreak_recordTail level last [] rest)
      (by simp at hfuel; omega)
    rw [Datum.integersOfFields, checkDigits_append]
    cases hcheck : checkDigits limit value.integers with
    | error e =>
      rw [hcheck] at hread
      exact readFields_error hblank hread
    | ok =>
      rw [hcheck] at hread
      rw [readFields_close hblank hread, putEntry_of_nodup hnames]
      rfl
  | cons next fields ih =>
    obtain ⟨fuel, rfl⟩ : ∃ k, fuel = k + 1 := ⟨fuel - 1, by omega⟩
    obtain ⟨name', value'⟩ := next
    have hlength : writeFields level ((name', value') :: fields) =
        ',' :: (newline level ++ (writeName name' ++ (write level value' ++
          writeFields level fields))) := by
      simp only [writeFields, writeName, List.cons_append, List.append_assoc, List.nil_append]
    rw [hlength] at hfuel
    simp only [List.length_append, List.length_cons] at hfuel
    have hread := hvalue level fuel _
      (isBreak_recordTail level last ((name', value') :: fields) rest) (by omega)
    have hfresh : ((before ++ [(name, value)] ++ (name', value') :: fields).map
        Prod.fst).Nodup := by
      rwa [List.append_assoc]
    have hlater : ∀ field ∈ (name', value') :: fields, field.2.Plain :=
      fun field h => hplain field (List.mem_cons_of_mem _ h)
    have hnext := ih hlater (fun field h => hback field (List.mem_cons_of_mem _ h)) hfresh fuel
      (by simp only [List.length_append]; omega)
      (hback (name', value') (by simp))
      (skipSpace_write level (hlater (name', value') List.mem_cons_self) _)
    rw [Datum.integersOfFields, checkDigits_append]
    rw [recordTail_cons] at hread hblank ⊢
    cases hcheck : checkDigits limit value.integers with
    | error e =>
      rw [hcheck] at hread
      exact readFields_error hblank hread
    | ok =>
      rw [hcheck] at hread
      rw [readFields_comma hblank hread, putEntry_of_nodup hnames, skipSpace_newline,
        skipSpace_writeName, hnext, List.append_assoc]
      rfl

/-! ### All plain data -/

/-- A list with items is read back when its items are. -/
theorem readValue_list {limit : Nat} {item : Datum} {items : List Datum}
    (hplain : ∀ d ∈ item :: items, d.Plain) (hback : ∀ d ∈ item :: items, ReadsBack limit d)
    (level fuel : Nat) (rest : List Char)
    (hfuel : (write level (.list (item :: items))).length ≤ fuel + 1) :
    readValue (some limit) (fuel + 1) (write level (.list (item :: items)) ++ rest) =
      (checkDigits limit (Datum.list (item :: items)).integers).map
        fun _ => (.list (item :: items), rest) := by
  have hwrite (rest : List Char) : write level (.list (item :: items)) ++ rest =
      '[' :: (newline (level + 1) ++
        (write (level + 1) item ++ listTail (level + 1) level items rest)) := by
    rw [write.eq_7]
    simp only [listTail, List.cons_append, List.append_assoc, List.nil_append]
  have hlength := congrArg List.length (hwrite [])
  simp only [listTail, List.append_nil, List.length_cons, List.length_append] at hlength
  have hread := readItems_write hplain hback (level + 1) level fuel rest
    (by simp only [List.length_append]; omega)
  have hblank : skipSpace (newline (level + 1) ++
      (write (level + 1) item ++ listTail (level + 1) level items rest)) =
      write (level + 1) item ++ listTail (level + 1) level items rest := by
    rw [skipSpace_newline, skipSpace_write _ (hplain item List.mem_cons_self)]
  obtain ⟨c, cs, hcs, -, hclose⟩ := exists_write (level + 1) (hplain item List.mem_cons_self)
  rw [hwrite, readValue.eq_2, hblank]
  split
  · next heq =>
    rw [hcs] at heq
    exact absurd (List.cons.inj heq).1 hclose
  · rw [hread]
    change _ = Except.map _ (checkDigits limit (Datum.integersOfItems (item :: items)))
    cases checkDigits limit (Datum.integersOfItems (item :: items)) <;> rfl

/-- A record with fields is read back when its values are. -/
theorem readValue_record {limit : Nat} {field : String × Datum} {fields : List (String × Datum)}
    (hnames : ((field :: fields).map Prod.fst).Nodup)
    (hplain : ∀ f ∈ field :: fields, f.2.Plain)
    (hback : ∀ f ∈ field :: fields, ReadsBack limit f.2) (level fuel : Nat) (rest : List Char)
    (hfuel : (write level (.record (field :: fields))).length ≤ fuel + 1) :
    readValue (some limit) (fuel + 1) (write level (.record (field :: fields)) ++ rest) =
      (checkDigits limit (Datum.record (field :: fields)).integers).map
        fun _ => (.record (field :: fields), rest) := by
  obtain ⟨name, value⟩ := field
  have hwrite (rest : List Char) : write level (.record ((name, value) :: fields)) ++ rest =
      '\x7b' :: (newline (level + 1) ++ (writeName name ++
        (write (level + 1) value ++ recordTail (level + 1) level fields rest))) := by
    rw [write.eq_9]
    simp only [writeName, recordTail, List.cons_append, List.append_assoc, List.nil_append]
  have hlength := congrArg List.length (hwrite [])
  simp only [recordTail, List.append_nil, List.length_cons, List.length_append] at hlength
  have hfresh : (([] ++ (name, value) :: fields).map Prod.fst).Nodup := hnames
  have hread := readFields_write hplain hback hfresh (level + 1) level fuel rest
    (by simp only [List.length_append]; omega)
  have hblank : skipSpace (newline (level + 1) ++ (writeName name ++
      (write (level + 1) value ++ recordTail (level + 1) level fields rest))) =
      writeName name ++ (write (level + 1) value ++ recordTail (level + 1) level fields rest) := by
    rw [skipSpace_newline, skipSpace_writeName]
  rw [hwrite, readValue.eq_3, hblank]
  split
  · next heq =>
    rw [writeName, List.append_assoc, writeText_append] at heq
    exact absurd (List.cons.inj heq).1 (by decide)
  · rw [hread]
    change _ = Except.map _ (checkDigits limit (Datum.integersOfFields ((name, value) :: fields)))
    cases checkDigits limit (Datum.integersOfFields ((name, value) :: fields)) <;> rfl

/-- **Plain data is read back as it was written.** -/
theorem readsBack (limit : Nat) {d : Datum} (h : d.Plain) : ReadsBack limit d := by
  induction h with
  | null =>
    rintro level (_ | fuel) rest hrest hfuel
    · cases hfuel
    · exact readValue_scalar (by simp [write]) (by simp [write])
  | bool value =>
    rintro level (_ | fuel) rest hrest hfuel
    · cases value <;> cases hfuel
    · cases value <;> exact readValue_scalar (by simp [write]) (by simp [write])
  | int n =>
    obtain ⟨c, cs, hcs, hc⟩ := exists_toString n
    have hwrite (level : Nat) : write level (.int n) = (toString n).toList := write.eq_3 level n
    rintro level (_ | fuel) rest hrest hfuel
    · rw [hwrite, hcs] at hfuel
      cases hfuel
    · have hbracket : c ≠ '[' ∧ c ≠ '\x7b' := by
        rcases hc with rfl | hdigit
        · decide
        · exact ⟨by rintro rfl; exact absurd hdigit (by decide),
            by rintro rfl; exact absurd hdigit (by decide)⟩
      have hhead : ((toString n).toList ++ rest).head? = some c := by rw [hcs]; rfl
      rw [hwrite, readValue_scalar (by rw [hhead]; simpa using hbracket.1)
        (by rw [hhead]; simpa using hbracket.2), readScalar_int limit n hrest]
      rfl
  | text s =>
    rintro level (_ | fuel) rest hrest hfuel
    · cases hfuel
    · have hwrite : write level (.text s) = writeText s := write.eq_5 level s
      rw [hwrite, writeText_append, readValue_scalar (by simp) (by simp), readScalar.eq_1,
        readText_escaped]
      simp only [String.ofList_toList]
      rfl
  | @list items parts ih =>
    rintro level (_ | fuel) rest hrest hfuel
    · cases items <;> cases hfuel
    · cases items with
      | nil =>
        have hwrite : write level (.list []) = ['[', ']'] := write.eq_6 level
        rw [hwrite]
        rfl
      | cons item items => exact readValue_list parts ih level fuel rest hfuel
  | @record fields names parts ih =>
    rintro level (_ | fuel) rest hrest hfuel
    · cases fields <;> cases hfuel
    · cases fields with
      | nil =>
        have hwrite : write level (.record []) = ['\x7b', '\x7d'] := write.eq_8 level
        rw [hwrite]
        rfl
      | cons field fields => exact readValue_record names parts ih level fuel rest hfuel

/-- **The text of plain data is read as that data**, unless one of its integers is too long. -/
theorem read_render {d : Datum} (h : d.Plain) :
    read (render d) = (checkDigits Text.digitLimit d.integers).map fun _ => d := by
  have hback := readsBack Text.digitLimit h 0 ((render d).length + 1) [] nofun
    (by rw [render, String.length_ofList]; omega)
  have hblank := skipSpace_write 0 h []
  rw [List.append_nil] at hback hblank
  rw [read, readWithin, render, String.toList_ofList, hblank, ← render, hback]
  cases checkDigits Text.digitLimit d.integers <;> rfl

end Json

end Footprint
