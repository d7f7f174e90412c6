import Footprint.Datum
import Footprint.Dictionary
import Footprint.Text.Whole

/-!
# Reading JSON

A text is read as one value with blanks around it. Besides the standard forms, `NaN`, `Infinity` and
`-Infinity` are numbers. Of several fields of one name the last value counts, at the place of the
first. A whole number may be too long to be read, which is told apart from malformed text.
-/

namespace Footprint.Json

/-- Why a text is no value. -/
inductive Fault where
  | malformed
  | numberTooLong (digits : Nat)
  deriving DecidableEq, Repr

/-- A blank between the parts of a value. -/
def isSpace (c : Char) : Bool := c == ' ' || c == '\t' || c == '\n' || c == '\r'

/-- The text from its first character that is no blank. -/
def skipSpace (cs : List Char) : List Char := cs.dropWhile isSpace

/-! ### Texts -/

/-- The value of a digit in base sixteen. -/
def hexValue? (c : Char) : Option Nat :=
  if '0' ≤ c ∧ c ≤ '9' then some (c.toNat - '0'.toNat)
  else if 'a' ≤ c ∧ c ≤ 'f' then some (c.toNat - 'a'.toNat + 10)
  else if 'A' ≤ c ∧ c ≤ 'F' then some (c.toNat - 'A'.toNat + 10)
  else none

/-- The value of four digits in base sixteen. -/
def hexUnit? (a b c d : Char) : Option Nat := do
  pure ((((← hexValue? a) * 16 + (← hexValue? b)) * 16 + (← hexValue? c)) * 16 + (← hexValue? d))

/-- The character of an escape of one letter. -/
def unescape? (c : Char) : Option Char :=
  match c with
  | '"' => some '"'
  | '\\' => some '\\'
  | '/' => some '/'
  | 'b' => some '\x08'
  | 'f' => some '\x0c'
  | 'n' => some '\n'
  | 'r' => some '\r'
  | 't' => some '\t'
  | _ => none

/-- The character of two escaped halves. -/
def joinHalves (high low : Nat) : Char :=
  Char.ofNat (0x10000 + (high - 0xD800) * 0x400 + (low - 0xDC00))

/-- A text up to its closing quotation mark, and the rest. -/
def readText : List Char → Option (List Char × List Char)
  | [] => none
  | '"' :: rest => some ([], rest)
  | '\\' :: 'u' :: a :: b :: c :: d :: '\\' :: 'u' :: e :: f :: g :: h :: rest =>
    match hexUnit? a b c d with
    | none => none
    | some unit =>
      match hexUnit? e f g h with
      | none => none
      | some second =>
        if 0xD800 ≤ unit ∧ unit ≤ 0xDBFF ∧ 0xDC00 ≤ second ∧ second ≤ 0xDFFF then
          (readText rest).map fun (cs, left) => (joinHalves unit second :: cs, left)
        else
          (readText ('\\' :: 'u' :: e :: f :: g :: h :: rest)).map fun (cs, left) =>
            (Char.ofNat unit :: cs, left)
  | '\\' :: 'u' :: a :: b :: c :: d :: rest =>
    match hexUnit? a b c d with
    | none => none
    | some unit => (readText rest).map fun (cs, left) => (Char.ofNat unit :: cs, left)
  | '\\' :: c :: rest =>
    match unescape? c with
    | none => none
    | some char => (readText rest).map fun (cs, left) => (char :: cs, left)
  | c :: rest =>
    if c.toNat < 0x20 ∨ c = '\\' then none
    else (readText rest).map fun (cs, left) => (c :: cs, left)

/-! ### Numbers -/

/-- The whole part of a number: a single zero, or digits that start with another one. -/
def readWhole (cs : List Char) : Option (List Char × List Char) :=
  match cs with
  | '0' :: rest => some (['0'], rest)
  | _ =>
    match Decimal.readDigits cs with
    | ([], _) => none
    | found => some found

/-- The digits after a point at the front, at least one, and the rest. -/
def readFraction (cs : List Char) : List Char × List Char :=
  match cs with
  | '.' :: more =>
    match Decimal.readDigits more with
    | ([], _) => ([], cs)
    | found => found
  | _ => ([], cs)

/-- A number after its sign. It is whole when it has neither a fraction nor an exponent. -/
def readNumber (limit : Option Nat) (negative : Bool) (cs : List Char) :
    Except Fault (Datum × List Char) :=
  match readWhole cs with
  | none => .error .malformed
  | some (whole, rest) =>
    let (fraction, afterFraction) := readFraction rest
    let (exponent, left) := Decimal.readExponent afterFraction
    if left.length = rest.length then
      match limit with
      | some most =>
        if most < whole.length then .error (.numberTooLong whole.length)
        else .ok (integer whole, left)
      | none => .ok (integer whole, left)
    else
      let value : Decimal :=
        ⟨negative, Decimal.digitsValue (whole ++ fraction), exponent - fraction.length⟩
      .ok (.float (.ofDecimal value), left)
where
  /-- A whole number with its sign. -/
  integer (whole : List Char) : Datum :=
    let magnitude := Decimal.digitsValue whole
    .int (if negative then -magnitude else magnitude)

/-! ### Values -/

/-- The rest after a word at the front. -/
def afterWord (word : String) (cs : List Char) : Option (List Char) :=
  if word.toList.isPrefixOf cs then some (cs.drop word.length) else none

/-- The names that stand for values. -/
def words : List (String × Datum) :=
  [("null", .null), ("true", .bool true), ("false", .bool false), ("NaN", .float .nan),
    ("Infinity", .float (.infinite false)), ("-Infinity", .float (.infinite true))]

/-- A value that is no list or record, and the rest. -/
def readScalar (limit : Option Nat) (cs : List Char) : Except Fault (Datum × List Char) :=
  match cs with
  | '"' :: rest =>
    match readText rest with
    | some (text, left) => .ok (.text (String.ofList text), left)
    | none => .error .malformed
  | _ =>
    match words.findSome? fun (word, value) => (afterWord word cs).map (Prod.mk value) with
    | some found => .ok found
    | none =>
      match cs with
      | '-' :: rest => readNumber limit true rest
      | _ => readNumber limit false cs

mutual

/-- A value at the front, and the rest. The first argument bounds the nesting and the length; the
number of characters is enough. -/
def readValue (limit : Option Nat) : Nat → List Char → Except Fault (Datum × List Char)
  | 0, _ => .error .malformed
  | fuel + 1, cs =>
    match cs with
    | '[' :: rest =>
      match skipSpace rest with
      | ']' :: left => .ok (.list [], left)
      | items => do
        let (found, left) ← readItems limit fuel items
        .ok (.list found, left)
    | '\x7b' :: rest =>
      match skipSpace rest with
      | '\x7d' :: left => .ok (.record [], left)
      | fields => do
        let (found, left) ← readFields limit fuel [] fields
        .ok (.record found, left)
    | _ => readScalar limit cs

/-- The items of a list from a value on, and what follows the closing bracket. -/
def readItems (limit : Option Nat) : Nat → List Char → Except Fault (List Datum × List Char)
  | 0, _ => .error .malformed
  | fuel + 1, cs => do
    let (item, rest) ← readValue limit fuel cs
    match skipSpace rest with
    | ']' :: left => .ok ([item], left)
    | ',' :: more =>
      let (items, left) ← readItems limit fuel (skipSpace more)
      .ok (item :: items, left)
    | _ => .error .malformed

/-- The fields of a record from a name on, added to those before, and what follows the closing
bracket. -/
def readFields (limit : Option Nat) :
    Nat → List (String × Datum) → List Char → Except Fault (List (String × Datum) × List Char)
  | 0, _, _ => .error .malformed
  | fuel + 1, before, cs =>
    match cs with
    | '"' :: text =>
      match readText text with
      | none => .error .malformed
      | some (name, rest) =>
        match skipSpace rest with
        | ':' :: more => do
          let (value, rest) ← readValue limit fuel (skipSpace more)
          let fields := putEntry (String.ofList name) value before
          match skipSpace rest with
          | '\x7d' :: left => .ok (fields, left)
          | ',' :: more => readFields limit fuel fields (skipSpace more)
          | _ => .error .malformed
        | _ => .error .malformed
    | _ => .error .malformed

end

/-- The value that a text holds, where whole numbers have at most `limit` digits. -/
def readWithin (limit : Option Nat) (s : String) : Except Fault Datum := do
  let (value, rest) ← readValue limit (s.length + 1) (skipSpace s.toList)
  if (skipSpace rest).isEmpty then .ok value else .error .malformed

/-- The value that a text holds. -/
def read (s : String) : Except Fault Datum := readWithin (some Text.digitLimit) s

end Footprint.Json
