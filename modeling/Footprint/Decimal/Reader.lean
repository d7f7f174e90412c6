import Footprint.Decimal.Basic
import Footprint.Text.CharClass

/-!
# Reading decimals

A decimal is read from a sign, digits with at most one point among them, and an exponent. The
reading is exact, so it fails where the exponent leaves the range of numbers: the first digit of a
number other than zero may stand at place `highestPlace` at most, and no digit at a place below
`lowestPlace`. Text from outside may stand between blanks, hold underscores anywhere and use the
digits of any script.
-/

namespace Footprint.Decimal

/-- Is the decimal inside the range of exactly readable numbers? A zero may have any exponent up to
the highest place. -/
def inRange (d : Decimal) : Bool :=
  (if d.isZero then d.exponent else d.adjusted) ≤ highestPlace && lowestPlace ≤ d.exponent

/-- The number that a list of ASCII digits denotes. -/
def digitsValue (ds : List Char) : Nat := ds.foldl (fun n c => 10 * n + (c.toNat - '0'.toNat)) 0

/-- A sign at the front, and the rest. -/
def readSign : List Char → Bool × List Char
  | '-' :: cs => (true, cs)
  | '+' :: cs => (false, cs)
  | cs => (false, cs)

/-- Digits at the front, and the rest. -/
def readDigits (cs : List Char) : List Char × List Char :=
  (cs.takeWhile Text.isAsciiDigit, cs.dropWhile Text.isAsciiDigit)

/-- The digits before and after a point at the front, and the rest. Without a point there are no
digits after it. -/
def readMantissa (cs : List Char) : List Char × List Char × List Char :=
  let (whole, rest) := readDigits cs
  match rest with
  | '.' :: more => let (fraction, rest) := readDigits more; (whole, fraction, rest)
  | _ => (whole, [], rest)

/-- An exponent with at least one digit at the front, and the rest; otherwise exponent zero and
nothing taken. -/
def readExponent (cs : List Char) : Int × List Char :=
  match cs with
  | e :: more =>
    if e = 'e' || e = 'E' then
      let (negative, signless) := readSign more
      match readDigits signless with
      | ([], _) => (0, cs)
      | (ds, rest) =>
        (if negative then -(digitsValue ds : Int) else digitsValue ds, rest)
    else (0, cs)
  | [] => (0, cs)

/-- The longest number at the front, and the rest: a sign, digits with a point among them and an
exponent. There is none without a digit. -/
def readNumber (cs : List Char) : Option (Decimal × List Char) :=
  let (negative, signless) := readSign cs
  let (whole, fraction, rest) := readMantissa signless
  if whole.isEmpty && fraction.isEmpty then none
  else
    let (exponent, rest) := readExponent rest
    some (⟨negative, digitsValue (whole ++ fraction), exponent - fraction.length⟩, rest)

/-! ### Text from outside -/

/-- The ASCII form of one character of a number: a digit of another script becomes the ASCII digit
and a blank a space. Other characters have none. -/
def asciiForm (c : Char) : Option Char :=
  if 0 < c.toNat ∧ c.toNat < 128 then some c
  else if Text.isBlank c then some ' '
  else (Text.digitValue? c).map fun n => Char.ofNat ('0'.toNat + n)

/-- The text in ASCII, without blanks at its ends and without underscores. -/
def normalize (s : String) : Option (List Char) :=
  ((Text.trimBlank s.toList).filter (· ≠ '_')).mapM asciiForm

/-- The decimal that a text denotes, if it denotes a finite one in range. -/
def ofText? (s : String) : Option Decimal := do
  let cs ← normalize s
  match readNumber cs with
  | some (d, []) => if d.inRange then some d else none
  | _ => none

end Footprint.Decimal
