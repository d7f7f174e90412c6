import Footprint.Decimal.Reader
import Footprint.Size.Arithmetic
import Footprint.Size.Unit

/-!
# Reading sizes

A size is a number and a unit, with blanks around either; without a unit it is in bytes. The number
takes as much of the text as it can, so an exponent mark without digits starts the unit. The value
is multiplied out at the working precision and inside the range of decimals, and its fraction is
dropped toward zero.
-/

namespace Footprint.Size

/-- The blanks that may stand around the parts of a size: the six of ASCII. -/
def isSpace (c : Char) : Bool :=
  c == ' ' || c == '\t' || c == '\n' || c == '\r' || c == '\x0c' || c == '\x0b'

/-- The text without the blanks at its two ends. -/
def trimSpace (cs : List Char) : List Char :=
  ((cs.dropWhile isSpace).reverse.dropWhile isSpace).reverse

/-- A number whose first digit stands above this place is out of range in every unit. -/
def greatestPlace : Int := 40

/-- The power of two that the text of a unit stands for. No text stands for bytes. -/
def multiplier (unitText : String) : Option Nat :=
  if unitText.isEmpty then some 1 else (SizeUnit.find? unitText).map fun unit => Nat.pow 2 unit.bits

/-- The whole part of a number times a multiplier, if it fits in 64 bits. -/
def scale (number : Decimal) (multiplier : Nat) : Except Error Int :=
  if !number.isZero && greatestPlace < number.adjusted then .error .outOfRange
  else
    let product :=
      if 1 < multiplier then number.mulBounded Numeric.basePrecision (.ofInt multiplier)
      else some number
    match product with
    | some product => Int64Range.check product.truncate
    | none => .error .outOfRange

/-- The number of bytes that a text gives. -/
def parse (text : String) : Except Error Int :=
  match Decimal.readNumber (text.toList.dropWhile isSpace) with
  | none => .error (.sizeSyntax text none)
  | some (number, rest) =>
    if number.inRange then
      let unitText := String.ofList (trimSpace rest)
      match multiplier unitText with
      | none => .error (.sizeSyntax text (some unitText))
      | some m => scale number m
    else .error (.sizeSyntax text none)

/-- The number of bytes that a loose value gives, which has to be a text. -/
def ofDatum : Datum → Except Error Int
  | .text s => parse s
  | other => .error (.textExpected other.kindName)

end Footprint.Size
