import Footprint.Decimal.Printer
import Footprint.Decimal.Reader

/-!
# Double-precision numbers

A double is a significand of at most 53 binary digits times a power of two. It is read as the
double nearest to a decimal, a tie going to the even significand, and written with the fewest
decimal digits that read back as the same double. Both directions compare exact ratios of natural
numbers.
-/

namespace Footprint

/-- A double-precision number: not a number, an infinity, or a signed significand times a power of
two. -/
inductive Double where
  | nan
  | infinite (negative : Bool)
  | finite (negative : Bool) (significand : Nat) (exponent : Int)
  deriving DecidableEq, Repr, Inhabited

namespace Double

/-- The least power of two that a significand is multiplied with. -/
def leastExponent : Int := -1074

/-- The greatest power of two that a significand is multiplied with. -/
def greatestExponent : Int := 971

/-- Numerator and denominator of `base ^ e`. -/
def powerRatio (base : Nat) (e : Int) : Nat × Nat := (Nat.pow base e.toNat, Nat.pow base (-e).toNat)

/-- The quotient rounded to the nearest natural number, a tie to the even one. -/
def divideToEven (num den : Nat) : Nat :=
  let q := num / den
  let r := num % den
  if 2 * r < den then q
  else if den < 2 * r then q + 1
  else if q % 2 = 0 then q else q + 1

/-- The least normal significand, with 53 binary digits. A smaller one stands for a number that has
the least exponent. -/
def leastNormal : Nat := 4503599627370496

/-- The double nearest to the ratio of two positive numbers. -/
def ofRatio (negative : Bool) (num den : Nat) : Double :=
  let estimate : Int := (Nat.log2 num : Int) - Nat.log2 den
  let (up, down) := powerRatio 2 estimate
  let leading := if num * down < den * up then estimate - 1 else estimate
  let exponent := max (leading - 52) leastExponent
  let (up, down) := powerRatio 2 exponent
  let significand := divideToEven (num * down) (den * up)
  let (significand, exponent) :=
    if significand = 2 * leastNormal then (leastNormal, exponent + 1) else (significand, exponent)
  if greatestExponent < exponent then infinite negative
  else finite negative significand exponent

/-- The double nearest to a decimal. Beyond 310 places on either side of the point nothing but the
infinities and zero are left. -/
def ofDecimal (d : Decimal) : Double :=
  if d.isZero || d.adjusted < -330 then finite d.negative 0 leastExponent
  else if 310 < d.adjusted then infinite d.negative
  else
    let (up, down) := powerRatio 10 d.exponent
    ofRatio d.negative (d.coefficient * up) down

/-! ### The fewest digits that read back -/

/-- The place of the first decimal digit of a positive ratio. -/
def firstPlace (num den : Nat) : Int :=
  let estimate : Int := (digitCount num : Int) - digitCount den
  let (up, down) := powerRatio 10 estimate
  if num * down < den * up then estimate - 1 else estimate

/-- On the grid of multiples of `10 ^ place`, the neighbour of the double `significand * 2 ^
exponent` that reads back as it, the nearer one if both do. -/
def onGrid? (significand : Nat) (exponent : Int) (place : Int) : Option Nat :=
  let (up, down) := powerRatio 2 (exponent - 2)
  let (tenUp, tenDown) := powerRatio 10 place
  -- In units of a quarter of the last binary digit.
  let value := 4 * significand * up * tenDown
  let low := (if significand = leastNormal ∧ leastExponent < exponent then 4 * significand - 1
    else 4 * significand - 2) * up * tenDown
  let high := (4 * significand + 2) * up * tenDown
  let unit := tenUp * down
  let readsBack (m : Nat) : Bool :=
    if significand % 2 = 0 then low ≤ m * unit && m * unit ≤ high
    else low < m * unit && m * unit < high
  let below := value / unit
  match readsBack below, readsBack (below + 1) with
  | true, true =>
    let rest := value - below * unit
    if 2 * rest < unit || (2 * rest = unit && below % 2 = 0) then some below else some (below + 1)
  | true, false => some below
  | false, true => some (below + 1)
  | false, false => none

/-- The decimal with the fewest digits that reads back as the double `significand * 2 ^ exponent`.
Seventeen digits always do. The upper neighbour of nines is a power of ten, whose last zero is
dropped. -/
def shortest (significand : Nat) (exponent : Int) : Nat × Int :=
  let (up, down) := powerRatio 2 exponent
  let first := firstPlace (significand * up) down
  let candidates := (List.range 17).filterMap fun (n : Nat) =>
    (onGrid? significand exponent (first - n)).map fun m =>
      if m % 10 = 0 then (m / 10, first - n + 1) else (m, first - (n : Int))
  candidates.head?.getD (significand, exponent)

/-- The text of a double: positional with at least one digit after the point when the first digit
stands between the fourth place after the point and the sixteenth before it, otherwise scientific
with at least two digits of exponent. -/
def text : Double → String
  | nan => "nan"
  | infinite negative => if negative then "-inf" else "inf"
  | finite negative significand exponent =>
    let sign := if negative then ['-'] else []
    let (m, place) := if significand = 0 then (0, 0) else shortest significand exponent
    let digits := Nat.toDigits 10 m
    let first := place + digits.length - 1
    let body :=
      if -4 ≤ first ∧ first < 16 then
        if 0 ≤ place then digits ++ List.replicate place.toNat '0' ++ ['.', '0']
        else Decimal.pointed (-place).toNat digits
      else
        let size := Nat.toDigits 10 first.natAbs
        Decimal.pointed (digits.length - 1) digits ++ 'e' :: (if first < 0 then '-' else '+') ::
          List.replicate (2 - size.length) '0' ++ size
    String.ofList (sign ++ body)

/-- The double that a text denotes: a decimal, or the name of an infinity or of no number. -/
def ofText? (s : String) : Option Double :=
  let (negative, rest) := Decimal.readSign s.toList
  match (String.ofList rest).toLower with
  | "nan" => some nan
  | "inf" | "infinity" => some (infinite negative)
  | _ =>
    match Decimal.readNumber s.toList with
    | some (d, []) => some (ofDecimal d)
    | _ => none

end Double

end Footprint
