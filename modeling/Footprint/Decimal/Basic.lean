/-!
# Decimal numbers

A decimal is a sign, a coefficient and a power of ten. Two decimals may have the same value and
differ: `1.0` and `1.00` have different exponents, and a zero has a sign. Arithmetic comes in two
layers. The exact operations keep every digit; `cut` shortens a result to a working precision by
dropping low digits, and the operations `…Within` are the exact ones followed by `cut`. A product of
numbers from the ends of the range may leave it; `bounded` brings it back inside or refuses it.
-/

namespace Footprint

/-- A sign, a coefficient and a power of ten. -/
structure Decimal where
  negative : Bool
  coefficient : Nat
  exponent : Int
  deriving DecidableEq, Repr, Inhabited

/-- The number of decimal digits of a natural number; zero has one. -/
def digitCount (n : Nat) : Nat := (Nat.toDigits 10 n).length

namespace Decimal

/-! ### Shape of a decimal -/

/-- A whole number, with exponent zero. -/
def ofInt (n : Int) : Decimal := ⟨n < 0, n.natAbs, 0⟩

/-- Is the value zero? A zero may carry a sign and any exponent. -/
def isZero (d : Decimal) : Bool := d.coefficient == 0

/-- The power of ten of the first digit of the coefficient. -/
def adjusted (d : Decimal) : Int := d.exponent + digitCount d.coefficient - 1

/-- The coefficient with the sign. -/
def signed (d : Decimal) : Int := if d.negative then -d.coefficient else d.coefficient

/-- The signed coefficient after moving the exponent down to `e`, at most `d.exponent`. -/
def scaledTo (e : Int) (d : Decimal) : Int := d.signed * Nat.pow 10 (d.exponent - e).toNat

/-- The same number with the other sign. -/
def neg (d : Decimal) : Decimal := { d with negative := !d.negative }

/-- The same number without its sign. -/
def abs (d : Decimal) : Decimal := { d with negative := false }

/-- The value with its fraction dropped, toward zero. A negative exponent beyond the digits of the
coefficient leaves nothing, which is decided without computing the power of ten. -/
def truncate (d : Decimal) : Int :=
  let magnitude : Nat :=
    if d.coefficient = 0 then 0
    else if 0 ≤ d.exponent then d.coefficient * Nat.pow 10 d.exponent.toNat
    else if digitCount d.coefficient ≤ (-d.exponent).toNat then 0
    else d.coefficient / Nat.pow 10 (-d.exponent).toNat
  if d.negative then -magnitude else magnitude

/-! ### Exact arithmetic -/

/-- The exact sum, with the smaller exponent of the two. A zero sum is negative only when both
operands are. -/
def add (a b : Decimal) : Decimal :=
  let e := min a.exponent b.exponent
  let sum := a.scaledTo e + b.scaledTo e
  ⟨if sum = 0 then a.negative && b.negative else sum < 0, sum.natAbs, e⟩

/-- The exact difference. -/
def sub (a b : Decimal) : Decimal := a.add b.neg

/-- The exact product, with the sum of the exponents. -/
def mul (a b : Decimal) : Decimal :=
  ⟨a.negative ^^ b.negative, a.coefficient * b.coefficient, a.exponent + b.exponent⟩

/-- The exact quotient with its fraction dropped, toward zero, with exponent zero. -/
def quotient (a b : Decimal) : Decimal :=
  let e := min a.exponent b.exponent
  ⟨a.negative ^^ b.negative, (a.scaledTo e).natAbs / (b.scaledTo e).natAbs, 0⟩

/-- The order of two values; the sign of a zero and the exponents do not count. -/
def compare (a b : Decimal) : Ordering :=
  let e := min a.exponent b.exponent
  Ord.compare (a.scaledTo e) (b.scaledTo e)

/-! ### Working precision -/

/-- The decimal without the last `count` digits of its coefficient. A coefficient that has no more
digits leaves nothing, which is decided without computing the power of ten. -/
def shorten (count : Nat) (d : Decimal) : Decimal :=
  { d with
    coefficient :=
      if digitCount d.coefficient ≤ count then 0 else d.coefficient / Nat.pow 10 count
    exponent := d.exponent + count }

/-- The decimal with at most `precision` digits: low digits beyond them are dropped. -/
def cut (precision : Nat) (d : Decimal) : Decimal :=
  d.shorten (digitCount d.coefficient - precision)

/-- The sum, at a working precision. -/
def addWithin (precision : Nat) (a b : Decimal) : Decimal := (a.add b).cut precision

/-- The difference, at a working precision. -/
def subWithin (precision : Nat) (a b : Decimal) : Decimal := (a.sub b).cut precision

/-- The product, at a working precision. -/
def mulWithin (precision : Nat) (a b : Decimal) : Decimal := (a.mul b).cut precision

/-- The whole part of the quotient; there is none at a working precision that cannot hold all its
digits. -/
def quotientWithin (precision : Nat) (a b : Decimal) : Option Decimal :=
  let q := a.quotient b
  if digitCount q.coefficient ≤ precision then some q else none

/-- The digits from the highest to the lowest of the two operands, the unit place included. -/
def span (a b : Decimal) : Nat :=
  let high := max (max a.adjusted 0) (max b.adjusted 0)
  let low := min (min a.exponent 0) (min b.exponent 0)
  (high - low + 1).toNat

/-! ### Range -/

/-- The highest place that the first digit of a number may have. -/
def highestPlace : Int := 999999999999999999

/-- The lowest place that the last digit of a number may have. -/
def lowestPlace : Int := -1999999999999999997

/-- The lowest place of a first digit at which a number keeps all digits of its precision. -/
def lowestFullPlace : Int := -999999999999999999

/-- The lowest place that a digit of a result may have at a working precision. -/
def finestPlace (precision : Nat) : Int := lowestFullPlace - precision + 1

/-- The decimal at a working precision and inside the range: digits below the finest place are
dropped, and so are those beyond the precision. There is none for a number whose first digit stands
too high; a zero is moved to the nearest place in range. -/
def bounded (precision : Nat) (d : Decimal) : Option Decimal :=
  if d.isZero then
    some { d with exponent := max (finestPlace precision) (min d.exponent highestPlace) }
  else if highestPlace < d.adjusted then none
  else some ((d.shorten (finestPlace precision - d.exponent).toNat).cut precision)

/-- The product, at a working precision and inside the range. -/
def mulBounded (precision : Nat) (a b : Decimal) : Option Decimal := (a.mul b).bounded precision

end Decimal

end Footprint
