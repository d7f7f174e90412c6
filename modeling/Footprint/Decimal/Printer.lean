import Footprint.Decimal.Basic

/-!
# Written forms of a decimal

Two forms: plain fixed-point text, and the form that changes to scientific notation when the
exponent is positive or the number is small.
-/

namespace Footprint.Decimal

/-- The digits of the coefficient. -/
def digits (d : Decimal) : List Char := Nat.toDigits 10 d.coefficient

/-- Digits with a point before the last `places` of them; zeros fill up to one digit before it. -/
def pointed (places : Nat) (ds : List Char) : List Char :=
  if places = 0 then ds
  else
    let padded := List.replicate (places + 1 - ds.length) '0' ++ ds
    padded.take (padded.length - places) ++ '.' :: padded.drop (padded.length - places)

/-- The sign of a negative number, a negative zero included. -/
def signText (d : Decimal) : List Char := if d.negative then ['-'] else []

/-- Fixed-point digits without a sign: every place that the exponent asks for and no exponent. A
zero with a positive exponent is a single digit. -/
def fixedDigits (d : Decimal) : List Char :=
  if 0 ≤ d.exponent then
    if d.isZero then ['0'] else d.digits ++ List.replicate d.exponent.toNat '0'
  else pointed (-d.exponent).toNat d.digits

/-- Fixed-point text; a zero has no sign. -/
def fixed (d : Decimal) : String :=
  String.ofList ((if d.isZero then [] else d.signText) ++ d.fixedDigits)

/-- The sign and digits of an exponent. -/
def exponentText (e : Int) : List Char :=
  'E' :: (if e < 0 then '-' else '+') :: Nat.toDigits 10 e.natAbs

/-- Fixed-point text when the exponent is at most zero and the first digit stands at the sixth
place after the point or before it, scientific text with one digit before the point otherwise. The
sign of a zero is kept. -/
def scientific (d : Decimal) : String :=
  let body :=
    if d.exponent ≤ 0 ∧ -6 ≤ d.adjusted then pointed (-d.exponent).toNat d.digits
    else pointed (d.digits.length - 1) d.digits ++ exponentText d.adjusted
  String.ofList (d.signText ++ body)

end Footprint.Decimal
