import Footprint.Datum
import Footprint.Error

/-!
# Arithmetic for sizes

A size is computed with in one of two number systems: whole numbers of 64 bits, where a result out
of range is an error, and decimals of any length. Both offer the same operations, and division
drops the fraction toward zero in both.
-/

namespace Footprint

/-- The operations that formatting a size needs, over some type of numbers. -/
structure Arithmetic (ν : Type) where
  ofInt : Int → Except Error ν
  add : ν → ν → Except Error ν
  subtract : ν → ν → Except Error ν
  multiply : ν → ν → Except Error ν
  /-- The quotient without its fraction. -/
  divide : ν → ν → Except Error ν
  compare : ν → ν → Ordering
  absolute : ν → ν
  text : ν → String

namespace Arithmetic

variable {ν : Type}

/-- Is the number below zero? -/
def isNegative (A : Arithmetic ν) (a : ν) : Except Error Bool := do
  let zero ← A.ofInt 0
  pure (A.compare a zero == .lt)

/-- Half of the number, where one is first added away from zero: a whole number is halved with ties
away from zero. -/
def halfRounded (A : Arithmetic ν) (a : ν) : Except Error ν := do
  let one ← A.ofInt 1
  let moved ← if ← A.isNegative a then A.subtract a one else A.add a one
  A.divide moved (← A.ofInt 2)

end Arithmetic

/-! ### Whole numbers of 64 bits -/

namespace Int64Range

/-- The least whole number of 64 bits. -/
def least : Int := -9223372036854775808

/-- The greatest whole number of 64 bits. -/
def greatest : Int := 9223372036854775807

/-- The number itself if it fits in 64 bits. -/
def check (n : Int) : Except Error Int :=
  if n < least ∨ greatest < n then .error .outOfRange else .ok n

/-- A loose value as a whole number of 64 bits. -/
def ofDatum : Datum → Except Error Int
  | .int n => check n
  | other => .error (.wholeNumberExpected other.kindName)

/-- The quotient without its fraction; only the negation of the least number is out of range. -/
def divide (a b : Int) : Except Error Int :=
  if b = 0 then .error .divisionByZero else check (a.tdiv b)

end Int64Range

/-- Whole numbers of 64 bits. The absolute value is not checked: it is only compared with. -/
def Arithmetic.int64 : Arithmetic Int where
  ofInt := Int64Range.check
  add a b := Int64Range.check (a + b)
  subtract a b := Int64Range.check (a - b)
  multiply a b := Int64Range.check (a * b)
  divide := Int64Range.divide
  compare a b := Ord.compare a b
  absolute a := a.natAbs
  text a := toString a

/-! ### Decimals of any length -/

namespace Numeric

/-- The least working precision of decimal arithmetic, in digits. -/
def basePrecision : Nat := 1000

/-- A working precision of at least the given number of digits. -/
def precisionFor (digits : Nat) : Nat := max digits basePrecision

/-- A loose value as a decimal: a number as it is, a text as it reads, a double as its shortest text
reads. -/
def ofDatum : Datum → Except Error Decimal
  | .bool _ => .error .booleanRefused
  | .int n => .ok (.ofInt n)
  | .float x => read x.text
  | .text s => read s
  | other => .error (.notNumeric other.inline)
where
  /-- The decimal that a text denotes. -/
  read (s : String) : Except Error Decimal :=
    match Decimal.ofText? s with
    | some d => .ok d
    | none => .error (.notNumeric s)

/-- The sum, with one digit more than the operands span for a carry. -/
def add (a b : Decimal) : Decimal := a.addWithin (precisionFor (a.span b + 1)) b

/-- The difference, with one digit more than the operands span for a carry. -/
def subtract (a b : Decimal) : Decimal := a.subWithin (precisionFor (a.span b + 1)) b

/-- The product, with the digits of both operands. -/
def multiply (a b : Decimal) : Decimal :=
  a.mulWithin (precisionFor (digitCount a.coefficient + digitCount b.coefficient)) b

/-- The quotient without its fraction, with as many digits as the first digits of the operands are
apart and two more. A zero quotient has no sign. -/
def divide (a b : Decimal) : Except Error Decimal :=
  if b.isZero then .error .divisionByZero
  else
    match a.quotientWithin (precisionFor ((a.adjusted - b.adjusted).toNat + 2)) b with
    | some q => .ok (if q.isZero then .ofInt 0 else q)
    | none => .error .divisionImpossible

end Numeric

/-- Decimals of any length. -/
def Arithmetic.numeric : Arithmetic Decimal where
  ofInt n := .ok (.ofInt n)
  add a b := .ok (Numeric.add a b)
  subtract a b := .ok (Numeric.subtract a b)
  multiply a b := .ok (Numeric.multiply a b)
  divide := Numeric.divide
  compare := Decimal.compare
  absolute := Decimal.abs
  text := Decimal.fixed

/-! ### Choice of a number system -/

/-- The two number systems. -/
inductive NumberSystem where
  | int64
  | numeric
  deriving DecidableEq, Repr

/-- The number system of a name. -/
def NumberSystem.ofName (name : String) : Except Error NumberSystem :=
  if name = "int64" then .ok .int64
  else if name = "numeric" then .ok .numeric
  else .error (.unknownArithmetic name)

end Footprint
