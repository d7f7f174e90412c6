import Footprint.Size.Arithmetic
import Footprint.Size.Unit

/-!
# Sizes for people

A number of bytes is shown as a number and a unit. Starting from bytes, the value is divided for the
next unit, fraction dropped, until it is below the limit of a unit or the last unit is reached; a
unit that rounds then halves it with ties away from zero. Until that final step the value is carried
in half units, so that all the dropping rounds only once.
-/

namespace Footprint

variable {ν : Type}

namespace Arithmetic

/-- The value in a unit that has been chosen for it. -/
def settle (A : Arithmetic ν) (unit : SizeUnit) (value : ν) : Except Error (ν × SizeUnit) := do
  let value ← if unit.rounds then A.halfRounded value else pure value
  pure (value, unit)

/-- Is the value below the limit of the unit? -/
def belowLimit (A : Arithmetic ν) (unit : SizeUnit) (value : ν) : Except Error Bool :=
  match unit.limit with
  | none => pure true
  | some limit => do
    let limit ← A.ofInt limit
    pure (A.compare (A.absolute value) limit == .lt)

/-- The value in the first fitting one of a unit and the larger units after it. -/
def fit (A : Arithmetic ν) (unit : SizeUnit) : List SizeUnit → ν → Except Error (ν × SizeUnit)
  | [], value => A.settle unit value
  | next :: rest, value => do
    if ← A.belowLimit unit value then A.settle unit value
    else
      let divisor ← A.ofInt (Nat.pow 2 (unit.shift next).toNat)
      let value ← A.divide value divisor
      A.fit next rest value

/-- A number of bytes as a value and the unit that is chosen for it. -/
def inUnit (A : Arithmetic ν) (bytes : ν) : Except Error (ν × SizeUnit) :=
  A.fit .bytes SizeUnit.larger bytes

/-- A number of bytes as text: a value, a space and a unit. -/
def pretty (A : Arithmetic ν) (bytes : ν) : Except Error String := do
  let (value, unit) ← A.inUnit bytes
  pure (A.text value ++ " " ++ unit.name)

end Arithmetic

namespace NumberSystem

/-- A loose value as text, computed in a number system. -/
def pretty (system : NumberSystem) (size : Datum) : Except Error String :=
  match system with
  | int64 => Int64Range.ofDatum size >>= Arithmetic.int64.pretty
  | numeric => Numeric.ofDatum size >>= Arithmetic.numeric.pretty

/-- The unit that is chosen for a loose value. -/
def unitFor (system : NumberSystem) (size : Datum) : Except Error SizeUnit :=
  match system with
  | int64 => Prod.snd <$> (Int64Range.ofDatum size >>= Arithmetic.int64.inUnit)
  | numeric => Prod.snd <$> (Numeric.ofDatum size >>= Arithmetic.numeric.inUnit)

end NumberSystem

end Footprint
