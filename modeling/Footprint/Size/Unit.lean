import Footprint.Text.LetterCase

/-!
# Size units

The units in which a size is shown or given, from bytes up to petabytes. Each is a power of two. A
unit with a limit is used for values below it; the limit is counted in the unit before its rounding
step, hence in half units where there is one.
-/

namespace Footprint

/-- A power of two of bytes. `limit` bounds the values that are shown in the unit, where the last
unit has none, and `rounds` says that a value is brought to the unit by a final halving. -/
structure SizeUnit where
  name : String
  bits : Nat
  limit : Option Nat
  rounds : Bool
  deriving DecidableEq, Repr

namespace SizeUnit

/-- The smallest unit. -/
def bytes : SizeUnit := ⟨"bytes", 0, some 10240, false⟩

/-- The units above bytes, in order. -/
def larger : List SizeUnit :=
  [⟨"kB", 10, some 20479, true⟩, ⟨"MB", 20, some 20479, true⟩, ⟨"GB", 30, some 20479, true⟩,
    ⟨"TB", 40, some 20479, true⟩, ⟨"PB", 50, none, true⟩]

/-- All units, in order. -/
def table : List SizeUnit := bytes :: larger

/-- Further names of units. -/
def aliases : List (String × SizeUnit) := [("B", bytes)]

/-- By how many bits a value in `unit` is shifted for `next`: one less when `next` halves at the
end, one more when `unit` would have halved. -/
def shift (unit next : SizeUnit) : Int :=
  next.bits - unit.bits - (if next.rounds then 1 else 0) + (if unit.rounds then 1 else 0)

/-- The unit of a name, in any letter case. -/
def find? (text : String) : Option SizeUnit :=
  let lowered := Text.lower text
  (table.find? fun unit => Text.lower unit.name = lowered).orElse fun _ =>
    (aliases.find? fun entry => Text.lower entry.1 = lowered).map Prod.snd

/-- The unit at a position of the table; a negative position counts from its end. -/
def at? (index : Int) : Option SizeUnit :=
  if 0 ≤ index then table[index.toNat]?
  else if -table.length ≤ index then table[(table.length + index).toNat]?
  else none

/-- The shift from the unit at a position to the one after it, if there are such units. -/
def shiftAfter? (index : Int) : Option Int := do
  let unit ← at? index
  let next ← at? (index + 1)
  pure (unit.shift next)

/-- Is this the position of the last unit? -/
def isLastPosition (index : Int) : Bool := index == table.length - 1

end SizeUnit

end Footprint
