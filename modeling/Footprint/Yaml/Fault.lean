import Footprint.Error

/-!
# Faults of YAML texts

A text is either malformed, or holds a scalar that is written like a number, a date or a character
and is none. Only one fault of a text counts. What lies in a sequence or mapping is read after
everything beside it, so of two faults that in fewer collections counts, and of two in equally many
the first.
-/

namespace Footprint.Yaml

/-- Why a text denotes nothing. -/
inductive Fault where
  | malformed
  | unreadable (e : Error)
  deriving DecidableEq, Repr

/-- What comes of reading a part of a text: a fault is given with the number of collections within
the part that it lies in. -/
abbrev Reading (α : Type) := Except (Nat × Fault) α

namespace Reading

variable {α β : Type}

/-- A part that is no collection. -/
def ofExcept (found : Except Fault α) : Reading α := found.mapError fun fault => (0, fault)

/-- A fault that lies in no collection. -/
def fault (fault : Fault) : Reading α := .error (0, fault)

/-- The part as the content of a collection. -/
def inside (reading : Reading α) : Reading α :=
  reading.mapError fun (depth, fault) => (depth + 1, fault)

/-- Two parts, one after the other. -/
def pair (first : Reading α) (second : Reading β) : Reading (α × β) :=
  match first, second with
  | .ok a, .ok b => .ok (a, b)
  | .ok _, .error found => .error found
  | .error found, .ok _ => .error found
  | .error found, .error other => .error (if other.1 < found.1 then other else found)

/-- Several parts, one after the other. -/
def all : List (Reading α) → Reading (List α)
  | [] => .ok []
  | reading :: rest => (pair reading (all rest)).map fun (a, others) => a :: others

/-- The part, or the fault that counts. -/
def toExcept (reading : Reading α) : Except Fault α := reading.mapError Prod.snd

end Reading

end Footprint.Yaml
