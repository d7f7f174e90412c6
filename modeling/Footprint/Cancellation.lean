import Footprint.Error

/-!
# Cancellation

A request that takes long can be canceled, with a reason. It asks from time to time whether it has
been, and then fails with the reason that was given last.
-/

namespace Footprint

/-- Whether a request is canceled, and why. -/
structure Cancellation where
  reason : Option String
  deriving DecidableEq, Repr

namespace Cancellation

/-- Not canceled. -/
def none : Cancellation := ⟨Option.none⟩

/-- Cancels, with a reason if one is given. -/
def cancel (_ : Cancellation) (reason : Option String) : Cancellation :=
  ⟨some (reason.getD defaultCancelReason)⟩

/-- Is the request canceled? -/
def isCanceled (c : Cancellation) : Bool := c.reason.isSome

/-- Fails if the request is canceled. -/
def check (c : Cancellation) : Except Error Unit :=
  match c.reason with
  | some reason => .error (.canceled reason)
  | Option.none => .ok ()

end Cancellation

end Footprint
