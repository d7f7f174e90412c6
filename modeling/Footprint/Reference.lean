import Footprint.Text.Whole

/-!
# References

An object is referred to by its number or by its name. A text of nothing but digits is a number.
-/

namespace Footprint

/-- What an object is referred to by. -/
inductive Reference where
  | oid (number : Int)
  | name (text : String)
  deriving DecidableEq, Repr

/-- The reference that a text spells. Digit signs that have no place in a number count as digits
here, and then fail to be one. -/
def Reference.ofText (text : String) : Except Error Reference :=
  if !text.isEmpty && text.toList.all Text.isDigitLike then Reference.oid <$> Text.wholeNumber text
  else .ok (.name text)

end Footprint
