import Footprint.Error
import Footprint.Text.Quoted

/-!
# Whole numbers as text

A whole number is written in digits of any script, with an optional sign, between blanks, and single
underscores may stand between its digits. Longer numbers than `digitLimit` are not read.
-/

namespace Footprint.Text

/-- The most digits that a number may be written with. -/
def digitLimit : Nat := 4300

/-- The complaint about a number that has too many digits to be written. -/
def numberTooLong : Error :=
  .unreadableValue ("Exceeds the limit (4300 digits) for integer string conversion; " ++
    "use sys.set_int_max_str_digits() to increase the limit")

/-- A blank around a number: the six of ASCII, where the separators of records are none, and all
blanks beyond ASCII. -/
def isNumberBlank (c : Char) : Bool :=
  c == ' ' || ('\t' ≤ c && c ≤ '\r') || (128 ≤ c.toNat && isBlank c)

/-- The most characters of a text that are shown when it is no number, the marks around it counted
in. -/
def shownLimit : Nat := 200

/-- The complaint about a text that is no number. -/
def notWhole (s : String) : Error :=
  .integerSyntax (String.ofList ((quoted s).toList.take shownLimit))

/-- Does a digit stand at the front? -/
def startsWithDigit : List Char → Bool
  | c :: _ => (digitValue? c).isSome
  | [] => false

/-- The digits at the front, single underscores between them skipped, and the rest. -/
def takeNumber (afterDigit : Bool) : List Char → List Nat × List Char
  | [] => ([], [])
  | c :: cs =>
    match digitValue? c with
    | some n =>
      let (ns, left) := takeNumber true cs
      (n :: ns, left)
    | none =>
      if c = '_' && afterDigit && startsWithDigit cs then takeNumber false cs else ([], c :: cs)

/-- The whole number that a text denotes. -/
def wholeNumber (s : String) : Except Error Int :=
  let trimmed := ((s.toList.dropWhile isNumberBlank).reverse.dropWhile isNumberBlank).reverse
  let (negative, signless) : Bool × List Char := match trimmed with
    | '-' :: rest => (true, rest)
    | '+' :: rest => (false, rest)
    | rest => (false, rest)
  let (ns, left) := takeNumber false signless
  if left.head? = some '_' then .error (notWhole s)
  else if digitLimit < ns.length then .error (.integerTooLong ns.length)
  else if ns.isEmpty || !left.isEmpty then .error (notWhole s)
  else
    let magnitude : Nat := ns.foldl (10 * · + ·) 0
    .ok (if negative then -magnitude else magnitude)

end Footprint.Text
