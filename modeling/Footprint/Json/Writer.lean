import Footprint.Datum

/-!
# Writing JSON

A value is written over several lines: each item of a list and each field of a record on a line of
its own, two blanks further in than the brackets around it. An empty list or record is a pair of
brackets. Characters beyond ASCII stand for themselves.

`render` is the text of a value, without a limit on the digits of its integers. `dump` writes the
same text piece by piece and stops at an integer that has too many digits; what was written before
it stays.
-/

namespace Footprint.Json

/-- One character of a text: quotation mark, backslash and controls are escaped. -/
def escapeChar (c : Char) : List Char :=
  if c = '"' then ['\\', '"']
  else if c = '\\' then ['\\', '\\']
  else if c = '\n' then ['\\', 'n']
  else if c = '\r' then ['\\', 'r']
  else if c = '\t' then ['\\', 't']
  else if c = '\x0c' then ['\\', 'f']
  else if c = '\x08' then ['\\', 'b']
  else if c.toNat < 0x20 then '\\' :: 'u' :: Text.hexDigits 4 c.toNat
  else [c]

/-- A text between quotation marks. -/
def writeText (s : String) : List Char := '"' :: s.toList.flatMap escapeChar ++ ['"']

/-- A number that need not be whole. -/
def writeDouble : Double → List Char
  | .nan => "NaN".toList
  | .infinite negative => (if negative then "-Infinity" else "Infinity").toList
  | x => x.text.toList

/-- The start of a line, `level` steps in. -/
def newline (level : Nat) : List Char := '\n' :: List.replicate (2 * level) ' '

mutual

/-- A value whose brackets stand on lines `level` steps in. -/
def write (level : Nat) : Datum → List Char
  | .null => "null".toList
  | .bool value => (if value then "true" else "false").toList
  | .int value => (toString value).toList
  | .float value => writeDouble value
  | .text value => writeText value
  | .list [] => ['[', ']']
  | .list (item :: rest) =>
    '[' :: newline (level + 1) ++ write (level + 1) item ++ writeItems (level + 1) rest ++
      newline level ++ [']']
  | .record [] => ['\x7b', '\x7d']
  | .record ((name, value) :: rest) =>
    '\x7b' :: newline (level + 1) ++ writeText name ++ ':' :: ' ' :: write (level + 1) value ++
      writeFields (level + 1) rest ++ newline level ++ ['\x7d']

/-- The items of a list after the first. -/
def writeItems (level : Nat) : List Datum → List Char
  | [] => []
  | item :: rest => ',' :: newline level ++ write level item ++ writeItems level rest

/-- The fields of a record after the first. -/
def writeFields (level : Nat) : List (String × Datum) → List Char
  | [] => []
  | (name, value) :: rest =>
    ',' :: newline level ++ writeText name ++ ':' :: ' ' :: write level value ++
      writeFields level rest

end

/-- The text of a value, whose integers may have any number of digits. -/
def render (value : Datum) : String := String.ofList (write 0 value)

/-! ### Writing piece by piece -/

/-- The number of digits that an integer is written with. -/
def digits (n : Int) : Nat := (Nat.toDigits 10 n.natAbs).length

/-- What has been written of a value: all of it, or what there is of it before an integer that has
too many digits. -/
inductive Written where
  | whole (text : List Char)
  | cut (text : List Char)
  deriving DecidableEq, Repr

namespace Written

/-- With a text in front that is already there. -/
def behind (front : List Char) : Written → Written
  | whole text => whole (front ++ text)
  | cut text => cut (front ++ text)

/-- Followed by something else, if it is there as a whole. -/
def followedBy : Written → Written → Written
  | whole text, next => next.behind text
  | cut text, _ => cut text

/-- An item of a list with the text in front of it. An integer is put out together with that text,
so that nothing of either is there if the integer has too many digits. -/
def itemBehind (front : List Char) : Datum → Written → Written
  | .int _, cut _ => cut []
  | _, written => written.behind front

end Written

mutual

/-- Writes a value whose brackets stand on lines `level` steps in, as far as no integer has more
than `limit` digits. -/
def dump (limit level : Nat) : Datum → Written
  | .null => .whole (write level .null)
  | .bool value => .whole (write level (.bool value))
  | .int value => if limit < digits value then .cut [] else .whole (write level (.int value))
  | .float value => .whole (write level (.float value))
  | .text value => .whole (write level (.text value))
  | .list [] => .whole (write level (.list []))
  | .list (item :: rest) =>
    ((dump limit (level + 1) item).itemBehind ('[' :: newline (level + 1)) item).followedBy
      ((dumpItems limit (level + 1) rest).followedBy (.whole (newline level ++ [']'])))
  | .record [] => .whole (write level (.record []))
  | .record ((name, value) :: rest) =>
    ((dump limit (level + 1) value).behind
      ('\x7b' :: newline (level + 1) ++ writeText name ++ [':', ' '])).followedBy
      ((dumpFields limit (level + 1) rest).followedBy (.whole (newline level ++ ['\x7d'])))

/-- Writes the items of a list after the first. -/
def dumpItems (limit level : Nat) : List Datum → Written
  | [] => .whole []
  | item :: rest =>
    ((dump limit level item).itemBehind (',' :: newline level) item).followedBy
      (dumpItems limit level rest)

/-- Writes the fields of a record after the first. -/
def dumpFields (limit level : Nat) : List (String × Datum) → Written
  | [] => .whole []
  | (name, value) :: rest =>
    ((dump limit level value).behind
      (',' :: newline level ++ writeText name ++ [':', ' '])).followedBy
      (dumpFields limit level rest)

end

end Footprint.Json
