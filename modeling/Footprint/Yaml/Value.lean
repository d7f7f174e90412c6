import Footprint.Decimal.Double
import Footprint.Error
import Footprint.Text.Whole
import Footprint.Yaml.Node

/-!
# Values of YAML nodes

A quoted scalar is a text. A plain one may be a null, a truth value, a number or a date, each in a
few spellings, and is a text otherwise. A number may be written with underscores, in base two, eight
or sixteen, or in groups of base sixty. Of a mapping that is merged into another one, the entries
stand before those of the other.

Bytes and sets are values too. They come of nodes with a tag, which are not read here
(`Value.ofText`), but a document that was read by other means may hold them.
-/

namespace Footprint.Yaml

/-- What a node denotes. Of a number with a fraction it is only known whether it is zero. -/
inductive Value where
  | null
  | bool (value : Bool)
  | int (value : Int)
  | float (isZero : Bool)
  | text (value : String)
  | bytes (value : List UInt8)
  | date (withTime : Bool)
  | list (items : List Value)
  | set (items : List Value)
  | mapping (entries : List (Value × Value))
  deriving Repr, Inhabited

/-! ### Spellings of numbers -/

/-- Plus or minus at the front. -/
def takeSign : List Char → Bool × List Char
  | '-' :: rest => (true, rest)
  | '+' :: rest => (false, rest)
  | rest => (false, rest)

/-- A digit or an underscore. -/
def isSpacedDigit (c : Char) : Bool := Text.isAsciiDigit c || c == '_'

/-- Digits without the underscores among them. -/
def withoutUnderscores (cs : List Char) : List Char := cs.filter (· ≠ '_')

/-- The value of digits in a base. -/
def digitsIn (base : Nat) (cs : List Char) : Nat :=
  cs.foldl (fun n c => base * n + (hexDigit? c).getD 0) 0

/-- The groups of base sixty after the first one, each of one or two digits below sixty after a
colon, and what follows them. -/
def takeSixties : List Char → List Nat × List Char
  | ':' :: a :: b :: rest =>
    if '0' ≤ a ∧ a ≤ '5' ∧ Text.isAsciiDigit b then
      let (groups, left) := takeSixties rest
      (digitsIn 10 [a, b] :: groups, left)
    else if Text.isAsciiDigit a then
      let (groups, left) := takeSixties (b :: rest)
      (digitsIn 10 [a] :: groups, left)
    else ([], ':' :: a :: b :: rest)
  | [':', a] => if Text.isAsciiDigit a then ([digitsIn 10 [a]], []) else ([], [':', a])
  | rest => ([], rest)

/-- A whole number without its sign, with its digits if they are decimal. -/
inductive Whole where
  | decimal (digits : List Char)
  /-- Groups of base sixty after the first one. -/
  | sixties (digits : List Char) (groups : List Nat)
  | other (value : Nat)
  /-- A base without digits. -/
  | bare (base : Nat)

/-- The whole number that a text without sign spells. -/
def whole? (cs : List Char) : Option Whole :=
  match cs with
  | '0' :: 'b' :: rest =>
    if !rest.isEmpty && rest.all fun c => c == '0' || c == '1' || c == '_' then
      some (inBase 2 rest)
    else none
  | '0' :: 'x' :: rest =>
    if !rest.isEmpty && rest.all fun c => (hexDigit? c).isSome || c == '_' then
      some (inBase 16 rest)
    else none
  | ['0'] => some (.other 0)
  | '0' :: rest =>
    if rest.all fun c => ('0' ≤ c && c ≤ '7') || c == '_' then
      some (.other (digitsIn 8 (withoutUnderscores rest)))
    else none
  | c :: _ =>
    if Text.isAsciiDigit c then
      let digits := withoutUnderscores (cs.takeWhile isSpacedDigit)
      match cs.dropWhile isSpacedDigit with
      | [] => some (.decimal digits)
      | rest =>
        match takeSixties rest with
        | ([], _) => none
        | (groups, []) => some (.sixties digits groups)
        | _ => none
    else none
  | [] => none
where
  /-- Digits of a base with underscores. -/
  inBase (base : Nat) (cs : List Char) : Whole :=
    match withoutUnderscores cs with
    | [] => .bare base
    | digits => .other (digitsIn base digits)

/-- The exponent of a number with a fraction, whose sign may not be left out, if that is all. -/
def isExponent : List Char → Bool
  | [] => true
  | e :: sign :: d :: rest =>
    (e == 'e' || e == 'E') && (sign == '+' || sign == '-') && (d :: rest).all Text.isAsciiDigit
  | _ => false

/-- Is a number that is written with a point zero? -/
def isZeroNumber (cs : List Char) : Bool :=
  match Decimal.readNumber (withoutUnderscores cs) with
  | some (d, _) =>
    match Double.ofDecimal d with
    | .finite _ significand _ => significand == 0
    | _ => false
  | none => false

/-- A number with a fraction: whether it is zero, and how many groups of base sixty follow the first
one. -/
structure Fraction where
  isZero : Bool
  groups : Nat := 0

/-- The number with a fraction that a text spells, its sign taken away. A number that starts with
the point has no sign. -/
def fraction? (hasSign : Bool) (cs : List Char) : Option Fraction :=
  match cs with
  | '.' :: d :: rest =>
    if !hasSign && Text.isAsciiDigit d && isExponent (rest.dropWhile isSpacedDigit) then
      some { isZero := isZeroNumber cs }
    else if [".inf", ".Inf", ".INF"].contains (String.ofList cs) then some { isZero := false }
    else none
  | d :: _ =>
    if Text.isAsciiDigit d then
      let whole := cs.takeWhile isSpacedDigit
      match cs.dropWhile isSpacedDigit with
      | '.' :: rest =>
        if isExponent (rest.dropWhile isSpacedDigit) then some { isZero := isZeroNumber cs }
        else none
      | rest =>
        match takeSixties rest with
        | ([], _) => none
        | (groups, '.' :: places) =>
          if places.all isSpacedDigit then
            some
              { isZero := groups.all (· == 0) && digitsIn 10 (withoutUnderscores whole) == 0 &&
                  isZeroNumber ('0' :: '.' :: places)
                groups := groups.length }
          else none
        | _ => none
    else none
  | [] => none

/-! ### Dates -/

/-- One or two digits at the front, and what follows. -/
def takeTwo : List Char → Option (Nat × List Char)
  | a :: b :: rest =>
    if Text.isAsciiDigit a then
      if Text.isAsciiDigit b then some (digitsIn 10 [a, b], rest)
      else some (digitsIn 10 [a], b :: rest)
    else none
  | [a] => if Text.isAsciiDigit a then some (digitsIn 10 [a], []) else none
  | [] => none

/-- Exactly so many digits at the front, and what follows. -/
def takeDigits (count : Nat) (cs : List Char) : Option (Nat × List Char) :=
  if (cs.take count).length = count ∧ (cs.take count).all Text.isAsciiDigit then
    some (digitsIn 10 (cs.take count), cs.drop count)
  else none

/-- A sign at the front. -/
def takeChar (c : Char) : List Char → Option (List Char)
  | d :: rest => if c = d then some rest else none
  | [] => none

/-- The distance of a time zone in minutes, if that is all. Without a zone there is none, and the
letter stands for none too. -/
def zone? (cs : List Char) : Option Int :=
  match cs.dropWhile fun c => c == ' ' || c == '\t' with
  | [] => if cs.isEmpty then some 0 else none
  | ['Z'] => some 0
  | sign :: rest => do
    if sign ≠ '+' ∧ sign ≠ '-' then none
    let (hours, rest) ← takeTwo rest
    let (minutes, rest) ← if rest.isEmpty then pure (0, []) else takeChar ':' rest >>= takeDigits 2
    if !rest.isEmpty then none
    let distance : Int := 60 * hours + minutes
    pure (if sign = '-' then -distance else distance)

/-- A time of day, with the distance of its zone in minutes. -/
structure Time where
  hour : Nat
  minute : Nat
  second : Nat
  zone : Int

/-- A time of day after a date. -/
def time? (cs : List Char) : Option Time := do
  let start ← match cs with
    | 'T' :: rest | 't' :: rest => some rest
    | c :: _ =>
      if c = ' ' ∨ c = '\t' then some (cs.dropWhile fun d => d == ' ' || d == '\t') else none
    | [] => none
  let (hour, rest) ← takeTwo start
  let (minute, rest) ← takeChar ':' rest >>= takeDigits 2
  let (second, rest) ← takeChar ':' rest >>= takeDigits 2
  let zone ← zone? <| match rest with
    | '.' :: places => places.dropWhile Text.isAsciiDigit
    | _ => rest
  pure { hour, minute, second, zone }

/-- A date with its time of day, if it has one. -/
structure Moment where
  year : Nat
  month : Nat
  day : Nat
  time : Option Time

/-- The date that a text spells. Without a time of day, month and day have two digits. -/
def moment? (cs : List Char) : Option Moment := do
  let (year, rest) ← takeDigits 4 cs
  let rest ← takeChar '-' rest
  let (month, afterMonth) ← takeTwo rest
  let (day, afterDay) ← takeChar '-' afterMonth >>= takeTwo
  if afterDay.isEmpty then
    if cs.length = 10 then pure ⟨year, month, day, none⟩ else none
  else do
    let time ← time? afterDay
    pure ⟨year, month, day, some time⟩

/-- The number of days in a month. -/
def daysIn (year month : Nat) : Nat :=
  if month = 2 then
    if (year % 4 = 0 ∧ year % 100 ≠ 0) ∨ year % 400 = 0 then 29 else 28
  else if [4, 6, 9, 11].contains month then 30
  else 31

/-- The minutes of a day. -/
def dayMinutes : Int := 1440

/-- The complaint about a zone that is a day or more away. The distance is shown in days and seconds
of the day, the latter if there are any. -/
def zoneComplaint (zone : Int) : String :=
  let days := zone / dayMinutes
  let seconds := zone % dayMinutes * 60
  let shown := if seconds = 0 then s!"days={days}" else s!"days={days}, seconds={seconds}"
  "offset must be a timedelta strictly between -timedelta(hours=24) and timedelta(hours=24), " ++
    s!"not datetime.timedelta({shown})."

/-- What is wrong with a date, if anything: with its zone, or else with a part from the year on. -/
def Moment.complaint (m : Moment) : Option String :=
  let zone := match m.time with
    | some time => time.zone
    | none => 0
  if dayMinutes ≤ zone.natAbs then some (zoneComplaint zone)
  else if m.year = 0 then some "year 0 is out of range"
  else if m.month < 1 ∨ 12 < m.month then some "month must be in 1..12"
  else if m.day < 1 ∨ daysIn m.year m.month < m.day then some "day is out of range for month"
  else
    match m.time with
    | none => none
    | some time =>
      if 23 < time.hour then some "hour must be in 0..23"
      else if 59 < time.minute then some "minute must be in 0..59"
      else if 59 < time.second then some "second must be in 0..59"
      else none

/-! ### Scalars -/

/-- The spellings of a null. -/
def nullSpellings : List String := ["", "~", "null", "Null", "NULL"]

/-- The spellings of true. -/
def trueSpellings : List String :=
  ["yes", "Yes", "YES", "true", "True", "TRUE", "on", "On", "ON"]

/-- The spellings of false. -/
def falseSpellings : List String :=
  ["no", "No", "NO", "false", "False", "FALSE", "off", "Off", "OFF"]

/-- The spellings of what is no number. -/
def notNumberSpellings : List String := [".nan", ".NaN", ".NAN"]

/-- The key under which a mapping is merged. -/
def mergeKey : String := "<<"

/-- The key of a default value, which is itself no value. -/
def defaultKey : String := "="

/-- The value of a whole number with its sign. -/
def wholeValue (negative : Bool) : Whole → Except Fault Value
  | .decimal digits => checked digits (digitsIn 10 digits)
  | .sixties digits groups => checked digits (groups.foldl (60 * · + ·) (digitsIn 10 digits))
  | .other n => .ok (.int (signed n))
  | .bare base =>
    .error (.unreadable (.unreadableValue s!"invalid literal for int() with base {base}: ''"))
where
  /-- The number with its sign. -/
  signed (n : Nat) : Int := if negative then -n else n
  /-- The number, unless it has too many decimal digits. -/
  checked (digits : List Char) (n : Nat) : Except Fault Value :=
    if Text.digitLimit < digits.length then .error (.unreadable (.integerTooLong digits.length))
    else .ok (.int (signed n))

/-- The most groups of base sixty after the first one in a number with a fraction: the next power of
sixty is greater than any double. -/
def mostGroups : Nat := 173

/-- The value of a number with a fraction. -/
def fractionValue (found : Fraction) : Except Fault Value :=
  if mostGroups < found.groups then
    .error (.unreadable (.valueOutOfRange "int too large to convert to float"))
  else .ok (.float found.isZero)

/-- What a plain scalar denotes. -/
def plainValue (text : String) : Except Fault Value :=
  let (negative, unsigned) := takeSign text.toList
  if nullSpellings.contains text then .ok .null
  else if trueSpellings.contains text then .ok (.bool true)
  else if falseSpellings.contains text then .ok (.bool false)
  else if text = mergeKey ∨ text = defaultKey then .error .malformed
  else if notNumberSpellings.contains text then .ok (.float false)
  else
    match fraction? (unsigned.length < text.length) unsigned with
    | some found => fractionValue found
    | none =>
      match whole? unsigned with
      | some whole => wholeValue negative whole
      | none =>
        match moment? text.toList with
        | some moment =>
          match moment.complaint with
          | some complaint => .error (.unreadable (.unreadableValue complaint))
          | none => .ok (.date moment.time.isSome)
        | none => .ok (.text text)

/-- What a scalar denotes. -/
def scalarValue (text : String) (plain : Bool) : Except Fault Value :=
  if plain then plainValue text else .ok (.text text)

namespace Value

/-! ### Nodes -/

mutual

/-- What a node denotes. -/
def ofNode : Node → Reading Value
  | .scalar content plain => Reading.ofExcept (scalarValue content plain)
  | .sequence items => Reading.inside ((Reading.all (ofItems items)).map list)
  | .mapping entries =>
    match ofEntries entries with
    | some (merged, own) => Reading.inside ((Reading.all (merged ++ own)).map mapping)
    | none => Reading.inside (Reading.fault .malformed)

/-- What the items of a sequence denote. -/
def ofItems : List Node → List (Reading Value)
  | [] => []
  | item :: rest => ofNode item :: ofItems rest

/-- What the entries of a mapping denote, those that are merged into it and its own, unless
something is merged that has no entries. -/
def ofEntries :
    List (Node × Node) → Option (List (Reading (Value × Value)) × List (Reading (Value × Value)))
  | [] => some ([], [])
  | (key, node) :: rest =>
    match key with
    | .scalar content plain =>
      if plain ∧ content = mergeKey then do
        let found ← mergedEntries node
        let (merged, own) ← ofEntries rest
        pure (found ++ merged, own)
      else do
        let name := if plain ∧ content = defaultKey then .ok (.text content)
          else scalarValue content plain
        let entry := Reading.pair (Reading.ofExcept name) (ofNode node)
        let (merged, own) ← ofEntries rest
        pure (merged, entry :: own)
    -- A sequence or a mapping is no key.
    | _ => do
      let (merged, own) ← ofEntries rest
      pure (merged, Reading.fault .malformed :: own)

/-- The entries that a merged node stands for: those of a mapping, or of several ones, of which the
first counts most and stands last. -/
def mergedEntries : Node → Option (List (Reading (Value × Value)))
  | .mapping entries => do
    let (merged, own) ← ofEntries entries
    pure (merged ++ own)
  | .sequence items => mergedItems items
  | .scalar .. => none

/-- The entries of several merged mappings. -/
def mergedItems : List Node → Option (List (Reading (Value × Value)))
  | [] => some []
  | item :: rest =>
    match item with
    | .mapping entries => do
      let (merged, own) ← ofEntries entries
      let others ← mergedItems rest
      pure (others ++ merged ++ own)
    | _ => none

end

/-- What a text denotes; nothing if it holds no document. -/
def ofText (text : String) : Except Fault Value := do
  match ← Node.ofTokens (tokens text) with
  | none => pure null
  | some node => (ofNode node).toExcept

/-- Does a value count as nothing? -/
def isNothing : Value → Bool
  | null | bool false | int 0 | float true | text "" | bytes [] | list [] | set [] | mapping [] =>
    true
  | _ => false

/-- The name of the kind of a value in messages. -/
def kindName : Value → String
  | null => "NoneType"
  | bool _ => "bool"
  | int _ => "int"
  | float _ => "float"
  | text _ => "str"
  | bytes _ => "bytes"
  | date withTime => if withTime then "datetime.datetime" else "datetime.date"
  | list _ => "list"
  | set _ => "set"
  | mapping _ => "dict"

end Value

end Footprint.Yaml
