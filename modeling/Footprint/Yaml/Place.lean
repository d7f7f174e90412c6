import Footprint.Text.CharClass
import Footprint.Yaml.Fault

/-!
# Places in a YAML text

A place is what is left of a text together with its line and column, both counted from zero. Scalars
are read here: a plain one up to the first character that ends it, a quoted one up to its mark. Both
may go over several lines; a single line break in them is a blank, and each further one stays.
-/

namespace Footprint.Yaml

/-- What is left of a text, and where it starts. -/
structure Place where
  rest : List Char
  index : Nat := 0
  line : Nat := 0
  column : Nat := 0
  deriving Repr

/-- A character that ends a line. -/
def isBreak (c : Char) : Bool :=
  c == '\n' || c.toNat == 0x85 || c.toNat == 0x2028 || c.toNat == 0x2029

/-- A mark of the order of bytes, which takes no column. -/
def byteOrderMark : Char := Char.ofNat 0xFEFF

/-- Is this a blank, the end of a line or the end of the text? -/
def isGap : Option Char → Bool
  | none => true
  | some c => c == ' ' || c == '\t' || isBreak c

namespace Place

/-- The next character. -/
def peek (p : Place) : Option Char := p.rest.head?

/-- The character after so many others. -/
def peekAt (p : Place) (n : Nat) : Option Char := p.rest[n]?

/-- The place after the next character. -/
def next (p : Place) : Place :=
  match p.rest with
  | [] => p
  | c :: rest =>
    if isBreak c then ⟨rest, p.index + 1, p.line + 1, 0⟩
    else if c = byteOrderMark then { p with rest, index := p.index + 1 }
    else ⟨rest, p.index + 1, p.line, p.column + 1⟩

/-- The place after so many characters. -/
def skip (p : Place) : Nat → Place
  | 0 => p
  | n + 1 => p.next.skip n

/-- The place after all characters of a kind. -/
def skipWhile (p : Place) (f : Char → Bool) : Place := p.skip (p.rest.takeWhile f).length

/-- The line break as which a character counts. -/
def breakAs (c : Char) : Char := if c.toNat == 0x2028 || c.toNat == 0x2029 then c else '\n'

/-- Does a line that starts or ends a document stand here? -/
def atDocumentLine (p : Place) : Bool :=
  (p.rest.take 3 == ['-', '-', '-'] || p.rest.take 3 == ['.', '.', '.']) && isGap (p.peekAt 3)

end Place

/-- What line breaks stand for inside a scalar, the first of them and the further ones. -/
def foldedBreaks (first : Char) (others : List Char) : List Char :=
  if first ≠ '\n' then first :: others
  else if others.isEmpty then [' ']
  else others

/-! ### Plain scalars -/

/-- A stretch of a plain scalar at the front: up to a blank, up to a colon that ends it, and inside
brackets up to any of their signs. -/
def plainStretch (inFlow : Bool) : List Char → List Char
  | [] => []
  | c :: rest =>
    let afterColon := rest.head?
    if isGap (some c) then []
    else if c = ':' ∧ (isGap afterColon ∨
        (inFlow ∧ afterColon.any fun d => [',', '[', ']', '\x7b', '\x7d'].contains d)) then []
    else if inFlow ∧ [',', '?', '[', ']', '\x7b', '\x7d'].contains c then []
    else c :: plainStretch inFlow rest

/-- The further line breaks after one inside a plain scalar, and the place after them; none if the
document ends there. -/
def plainBreaks : Nat → Place → Option (List Char) × Place
  | 0, p => (some [], p)
  | fuel + 1, p =>
    match p.peek with
    | some c =>
      if c = ' ' then plainBreaks fuel p.next
      else if isBreak c then
        let after := p.next
        if after.atDocumentLine then (none, after)
        else
          let (breaks, last) := plainBreaks fuel after
          (breaks.map (Place.breakAs c :: ·), last)
      else (some [], p)
    | none => (some [], p)

/-- What stands between two stretches of a plain scalar, the place after it, and whether a line
ended there. -/
def plainGap (p : Place) : List Char × Place × Bool :=
  let blanks := p.rest.takeWhile (· == ' ')
  let after := p.skip blanks.length
  match after.peek with
  | some c =>
    if isBreak c then
      let start := after.next
      if start.atDocumentLine then ([], start, true)
      else
        match plainBreaks start.rest.length start with
        | (none, last) => ([], last, true)
        | (some breaks, last) => (foldedBreaks (Place.breakAs c) breaks, last, true)
    else (blanks, after, false)
  | none => (blanks, after, false)

/-- The rest of a plain scalar after a gap, the place after it, and whether a line ended there. A
scalar outside of brackets goes on only on lines that are indented. -/
def plainFrom (inFlow : Bool) (indent : Int) :
    Nat → List Char → Bool → Place → List Char × Place × Bool
  | 0, _, lineEnded, p => ([], p, lineEnded)
  | fuel + 1, gap, lineEnded, p =>
    let stretch := if p.peek = some '#' then [] else plainStretch inFlow p.rest
    if stretch.isEmpty then ([], p, lineEnded)
    else
      let (next, after, ended) := plainGap (p.skip stretch.length)
      if next.isEmpty ∨ after.peek = some '#' ∨ (!inFlow ∧ after.column < indent) then
        (gap ++ stretch, after, ended)
      else
        let (more, last, ended) := plainFrom inFlow indent fuel next ended after
        (gap ++ stretch ++ more, last, ended)

/-! ### Quoted scalars -/

/-- The characters that are escaped by one letter. -/
def escapedLetters : List (Char × Nat) :=
  [('0', 0x00), ('a', 0x07), ('b', 0x08), ('t', 0x09), ('\t', 0x09), ('n', 0x0A), ('v', 0x0B),
    ('f', 0x0C), ('r', 0x0D), ('e', 0x1B), (' ', 0x20), ('"', 0x22), ('\\', 0x5C), ('/', 0x2F),
    ('N', 0x85), ('_', 0xA0), ('L', 0x2028), ('P', 0x2029)]

/-- The letters that are followed by the number of a character, with the count of its digits. -/
def escapedNumbers : List (Char × Nat) := [('x', 2), ('u', 4), ('U', 8)]

/-- The value of a digit in base sixteen. -/
def hexDigit? (c : Char) : Option Nat :=
  if '0' ≤ c ∧ c ≤ '9' then some (c.toNat - '0'.toNat)
  else if 'a' ≤ c ∧ c ≤ 'f' then some (c.toNat - 'a'.toNat + 10)
  else if 'A' ≤ c ∧ c ≤ 'F' then some (c.toNat - 'A'.toNat + 10)
  else none

/-- The line breaks after one inside a quoted scalar, and the place after them. A document may not
end there. -/
def quotedBreaks : Nat → Place → Except Fault (List Char × Place)
  | 0, _ => .error .malformed
  | fuel + 1, p =>
    if p.atDocumentLine then .error .malformed
    else
      let after := p.skipWhile fun c => c == ' ' || c == '\t'
      match after.peek with
      | some c =>
        if isBreak c then
          (quotedBreaks fuel after.next).map fun (breaks, last) =>
            (Place.breakAs c :: breaks, last)
        else .ok ([], after)
      | none => .ok ([], after)

/-- The first number that is that of no character. -/
def characterLimit : Nat := 0x110000

/-- The first number that is too great to be asked for its character. -/
def numberLimit : Nat := 0x80000000

/-- The character of a number. -/
def character (n : Nat) : Except Fault Char :=
  if numberLimit ≤ n then
    .error (.unreadable (.valueOutOfRange "Python int too large to convert to C int"))
  else if characterLimit ≤ n then
    .error (.unreadable (.unreadableValue "chr() arg not in range(0x110000)"))
  else .ok (Char.ofNat n)

/-- An escaped character after its backslash, and the place after it. An escaped line break stands
for the further line breaks only. -/
def quotedEscape (p : Place) : Except Fault (List Char × Place) :=
  match p.peek with
  | none => .error .malformed
  | some c =>
    match escapedLetters.lookup c with
    | some n => .ok ([Char.ofNat n], p.next)
    | none =>
      match escapedNumbers.lookup c with
      | some count =>
        match (p.next.rest.take count).mapM hexDigit? with
        | some digits => do
          if digits.length < count then throw .malformed
          let found ← character (digits.foldl (16 * · + ·) 0)
          pure ([found], p.next.skip count)
        | none => .error .malformed
      | none =>
        if isBreak c then quotedBreaks (p.rest.length + 1) p.next else .error .malformed

/-- The rest of a quoted scalar up to its mark, and the place after it. -/
def quotedFrom (mark : Char) : Nat → Place → Except Fault (List Char × Place)
  | 0, _ => .error .malformed
  | fuel + 1, p => do
    let some c := p.peek | throw .malformed
    if c = mark then
      if mark = '\'' ∧ p.peekAt 1 = some '\'' then
        let (more, last) ← quotedFrom mark fuel (p.skip 2)
        pure ('\'' :: more, last)
      else pure ([], p.next)
    else if c = '\\' ∧ mark = '"' then
      let (found, after) ← quotedEscape p.next
      let (more, last) ← quotedFrom mark fuel after
      pure (found ++ more, last)
    else if isGap (some c) then
      let blanks := p.rest.takeWhile fun d => d == ' ' || d == '\t'
      let after := p.skip blanks.length
      let some d := after.peek | throw .malformed
      if isBreak d then
        let (breaks, start) ← quotedBreaks (p.rest.length + 1) after.next
        let (more, last) ← quotedFrom mark fuel start
        pure (foldedBreaks (Place.breakAs d) breaks ++ more, last)
      else
        let (more, last) ← quotedFrom mark fuel after
        pure (blanks ++ more, last)
    else
      let (more, last) ← quotedFrom mark fuel p.next
      pure (c :: more, last)

end Footprint.Yaml
