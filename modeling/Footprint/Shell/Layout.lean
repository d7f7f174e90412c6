import Footprint.Text.Cells

/-!
# Lines within a width

A text is laid out in lines of at most a given number of cells. A line is broken before a word that
does not fit any more; a word that is longer than a line is either chopped or left to be cut. A word
here includes the blanks after it, which may stand beyond the width and are then dropped.
-/

namespace Footprint.Shell

open Text (cells cellWidth isBlank)

/-- The width of the screen in cells. -/
def screenWidth : Nat := 1000

/-- The distance of tab stops, in cells. -/
def tabStop : Nat := 8

/-- The lines of a text. -/
def textLines : List Char → List (List Char)
  | [] => [[]]
  | c :: rest =>
    if c = '\n' then [] :: textLines rest
    else
      match textLines rest with
      | [] => [[c]]
      | line :: others => (c :: line) :: others

/-- The text of a line with blanks for its tabs, from a position on. -/
def expandTabs (position : Nat) : List Char → List Char
  | [] => []
  | c :: rest =>
    if c = '\t' then
      let blanks := tabStop - position % tabStop
      List.replicate blanks ' ' ++ expandTabs (position + blanks) rest
    else c :: expandTabs (position + cellWidth c) rest

/-! ### Words -/

/-- A word at the front, with the blanks around it, and what follows. -/
def takeWord (cs : List Char) : List Char × List Char :=
  let afterLead := cs.dropWhile isBlank
  let afterBody := afterLead.dropWhile (!isBlank ·)
  let left := afterBody.dropWhile isBlank
  (cs.take (cs.length - left.length), left)

/-- The words of a line, which make up the line. What is blank throughout has none. -/
def lineWords (cs : List Char) : List (List Char) :=
  match _found : cs.dropWhile isBlank with
  | [] => []
  | _ :: _ => (takeWord cs).1 :: lineWords (takeWord cs).2
termination_by cs.length
decreasing_by
  have hlead := (List.dropWhile_sublist isBlank (l := cs)).length_le
  have hleft := (List.dropWhile_sublist isBlank
    (l := (cs.dropWhile isBlank).dropWhile (!isBlank ·))).length_le
  rename_i c rest
  have hc : isBlank c = false := by
    have := List.head?_dropWhile_not isBlank cs
    rw [_found] at this
    simpa using this
  have hshort : ((cs.dropWhile isBlank).dropWhile (!isBlank ·)).length <
      (cs.dropWhile isBlank).length := by
    rw [_found, List.dropWhile_cons]
    simp only [hc, Bool.not_false, if_true, List.length_cons]
    exact Nat.lt_succ_of_le (List.dropWhile_sublist _).length_le
  simp only [takeWord]
  omega

/-- A text chopped into stretches of at most a width. The first part of the result is what the first
stretch adds to the `used` cells of a line. -/
def chop (width used : Nat) : List Char → List Char × List (List Char)
  | [] => ([], [])
  | c :: rest =>
    if width < used + cellWidth c then
      let (first, others) := chop width (cellWidth c) rest
      ([], (c :: first) :: others)
    else
      let (first, others) := chop width (used + cellWidth c) rest
      (c :: first, others)

/-! ### Breaking lines -/

/-- What becomes of a word that is longer than a line. -/
inductive Overflow where
  /-- It is chopped. -/
  | fold
  /-- It keeps to its line, which is cut and marked. -/
  | ellipsis
  deriving DecidableEq, Repr

/-- Lines being broken: those that are done, last first, and the one at hand with its cells. -/
structure Breaking where
  done : List (List Char) := []
  line : List Char := []
  used : Nat := 0
  deriving DecidableEq, Repr

namespace Breaking

/-- Starts a new line, unless nothing has been laid out yet. -/
def newLine (b : Breaking) : Breaking :=
  if b.done.isEmpty ∧ b.line.isEmpty then b else ⟨b.line :: b.done, [], 0⟩

/-- Starts a new line with a text. -/
def start (b : Breaking) (text : List Char) : Breaking :=
  { b.newLine with line := text, used := cells text }

/-- Lays out one more word. -/
def add (width : Nat) (overflow : Overflow) (b : Breaking) (word : List Char) : Breaking :=
  let needed := cells (word.reverse.dropWhile isBlank).reverse
  if b.used + needed ≤ width then
    { b with line := b.line ++ word, used := b.used + cells word }
  else if needed ≤ width then b.start word
  else
    match overflow with
    | .ellipsis => b.start word
    | .fold =>
      let (first, others) := chop width 0 word
      (first :: others).foldl start b

end Breaking

/-- A line broken into lines of a width. -/
def breakLine (width : Nat) (overflow : Overflow) (line : List Char) : List (List Char) :=
  match lineWords line with
  | [] => [line]
  | words =>
    let b := words.foldl (Breaking.add width overflow) {}
    (b.line :: b.done).reverse

/-! ### Fitting lines -/

/-- A line without the blanks at its end that stand beyond a number of characters. -/
def dropExcess (width : Nat) (line : List Char) : List Char :=
  let blanks := (line.reverse.takeWhile isBlank).length
  line.take (line.length - min blanks (line.length - width))

/-- As much of a text as fits in the given cells; half of a wide character is a blank. -/
def cut (width : Nat) : List Char → List Char
  | [] => []
  | c :: rest =>
    if cellWidth c ≤ width then c :: cut (width - cellWidth c) rest
    else List.replicate width ' '

/-- The mark of a line that was cut. -/
def cutMark : Char := '…'

/-- A line that is not wider than it may be. -/
def fit (width : Nat) (overflow : Overflow) (line : List Char) : List Char :=
  if cells line ≤ width then line
  else
    match overflow with
    | .fold => cut width line
    | .ellipsis => cut (width - 1) line ++ [cutMark]

/-- How a line stands within its width. -/
inductive Alignment where
  /-- From the left, not filled up. -/
  | ragged
  /-- From the left, filled up with blanks. -/
  | left
  /-- In the middle, filled up with blanks on both sides. -/
  | center
  deriving DecidableEq, Repr

/-- A line as it stands within a width. -/
def align (width : Nat) (overflow : Overflow) (alignment : Alignment) (line : List Char) :
    List Char :=
  match alignment with
  | .ragged => fit width overflow line
  | .left => Text.padCells width (fit width overflow line)
  | .center =>
    let text := fit width overflow (line.reverse.dropWhile isBlank).reverse
    Text.padCells width (List.replicate ((width - cells text) / 2) ' ' ++ text)

/-- A text laid out in lines. -/
def layOut (width : Nat) (overflow : Overflow) (alignment : Alignment) (text : List Char) :
    List (List Char) :=
  (textLines text).flatMap fun line =>
    (breakLine width overflow (expandTabs 0 line)).map fun part =>
      align width overflow alignment (dropExcess width part)

end Footprint.Shell
