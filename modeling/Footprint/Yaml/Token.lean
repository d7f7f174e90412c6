import Footprint.Yaml.Place

/-!
# Tokens of a YAML text

A text is read as tokens: the signs that structure it, and its scalars. Where a block begins or ends
follows from the columns, and whether something is a key is known only at the colon after it: the
token of the key is then put in front of it after the fact. Texts without tags, anchors, directives
and block scalars are read.
-/

namespace Footprint.Yaml

/-- The signs and scalars of a text. -/
inductive Token where
  | documentStart
  | documentEnd
  | sequenceStart
  | mappingStart
  | blockEnd
  | flowSequenceStart
  | flowSequenceEnd
  | flowMappingStart
  | flowMappingEnd
  | flowEntry
  | blockEntry
  | key
  | value
  | scalar (text : String) (plain : Bool)
  /-- The place where the text cannot be read on. -/
  | broken (fault : Fault)
  deriving DecidableEq, Repr

/-- Something that is a key if a colon follows. -/
structure PossibleKey where
  /-- How many brackets are open around it. -/
  depth : Nat
  /-- Its position among the tokens. -/
  position : Nat
  /-- Must it be a key? -/
  required : Bool
  index : Nat
  line : Nat
  column : Nat
  deriving Repr

/-- How far a key may be from its colon. -/
def keyReach : Nat := 1024

/-- A text that has been read up to a place. -/
structure Scanned where
  place : Place
  tokens : List Token := []
  /-- How many brackets are open. -/
  depth : Nat := 0
  /-- The column of the innermost block; none is open at -1. -/
  indent : Int := -1
  /-- The columns of the blocks around it. -/
  outer : List Int := []
  /-- May a key stand here? -/
  keyAllowed : Bool := true
  keys : List PossibleKey := []
  deriving Repr

namespace Scanned

/-- One more token. -/
def push (s : Scanned) (token : Token) : Scanned := { s with tokens := s.tokens ++ [token] }

/-- Reads so many characters as a token. -/
def take (s : Scanned) (count : Nat) (token : Token) : Scanned :=
  { s.push token with place := s.place.skip count }

/-- May a key stand at the next place? -/
def allowKey (s : Scanned) (allowed : Bool) : Scanned := { s with keyAllowed := allowed }

/-! ### Keys -/

/-- Forgets the possible keys that a test picks, none of which may be required. -/
def forgetKeys (s : Scanned) (f : PossibleKey → Bool) : Except Fault Scanned :=
  if s.keys.any fun key => f key && key.required then .error .malformed
  else .ok { s with keys := s.keys.filter (!f ·) }

/-- Forgets the possible key of the current depth. -/
def forgetKey (s : Scanned) : Except Fault Scanned := s.forgetKeys (·.depth == s.depth)

/-- Forgets the possible keys that are too far away. -/
def forgetStale (s : Scanned) : Except Fault Scanned :=
  s.forgetKeys fun key => key.line != s.place.line || key.index + keyReach < s.place.index

/-- Notes that what follows may be a key. -/
def noteKey (s : Scanned) : Except Fault Scanned :=
  if s.keyAllowed then do
    let s ← s.forgetKey
    let key : PossibleKey :=
      { depth := s.depth, position := s.tokens.length,
        required := s.depth == 0 && s.indent == s.place.column, index := s.place.index,
        line := s.place.line, column := s.place.column }
    pure { s with keys := key :: s.keys }
  else pure s

/-! ### Blocks -/

/-- Ends the blocks that stand further right than a column. -/
def closeBlocks (s : Scanned) (column : Int) : Scanned :=
  if s.depth > 0 then s else go s s.outer
where
  /-- Ends blocks, given those around the innermost one. -/
  go (s : Scanned) : List Int → Scanned
    | [] => s
    | outer :: others =>
      if column < s.indent then go { s.push .blockEnd with indent := outer, outer := others } others
      else s

/-- Begins a block at a column, with a token at a position, unless it is open already. -/
def openBlock (s : Scanned) (column : Nat) (position : Nat) (token : Token) : Scanned :=
  if s.indent < column then
    { s with
      indent := column
      outer := s.indent :: s.outer
      tokens := s.tokens.take position ++ token :: s.tokens.drop position }
  else s

/-- Begins a block at the next place. -/
def openBlockHere (s : Scanned) (token : Token) : Scanned :=
  s.openBlock s.place.column s.tokens.length token

/-! ### Steps -/

/-- Skips blanks, comments and line ends. After a line end a key may stand. -/
def skipGaps : Nat → Scanned → Scanned
  | 0, s => s
  | fuel + 1, s =>
    let start := if s.place.index == 0 && s.place.peek == some byteOrderMark then s.place.next
      else s.place
    let blank := start.skipWhile (· == ' ')
    let place := if blank.peek = some '#' then blank.skipWhile (!isBreak ·) else blank
    match place.peek with
    | some c =>
      if isBreak c then
        skipGaps fuel { s with place := place.next, keyAllowed := s.keyAllowed || s.depth == 0 }
      else { s with place }
    | none => { s with place }

/-- Reads the line that starts or ends a document. -/
def readDocumentLine (s : Scanned) (token : Token) : Except Fault Scanned := do
  let s ← (s.closeBlocks (-1)).forgetKey
  pure ((s.allowKey false).take 3 token)

/-- Reads an opening bracket. -/
def readOpening (s : Scanned) (token : Token) : Except Fault Scanned := do
  let s ← s.noteKey
  pure (({ s with depth := s.depth + 1 }.allowKey true).take 1 token)

/-- Reads a closing bracket, for which one has to be open. -/
def readClosing (s : Scanned) (token : Token) : Except Fault Scanned := do
  let s ← s.forgetKey
  if s.depth = 0 then throw .malformed
  pure (({ s with depth := s.depth - 1 }.allowKey false).take 1 token)

/-- Reads the comma between entries in brackets. -/
def readComma (s : Scanned) : Except Fault Scanned := do
  let s ← (s.allowKey true).forgetKey
  pure (s.take 1 .flowEntry)

/-- Reads the dash of an entry. -/
def readDash (s : Scanned) : Except Fault Scanned := do
  if s.depth = 0 ∧ !s.keyAllowed then throw .malformed
  let opened := if s.depth = 0 then s.openBlockHere .sequenceStart else s
  let s ← (opened.allowKey true).forgetKey
  pure (s.take 1 .blockEntry)

/-- Reads the question mark of a key. -/
def readQuestion (s : Scanned) : Except Fault Scanned := do
  if s.depth = 0 ∧ !s.keyAllowed then throw .malformed
  let opened := if s.depth = 0 then s.openBlockHere .mappingStart else s
  let s ← (opened.allowKey (s.depth == 0)).forgetKey
  pure (s.take 1 .key)

/-- Reads the colon of a value. What was noted as a possible key is one. -/
def readColon (s : Scanned) : Except Fault Scanned :=
  match s.keys.find? (·.depth == s.depth) with
  | some key =>
    let marked := { s with
      keys := s.keys.filter (·.depth != s.depth)
      tokens := s.tokens.take key.position ++ Token.key :: s.tokens.drop key.position }
    let opened := if s.depth = 0 then marked.openBlock key.column key.position .mappingStart
      else marked
    pure ((opened.allowKey false).take 1 .value)
  | none => do
    if s.depth = 0 ∧ !s.keyAllowed then throw .malformed
    let opened := if s.depth = 0 then s.openBlockHere .mappingStart else s
    let s ← (opened.allowKey (s.depth == 0)).forgetKey
    pure (s.take 1 .value)

/-- Reads a quoted scalar. -/
def readQuoted (s : Scanned) (mark : Char) : Except Fault Scanned := do
  let s ← s.noteKey
  let (text, place) ← quotedFrom mark (s.place.rest.length + 1) s.place.next
  pure { (s.allowKey false).push (.scalar (String.ofList text) false) with place }

/-- Reads a plain scalar. -/
def readPlain (s : Scanned) : Except Fault Scanned := do
  let s ← s.noteKey
  let (text, place, lineEnded) :=
    plainFrom (s.depth > 0) (s.indent + 1) s.place.rest.length [] false s.place
  pure { (s.allowKey lineEnded).push (.scalar (String.ofList text) true) with place }

/-- Can a plain scalar start here? -/
def startsPlain (s : Scanned) (c : Char) : Bool :=
  let signs := ['-', '?', ':', ',', '[', ']', '\x7b', '\x7d', '#', '&', '*', '!', '|', '>', '\'',
    '"', '%', '@', '\x60']
  (!isGap (some c) && !signs.contains c) ||
    (!isGap (s.place.peekAt 1) && (c == '-' || (s.depth == 0 && (c == '?' || c == ':'))))

/-- Reads the next token, which starts with the given character. -/
def step (s : Scanned) (c : Char) : Except Fault Scanned :=
  let gapNext := isGap (s.place.peekAt 1)
  if s.place.column = 0 ∧ s.place.atDocumentLine then
    s.readDocumentLine (if c = '-' then .documentStart else .documentEnd)
  else
    match c with
    | '[' => s.readOpening .flowSequenceStart
    | '\x7b' => s.readOpening .flowMappingStart
    | ']' => s.readClosing .flowSequenceEnd
    | '\x7d' => s.readClosing .flowMappingEnd
    | ',' => s.readComma
    | _ =>
      if c = '-' ∧ gapNext then s.readDash
      else if c = '?' ∧ (s.depth > 0 ∨ gapNext) then s.readQuestion
      else if c = ':' ∧ (s.depth > 0 ∨ gapNext) then s.readColon
      else if c = '"' ∨ c = '\'' then s.readQuoted c
      else if s.startsPlain c then s.readPlain
      else .error .malformed

/-- Reads up to the next token, or to the end of the text, after which there is nothing to read. -/
def advance (s : Scanned) : Except Fault (Scanned × Bool) := do
  let s ← (skipGaps (s.place.rest.length + 1) s).forgetStale
  let s := s.closeBlocks s.place.column
  match s.place.peek with
  | none =>
    let s ← (s.closeBlocks (-1)).forgetKey
    pure (s, true)
  | some c =>
    let s ← s.step c
    pure (s, false)

/-- The tokens in front of which no further token can be put any more. -/
def settled (s : Scanned) : List Token :=
  match s.forgetStale with
  | .ok s => s.tokens.take (s.keys.foldl (fun least key => min least key.position) s.tokens.length)
  | .error _ => []

/-- Reads the rest of a text. Where it cannot be read on, only the tokens that are settled by then
are known. -/
def finish : Nat → Scanned → List Token
  | 0, s => s.settled
  | fuel + 1, s =>
    match s.advance with
    | .error fault => s.settled ++ [.broken fault]
    | .ok (s, true) => s.tokens
    | .ok (s, false) => finish fuel s

end Scanned

/-- A character that may stand in a text. -/
def isPrintable (c : Char) : Bool :=
  let n := c.toNat
  n == 0x09 || n == 0x0A || n == 0x0D || (0x20 ≤ n && n ≤ 0x7E) || n == 0x85 ||
    (0xA0 ≤ n && n ≤ 0xD7FF) || (0xE000 ≤ n && n ≤ 0xFFFD) || 0x10000 ≤ n

/-- A text with one character for each line end. -/
def unifyBreaks : List Char → List Char
  | [] => []
  | '\r' :: '\n' :: rest => '\n' :: unifyBreaks rest
  | '\r' :: rest => '\n' :: unifyBreaks rest
  | c :: rest => c :: unifyBreaks rest

/-- The tokens of a text. -/
def tokens (text : String) : List Token :=
  let chars := unifyBreaks text.toList
  if chars.all isPrintable then Scanned.finish (chars.length + 1) { place := { rest := chars } }
  else [.broken .malformed]

end Footprint.Yaml
