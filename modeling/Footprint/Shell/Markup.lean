import Footprint.Error
import Footprint.Text.CharClass
import Footprint.Text.LetterCase

/-!
# Markup of the built-in console

What is printed may hold tags in brackets, which say how the text is to look and are not
shown. A tag that starts with a slash closes an earlier one, and it is an error if there is none. An
odd number of backslashes in front of a tag makes it text; `escape` puts them there, so that a text
is shown as it is. Tags are told apart by their names in small letters; that two names may mean the
same style, and that a tag may ask for more than a style, is left out.
-/

namespace Footprint.Shell.Markup

/-! ### Tags and characters -/

/-- A stretch of marked text: a character, or the inside of a tag with the number of backslashes in
front of it. -/
inductive Token where
  | char (c : Char)
  | tag (slashes : Nat) (inside : List Char)
  deriving DecidableEq, Repr

/-- A character that the inside of a tag starts with. -/
def startsTag (c : Char) : Bool :=
  ('a' ≤ c && c ≤ 'z') || c == '#' || c == '/' || c == '@'

/-- The rest of the inside of a tag up to its closing bracket, and what follows. -/
def readInside : List Char → Option (List Char × List Char)
  | [] => none
  | c :: rest =>
    if c = ']' then some ([], rest)
    else if c = '[' then none
    else (readInside rest).map fun (inside, left) => (c :: inside, left)

/-- A tag at the front with its backslashes, and what follows. -/
def readTag : List Char → Option (Nat × List Char × List Char)
  | '\\' :: rest => (readTag rest).map fun (slashes, inside, left) => (slashes + 1, inside, left)
  | '[' :: c :: rest =>
    if startsTag c then (readInside rest).map fun (inside, left) => (0, c :: inside, left)
    else none
  | _ => none

theorem length_of_readInside {cs inside left : List Char}
    (h : readInside cs = some (inside, left)) : left.length < cs.length := by
  induction cs generalizing inside left with
  | nil => simp [readInside] at h
  | cons c rest ih =>
    simp only [readInside] at h
    split at h
    · simp_all
    · split at h
      · simp at h
      · obtain ⟨⟨inside', left'⟩, hr, he⟩ := Option.map_eq_some_iff.1 h
        have := ih hr
        simp only [Prod.mk.injEq] at he
        rw [List.length_cons, ← he.2]
        omega

theorem length_of_readTag {cs : List Char} {slashes : Nat} {inside left : List Char}
    (h : readTag cs = some (slashes, inside, left)) : left.length < cs.length := by
  fun_induction readTag cs generalizing slashes inside left with
  | case1 rest ih =>
    obtain ⟨⟨n, i, l⟩, hr, he⟩ := Option.map_eq_some_iff.1 h
    have := ih hr
    simp only [Prod.mk.injEq] at he
    rw [List.length_cons, ← he.2.2]
    omega
  | case2 c rest hc =>
    obtain ⟨⟨i, l⟩, hr, he⟩ := Option.map_eq_some_iff.1 h
    have := length_of_readInside hr
    simp only [Prod.mk.injEq] at he
    rw [List.length_cons, List.length_cons, ← he.2.2]
    omega
  | case3 => simp at h
  | case4 => simp at h

/-- The tags of a text and the characters between them. -/
def scan (cs : List Char) : List Token :=
  match _found : readTag cs with
  | some (slashes, inside, left) => .tag slashes inside :: scan left
  | none =>
    match cs with
    | [] => []
    | c :: rest => .char c :: scan rest
termination_by cs.length
decreasing_by
  · exact length_of_readTag ‹_›
  · simp

/-! ### Escaping -/

/-- A stretch as it is written so that it is shown as text: each backslash before a tag is doubled
and one more makes the tag text. -/
def Token.escaped : Token → List Char
  | char c => [c]
  | tag slashes inside =>
    List.replicate (2 * slashes + 1) '\\' ++ '[' :: inside ++ [']']

/-- A text with a single backslash at its end has it doubled. -/
def closeEscape (cs : List Char) : List Char :=
  match cs.reverse with
  | '\\' :: '\\' :: _ => cs
  | '\\' :: _ => cs ++ ['\\']
  | _ => cs

/-- A text as it is written so that no tag is read in it. -/
def escape (text : String) : String :=
  String.ofList (closeEscape ((scan text.toList).flatMap Token.escaped))

/-! ### Showing -/

/-- The name of a tag, before its parameters. -/
def tagName (inside : List Char) : List Char := inside.takeWhile (· ≠ '=')

/-- A name by which tags are told apart. -/
def tagKey (name : List Char) : String := Text.lower (String.ofList (Text.trimBlank name))

/-- The number of characters that a stretch is written with. -/
def Token.width : Token → Nat
  | char _ => 1
  | tag slashes inside => slashes + inside.length + 2

/-- The open tags, innermost first, after a tag at a position. -/
def applyTag (position : Nat) (inside : List Char) (opened : List String) :
    Except Error (List String) :=
  match tagName inside with
  | '/' :: name =>
    if (Text.trimBlank name).isEmpty then
      match opened with
      | [] => .error (.nothingToClose position)
      | _ :: others => .ok others
    else
      let key := tagKey name
      if key ∈ opened then .ok (opened.erase key)
      else .error (.unopenedTag (String.ofList inside) position)
  | name => .ok (tagKey name :: opened)

/-- What is shown of the rest of a marked text. A backslash right before a bracket that starts no
tag is not shown. -/
def showTokens (position : Nat) (opened : List String) : List Token → Except Error (List Char)
  | [] => .ok []
  | .char '\\' :: .char '[' :: rest => ('[' :: ·) <$> showTokens (position + 2) opened rest
  | .char c :: rest => (c :: ·) <$> showTokens (position + 1) opened rest
  | .tag slashes inside :: rest => do
    let next := position + Token.width (.tag slashes inside)
    let literal := List.replicate (slashes / 2) '\\'
    if slashes % 2 = 1 then
      let shown ← showTokens next opened rest
      pure (literal ++ '[' :: inside ++ ']' :: shown)
    else
      let opened ← applyTag (position + slashes) inside opened
      let shown ← showTokens next opened rest
      pure (literal ++ shown)

/-- A control character that is not shown. -/
def isControl (c : Char) : Bool :=
  c == '\x07' || c == '\x08' || c == '\x0b' || c == '\x0c' || c == '\r'

/-- What is shown of a marked text. -/
def render (text : String) : Except Error (List Char) :=
  (·.filter (!isControl ·)) <$> showTokens 0 [] (scan text.toList)

end Footprint.Shell.Markup
