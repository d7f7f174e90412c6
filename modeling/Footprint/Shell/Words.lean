import Footprint.Error

/-!
# Words of a command line

A command line is split into words at separators. A quotation mark starts a stretch that keeps
separators, up to the same mark; a backslash takes away the meaning of the next character, but
inside quotation marks only that of the mark and of the backslash, and inside apostrophes none. A
quoted stretch may be empty and still makes a word.
-/

namespace Footprint.Shell

/-- What the next character of a command line is read as. -/
inductive Reading where
  /-- Part of the line outside of quoted stretches. -/
  | plain
  /-- Part of a quoted stretch. -/
  | quoted (mark : Char)
  /-- The character after a backslash, inside a quoted stretch if there is a mark. -/
  | escaped (mark : Option Char)
  deriving DecidableEq, Repr

/-- A character between words. -/
def isSeparator (c : Char) : Bool := c == ' ' || c == '\t' || c == '\r' || c == '\n'

/-- A character that starts a quoted stretch. -/
def isMark (c : Char) : Bool := c == '"' || c == '\''

/-- The word read so far, if it is one: it holds something, or part of it was quoted. -/
def finished (word : List Char) (wasQuoted : Bool) : List (List Char) :=
  if word.isEmpty && !wasQuoted then [] else [word]

/-- The words of the rest of a line, the first of which has been begun. -/
def wordsFrom (reading : Reading) (word : List Char) (wasQuoted : Bool) :
    List Char → Except Error (List (List Char))
  | [] =>
    match reading with
    | .plain => .ok (finished word wasQuoted)
    | .quoted _ => .error .quotationOpen
    | .escaped _ => .error .escapeOpen
  | c :: rest =>
    match reading with
    | .plain =>
      if isSeparator c then (finished word wasQuoted ++ ·) <$> wordsFrom .plain [] false rest
      else if isMark c then wordsFrom (.quoted c) word wasQuoted rest
      else if c = '\\' then wordsFrom (.escaped none) word wasQuoted rest
      else wordsFrom .plain (word ++ [c]) wasQuoted rest
    | .quoted mark =>
      if c = mark then wordsFrom .plain word true rest
      else if c = '\\' ∧ mark = '"' then wordsFrom (.escaped (some mark)) word true rest
      else wordsFrom (.quoted mark) (word ++ [c]) true rest
    | .escaped none => wordsFrom .plain (word ++ [c]) wasQuoted rest
    | .escaped (some mark) =>
      let kept := if c = mark ∨ c = '\\' then word else word ++ ['\\']
      wordsFrom (.quoted mark) (kept ++ [c]) wasQuoted rest

/-- The words of a command line. -/
def words (line : String) : Except Error (List String) :=
  (·.map String.ofList) <$> wordsFrom .plain [] false line.toList

end Footprint.Shell
