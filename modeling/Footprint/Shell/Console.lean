import Footprint.Error

/-!
# Consoles

The shell prints marked texts, and tables of them, with a console. Marked texts may hold tags in
brackets, which say how a text is to look. What counts as a tag, which texts cannot be printed, and
what a text looks like when it is, is up to the console.
-/

namespace Footprint.Shell

/-- A table of marked texts. -/
structure Table where
  title : Option String := none
  heading : List String
  rows : List (List String)
  deriving DecidableEq, Repr

/-- What the shell prints with. -/
structure Console where
  /-- A marked text as it is printed. -/
  text : String → Except Error String
  /-- A table as it is printed. -/
  table : Table → Except Error String
  /-- A text as it is written so that no tag is read in it. -/
  escape : String → String

end Footprint.Shell
