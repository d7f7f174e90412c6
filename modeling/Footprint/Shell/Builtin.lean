import Footprint.Shell.Console
import Footprint.Shell.Table

/-!
# The built-in console

The console that the program runs with where no other one is given. It stands for a full console
library as far as the commands of the shell need one: a tag is told from others by its name as it is
written, and styles, colours and links are left out. What is said of the shell is said of any
console.
-/

namespace Footprint.Shell

/-- Lines as they are printed, each ended. -/
def printedLines (lines : List (List Char)) : String :=
  String.ofList (lines.flatMap (· ++ ['\n']))

/-- The built-in console. -/
def Console.builtin : Console where
  text marked := do
    pure (printedLines (layOut screenWidth .fold .ragged (← Markup.render marked)))
  table table := printedLines <$> table.lines
  escape := Markup.escape

end Footprint.Shell
