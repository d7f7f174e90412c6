import Footprint.Shell.Console
import Footprint.Shell.Layout
import Footprint.Shell.Markup
import Footprint.Text.Lines

/-!
# Tables of the built-in console

Tables with a heavy frame around their heading and a light one around their rows. A column is as
wide as its widest cell, unless the screen is narrower, and each cell has a blank at either side.
The texts of a table are marked texts.
-/

namespace Footprint.Shell

namespace Table

/-- The blanks beside a cell. -/
def padding : Nat := 2

/-- The shown texts of a row. -/
abbrev Row := List (List Char)

/-- The cells of the longest line of a text. -/
def textWidth (text : List Char) : Nat :=
  ((Text.splitLines text).map Text.cells).foldl max 0

/-- The widths of the columns, blanks included, of which all but the first column add a line to the
frame. -/
def columnWidths (rows : List Row) : List Nat :=
  let columns := (rows.map List.length).foldl max 0
  let most := screenWidth - (columns + 1)
  (List.range columns).map fun i =>
    let widest := (rows.map fun row => textWidth (row.getD i [])).foldl max 0
    min most (widest + padding)

/-- A horizontal line of the frame. -/
def rule (left line divider right : Char) (widths : List Nat) : List Char :=
  left :: (List.intercalate [divider] (widths.map fun w => List.replicate w line)) ++ [right]

/-- The lines of a cell, blanks included. -/
def cellLines (width : Nat) (text : List Char) : List (List Char) :=
  (layOut (width - padding) .ellipsis .left text).map fun line => ' ' :: line ++ [' ']

/-- The lines of a row between vertical lines. Cells with fewer lines are filled up. -/
def rowLines (bar : Char) (widths : List Nat) (row : Row) : List (List Char) :=
  let texts := List.zipWith cellLines widths row
  let height := (texts.map List.length).foldl max 1
  (List.range height).map fun i =>
    let parts := List.zipWith (fun width lines => lines.getD i (List.replicate width ' ')) widths
      texts
    bar :: List.intercalate [bar] parts ++ [bar]

/-- The lines of a table. -/
def lines (table : Table) : Except Error (List (List Char)) := do
  let title ← table.title.mapM Markup.render
  let heading ← table.heading.mapM Markup.render
  let rows ← table.rows.mapM fun row => row.mapM Markup.render
  let widths := columnWidths (heading :: rows)
  let total := widths.foldl (· + ·) (widths.length + 1)
  let titleLines := match title with
    | none => []
    | some text => layOut total .fold .center text
  pure (titleLines ++
    [rule '┏' '━' '┳' '┓' widths] ++ rowLines '┃' widths heading ++
    [rule '┡' '━' '╇' '┩' widths] ++ rows.flatMap (rowLines '│' widths) ++
    [rule '└' '─' '┴' '┘' widths])

end Table

end Footprint.Shell
