import Footprint.Storage.Tree
import Footprint.Text.CharClass
import Footprint.Text.Lines

/-!
# Inventories

An inventory is a text that says what lies in a directory, a line for each entry: the letter `d` for
a directory or `f` for a file, its size in bytes, and its path from the directory on, with single
spaces between them. A line of another form says nothing.
-/

namespace Footprint.Storage.Inventory

/-- The value of decimal digits. -/
def number? (digits : List Char) : Option Nat :=
  if digits.isEmpty then none
  else digits.foldlM (fun n c =>
    if Text.isAsciiDigit c then some (10 * n + (c.toNat - '0'.toNat)) else none) 0

/-- The entry that a line describes. -/
def entry? (line : List Char) : Option (List String × Node) := do
  let (isDirectory, rest) ← match line with
    | 'd' :: ' ' :: rest => some (true, rest)
    | 'f' :: ' ' :: rest => some (false, rest)
    | _ => none
  let size ← number? (rest.takeWhile (· ≠ ' '))
  let path ← (rest.dropWhile (· ≠ ' ')).tail?
  pure (pathParts (String.ofList path), { isDirectory, size })

/-- The tree that an inventory describes. -/
def tree (text : String) : Tree :=
  ((Text.splitLines text.toList).filterMap entry?).foldl
    (fun tree (path, node) => tree.place path node) .empty

/-- The directories of a tree. -/
def directories (tree : Tree) : List (List String) :=
  (tree.entries.filter fun entry => entry.2.isDirectory).map Prod.fst

end Footprint.Storage.Inventory
