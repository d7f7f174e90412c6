import Footprint.Storage.Path
import Footprint.Storage.Scan

/-!
# Measuring files and directories

The size of a fork is the sum over its segments, which are numbered without a gap. The size of a
directory is the sum over what it lists, not going deeper, and the size of a tablespace that of its
root and one level more. Something that is not there counts nothing, whereas any other failure ends
the measurement.
-/

namespace Footprint.Storage

/-! ### Segments -/

/-- The size of the segments from a number on, looking at most at so many. -/
def segmentsFrom (base : String) : Nat → Nat → Scan Nat
  | 0, _ => pure 0
  | most + 1, segment => do
    Scan.checkpoint
    match ← Scan.stat (segmentPath base segment) with
    | none => pure 0
    | some found => do
      let rest ← segmentsFrom base most (segment + 1)
      pure (found.size + rest)

/-- The size of the segments from the first one up to the first gap. No more segments are there than
the tree has entries, so one more look finds a gap. -/
def segmentChainSize (base : String) : Scan Nat := do
  segmentsFrom base ((← read).tree.size + 1) 0

/-- The size of a fork of an object. -/
def forkSize (version : String) (locator : Locator) (backend : Int) (fork : Fork) : Scan Nat :=
  Scan.ofExcept (forkPath version locator backend fork) >>= segmentChainSize

/-! ### Directories -/

/-- The size of an entry of a directory; nothing, with a warning, if it has vanished. -/
def entryStat (path : String) : Scan (Option FileStat) := do
  Scan.checkpoint
  let found ← Scan.stat path
  if found.isNone then Scan.warn (.vanished path)
  pure found

/-- The sizes of the entries of a directory. -/
def entriesSize (directory : String) : List String → Scan Nat
  | [] => pure 0
  | name :: rest => do
    let found ← entryStat s!"{directory}/{name}"
    let others ← entriesSize directory rest
    pure ((found.map FileStat.size).getD 0 + others)

/-- The size of what a directory lists; nothing if there is no directory. -/
def directorySize (path : String) : Scan Nat := do
  match ← Scan.list path with
  | none => pure 0
  | some listing => do
    let size ← entriesSize path listing.names
    Scan.finish path listing
    pure size

/-- The size of an entry of the root of a tablespace; a directory counts with what it lists. -/
def rootEntrySize (path : String) : Scan Nat := do
  match ← entryStat path with
  | none => pure 0
  | some found =>
    if found.isDirectory then (· + found.size) <$> directorySize path else pure found.size

/-- The sizes of the entries of the root of a tablespace. -/
def rootEntriesSize (root : String) : List String → Scan Nat
  | [] => pure 0
  | name :: rest => do
    let size ← rootEntrySize s!"{root}/{name}"
    let others ← rootEntriesSize root rest
    pure (size + others)

/-- The size of a tablespace, if its root is there. -/
def tablespaceRootSize (root : String) : Scan (Option Nat) := do
  match ← Scan.list root with
  | none => pure none
  | some listing => do
    let size ← rootEntriesSize root listing.names
    Scan.finish root listing
    pure (some size)

end Footprint.Storage
