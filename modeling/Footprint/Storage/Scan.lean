import Footprint.Error
import Footprint.Storage.Tree
import Footprint.Warning

/-!
# Scans

A scan asks the storage about files and directories below a data directory. It keeps account of its
activity, the requests it made and the warnings it gave, and it can be called off: a watch names the
request during which that happens, which itself is still answered, and the scan ends at the next
checkpoint.
-/

namespace Footprint.Storage

/-- One request to the storage. -/
inductive Call where
  | stat (path : String)
  | list (path : String)
  deriving DecidableEq, Repr

/-- What a scan has done so far, in order. -/
structure Activity where
  calls : List Call
  warnings : List Warning
  deriving DecidableEq, Repr, Inhabited

/-- Nothing done yet. -/
def Activity.none : Activity := ⟨[], []⟩

/-- When a scan is called off: during the request with the given number, where zero is before the
start; and what is said then. -/
structure Watch where
  moment : Nat
  reason : String
  deriving DecidableEq, Repr

/-- What a scan looks at. -/
structure View where
  tree : Tree
  /-- The directory below which all paths lie. -/
  root : String
  watch : Option Watch

/-- A computation on a view that keeps account of its activity. -/
abbrev Scan := ReaderT View (ExceptT Error (StateM Activity))

namespace Scan

/-- Runs a scan from the start. -/
def start {α : Type} (scan : Scan α) (view : View) : Except Error α × Activity :=
  (scan.run view).run.run .none

/-- Is the scan called off once so many requests were made? -/
def isCalledOff (watch : Watch) (activity : Activity) : Bool :=
  watch.moment ≤ activity.calls.length

/-- A result as a step of a scan. -/
def ofExcept {α : Type} : Except Error α → Scan α
  | .ok a => pure a
  | .error e => throw e

/-- Ends the scan if it has been called off. -/
def checkpoint : Scan Unit := do
  match (← read).watch with
  | none => pure ()
  | some watch => if isCalledOff watch (← get) then throw (.canceled watch.reason)

/-- Gives a warning. -/
def warn (warning : Warning) : Scan Unit :=
  modify fun activity => { activity with warnings := activity.warnings ++ [warning] }

/-- Notes a request. -/
def note (call : Call) : Scan Unit :=
  modify fun activity => { activity with calls := activity.calls ++ [call] }

/-- The error of a fault that struck while something was done with a path. -/
def failed (action : StorageAction) (path : String) : Fault → Error
  | .absent reason | .failure reason => .storage action path reason
  | .interrupt => .interrupted

/-- An answer of the storage, where absence is not an error. -/
def answered {α : Type} (action : StorageAction) (path : String) :
    Except Fault α → Except Error (Option α)
  | .ok found => .ok (some found)
  | .error (.absent _) => .ok none
  | .error fault => .error (failed action path fault)

/-- What is known of a file, if it is there. -/
def stat (path : String) : Scan (Option FileStat) := do
  note (.stat path)
  let view ← read
  ofExcept (answered .stat path (view.tree.stat (joinPath view.root path)))

/-- What a directory lists, if it is there. The names are read one by one, so that a fault in
reading counts only once all names before it are done with. -/
def list (path : String) : Scan (Option Listing) := do
  note (.list path)
  let view ← read
  ofExcept (answered .openDirectory path (view.tree.list (joinPath view.root path)))

/-- Ends a listing: a fault that struck while its names were read is an error now. -/
def finish (path : String) (listing : Listing) : Scan Unit :=
  match listing.fault with
  | some fault => throw (failed .readDirectory path fault)
  | none => pure ()

end Scan

end Footprint.Storage
