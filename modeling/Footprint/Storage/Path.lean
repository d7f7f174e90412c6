import Footprint.Error

/-!
# Paths of stored objects

Where the files of an object lie inside the data directory. An object is located by a tablespace, a
database and a file number. The default tablespace is `base`, the global one `global` and every
other one a version directory below `pg_tblspc`. Each fork of an object is a file of its own, and a
large fork continues in numbered segments beside it. Files of a temporary object bear the number of
the backend that owns it.

Numbers are written with as many digits as they have: that a number of more than `Text.digitLimit`
digits cannot be written is left out here.
-/

namespace Footprint.Storage

/-! ### Forks and persistence -/

/-- The parallel files of one object. -/
inductive Fork where
  | main
  | fsm
  | vm
  | init
  deriving DecidableEq, Repr

namespace Fork

/-- All forks, in the order in which they are visited. -/
def all : List Fork := [main, fsm, vm, init]

/-- The name of a fork. -/
def name : Fork → String
  | main => "main"
  | fsm => "fsm"
  | vm => "vm"
  | init => "init"

/-- The number of a fork. -/
def number : Fork → Nat
  | main => 0
  | fsm => 1
  | vm => 2
  | init => 3

/-- The fork of a name. -/
def ofName (text : String) : Except Error Fork :=
  match all.find? fun fork => fork.name = text with
  | some fork => .ok fork
  | none => .error .unknownFork

/-- The fork of a number. -/
def ofNumber (n : Int) : Except Error Fork :=
  match all.find? fun fork => (fork.number : Int) = n with
  | some fork => .ok fork
  | none => .error (.forkNumber n)

end Fork

/-- How long an object lives: for good, for good but without a log, or as long as its backend. -/
inductive Persistence where
  | permanent
  | unlogged
  | temporary
  deriving DecidableEq, Repr

namespace Persistence

/-- The letter of a persistence. -/
def letter : Persistence → String
  | permanent => "p"
  | unlogged => "u"
  | temporary => "t"

/-- The persistence of a letter. -/
def ofLetter? (text : String) : Option Persistence :=
  [permanent, unlogged, temporary].find? fun p => p.letter = text

end Persistence

/-! ### Places -/

/-- The number of the default tablespace. -/
def defaultTablespace : Int := 1663

/-- The number of the global tablespace, which holds the shared objects. -/
def globalTablespace : Int := 1664

/-- The backend of an object that is not temporary. -/
def noBackend : Int := -1

/-- The version directory of tablespaces unless another is configured. -/
def defaultVersion : String := "PG_17_202406281"

/-- The directory of the default tablespace. -/
def defaultDirectory : String := "base"

/-- The directory of the global tablespace. -/
def globalDirectory : String := "global"

/-- The directory that holds the other tablespaces. -/
def linkDirectory : String := "pg_tblspc"

/-- The place of an object: its tablespace, its database (zero if it is shared) and its file
number. -/
structure Locator where
  tablespace : Int
  database : Int
  file : Int
  deriving DecidableEq, Repr

/-! ### Paths -/

/-- The root directory of a tablespace. -/
def tablespacePath (version : String) (tablespace : Int) : String :=
  if tablespace = defaultTablespace then defaultDirectory
  else if tablespace = globalTablespace then globalDirectory
  else s!"{linkDirectory}/{tablespace}/{version}"

/-- The directory of a database in a tablespace. -/
def databasePath (version : String) (tablespace database : Int) : String :=
  if tablespace = globalTablespace then globalDirectory
  else s!"{tablespacePath version tablespace}/{database}"

/-- The file name of a fork. -/
def fileName (backend file : Int) (fork : Fork) : String :=
  let base := if backend = noBackend then s!"{file}" else s!"t{backend}_{file}"
  if fork = .main then base else s!"{base}_{fork.name}"

/-- The path of the first segment of a fork. A shared object cannot be temporary. Numbers of any
length can be written. -/
def forkPath (version : String) (locator : Locator) (backend : Int) (fork : Fork) :
    Except Error String :=
  if locator.tablespace = globalTablespace ∧ backend ≠ noBackend then .error .sharedTemporary
  else
    let directory := databasePath version locator.tablespace locator.database
    .ok s!"{directory}/{fileName backend locator.file fork}"

/-- The path of a segment of a fork whose first segment has the path `base`. -/
def segmentPath (base : String) (segment : Int) : String :=
  if segment = 0 then base else s!"{base}.{segment}"

/-- The backend whose number the path of an object bears: only a temporary object has one, and it
needs one. -/
def backendFor (persistence : Persistence) (owner : Option Int) : Except Error Int :=
  if persistence = .temporary then
    match owner with
    | none => .error .temporaryWithoutOwner
    | some backend => if backend = noBackend then .error .temporaryWithoutOwner else .ok backend
  else .ok noBackend

end Footprint.Storage
