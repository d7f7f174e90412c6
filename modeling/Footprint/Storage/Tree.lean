import Footprint.Dictionary

/-!
# Trees of files

The files and directories that a scan can meet, as a value: each path with its attributes, parents
before their children. An entry may carry faults, which the storage answers instead of a size or of
a listing, and a directory may list names under which nothing is found.

A path is a text whose parts are separated by slashes, of which empty ones and single points do not
count. What else a system may read from a path is set aside, and `Tree.resolve` assumes of the paths
that are asked for that it does not matter:

* the tree is all there is, so a path from the root of the system leads to nothing;
* two points are a name like others and do not lead upwards;
* a slash behind the name of a file is passed over like one behind that of a directory;
* a null character is one like others.
-/

namespace Footprint.Storage

/-! ### Faults -/

/-- Why the storage refuses a request. -/
inductive Fault where
  /-- There is nothing under the path. -/
  | absent (reason : String)
  /-- The request fails, for a reason in the words of the system. -/
  | failure (reason : String)
  /-- The user breaks off. -/
  | interrupt
  deriving DecidableEq, Repr

namespace Fault

/-- The faults that a system knows by name, with number and description. -/
def table : List (String × Nat × String) :=
  [("EPERM", 1, "Operation not permitted"), ("ENOENT", 2, "No such file or directory"),
    ("EIO", 5, "Input/output error"), ("EACCES", 13, "Permission denied"),
    ("ENOTDIR", 20, "Not a directory"), ("ENAMETOOLONG", 36, "File name too long"),
    ("ELOOP", 40, "Too many levels of symbolic links")]

/-- The name of the fault that says that there is nothing. -/
def absentName : String := "ENOENT"

/-- The fault of a name, which another description may be given for. A fault without a description
is shown by its number, and an unknown name describes itself. -/
def named (name : String) (description : Option String) : Fault :=
  match table.lookup name with
  | none => .failure (description.getD name)
  | some (number, usual) =>
    let described := description.getD usual
    let reason := if described.isEmpty then s!"[Errno {number}] " else described
    if name = absentName then .absent reason else .failure reason

/-- There is nothing under the path. -/
def nothing : Fault := named "ENOENT" none

/-- Something on the way is no directory. -/
def notDirectory : Fault := named "ENOTDIR" none

end Fault

/-! ### Paths -/

/-- The stretches of a text between its slashes. -/
def slashParts : List Char → List (List Char)
  | [] => [[]]
  | c :: rest =>
    if c = '/' then [] :: slashParts rest
    else
      match slashParts rest with
      | [] => [[c]]
      | part :: others => (c :: part) :: others

/-- The parts of a path that count. -/
def pathParts (path : String) : List String :=
  ((slashParts path.toList).map String.ofList).filter fun part => part ≠ "" ∧ part ≠ "."

/-- Does a path start at the root of the system? -/
def isAbsolute (path : String) : Bool := path.toList.head? = some '/'

/-- A path that is taken from a directory. -/
def joinPath (directory path : String) : String :=
  if isAbsolute path then path
  else if directory.isEmpty ∨ directory.toList.getLast? = some '/' then directory ++ path
  else s!"{directory}/{path}"

/-- The proper beginnings of a path, shortest first. -/
def ancestors (path : List String) : List (List String) :=
  (List.range path.length).tail.map path.take

/-! ### Trees -/

/-- What a tree holds at a path. A reading fault strikes after so many names have been read. -/
structure Node where
  isDirectory : Bool
  size : Nat
  statFault : Option Fault := none
  openFault : Option Fault := none
  readFault : Option (Nat × Fault) := none
  ghosts : List String := []
  deriving DecidableEq, Repr

/-- The size of a directory that is there only because something lies below it. -/
def plainDirectorySize : Nat := 4096

/-- A directory of which nothing more is known. -/
def Node.plainDirectory : Node where
  isDirectory := true
  size := plainDirectorySize

/-- What is known of a file. -/
structure FileStat where
  size : Nat
  isDirectory : Bool
  deriving DecidableEq, Repr

/-- The names in a directory, in order, and the fault that ends the reading of them. -/
structure Listing where
  names : List String
  fault : Option Fault
  deriving DecidableEq, Repr

/-- Files and directories by their paths, in order. -/
abbrev Tree := Dictionary (List String) Node

namespace Tree

/-- Puts a node at a path. Missing directories above it are made, and what lies below it stays. -/
def place (tree : Tree) (path : List String) (node : Node) : Tree :=
  let above := (ancestors path).foldl (fun t directory =>
    if t.contains directory then t else t.insert directory .plainDirectory) tree
  above.insert path node

/-- Takes away what is at a path and below it. -/
def remove (tree : Tree) (path : List String) : Tree :=
  tree.filterKeys fun other => !path.isPrefixOf other

/-- The fault that a directory on the way to a path answers, if any. -/
def obstacle (tree : Tree) (directory : List String) : Option Fault :=
  match tree.find? directory with
  | none => some .nothing
  | some node => if node.isDirectory then none else some .notDirectory

/-- What is at a path. A path from the root of the system leads to nothing, and two points do not
lead upwards. -/
def resolve (tree : Tree) (path : String) : Except Fault Node :=
  if isAbsolute path then .error .nothing
  else
    let parts := pathParts path
    match (ancestors parts).findSome? tree.obstacle with
    | some fault => .error fault
    | none =>
      match tree.find? parts with
      | none => .error .nothing
      | some node => .ok node

/-- The names directly below a directory, in order. -/
def children (tree : Tree) (directory : List String) : List String :=
  tree.keys.filterMap fun path =>
    match path.getLast? with
    | none => none
    | some name => if path.dropLast = directory then some name else none

/-- What is known of the file at a path. -/
def stat (tree : Tree) (path : String) : Except Fault FileStat := do
  let node ← tree.resolve path
  match node.statFault with
  | some fault => throw fault
  | none => pure ⟨node.size, node.isDirectory⟩

/-- The names of the directory itself and of the one above it, which are no entries. -/
def isSelfReference (name : String) : Bool := name = "." ∨ name = ".."

/-- What reading a directory with the given children yields. -/
def listing (node : Node) (children : List String) : Listing :=
  let names := children ++ node.ghosts
  match node.readFault with
  | some (count, fault) =>
    if count ≤ names.length then ⟨(names.take count).filter (!isSelfReference ·), some fault⟩
    else ⟨names.filter (!isSelfReference ·), none⟩
  | none => ⟨names.filter (!isSelfReference ·), none⟩

/-- What the directory at a path lists. -/
def list (tree : Tree) (path : String) : Except Fault Listing := do
  let node ← tree.resolve path
  if node.isDirectory then
    match node.openFault with
    | some fault => throw fault
    | none => pure (listing node (tree.children (pathParts path)))
  else throw .notDirectory

end Tree

end Footprint.Storage
