import Footprint.Access
import Footprint.Catalog.Placement
import Footprint.Storage.Measure

/-!
# Inquiries

The questions about sizes and files that a viewer asks of a catalog and of the storage. The size of
a table includes its overflow table with the indexes of that; the total adds the indexes of the
table itself. A database is the sum of its directories in all tablespaces.
-/

namespace Footprint

open Storage (Scan)

/-- What inquiries are answered from, besides the storage. -/
structure Inquiry where
  catalog : Catalog
  viewer : Viewer
  /-- The version directory of the tablespaces. -/
  version : String

namespace Inquiry

/-! ### Relations -/

/-- The size of one fork of a relation. -/
def forkSize (inquiry : Inquiry) (relation : Relation) (fork : Storage.Fork) : Scan Nat := do
  let locator ← Scan.ofExcept (inquiry.catalog.locator relation)
  Storage.forkSize inquiry.version locator relation.fileBackend fork

/-- The sum over some forks of a relation. -/
def forksSize (inquiry : Inquiry) (relation : Relation) : List Storage.Fork → Scan Nat
  | [] => pure 0
  | fork :: rest => do
    let size ← inquiry.forkSize relation fork
    let others ← inquiry.forksSize relation rest
    pure (size + others)

/-- The size of all forks of a relation. -/
def ownSize (inquiry : Inquiry) (relation : Relation) : Scan Nat :=
  if relation.hasStorage then inquiry.forksSize relation Storage.Fork.all else pure 0

/-- The sum over some relations of the sizes of all their forks. -/
def ownSizes (inquiry : Inquiry) : List Relation → Scan Nat
  | [] => pure 0
  | relation :: rest => do
    let size ← inquiry.ownSize relation
    let others ← inquiry.ownSizes rest
    pure (size + others)

/-- The size of an overflow table with its indexes; nothing, with a warning, if it is not in the
catalog. -/
def toastSize (inquiry : Inquiry) (oid : Int) : Scan Nat :=
  match inquiry.catalog.relations.find? oid with
  | none => do
    Scan.warn (.toastMissing oid)
    pure 0
  | some toast => inquiry.ownSizes (toast :: inquiry.catalog.indexesOf toast)

/-- The size of the overflow table of a relation with its indexes; nothing if it has none. -/
def overflowSize (inquiry : Inquiry) (relation : Relation) : Scan Nat :=
  match relation.toast with
  | none => pure 0
  | some oid => inquiry.toastSize oid

/-- The size of a relation with its overflow table, without its indexes. -/
def tableSize (inquiry : Inquiry) (relation : Relation) : Scan Nat := do
  let size ← inquiry.ownSize relation
  let overflow ← inquiry.overflowSize relation
  pure (size + overflow)

/-- The size of the indexes of a relation. -/
def indexesSize (inquiry : Inquiry) (relation : Relation) : Scan Nat :=
  inquiry.ownSizes (inquiry.catalog.indexesOf relation)

/-- The size of a relation with its overflow table and its indexes. -/
def totalSize (inquiry : Inquiry) (relation : Relation) : Scan Nat := do
  let table ← inquiry.tableSize relation
  let indexes ← inquiry.indexesSize relation
  pure (table + indexes)

/-- The relation that is referred to. A number may be that of no relation, whereas a name has to be
that of a relation of the current database or of a shared one. -/
def relation? (inquiry : Inquiry) : Reference → Except Error (Option Relation)
  | .oid n => .ok (inquiry.catalog.relations.find? n)
  | .name s =>
    match inquiry.catalog.findRelation inquiry.viewer.database s with
    | some relation => .ok (some relation)
    | none => .error (.notFound "relation" s)

/-- A measure of the relation that is referred to, if there is one. -/
def measured (inquiry : Inquiry) (measure : Relation → Scan Nat) (reference : Reference) :
    Scan (Option Nat) := do
  match ← Scan.ofExcept (inquiry.relation? reference) with
  | none => pure none
  | some relation => some <$> measure relation

/-- The size of the named fork of a relation. -/
def relationSize (inquiry : Inquiry) (forkName : String) (reference : Reference) :
    Scan (Option Nat) := do
  let fork ← Scan.ofExcept (Storage.Fork.ofName forkName)
  inquiry.measured (fun relation =>
    if relation.hasStorage then inquiry.forkSize relation fork else pure 0) reference

/-! ### Databases and tablespaces -/

/-- The sum over the tablespaces of the given names of what a database has in them. -/
def linkedSize (inquiry : Inquiry) (database : Int) : List String → Scan Nat
  | [] => pure 0
  | name :: rest => do
    Scan.checkpoint
    let root := s!"{Storage.linkDirectory}/{name}/{inquiry.version}"
    let size ← Storage.directorySize s!"{root}/{database}"
    let others ← inquiry.linkedSize database rest
    pure (size + others)

/-- The size of a database in the default tablespace and in all linked ones. -/
def databaseSizeOf (inquiry : Inquiry) (database : Int) : Scan Nat := do
  let base ← Storage.directorySize s!"{Storage.defaultDirectory}/{database}"
  match ← Scan.list Storage.linkDirectory with
  | none => do
    Scan.warn (.linksMissing Storage.linkDirectory)
    pure base
  | some listing => do
    let linked ← inquiry.linkedSize database listing.names
    Scan.finish Storage.linkDirectory listing
    pure (base + linked)

/-- The size of a tablespace, if its root is there. -/
def tablespaceSizeOf (inquiry : Inquiry) (tablespace : Int) : Scan (Option Nat) :=
  Storage.tablespaceRootSize (Storage.tablespacePath inquiry.version tablespace)

/-- A verdict as a step of a scan. -/
def authorized {α : Type} (verdict : Viewer.Verdict α) : Scan α := do
  verdict.2.forM Scan.warn
  Scan.ofExcept verdict.1

/-- The size of a database that the viewer may see. -/
def databaseSize (inquiry : Inquiry) (reference : Reference) : Scan Nat := do
  let oid ← authorized (inquiry.viewer.authorizeDatabase inquiry.catalog reference)
  inquiry.databaseSizeOf oid

/-- The size of a tablespace that the viewer may see, if its root is there. -/
def tablespaceSize (inquiry : Inquiry) (reference : Reference) : Scan (Option Nat) := do
  let oid ← authorized (inquiry.viewer.authorizeTablespace inquiry.catalog reference)
  inquiry.tablespaceSizeOf oid

/-! ### Files -/

/-- The relation with files that is referred to, if there is one. -/
def stored? (inquiry : Inquiry) (reference : Reference) : Except Error (Option Relation) := do
  pure ((← inquiry.relation? reference).filter (·.hasStorage))

/-- The file number of a relation that has files. -/
def fileNumber (inquiry : Inquiry) (reference : Reference) : Except Error (Option Int) := do
  pure ((← inquiry.stored? reference).map Relation.fileNumber)

/-- The path of the first file of a relation that has files. -/
def filePath (inquiry : Inquiry) (reference : Reference) : Except Error (Option String) := do
  match ← inquiry.stored? reference with
  | none => pure none
  | some relation => do
    let locator ← inquiry.catalog.locator relation
    some <$> Storage.forkPath inquiry.version locator relation.fileBackend .main

/-- The number of the relation that a file number in a tablespace belongs to. No relation has file
number zero. -/
def relationOfFile (inquiry : Inquiry) (tablespace fileNumber : Int) : Except Error (Option Int) :=
  if fileNumber = 0 then .ok none
  else inquiry.catalog.relationOfFile inquiry.viewer.database tablespace fileNumber

end Inquiry

end Footprint
