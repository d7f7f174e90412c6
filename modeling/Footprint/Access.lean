import Footprint.Catalog.Membership
import Footprint.Reference
import Footprint.Warning

/-!
# Access

Who may see the size of what. A database needs the privilege to connect to it, a tablespace that to
create in it unless it is the default tablespace of the current database; a member of the statistics
role needs neither, and a superuser nothing at all. Privileges come through memberships, and those
of the public are everyone's.
-/

namespace Footprint

/-- A role with a current database, as which requests are made. -/
structure Viewer where
  role : String
  /-- The number of the current database. -/
  database : Int
  deriving DecidableEq, Repr

namespace Viewer

/-- The role that stands for everyone in the privileges of an object. -/
def everyone : String := "PUBLIC"

/-- The privilege to use a database. -/
def connectPrivilege : String := "CONNECT"

/-- The privilege to put something into a tablespace. -/
def createPrivilege : String := "CREATE"

/-- A viewer with a role and the database of a name, both of which have to exist. -/
def ofNames (catalog : Catalog) (role : Option String) (database : String) :
    Except Error Viewer := do
  let database ← catalog.databaseOid database
  match role with
  | none => throw (.notFound "role" "None")
  | some role =>
    if catalog.roles.contains role then pure ⟨role, database⟩ else throw (.notFound "role" role)

/-- The default tablespace of the current database. -/
def defaultTablespace (catalog : Catalog) (viewer : Viewer) : Except Error Int :=
  catalog.defaultTablespace viewer.database

/-- Is the role itself a superuser? -/
def isSuperuser (catalog : Catalog) (viewer : Viewer) : Bool :=
  match catalog.roles.find? viewer.role with
  | some role => role.superuser
  | none => false

/-- Has the viewer the privileges of a role? -/
def hasPrivilegesOf (catalog : Catalog) (viewer : Viewer) (role : String) : Bool :=
  viewer.isSuperuser catalog || (catalog.memberships viewer.role).contains role

/-- Does a role hold a privilege by itself? -/
def holds (acl : Acl) (privilege role : String) : Bool :=
  ((acl.find? role).getD []).contains privilege

/-- Is the viewer granted a privilege, through some membership or as one of the public? -/
def isGranted (catalog : Catalog) (viewer : Viewer) (acl : Acl) (privilege : String) : Bool :=
  viewer.isSuperuser catalog ||
    (everyone :: catalog.memberships viewer.role).any (holds acl privilege)

/-- May the viewer see the size of a database? One that is not in the catalog grants nothing. -/
def maySeeDatabase (catalog : Catalog) (viewer : Viewer) (database : Int) : Bool :=
  let acl := ((catalog.databases.find? database).map Database.acl).getD .empty
  viewer.isGranted catalog acl connectPrivilege ||
    viewer.hasPrivilegesOf catalog Catalog.statisticsRole

/-- May the viewer see the size of a tablespace? One that is not in the catalog grants nothing. -/
def maySeeTablespace (catalog : Catalog) (viewer : Viewer) (tablespace : Int) :
    Except Error Bool := do
  let default ← viewer.defaultTablespace catalog
  let acl := ((catalog.tablespaces.find? tablespace).map Tablespace.acl).getD .empty
  pure (tablespace == default || viewer.hasPrivilegesOf catalog Catalog.statisticsRole ||
    viewer.isGranted catalog acl createPrivilege)

/-- What a request about access yields, and the warnings it gives. -/
abbrev Verdict (α : Type) := Except Error α × List Warning

/-- A result without a warning. -/
def Verdict.quiet {α : Type} (result : Except Error α) : Verdict α := (result, [])

/-- A first verdict and, if it succeeds, one that depends on it. -/
def Verdict.next {α β : Type} (first : Except Error α) (then_ : α → Verdict β) : Verdict β :=
  match first with
  | .ok a => then_ a
  | .error e => (.error e, [])

/-- The name by which a database is spoken of. -/
def databaseTitle (catalog : Catalog) (database : Int) : String :=
  ((catalog.databases.find? database).map Database.name).getD (toString database)

/-- The name by which a tablespace is spoken of. -/
def tablespaceTitle (catalog : Catalog) (tablespace : Int) : String :=
  ((catalog.tablespaces.find? tablespace).map Tablespace.name).getD (toString tablespace)

/-- Refuses a database that the viewer may not see. -/
def checkDatabase (catalog : Catalog) (viewer : Viewer) (database : Int) : Verdict Unit :=
  if viewer.maySeeDatabase catalog database then .quiet (.ok ())
  else
    let title := databaseTitle catalog database
    (.error (.denied "database" title), [.databaseDenied viewer.role title])

/-- Refuses a tablespace that the viewer may not see. -/
def checkTablespace (catalog : Catalog) (viewer : Viewer) (tablespace : Int) : Verdict Unit :=
  .next (viewer.maySeeTablespace catalog tablespace) fun allowed =>
    if allowed then .quiet (.ok ())
    else
      let title := tablespaceTitle catalog tablespace
      (.error (.denied "tablespace" title), [.tablespaceDenied viewer.role title])

/-- The number of a database that is referred to. A number need not be one of the catalog. -/
def databaseOf (catalog : Catalog) : Reference → Except Error Int
  | .oid n => .ok n
  | .name s => catalog.databaseOid s

/-- The number of a tablespace that is referred to. A number need not be one of the catalog. -/
def tablespaceOf (catalog : Catalog) : Reference → Except Error Int
  | .oid n => .ok n
  | .name s => catalog.tablespaceOid s

/-- The number of a database that the viewer may see. -/
def authorizeDatabase (catalog : Catalog) (viewer : Viewer) (reference : Reference) :
    Verdict Int :=
  .next (databaseOf catalog reference) fun oid =>
    let (result, warnings) := viewer.checkDatabase catalog oid
    (result.map fun _ => oid, warnings)

/-- The number of a tablespace that the viewer may see. -/
def authorizeTablespace (catalog : Catalog) (viewer : Viewer) (reference : Reference) :
    Verdict Int :=
  .next (tablespaceOf catalog reference) fun oid =>
    let (result, warnings) := viewer.checkTablespace catalog oid
    (result.map fun _ => oid, warnings)

end Viewer

end Footprint
