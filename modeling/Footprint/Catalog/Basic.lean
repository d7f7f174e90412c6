import Footprint.Dictionary
import Footprint.Error
import Footprint.Storage.Path

/-!
# The catalog

What is known of the objects of a data directory: tablespaces, databases, relations and roles. A
relation is a table, an index, an overflow table or another named object; its indexes and its
overflow table are relations to which it is linked by number. A database number of zero marks a
shared relation, and a tablespace number of zero the default tablespace of the database.
-/

namespace Footprint

/-- The privileges that are granted on an object, by role. -/
abbrev Acl := Dictionary String (List String)

/-- A place for the files of databases. -/
structure Tablespace where
  oid : Int
  name : String
  location : String := ""
  acl : Acl := .empty
  deriving DecidableEq, Repr

/-- A database, whose relations lie in its default tablespace unless they say otherwise. -/
structure Database where
  oid : Int
  name : String
  defaultTablespace : Int := Storage.defaultTablespace
  acl : Acl := .empty
  deriving DecidableEq, Repr

/-- A role, with the roles that it is a member of. -/
structure Role where
  name : String
  superuser : Bool := false
  memberOf : List String := []
  deriving DecidableEq, Repr

/-- A named object with files. -/
structure Relation where
  oid : Int
  name : String
  database : Int
  kind : String := "r"
  fileNumber : Int := 0
  tablespace : Int := 0
  persistence : Storage.Persistence := .permanent
  backend : Option Int := none
  toast : Option Int := none
  indexes : List Int := []
  deriving DecidableEq, Repr

namespace Relation

/-- The kinds of relations that have files: tables, indexes, overflow tables, materialized views
and sequences. -/
def storedKinds : List String := ["r", "i", "t", "m", "S"]

/-- The kind of a relation unless another is given. -/
def tableKind : String := "r"

/-- The file number of a relation without files, and the number that stands for "not said". -/
def unset : Int := 0

/-- Does the relation belong to all databases? -/
def isShared (relation : Relation) : Bool := relation.database == unset

/-- Has the relation files? -/
def hasStorage (relation : Relation) : Bool :=
  storedKinds.contains relation.kind && relation.fileNumber != unset

/-- Has the relation indexes? -/
def hasIndexes (relation : Relation) : Bool := !relation.indexes.isEmpty

/-- Can the relation be seen from a database? -/
def isVisibleFrom (database : Int) (relation : Relation) : Bool :=
  relation.database == database || relation.isShared

/-- The relations that hang on a relation: its indexes and its overflow table. -/
def dependents (relation : Relation) : List Int :=
  relation.indexes ++
    match relation.toast with
    | none => []
    | some toast => if toast = unset then [] else [toast]

/-- The relation without its links to another one. -/
def unlink (oid : Int) (relation : Relation) : Relation :=
  { relation with
    indexes := relation.indexes.erase oid
    toast := if relation.toast = some oid then none else relation.toast }

end Relation

/-- All that is known of the objects of a data directory. New objects are numbered from
`nextOid`. -/
structure Catalog where
  nextOid : Int
  tablespaces : Dictionary Int Tablespace
  databases : Dictionary Int Database
  relations : Dictionary Int Relation
  roles : Dictionary String Role
  deriving DecidableEq, Repr, Inhabited

namespace Catalog

/-- The first number that is given to an object of a user. -/
def firstUserOid : Int := 16384

/-- The role whose members may see the size of every object. -/
def statisticsRole : String := "pg_read_all_stats"

/-- The catalog of a new data directory. -/
def bootstrap : Catalog where
  nextOid := firstUserOid
  tablespaces := .ofValues Tablespace.oid
    [{ oid := Storage.defaultTablespace, name := "pg_default" },
      { oid := Storage.globalTablespace, name := "pg_global" }]
  databases := .ofValues Database.oid [{ oid := 5, name := "postgres" }]
  relations := .empty
  roles := .ofValues Role.name
    [{ name := "postgres", superuser := true }, { name := statisticsRole }]

/-- The tablespace of a name. -/
def findTablespace (catalog : Catalog) (name : String) : Option Tablespace :=
  catalog.tablespaces.values.find? (·.name = name)

/-- The database of a name. -/
def findDatabase (catalog : Catalog) (name : String) : Option Database :=
  catalog.databases.values.find? (·.name = name)

/-- The relation of a name that can be seen from a database. -/
def findRelation (catalog : Catalog) (database : Int) (name : String) : Option Relation :=
  catalog.relations.values.find? fun r => r.name = name && r.isVisibleFrom database

/-- The number of the tablespace of a name, which has to exist. -/
def tablespaceOid (catalog : Catalog) (name : String) : Except Error Int :=
  match catalog.findTablespace name with
  | some found => .ok found.oid
  | none => .error (.notFound "tablespace" name)

/-- The number of the database of a name, which has to exist. -/
def databaseOid (catalog : Catalog) (name : String) : Except Error Int :=
  match catalog.findDatabase name with
  | some found => .ok found.oid
  | none => .error (.notFound "database" name)

/-- The relation of a number, which has to exist. -/
def relation (catalog : Catalog) (oid : Int) : Except Error Relation :=
  match catalog.relations.find? oid with
  | some found => .ok found
  | none => .error (.notFound "relation" (toString oid))

/-- The default tablespace of a database, which has to exist. -/
def defaultTablespace (catalog : Catalog) (database : Int) : Except Error Int :=
  match catalog.databases.find? database with
  | some found => .ok found.defaultTablespace
  | none => .error (.missingKey (toString database))

/-- The relations that can be seen from a database, in order. -/
def visibleRelations (catalog : Catalog) (database : Int) : List Relation :=
  catalog.relations.values.filter (·.isVisibleFrom database)

/-- The indexes of a relation; those that are not in the catalog are left out. -/
def indexesOf (catalog : Catalog) (relation : Relation) : List Relation :=
  relation.indexes.filterMap catalog.relations.find?

/-- A list of texts in the order of their characters. -/
def sorted (names : List String) : List String := names.mergeSort fun a b => a ≤ b

/-- The names of the databases, sorted. -/
def databaseNames (catalog : Catalog) : List String :=
  sorted (catalog.databases.values.map Database.name)

/-- The names of the tablespaces, sorted. -/
def tablespaceNames (catalog : Catalog) : List String :=
  sorted (catalog.tablespaces.values.map Tablespace.name)

end Catalog

end Footprint
