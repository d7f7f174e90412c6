import Footprint.Catalog.Basic

/-!
# Changes of the catalog

Objects are created, roles gain privileges and memberships, and relations are dropped together with
what hangs on them. A change that fails part of the way leaves what it has done by then.
-/

namespace Footprint.Catalog

/-- A change of a catalog that yields a value. What a failing change has done is kept. -/
abbrev Update := ExceptT Error (StateM Catalog)

/-- A result as a step of a change. -/
def Update.ofExcept {α : Type} : Except Error α → Update α
  | .ok a => pure a
  | .error e => throw e

/-- The number of a new object: the given one, or the next free one. Numbers given later are greater
than it. -/
def allocate (oid : Option Int) : Update Int := do
  let catalog ← get
  let chosen := oid.getD catalog.nextOid
  set { catalog with nextOid := max catalog.nextOid (chosen + 1) }
  pure chosen

/-! ### Tablespaces, databases and roles -/

/-- Creates a tablespace. -/
def createTablespace (name location : String) (oid : Option Int) : Update Tablespace := do
  if ((← get).findTablespace name).isSome then throw (.alreadyExists "tablespace" name)
  let oid ← allocate oid
  let made : Tablespace := { oid, name, location }
  modify fun catalog => { catalog with tablespaces := catalog.tablespaces.insert oid made }
  pure made

/-- Creates a database. -/
def createDatabase (name : String) (oid : Option Int) (tablespace : Int) : Update Database := do
  if ((← get).findDatabase name).isSome then throw (.alreadyExists "database" name)
  let oid ← allocate oid
  let made : Database := { oid, name, defaultTablespace := tablespace }
  modify fun catalog => { catalog with databases := catalog.databases.insert oid made }
  pure made

/-- Creates a role. -/
def createRole (name : String) (superuser : Bool) (memberOf : List String) : Update Role := do
  if (← get).roles.contains name then throw (.alreadyExists "role" name)
  let made : Role := { name, superuser, memberOf }
  modify fun catalog => { catalog with roles := catalog.roles.insert name made }
  pure made

/-- A list with an item at its end, unless it has the item already. -/
def addOnce (item : String) (items : List String) : List String :=
  if item ∈ items then items else items ++ [item]

/-- Makes a role a member of another one. -/
def grantRole (role member : String) : Update Unit := do
  let catalog ← get
  if !catalog.roles.contains role then throw (.notFound "role" role)
  if !catalog.roles.contains member then throw (.notFound "role" member)
  set { catalog with
    roles := catalog.roles.modify member fun r => { r with memberOf := addOnce role r.memberOf } }

/-- The privileges with one more for a role. -/
def addPrivilege (role privilege : String) (acl : Acl) : Acl :=
  acl.insert role (addOnce privilege ((acl.find? role).getD []))

/-- The kinds of objects that privileges are granted on. -/
inductive GrantTarget where
  | database
  | tablespace
  deriving DecidableEq, Repr

/-- The kind of objects of a name. -/
def GrantTarget.ofName (name : String) : Except Error GrantTarget :=
  if name = "database" then .ok .database
  else if name = "tablespace" then .ok .tablespace
  else .error (.unsupportedKind name)

/-- Grants a privilege on an object to a role, which need not exist. -/
def grant (target : GrantTarget) (name role privilege : String) : Update Unit := do
  let catalog ← get
  match target with
  | .database => do
    let oid ← Update.ofExcept (catalog.databaseOid name)
    set { catalog with
      databases := catalog.databases.modify oid fun d =>
        { d with acl := addPrivilege role privilege d.acl } }
  | .tablespace => do
    let oid ← Update.ofExcept (catalog.tablespaceOid name)
    set { catalog with
      tablespaces := catalog.tablespaces.modify oid fun t =>
        { t with acl := addPrivilege role privilege t.acl } }

/-! ### Creating relations -/

/-- What is asked for when a relation is created. -/
structure RelationRequest where
  database : String
  name : String
  kind : String := Relation.tableKind
  fileNumber : Option Int := none
  tablespace : Option String := none
  persistence : Storage.Persistence := .permanent
  backend : Option Int := none
  /-- The relation that it becomes an index of. -/
  indexOf : Option Int := none
  /-- The relation that it becomes the overflow table of. -/
  toastOf : Option Int := none
  shared : Bool := false
  oid : Option Int := none
  deriving DecidableEq, Repr

/-- The database number of a new relation. -/
def RelationRequest.databaseOid (request : RelationRequest) (catalog : Catalog) :
    Except Error Int :=
  if request.shared then .ok Relation.unset else catalog.databaseOid request.database

/-- The tablespace number of a new relation. A shared relation lies in the global tablespace, and
the default tablespace of the database is not named. -/
def RelationRequest.tablespaceOid (request : RelationRequest) (catalog : Catalog)
    (database : Int) : Except Error Int :=
  if request.shared then .ok Storage.globalTablespace
  else
    match request.tablespace with
    | none => .ok Relation.unset
    | some name => do
      let oid ← catalog.tablespaceOid name
      let default ← catalog.defaultTablespace database
      pure (if oid = default then Relation.unset else oid)

/-- The file number of a new relation: as given, else its own number if it has files. -/
def RelationRequest.fileNumberFor (request : RelationRequest) (oid : Int) : Int :=
  request.fileNumber.getD
    (if Relation.storedKinds.contains request.kind then oid else Relation.unset)

/-- Links a relation to another one, which has to exist. -/
def link (parent : Int) (f : Relation → Relation) : Update Unit := do
  let catalog ← get
  let _ ← Update.ofExcept (catalog.relation parent)
  set { catalog with relations := catalog.relations.modify parent f }

/-- Creates a relation and links it to the relations that it belongs to. -/
def createRelation (request : RelationRequest) : Update Relation := do
  let catalog ← get
  let database ← Update.ofExcept (request.databaseOid catalog)
  if (catalog.findRelation database request.name).isSome then
    throw (.alreadyExists "relation" request.name)
  let tablespace ← Update.ofExcept (request.tablespaceOid catalog database)
  let oid ← allocate request.oid
  let made : Relation :=
    { oid, name := request.name, database, kind := request.kind,
      fileNumber := request.fileNumberFor oid, tablespace, persistence := request.persistence,
      backend := request.backend }
  modify fun catalog => { catalog with relations := catalog.relations.insert oid made }
  match request.indexOf with
  | none => pure ()
  | some parent => link parent fun r => { r with indexes := r.indexes ++ [oid] }
  match request.toastOf with
  | none => pure ()
  | some parent => link parent fun r => { r with toast := some oid }
  Update.ofExcept ((← get).relation oid)

/-! ### Dropping relations -/

/-- A step of dropping relations. -/
inductive DropTask where
  /-- Take away a relation, if it is there, and what hangs on it. -/
  | remove (oid : Int)
  /-- Take away all links to a relation. -/
  | unlink (oid : Int)
  deriving DecidableEq, Repr

/-- Works off a list of tasks. A relation is taken away first, then come its dependents, and last
the links to it. The second part of the result are the relations that were taken away.

A relation may have any number of dependents, and these dependents of their own: how deep they are
nested is not limited here. -/
def dropAll (relations : Dictionary Int Relation) :
    List DropTask → Dictionary Int Relation × List Relation
  | [] => (relations, [])
  | .unlink oid :: tasks => dropAll (relations.mapValues (·.unlink oid)) tasks
  | .remove oid :: tasks =>
    match _found : relations.find? oid with
    | none => dropAll relations tasks
    | some relation =>
      let (left, dropped) :=
        dropAll (relations.erase oid)
          (relation.dependents.map .remove ++ .unlink oid :: tasks)
      (left, relation :: dropped)
termination_by tasks => (relations.size, tasks.length)
decreasing_by
  · rw [Dictionary.size_mapValues]
    exact Prod.Lex.right _ (by simp)
  · exact Prod.Lex.right _ (by simp)
  · exact Prod.Lex.left _ _ (Dictionary.size_erase_lt ‹_›)

/-- The relations as they are each time that the links to one have been taken away, while a list of
tasks is worked off. -/
def dropStages (relations : Dictionary Int Relation) :
    List DropTask → List (Dictionary Int Relation)
  | [] => []
  | .unlink oid :: tasks =>
    let left := relations.mapValues (·.unlink oid)
    left :: dropStages left tasks
  | .remove oid :: tasks =>
    match _found : relations.find? oid with
    | none => dropStages relations tasks
    | some relation =>
      dropStages (relations.erase oid) (relation.dependents.map .remove ++ .unlink oid :: tasks)
termination_by tasks => (relations.size, tasks.length)
decreasing_by
  · rw [Dictionary.size_mapValues]
    exact Prod.Lex.right _ (by simp)
  · exact Prod.Lex.right _ (by simp)
  · exact Prod.Lex.left _ _ (Dictionary.size_erase_lt ‹_›)

/-- The catalogs that are saved on the way of dropping a relation: each time that a relation which
hangs on it has been dropped. -/
def dropOnTheWay (oid : Int) (catalog : Catalog) : List Catalog :=
  match catalog.relations.find? oid with
  | none => []
  | some relation =>
    (dropStages (catalog.relations.erase oid) (relation.dependents.map .remove)).map fun left =>
      { catalog with relations := left }

/-- Drops a relation with its indexes and its overflow table. The result are the relations that were
taken away. -/
def dropRelation (oid : Int) : Update (List Relation) := do
  let catalog ← get
  let _ ← Update.ofExcept (catalog.relation oid)
  let (left, dropped) := dropAll catalog.relations [.remove oid]
  set { catalog with relations := left }
  pure dropped

end Footprint.Catalog
