import Footprint.Catalog.Change
import Footprint.Proofs.Dictionary

/-!
# What changes do

A change that is run on a catalog, `Update.on`, yields a result and leaves a catalog. For each
change both are given here as functions of the catalog, and nothing later looks into a change again.

The creations come down to one function for each map, which adds an object under its number and
moves the next number past it (`addTablespace`, `addDatabase`, `addRelation`). A relation is created
in three parts: what is looked up and checked beforehand (`RelationRequest.prepare`), adding the
relation, and linking it to the relations that it belongs to (`RelationRequest.addLinked`). Of these
only the first fails before anything is changed (`createRelation_on`).
-/

namespace Footprint

namespace Relation

/-- The relation with one more index. -/
def addIndex (oid : Int) (r : Relation) : Relation := { r with indexes := r.indexes ++ [oid] }

/-- The relation with an overflow table. -/
def setToast (oid : Int) (r : Relation) : Relation := { r with toast := some oid }

end Relation

namespace Catalog

variable {α β : Type}

/-! ### Running a change -/

namespace Update

/-- The result of a change on a catalog, and the catalog that it leaves. -/
def on (change : Update α) (c : Catalog) : Except Error α × Catalog := change.run.run c

/-- A sequence ends with its first failing step, and what was done by then is kept. -/
theorem on_bind (change : Update α) (f : α → Update β) (c : Catalog) :
    (change >>= f).on c = match change.on c with
      | (.ok a, left) => (f a).on left
      | (.error e, left) => (.error e, left) := by
  simp only [on, ExceptT.run_bind, StateT.run_bind]
  rcases change.run.run c with ⟨_ | _, left⟩ <;> rfl

@[simp] theorem on_pure (a : α) (c : Catalog) : (pure a : Update α).on c = (.ok a, c) := rfl

@[simp] theorem on_get (c : Catalog) : (get : Update Catalog).on c = (.ok c, c) := rfl

@[simp] theorem on_modify (f : Catalog → Catalog) (c : Catalog) :
    (modify f : Update PUnit).on c = (.ok ⟨⟩, f c) := rfl

@[simp] theorem on_ofExcept (result : Except Error α) (c : Catalog) :
    (ofExcept result).on c = (result, c) := by
  cases result <;> rfl

end Update

open Update

/-! ### Adding objects -/

/-- The number that a new object gets: the given one or the next. -/
def chosen (c : Catalog) (oid : Option Int) : Int := oid.getD c.nextOid

/-- The catalog with a tablespace under its number. -/
def addTablespace (t : Tablespace) (c : Catalog) : Catalog :=
  { c with
    nextOid := max c.nextOid (t.oid + 1)
    tablespaces := c.tablespaces.insert t.oid t }

/-- The catalog with a database under its number. -/
def addDatabase (d : Database) (c : Catalog) : Catalog :=
  { c with
    nextOid := max c.nextOid (d.oid + 1)
    databases := c.databases.insert d.oid d }

/-- The catalog with a relation under its number. -/
def addRelation (r : Relation) (c : Catalog) : Catalog :=
  { c with
    nextOid := max c.nextOid (r.oid + 1)
    relations := c.relations.insert r.oid r }

theorem allocate_on (oid : Option Int) (c : Catalog) : (allocate oid).on c =
    (.ok (c.chosen oid), { c with nextOid := max c.nextOid (c.chosen oid + 1) }) := rfl

theorem createTablespace_on (name location : String) (oid : Option Int) (c : Catalog) :
    (createTablespace name location oid).on c =
      if (c.findTablespace name).isSome then (.error (.alreadyExists "tablespace" name), c)
      else
        (.ok { oid := c.chosen oid, name, location },
          c.addTablespace { oid := c.chosen oid, name, location }) := by
  rw [createTablespace, on_bind]
  simp only [on_get]
  split
  · rfl
  · rfl

theorem createDatabase_on (name : String) (oid : Option Int) (tablespace : Int) (c : Catalog) :
    (createDatabase name oid tablespace).on c =
      if (c.findDatabase name).isSome then (.error (.alreadyExists "database" name), c)
      else
        (.ok { oid := c.chosen oid, name, defaultTablespace := tablespace },
          c.addDatabase { oid := c.chosen oid, name, defaultTablespace := tablespace }) := by
  rw [createDatabase, on_bind]
  simp only [on_get]
  split
  · rfl
  · rfl

/-! ### Roles and privileges -/

theorem createRole_on (name : String) (superuser : Bool) (memberOf : List String) (c : Catalog) :
    (createRole name superuser memberOf).on c =
      if c.roles.contains name then (.error (.alreadyExists "role" name), c)
      else
        (.ok ⟨name, superuser, memberOf⟩,
          { c with roles := c.roles.insert name ⟨name, superuser, memberOf⟩ }) := by
  rw [createRole, on_bind]
  simp only [on_get]
  split
  · rfl
  · rfl

theorem grantRole_on (role member : String) (c : Catalog) :
    (grantRole role member).on c =
      if c.roles.contains role then
        if c.roles.contains member then
          (.ok (), { c with
            roles := c.roles.modify member fun r =>
              { r with memberOf := addOnce role r.memberOf } })
        else (.error (.notFound "role" member), c)
      else (.error (.notFound "role" role), c) := by
  rw [grantRole, on_bind]
  simp only [on_get]
  cases hrole : c.roles.contains role
  · rfl
  · cases hmember : c.roles.contains member
    · rfl
    · rfl

theorem grant_database_on (name role privilege : String) (c : Catalog) :
    (grant .database name role privilege).on c = match c.databaseOid name with
      | .ok oid => (.ok (), { c with
          databases := c.databases.modify oid fun d =>
            { d with acl := addPrivilege role privilege d.acl } })
      | .error e => (.error e, c) := by
  rw [grant, on_bind]
  simp only [on_get, on_bind, on_ofExcept]
  cases c.databaseOid name <;> rfl

theorem grant_tablespace_on (name role privilege : String) (c : Catalog) :
    (grant .tablespace name role privilege).on c = match c.tablespaceOid name with
      | .ok oid => (.ok (), { c with
          tablespaces := c.tablespaces.modify oid fun t =>
            { t with acl := addPrivilege role privilege t.acl } })
      | .error e => (.error e, c) := by
  rw [grant, on_bind]
  simp only [on_get, on_bind, on_ofExcept]
  cases c.tablespaceOid name <;> rfl

/-! ### Relations -/

/-- What is made for a request, after everything has been looked up and checked that comes before
the catalog is changed. -/
def RelationRequest.prepare (request : RelationRequest) (c : Catalog) : Except Error Relation :=
  match request.databaseOid c with
  | .error e => .error e
  | .ok database =>
    if (c.findRelation database request.name).isSome then
      .error (.alreadyExists "relation" request.name)
    else
      (request.tablespaceOid c database).map fun tablespace =>
        { oid := c.chosen request.oid, name := request.name, database, kind := request.kind,
          fileNumber := request.fileNumberFor (c.chosen request.oid), tablespace,
          persistence := request.persistence, backend := request.backend }

theorem databaseOid_ok {c : Catalog} {name : String} {oid : Int}
    (h : c.databaseOid name = .ok oid) : ∃ d ∈ c.databases.values, d.oid = oid := by
  unfold databaseOid at h
  split at h
  · next d hd => exact ⟨d, List.mem_of_find?_eq_some hd, Except.ok.inj h⟩
  · cases h

/-- A request that can be carried out gets a relation of a new name without links. It is a shared
relation in the global tablespace, or it belongs to a database of the catalog. -/
theorem RelationRequest.prepare_ok {request : RelationRequest} {c : Catalog} {made : Relation}
    (h : request.prepare c = .ok made) :
    made.oid = c.chosen request.oid ∧ made.indexes = [] ∧ made.toast = none ∧
      c.findRelation made.database made.name = none ∧
      (made.database = Relation.unset ∧ made.tablespace = Storage.globalTablespace ∨
        ∃ d ∈ c.databases.values, d.oid = made.database) := by
  unfold prepare at h
  split at h
  · cases h
  · next database hdatabase =>
    split at h
    · cases h
    · next hfound =>
      cases htablespace : request.tablespaceOid c database with
      | error e => rw [htablespace] at h; cases h
      | ok tablespace =>
        rw [htablespace] at h
        obtain rfl := Except.ok.inj h
        refine ⟨rfl, rfl, rfl, Option.not_isSome_iff_eq_none.mp hfound, ?_⟩
        unfold databaseOid at hdatabase
        unfold tablespaceOid at htablespace
        split at hdatabase
        · next hshared =>
          rw [if_pos hshared] at htablespace
          exact Or.inl ⟨(Except.ok.inj hdatabase).symm, (Except.ok.inj htablespace).symm⟩
        · exact Or.inr (databaseOid_ok hdatabase)

/-- The parent of a link, which has to exist if there is to be a link. -/
def findParent (c : Catalog) : Option Int → Except Error Unit
  | none => .ok ()
  | some oid => (c.relation oid).map fun _ => ()

/-- The catalog with the parent of a link changed. -/
def linked (c : Catalog) (parent : Option Int) (f : Relation → Relation) : Catalog :=
  match parent with
  | none => c
  | some oid => { c with relations := c.relations.modify oid f }

section Linked

variable (c : Catalog) (parent : Option Int) (f : Relation → Relation)

@[simp] theorem linked_tablespaces : (c.linked parent f).tablespaces = c.tablespaces := by
  cases parent <;> rfl

@[simp] theorem linked_databases : (c.linked parent f).databases = c.databases := by
  cases parent <;> rfl

@[simp] theorem keys_linked : (c.linked parent f).relations.keys = c.relations.keys := by
  cases parent with
  | none => rfl
  | some oid => exact Dictionary.keys_modify c.relations oid f

theorem find?_linked (oid : Int) : (c.linked parent f).relations.find? oid =
    (c.relations.find? oid).map fun r => if parent = some oid then f r else r := by
  cases parent with
  | none => exact Option.map_id'.symm
  | some linked =>
    refine (Dictionary.find?_modify f).trans ?_
    simp only [Option.some.injEq, eq_comm]

end Linked

theorem relation_eq_ok_iff {c : Catalog} {oid : Int} {r : Relation} :
    c.relation oid = .ok r ↔ c.relations.find? oid = some r := by
  unfold relation
  cases c.relations.find? oid with
  | none => simp
  | some found => simp

theorem exists_relation {c : Catalog} {oid : Int} (h : oid ∈ c.relations.keys) :
    ∃ r, c.relation oid = .ok r := by
  obtain ⟨r, hr⟩ := Dictionary.exists_of_mem_keys h
  exact ⟨r, relation_eq_ok_iff.mpr hr⟩

theorem mem_keys_addRelation (r : Relation) (c : Catalog) :
    r.oid ∈ (c.addRelation r).relations.keys := Dictionary.mem_keys_insert.mpr (Or.inl rfl)

theorem link_on (parent : Int) (f : Relation → Relation) (c : Catalog) :
    (link parent f).on c = match c.findParent (some parent) with
      | .ok _ => (.ok (), c.linked (some parent) f)
      | .error e => (.error e, c) := by
  simp only [link, on_bind, on_get, on_ofExcept, findParent]
  cases c.relation parent <;> rfl

/-- Linking a relation that is there fails at the first parent that is missing. -/
theorem linkBoth_on (indexOf toastOf : Option Int) (oid : Int) (c : Catalog) :
    (do
      match indexOf with
      | none => pure ()
      | some parent => link parent (.addIndex oid)
      match toastOf with
      | none => pure ()
      | some parent => link parent (.setToast oid)
      Update.ofExcept ((← get).relation oid)).on c =
    match c.findParent indexOf with
    | .error e => (.error e, c)
    | .ok _ =>
      let indexed := c.linked indexOf (.addIndex oid)
      match indexed.findParent toastOf with
      | .error e => (.error e, indexed)
      | .ok _ =>
        let left := indexed.linked toastOf (.setToast oid)
        (left.relation oid, left) := by
  cases indexOf with
  | none =>
    cases toastOf with
    | none =>
      simp only [on_bind, on_get, on_ofExcept]
      rfl
    | some table =>
      simp only [on_bind, on_pure, on_get, on_ofExcept, link_on]
      change _ = match c.findParent (some table) with | .error e => _ | .ok _ => _
      cases c.findParent (some table) <;> rfl
  | some parent =>
    simp only [on_bind, link_on]
    cases c.findParent (some parent) with
    | error e => rfl
    | ok =>
      cases toastOf with
      | none =>
        simp only [on_bind, on_get, on_ofExcept]
        rfl
      | some table =>
        simp only [on_bind, on_get, on_ofExcept, link_on]
        cases (c.linked (some parent) (.addIndex oid)).findParent (some table) <;> rfl

namespace RelationRequest

/-- The catalog with the relation that was made for a request, as an index if it is to be one. -/
def addIndexed (request : RelationRequest) (made : Relation) (c : Catalog) : Catalog :=
  (c.addRelation made).linked request.indexOf (.addIndex made.oid)

/-- The catalog with the relation that was made for a request and all its links. -/
def addLinked (request : RelationRequest) (made : Relation) (c : Catalog) : Catalog :=
  (request.addIndexed made c).linked request.toastOf (.setToast made.oid)

variable (request : RelationRequest) (made : Relation) (c : Catalog)

@[simp] theorem keys_addIndexed :
    (request.addIndexed made c).relations.keys = (c.addRelation made).relations.keys :=
  keys_linked _ _ _

@[simp] theorem keys_addLinked :
    (request.addLinked made c).relations.keys = (c.addRelation made).relations.keys :=
  (keys_linked _ _ _).trans (request.keys_addIndexed made c)

@[simp] theorem addIndexed_databases : (request.addIndexed made c).databases = c.databases :=
  linked_databases _ _ _

@[simp] theorem addLinked_databases : (request.addLinked made c).databases = c.databases :=
  (linked_databases _ _ _).trans (request.addIndexed_databases made c)

@[simp] theorem addIndexed_tablespaces :
    (request.addIndexed made c).tablespaces = c.tablespaces := linked_tablespaces _ _ _

@[simp] theorem addLinked_tablespaces : (request.addLinked made c).tablespaces = c.tablespaces :=
  (linked_tablespaces _ _ _).trans (request.addIndexed_tablespaces made c)

end RelationRequest

/-- A relation is added before its parents are looked up, and is still there if one is missing. -/
theorem createRelation_on (request : RelationRequest) (c : Catalog) :
    (createRelation request).on c = match request.prepare c with
      | .error e => (.error e, c)
      | .ok made => match (c.addRelation made).findParent request.indexOf with
        | .error e => (.error e, c.addRelation made)
        | .ok _ => match (request.addIndexed made c).findParent request.toastOf with
          | .error e => (.error e, request.addIndexed made c)
          | .ok _ =>
            ((request.addLinked made c).relation made.oid, request.addLinked made c) := by
  rw [createRelation, on_bind]
  simp only [on_get, on_bind, on_ofExcept, RelationRequest.prepare]
  cases hdatabase : request.databaseOid c with
  | error e => rfl
  | ok database =>
    by_cases hfound : (c.findRelation database request.name).isSome = true
    · simp only [hfound, if_true]
      rfl
    · simp only [hfound]
      -- The tablespace is the last thing that is looked up before the catalog is changed.
      cases htablespace : request.tablespaceOid c database with
      | error e => rfl
      | ok tablespace =>
        simp only [Except.map, Bool.false_eq_true, if_false, on_bind, on_ofExcept, allocate_on,
          on_modify]
        exact linkBoth_on request.indexOf request.toastOf (c.chosen request.oid) _

theorem dropRelation_on (oid : Int) (c : Catalog) :
    (dropRelation oid).on c = match c.relation oid with
      | .error e => (.error e, c)
      | .ok _ => (.ok (dropAll c.relations [.remove oid]).2,
          { c with relations := (dropAll c.relations [.remove oid]).1 }) := by
  rw [dropRelation, on_bind]
  simp only [on_get, on_bind, on_ofExcept]
  cases c.relation oid <;> rfl

end Catalog

end Footprint
