import Footprint.Proofs.Catalog.Change

/-!
# Operations

A caller changes a catalog by one of seven operations. `Effect` lists all that an operation can do
to a catalog, with the conditions under which it does so, and `Operation.effect` says that an
operation does one of these things. Whatever is kept by every operation is shown by going through
this list.

Most operations either do what they are asked for or leave the catalog alone. The creation of a
relation has two outcomes in between, in which it fails although the relation has been added.
-/

namespace Footprint.Catalog

open Update

/-- A change of the catalog as it can be asked for. -/
inductive Operation where
  | createTablespace (name location : String) (oid : Option Int)
  | createDatabase (name : String) (oid : Option Int) (tablespace : Int)
  | createRole (name : String) (superuser : Bool) (memberOf : List String)
  | grantRole (role member : String)
  /-- Grants a privilege on the object of a name, whose kind is also given by name. -/
  | grant (kind name role privilege : String)
  | createRelation (request : RelationRequest)
  | dropRelation (oid : Int)
  deriving DecidableEq, Repr

namespace Operation

/-- The change that an operation makes. -/
def change : Operation → Update Unit
  | createTablespace name location oid => do
    let _ ← Catalog.createTablespace name location oid
  | createDatabase name oid tablespace => do
    let _ ← Catalog.createDatabase name oid tablespace
  | createRole name superuser memberOf => do
    let _ ← Catalog.createRole name superuser memberOf
  | grantRole role member => Catalog.grantRole role member
  | grant kind name role privilege => do
    let target ← Update.ofExcept (GrantTarget.ofName kind)
    Catalog.grant target name role privilege
  | createRelation request => do
    let _ ← Catalog.createRelation request
  | dropRelation oid => do
    let _ ← Catalog.dropRelation oid

/-- The number that is given for the object that an operation creates. -/
def oid : Operation → Option Int
  | createTablespace _ _ oid => oid
  | createDatabase _ oid _ => oid
  | createRelation request => request.oid
  | _ => none

/-- The numbers of the objects of the kind that an operation creates. -/
def taken (op : Operation) (c : Catalog) : List Int :=
  match op with
  | createTablespace .. => c.tablespaces.keys
  | createDatabase .. => c.databases.keys
  | createRelation _ => c.relations.keys
  | _ => []

/-- Gives an operation no number that is already that of an object of its kind? -/
def Fresh (op : Operation) (c : Catalog) : Prop := ∀ oid, op.oid = some oid → oid ∉ op.taken c

end Operation

/-- What an operation can do to a catalog: its result, and the catalog that it leaves. -/
inductive Effect (c : Catalog) : Operation → Except Error Unit → Catalog → Prop
  /-- It fails before it changes anything. -/
  | refused {op : Operation} {e : Error}
      (hprepare : ∀ request, op = .createRelation request → request.prepare c = .error e) :
      Effect c op (.error e) c
  | tablespace {name location : String} {oid : Option Int} (hname : c.findTablespace name = none) :
      Effect c (.createTablespace name location oid) (.ok ())
        (c.addTablespace { oid := c.chosen oid, name, location })
  | database {name : String} {oid : Option Int} {tablespace : Int}
      (hname : c.findDatabase name = none) :
      Effect c (.createDatabase name oid tablespace) (.ok ())
        (c.addDatabase { oid := c.chosen oid, name, defaultTablespace := tablespace })
  | role {name : String} {superuser : Bool} {memberOf : List String}
      (hname : name ∉ c.roles.keys) :
      Effect c (.createRole name superuser memberOf) (.ok ())
        { c with roles := c.roles.insert name ⟨name, superuser, memberOf⟩ }
  | member {role member : String} :
      Effect c (.grantRole role member) (.ok ())
        { c with roles := c.roles.modify member fun r =>
            { r with memberOf := addOnce role r.memberOf } }
  | databasePrivilege {kind name role privilege : String} (oid : Int) :
      Effect c (.grant kind name role privilege) (.ok ())
        { c with databases := c.databases.modify oid fun d =>
            { d with acl := addPrivilege role privilege d.acl } }
  | tablespacePrivilege {kind name role privilege : String} (oid : Int) :
      Effect c (.grant kind name role privilege) (.ok ())
        { c with tablespaces := c.tablespaces.modify oid fun t =>
            { t with acl := addPrivilege role privilege t.acl } }
  | relation {request : RelationRequest} {made : Relation}
      (hprepare : request.prepare c = .ok made)
      (hindex : (c.addRelation made).findParent request.indexOf = .ok ())
      (htoast : (request.addIndexed made c).findParent request.toastOf = .ok ()) :
      Effect c (.createRelation request) (.ok ()) (request.addLinked made c)
  /-- The relation is there, and what it should be an index of is missing. -/
  | indexOfNothing {request : RelationRequest} {made : Relation} {e : Error}
      (hprepare : request.prepare c = .ok made)
      (hindex : (c.addRelation made).findParent request.indexOf = .error e) :
      Effect c (.createRelation request) (.error e) (c.addRelation made)
  /-- The relation is there, and what it should be the overflow table of is missing. -/
  | toastOfNothing {request : RelationRequest} {made : Relation} {e : Error}
      (hprepare : request.prepare c = .ok made)
      (hindex : (c.addRelation made).findParent request.indexOf = .ok ())
      (htoast : (request.addIndexed made c).findParent request.toastOf = .error e) :
      Effect c (.createRelation request) (.error e) (request.addIndexed made c)
  | dropped (oid : Int) (r : Relation) (hfound : c.relations.find? oid = some r) :
      Effect c (.dropRelation oid) (.ok ())
        { c with relations := (dropAll c.relations [.remove oid]).1 }

/-- **An operation does one of these things.** -/
theorem Operation.effect (op : Operation) (c : Catalog) :
    Effect c op (op.change.on c).1 (op.change.on c).2 := by
  cases op with
  | createTablespace name location oid =>
    rw [change, on_bind, createTablespace_on]
    split_ifs with hname
    · exact .refused fun _ hop => by cases hop
    · exact .tablespace (Option.not_isSome_iff_eq_none.mp hname)
  | createDatabase name oid tablespace =>
    rw [change, on_bind, createDatabase_on]
    split_ifs with hname
    · exact .refused fun _ hop => by cases hop
    · exact .database (Option.not_isSome_iff_eq_none.mp hname)
  | createRole name superuser memberOf =>
    rw [change, on_bind, createRole_on]
    split_ifs with hname
    · exact .refused fun _ hop => by cases hop
    · exact .role fun hmem => hname (Dictionary.contains_iff.mpr hmem)
  | grantRole role member =>
    rw [change, grantRole_on]
    split_ifs with hrole hmember
    · exact .member
    · exact .refused fun _ hop => by cases hop
    · exact .refused fun _ hop => by cases hop
  | grant kind name role privilege =>
    rw [change, on_bind, on_ofExcept]
    rcases GrantTarget.ofName kind with _ | (_ | _)
    · exact .refused fun _ hop => by cases hop
    · dsimp only
      rw [grant_database_on]
      cases c.databaseOid name with
      | error e => exact .refused fun _ hop => by cases hop
      | ok oid => exact .databasePrivilege oid
    · dsimp only
      rw [grant_tablespace_on]
      cases c.tablespaceOid name with
      | error e => exact .refused fun _ hop => by cases hop
      | ok oid => exact .tablespacePrivilege oid
  | createRelation request =>
    rw [change, on_bind, createRelation_on]
    cases hprepare : request.prepare c with
    | error e =>
      refine .refused fun same hsame => ?_
      rw [← Operation.createRelation.inj hsame]
      exact hprepare
    | ok made =>
      dsimp only
      cases hindex : (c.addRelation made).findParent request.indexOf with
      | error e => exact .indexOfNothing hprepare hindex
      | ok =>
        dsimp only
        cases htoast : (request.addIndexed made c).findParent request.toastOf with
        | error e => exact .toastOfNothing hprepare hindex htoast
        | ok =>
          -- Linking leaves the new relation in its place, so it is found in the end.
          have hmem : made.oid ∈ (request.addLinked made c).relations.keys := by
            rw [RelationRequest.keys_addLinked]
            exact mem_keys_addRelation made c
          obtain ⟨r, hr⟩ := exists_relation hmem
          dsimp only
          rw [hr]
          exact .relation hprepare hindex htoast
  | dropRelation oid =>
    rw [change, on_bind, dropRelation_on]
    cases hfound : c.relation oid with
    | error e => exact .refused fun _ hop => by cases hop
    | ok r => exact .dropped oid r (relation_eq_ok_iff.mp hfound)

end Footprint.Catalog
