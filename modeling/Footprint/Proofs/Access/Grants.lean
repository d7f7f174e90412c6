import Footprint.Proofs.Access.Decision
import Footprint.Proofs.Catalog.Run

/-!
# Granting

A grant adds one privilege of a role on an object, or one membership, and nothing else. Seen through
what is held and what is listed, a sequence of grants that all succeed therefore adds exactly what
its members ask for (`Catalog.Gains`): a step lemma for one grant (`Gains.of_grant`), and the run by
putting steps together (`Gains.trans`, `gains_of_performAll`). In this form neither the order of the
grants nor their number can be seen, only which ones there are.

The names that grants are given by are looked up in what they do not change
(`Catalog.ungranted`). So they mean the same objects at every moment, and a grant that succeeds once
succeeds again later and would have succeeded earlier (`grant_result_congr`).

Whatever is positive about a viewer comes from something that is held or listed, which is why grants
only ever add to it. A viewer is concerned by a grant if the grant is made to a role that it speaks
for, or gives a role that it belongs to a further membership (`Viewer.Concerns`). Of the others it
takes no notice, although they change what can be reached from elsewhere.
-/

namespace Footprint

open Catalog (BelongsTo Operation Update parents)

namespace Catalog

variable {c after mid : Catalog}

/-! ### What grants leave alone -/

/-- The catalog without privileges and memberships. -/
def ungranted (c : Catalog) : Catalog :=
  { c with
    tablespaces := c.tablespaces.mapValues fun t => { t with acl := .empty }
    databases := c.databases.mapValues fun d => { d with acl := .empty }
    roles := c.roles.mapValues fun r => { r with memberOf := [] } }

theorem ungranted_databaseOid (name : String) :
    c.ungranted.databaseOid name = c.databaseOid name := by
  rw [databaseOid, databaseOid, findDatabase, findDatabase, ungranted, Dictionary.values_mapValues,
    List.find?_map]
  simp only [Function.comp_def]
  cases c.databases.values.find? fun d => d.name = name <;> rfl

theorem ungranted_tablespaceOid (name : String) :
    c.ungranted.tablespaceOid name = c.tablespaceOid name := by
  rw [tablespaceOid, tablespaceOid, findTablespace, findTablespace, ungranted,
    Dictionary.values_mapValues, List.find?_map]
  simp only [Function.comp_def]
  cases c.tablespaces.values.find? fun t => t.name = name <;> rfl

theorem ungranted_contains (name : String) :
    c.ungranted.roles.contains name = c.roles.contains name := by
  rw [Dictionary.contains, Dictionary.contains, ungranted, Dictionary.find?_mapValues,
    Option.isSome_map]

theorem ungranted_defaultTablespace (viewer : Viewer) :
    viewer.defaultTablespace c.ungranted = viewer.defaultTablespace c := by
  rw [Viewer.defaultTablespace, Viewer.defaultTablespace, defaultTablespace, defaultTablespace,
    ungranted, Dictionary.find?_mapValues]
  cases c.databases.find? viewer.database <;> rfl

theorem ungranted_databaseTitle (oid : Int) :
    Viewer.databaseTitle c.ungranted oid = Viewer.databaseTitle c oid := by
  rw [Viewer.databaseTitle, Viewer.databaseTitle, ungranted, Dictionary.find?_mapValues,
    Option.map_map]
  rfl

theorem ungranted_tablespaceTitle (oid : Int) :
    Viewer.tablespaceTitle c.ungranted oid = Viewer.tablespaceTitle c oid := by
  rw [Viewer.tablespaceTitle, Viewer.tablespaceTitle, ungranted, Dictionary.find?_mapValues,
    Option.map_map]
  rfl

theorem ungranted_superuser (viewer : Viewer) :
    viewer.Superuser c.ungranted ↔ viewer.Superuser c := by
  rw [Viewer.Superuser, Viewer.Superuser, ungranted, Dictionary.find?_mapValues]
  cases c.roles.find? viewer.role <;> simp

section SameRest

variable (h : after.ungranted = c.ungranted)
include h

theorem databaseOid_congr : after.databaseOid = c.databaseOid := by
  funext name
  rw [← ungranted_databaseOid, h, ungranted_databaseOid]

theorem tablespaceOid_congr : after.tablespaceOid = c.tablespaceOid := by
  funext name
  rw [← ungranted_tablespaceOid, h, ungranted_tablespaceOid]

theorem contains_congr (name : String) : after.roles.contains name = c.roles.contains name := by
  rw [← ungranted_contains, h, ungranted_contains]

theorem keys_databases_congr : after.databases.keys = c.databases.keys := by
  have hkeys := congrArg (fun other => other.databases.keys) h
  simpa only [ungranted, Dictionary.keys_mapValues] using hkeys

theorem keys_tablespaces_congr : after.tablespaces.keys = c.tablespaces.keys := by
  have hkeys := congrArg (fun other => other.tablespaces.keys) h
  simpa only [ungranted, Dictionary.keys_mapValues] using hkeys

theorem superuser_congr (viewer : Viewer) : viewer.Superuser after ↔ viewer.Superuser c := by
  rw [← ungranted_superuser, h, ungranted_superuser]

theorem defaultTablespace_congr (viewer : Viewer) :
    viewer.defaultTablespace after = viewer.defaultTablespace c := by
  rw [← ungranted_defaultTablespace, h, ungranted_defaultTablespace]

theorem databaseTitle_congr (oid : Int) :
    Viewer.databaseTitle after oid = Viewer.databaseTitle c oid := by
  rw [← ungranted_databaseTitle, h, ungranted_databaseTitle]

theorem tablespaceTitle_congr (oid : Int) :
    Viewer.tablespaceTitle after oid = Viewer.tablespaceTitle c oid := by
  rw [← ungranted_tablespaceTitle, h, ungranted_tablespaceTitle]

end SameRest

/-! ### What is added -/

theorem mem_addOnce_iff {item added : String} {items : List String} :
    item ∈ addOnce added items ↔ item ∈ items ∨ item = added := by
  unfold addOnce
  split
  · next hmem =>
    refine (or_iff_left_of_imp ?_).symm
    rintro rfl
    exact hmem
  · rw [List.mem_append, List.mem_singleton]

theorem holds_addPrivilege_iff {acl : Acl} {role granted privilege added : String} :
    Viewer.holds (addPrivilege granted added acl) privilege role = true ↔
      Viewer.holds acl privilege role = true ∨ role = granted ∧ privilege = added := by
  rw [Viewer.holds_iff, Viewer.holds_iff, addPrivilege, Dictionary.find?_insert]
  by_cases hrole : role = granted
  · rw [if_pos hrole, Option.getD_some, mem_addOnce_iff, hrole]
    exact or_congr Iff.rfl (and_iff_right rfl).symm
  · rw [if_neg hrole]
    exact (or_iff_left fun h => hrole h.1).symm

theorem holds_aclAt_iff {ν : Type} {aclOf : ν → Acl} {objects : Dictionary Int ν} {oid : Int}
    {role privilege : String} : Viewer.holds (aclAt aclOf objects oid) privilege role = true ↔
      ∃ v, objects.find? oid = some v ∧ Viewer.holds (aclOf v) privilege role = true := by
  unfold aclAt
  cases objects.find? oid with
  | none => exact iff_of_false nofun nofun
  | some v => simp

/-- A privilege that is added on one object, if it is there. -/
theorem holds_aclAt_modify {ν : Type} {aclOf : ν → Acl} {f : ν → ν} {objects : Dictionary Int ν}
    {granted added : String} (hf : ∀ v, aclOf (f v) = addPrivilege granted added (aclOf v))
    {oid target : Int} {role privilege : String} :
    Viewer.holds (aclAt aclOf (objects.modify target f) oid) privilege role = true ↔
      Viewer.holds (aclAt aclOf objects oid) privilege role = true ∨
        oid = target ∧ oid ∈ objects.keys ∧ role = granted ∧ privilege = added := by
  rw [holds_aclAt_iff, holds_aclAt_iff]
  apply Dictionary.exists_find?_modify_iff
  intro v
  rw [hf, holds_addPrivilege_iff]

theorem mem_parents_addOnce {roles : Dictionary String Role} {role added member changed : String} :
    role ∈ parents (roles.modify changed fun r => { r with memberOf := addOnce added r.memberOf })
        member ↔
      role ∈ parents roles member ∨ member = changed ∧ member ∈ roles.keys ∧ role = added := by
  rw [mem_parents_iff, mem_parents_iff]
  apply Dictionary.exists_find?_modify_iff
  exact fun r => mem_addOnce_iff

/-! ### What a sequence of grants adds -/

/-- Does an operation grant something? -/
def Operation.IsGrant : Operation → Prop
  | .grantRole .. | .grant .. => True
  | _ => False

/-- The name of a kind of objects. -/
def GrantTarget.kind : GrantTarget → String
  | .database => "database"
  | .tablespace => "tablespace"

theorem GrantTarget.eq_kind {kind : String} {target : GrantTarget}
    (h : GrantTarget.ofName kind = .ok target) : kind = target.kind := by
  unfold GrantTarget.ofName at h
  split_ifs at h with hdatabase htablespace
  · obtain rfl := Except.ok.inj h
    exact hdatabase
  · obtain rfl := Except.ok.inj h
    exact htablespace

/-- Is a privilege asked for on the object of a number? The objects of a kind are asked for by their
names. -/
def GrantedOn (ops : List Operation) (kind : String) (resolve : String → Except Error Int)
    (known : List Int) (oid : Int) (role privilege : String) : Prop :=
  oid ∈ known ∧ ∃ name, resolve name = .ok oid ∧ .grant kind name role privilege ∈ ops

/-- A catalog has, compared with an earlier one, the privileges and memberships that grants ask for,
and is otherwise the same. -/
structure Gains (ops : List Operation) (c after : Catalog) : Prop where
  ungranted : after.ungranted = c.ungranted
  parents : ∀ member role, role ∈ parents after.roles member ↔
    role ∈ parents c.roles member ∨ .grantRole role member ∈ ops
  database : ∀ oid role privilege, Viewer.holds (after.databaseAcl oid) privilege role = true ↔
    Viewer.holds (c.databaseAcl oid) privilege role = true ∨
      GrantedOn ops "database" c.databaseOid c.databases.keys oid role privilege
  tablespace : ∀ oid role privilege, Viewer.holds (after.tablespaceAcl oid) privilege role = true ↔
    Viewer.holds (c.tablespaceAcl oid) privilege role = true ∨
      GrantedOn ops "tablespace" c.tablespaceOid c.tablespaces.keys oid role privilege

section GrantedOn

variable {first second : List Operation} {kind : String} {resolve : String → Except Error Int}
  {known : List Int} {oid : Int} {role privilege : String}

theorem grantedOn_append : GrantedOn (first ++ second) kind resolve known oid role privilege ↔
    GrantedOn first kind resolve known oid role privilege ∨
      GrantedOn second kind resolve known oid role privilege := by
  simp only [GrantedOn, List.mem_append, and_or_left, exists_or]

theorem grantedOn_singleton {name granted added : String} :
    GrantedOn [.grant kind name granted added] kind resolve known oid role privilege ↔
      resolve name = .ok oid ∧ oid ∈ known ∧ role = granted ∧ privilege = added := by
  simp only [GrantedOn, List.mem_singleton, Operation.grant.injEq, true_and]
  constructor
  · rintro ⟨hknown, _, hname, rfl, hrole, hprivilege⟩
    exact ⟨hname, hknown, hrole, hprivilege⟩
  · rintro ⟨hname, hknown, hrole, hprivilege⟩
    exact ⟨hknown, name, hname, rfl, hrole, hprivilege⟩

theorem not_grantedOn (h : ∀ name, .grant kind name role privilege ∉ first) :
    ¬GrantedOn first kind resolve known oid role privilege := by
  rintro ⟨-, name, -, hmem⟩
  exact h name hmem

end GrantedOn

namespace Gains

variable {ops first second : List Operation}

/-- Without a grant nothing is gained. -/
theorem refl (c : Catalog) : Gains [] c c where
  ungranted := rfl
  parents _ _ := (or_iff_left List.not_mem_nil).symm
  database _ _ _ := (or_iff_left (not_grantedOn fun _ => List.not_mem_nil)).symm
  tablespace _ _ _ := (or_iff_left (not_grantedOn fun _ => List.not_mem_nil)).symm

/-- Gains add up: the names that come second mean what they meant at first. -/
theorem trans (h : Gains first c mid) (h' : Gains second mid after) :
    Gains (first ++ second) c after where
  ungranted := h'.ungranted.trans h.ungranted
  parents member role := by rw [h'.parents, h.parents, or_assoc, List.mem_append]
  database oid role privilege := by
    rw [h'.database, h.database, grantedOn_append, or_assoc, databaseOid_congr h.ungranted,
      keys_databases_congr h.ungranted]
  tablespace oid role privilege := by
    rw [h'.tablespace, h.tablespace, grantedOn_append, or_assoc, tablespaceOid_congr h.ungranted,
      keys_tablespaces_congr h.ungranted]

/-- A further membership. -/
theorem of_grantRole {role member : String} (hmember : member ∈ c.roles.keys) :
    Gains [.grantRole role member] c
      { c with roles := c.roles.modify member fun r =>
          { r with memberOf := addOnce role r.memberOf } } where
  ungranted := by
    refine congrArg (fun roles => { c.ungranted with roles }) ?_
    dsimp only
    apply Dictionary.mapValues_modify
    exact fun _ => rfl
  parents other role' := by
    rw [mem_parents_addOnce, List.mem_singleton, Operation.grantRole.injEq]
    refine or_congr Iff.rfl ⟨fun h => ⟨h.2.2, h.1⟩, ?_⟩
    rintro ⟨rfl, rfl⟩
    exact ⟨rfl, hmember, rfl⟩
  database _ _ _ := (or_iff_left (not_grantedOn (by simp))).symm
  tablespace _ _ _ := (or_iff_left (not_grantedOn (by simp))).symm

/-- A further privilege on a database. -/
theorem of_grant_database {name role privilege : String} {oid : Int}
    (hoid : c.databaseOid name = .ok oid) :
    Gains [.grant "database" name role privilege] c
      { c with databases := c.databases.modify oid fun d =>
          { d with acl := addPrivilege role privilege d.acl } } where
  ungranted := by
    refine congrArg (fun databases => { c.ungranted with databases }) ?_
    dsimp only
    apply Dictionary.mapValues_modify
    exact fun _ => rfl
  parents _ _ := (or_iff_left (by simp)).symm
  database other role' privilege' := by
    rw [grantedOn_singleton, hoid, Except.ok.injEq, eq_comm (a := oid)]
    apply holds_aclAt_modify
    exact fun _ => rfl
  tablespace _ _ _ := (or_iff_left (not_grantedOn (by simp))).symm

/-- A further privilege on a tablespace. -/
theorem of_grant_tablespace {name role privilege : String} {oid : Int}
    (hoid : c.tablespaceOid name = .ok oid) :
    Gains [.grant "tablespace" name role privilege] c
      { c with tablespaces := c.tablespaces.modify oid fun t =>
          { t with acl := addPrivilege role privilege t.acl } } where
  ungranted := by
    refine congrArg (fun tablespaces => { c.ungranted with tablespaces }) ?_
    dsimp only
    apply Dictionary.mapValues_modify
    exact fun _ => rfl
  parents _ _ := (or_iff_left (by simp)).symm
  database _ _ _ := (or_iff_left (not_grantedOn (by simp))).symm
  tablespace other role' privilege' := by
    rw [grantedOn_singleton, hoid, Except.ok.injEq, eq_comm (a := oid)]
    apply holds_aclAt_modify
    exact fun _ => rfl

/-- **One grant that succeeds adds what it asks for.** -/
theorem of_grant {op : Operation} (hgrant : op.IsGrant) (h : op.change.on c = (.ok (), after)) :
    Gains [op] c after := by
  cases op with
  | grantRole role member =>
    rw [Operation.change, grantRole_on] at h
    split_ifs at h with hrole hmember
    · obtain rfl := (Prod.mk.inj h).2
      exact of_grantRole (Dictionary.contains_iff.mp hmember)
    · cases h
    · cases h
  | grant kind name role privilege =>
    rw [Operation.change, Update.on_bind, Update.on_ofExcept] at h
    rcases htarget : GrantTarget.ofName kind with e | (_ | _)
    · rw [htarget] at h
      cases h
    · rw [htarget] at h
      dsimp only at h
      rw [grant_database_on] at h
      obtain rfl := GrantTarget.eq_kind htarget
      cases hoid : c.databaseOid name with
      | error e => rw [hoid] at h; cases h
      | ok oid =>
        rw [hoid] at h
        obtain rfl := (Prod.mk.inj h).2
        exact of_grant_database hoid
    · rw [htarget] at h
      dsimp only at h
      rw [grant_tablespace_on] at h
      obtain rfl := GrantTarget.eq_kind htarget
      cases hoid : c.tablespaceOid name with
      | error e => rw [hoid] at h; cases h
      | ok oid =>
        rw [hoid] at h
        obtain rfl := (Prod.mk.inj h).2
        exact of_grant_tablespace hoid
  | _ => cases hgrant

end Gains

/-! ### Sequences of grants -/

/-- Whether a grant succeeds does not depend on what has been granted. -/
theorem grant_result_congr {op : Operation} (hgrant : op.IsGrant)
    (h : after.ungranted = c.ungranted) : (op.change.on after).1 = (op.change.on c).1 := by
  cases op with
  | grantRole role member =>
    rw [Operation.change, grantRole_on, grantRole_on, contains_congr h, contains_congr h]
    split_ifs <;> rfl
  | grant kind name role privilege =>
    rw [Operation.change, Update.on_bind, Update.on_bind, Update.on_ofExcept, Update.on_ofExcept]
    rcases GrantTarget.ofName kind with e | (_ | _)
    · rfl
    · dsimp only
      rw [grant_database_on, grant_database_on, databaseOid_congr h]
      cases c.databaseOid name <;> rfl
    · dsimp only
      rw [grant_tablespace_on, grant_tablespace_on, tablespaceOid_congr h]
      cases c.tablespaceOid name <;> rfl
  | _ => cases hgrant

end Catalog

namespace Store

open Catalog (Gains)

variable {store after : Store} {ops : List Operation}

/-- Carries out operations one after the other, until one fails. -/
def performAll : List Operation → Store → Except Error Store
  | [], store => .ok store
  | op :: rest, store =>
    match store.perform op with
    | (.ok _, next) => performAll rest next
    | (.error e, _) => .error e

theorem performAll_cons_ok {op : Operation} (h : performAll (op :: ops) store = .ok after) :
    ∃ next, store.perform op = (.ok (), next) ∧ performAll ops next = .ok after := by
  rw [performAll] at h
  split at h
  · next next hop => exact ⟨next, hop, h⟩
  · cases h

/-- **Grants that all succeed add what they ask for.** -/
theorem gains_of_performAll (hgrants : ∀ op ∈ ops, op.IsGrant)
    (h : performAll ops store = .ok after) : Gains ops store.catalog after.catalog := by
  induction ops generalizing store with
  | nil =>
    obtain rfl := Except.ok.inj h
    exact Gains.refl store.catalog
  | cons op rest ih =>
    obtain ⟨next, hop, hrest⟩ := performAll_cons_ok h
    have hfirst : Gains [op] store.catalog next.catalog :=
      Gains.of_grant (hgrants op List.mem_cons_self) (perform_ok hop).1
    exact hfirst.trans (ih (fun other hother => hgrants other (List.mem_cons_of_mem op hother)) hrest)

/-- Grants succeed one after the other if each of them would succeed at once. -/
theorem exists_performAll_iff (hgrants : ∀ op ∈ ops, op.IsGrant) :
    (∃ after, performAll ops store = .ok after) ↔
      ∀ op ∈ ops, (op.change.on store.catalog).1 = .ok () := by
  induction ops generalizing store with
  | nil => exact iff_of_true ⟨store, rfl⟩ (List.forall_mem_nil _)
  | cons op rest ih =>
    obtain ⟨hgrant, hothers⟩ := List.forall_mem_cons.mp hgrants
    rw [List.forall_mem_cons]
    cases hon : op.change.on store.catalog with
    | mk result left =>
      cases result with
      | error e =>
        refine iff_of_false ?_ (fun h => nomatch h.1)
        rintro ⟨after, hafter⟩
        obtain ⟨next, hop, -⟩ := performAll_cons_ok hafter
        rw [(perform_ok hop).1] at hon
        cases hon
      | ok =>
        -- The first grant changes nothing that decides whether the others succeed.
        have hop : store.perform op = (.ok (), saved left) := by rw [perform_eq, hon]
        have hsame : left.ungranted = store.catalog.ungranted := (Gains.of_grant hgrant hon).ungranted
        rw [performAll, hop, and_iff_right rfl]
        refine (ih hothers).trans (forall₂_congr fun other hother => ?_)
        rw [← Catalog.grant_result_congr (hothers other hother) hsame]
        rfl

end Store

/-! ### What viewers notice -/

namespace Viewer

open Catalog (Gains)

variable {viewer : Viewer} {c after : Catalog} {ops : List Operation}

/-- Does an operation grant something to a viewer? That is, a privilege to a role that it speaks for,
or a membership to a role that it belongs to. -/
def Concerns (c : Catalog) (viewer : Viewer) : Operation → Prop
  | .grantRole _ member => BelongsTo c.roles viewer.role member
  | .grant _ _ role _ => viewer.Speaks c role
  | _ => False

/-- What a viewer may see and do in a catalog it may still see and do in another one. -/
structure KeepsRights (viewer : Viewer) (c after : Catalog) : Prop where
  database : ∀ d, (viewer.checkDatabase c d).1 = .ok () → (viewer.checkDatabase after d).1 = .ok ()
  tablespace : ∀ t, (viewer.checkTablespace c t).1 = .ok () →
    (viewer.checkTablespace after t).1 = .ok ()
  role : ∀ role, viewer.hasPrivilegesOf c role = true → viewer.hasPrivilegesOf after role = true

/-- A check of a tablespace passes only if the current database is in the catalog. -/
theorem known_of_checkTablespace {tablespace : Int}
    (h : (viewer.checkTablespace c tablespace).1 = .ok ()) : viewer.database ∈ c.databases.keys := by
  by_contra hunknown
  have hdefault : viewer.defaultTablespace c = .error (.missingKey (toString viewer.database)) := by
    rw [defaultTablespace, Catalog.defaultTablespace, Dictionary.find?_eq_none_iff.mpr hunknown]
  rw [checkTablespace, maySeeTablespace, hdefault] at h
  cases h

/-- Catalogs that differ at most in what is granted to others give the same verdicts. -/
theorem sameVerdicts_of_sameGrants (h : after.ungranted = c.ungranted)
    (hroles : viewer.SameRoles c after)
    (hdatabase : ∀ d, viewer.SameGrants c (c.databaseAcl d) (after.databaseAcl d))
    (htablespace : ∀ t, viewer.SameGrants c (c.tablespaceAcl t) (after.tablespaceAcl t)) :
    viewer.SameVerdicts c after where
  database d := hroles.checkDatabase_eq (Catalog.databaseTitle_congr h d) (hdatabase d)
  tablespace t := by
    apply hroles.checkTablespace_eq
    · exact Catalog.defaultTablespace_congr h viewer
    · exact Catalog.tablespaceTitle_congr h t
    · exact htablespace t
  role _ := hroles.hasPrivilegesOf_eq

theorem belongsTo_of_gains (h : Gains ops c after) {start role : String}
    (hrole : BelongsTo c.roles start role) : BelongsTo after.roles start role :=
  hrole.mono fun member parent hparent => (h.parents member parent).mpr (Or.inl hparent)

theorem granted_mono (h : Gains ops c after) {acl later : Acl}
    (hacl : ∀ role privilege, holds acl privilege role = true → holds later privilege role = true)
    {privilege : String} (hgranted : viewer.Granted c acl privilege) :
    viewer.Granted after later privilege := by
  obtain ⟨role, hspeaks, hholds⟩ := hgranted
  have hlater := hacl role privilege (holds_iff.mpr hholds)
  exact ⟨role, hspeaks.imp_left (belongsTo_of_gains h), holds_iff.mp hlater⟩

/-- Grants take nothing away. -/
theorem keepsRights_of_gains (h : Gains ops c after) : viewer.KeepsRights c after := by
  have hsuper := Catalog.superuser_congr h.ungranted viewer
  constructor
  · intro d hbefore
    rw [checkDatabase_follows.passes] at hbefore ⊢
    refine hbefore.imp hsuper.mpr (Or.imp (belongsTo_of_gains h) (granted_mono h ?_))
    exact fun role privilege hheld => (h.database d role privilege).mpr (Or.inl hheld)
  · intro t hbefore
    -- Without a current database there is no rule to compare, but then nothing passes either.
    have hknown := known_of_checkTablespace hbefore
    have hstill : viewer.database ∈ after.databases.keys := by
      rw [Catalog.keys_databases_congr h.ungranted]
      exact hknown
    rw [(checkTablespace_follows hknown).passes] at hbefore
    rw [(checkTablespace_follows hstill).passes]
    refine hbefore.imp (Catalog.defaultTablespace_congr h.ungranted viewer).trans
      (Or.imp hsuper.mpr (Or.imp (belongsTo_of_gains h) (granted_mono h ?_)))
    exact fun role privilege hheld => (h.tablespace t role privilege).mpr (Or.inl hheld)
  · intro role hbefore
    rw [hasPrivilegesOf_iff] at hbefore ⊢
    exact hbefore.imp hsuper.mpr (belongsTo_of_gains h)

/-- A viewer takes no notice of grants to others. -/
theorem sameVerdicts_of_unconcerned (h : Gains ops c after)
    (hothers : ∀ op ∈ ops, ¬viewer.Concerns c op) : viewer.SameVerdicts c after := by
  apply sameVerdicts_of_sameGrants h.ungranted
  · refine ⟨Catalog.superuser_congr h.ungranted viewer, fun member hmember parent => ?_⟩
    exact (h.parents member parent).trans (or_iff_left fun hmem => hothers _ hmem hmember)
  · intro d role hspeaks privilege
    refine (h.database d role privilege).trans (or_iff_left (Catalog.not_grantedOn ?_))
    exact fun name hmem => hothers _ hmem hspeaks
  · intro t role hspeaks privilege
    refine (h.tablespace t role privilege).trans (or_iff_left (Catalog.not_grantedOn ?_))
    exact fun name hmem => hothers _ hmem hspeaks

/-- Which grants there are decides what was gained, not their order or their number. -/
theorem sameVerdicts_of_same_grants {others : List Operation} {final : Catalog}
    (h : Gains ops c after) (hfinal : Gains others c final)
    (hsame : ∀ op, op ∈ others ↔ op ∈ ops) : viewer.SameVerdicts after final := by
  have hrest : final.ungranted = after.ungranted := hfinal.ungranted.trans h.ungranted.symm
  apply sameVerdicts_of_sameGrants hrest
  · refine ⟨Catalog.superuser_congr hrest viewer, fun member _ parent => ?_⟩
    rw [hfinal.parents, h.parents, hsame]
  · intro d role _ privilege
    simp only [hfinal.database, h.database, Catalog.GrantedOn, hsame]
  · intro t role _ privilege
    simp only [hfinal.tablespace, h.tablespace, Catalog.GrantedOn, hsame]

end Viewer

namespace Store

/-- **Grants only add rights, only to those whom they concern, and in any order.** After grants that
have all succeeded every viewer has the rights that it had before. A viewer that none of them
concerned, as the catalog was before them, gets the same verdicts as before. The same grants in
another order, or some of them repeatedly, succeed as well and end in the same verdicts for
everyone. -/
theorem grants_commute {store after : Store} {ops : List Operation}
    (hgrants : ∀ op ∈ ops, op.IsGrant) (hafter : performAll ops store = .ok after) :
    (∀ viewer : Viewer, viewer.KeepsRights store.catalog after.catalog) ∧
    (∀ viewer : Viewer, (∀ op ∈ ops, ¬viewer.Concerns store.catalog op) →
      viewer.SameVerdicts store.catalog after.catalog) ∧
    ∀ others, (∀ op, op ∈ others ↔ op ∈ ops) → ∃ final, performAll others store = .ok final ∧
      ∀ viewer : Viewer, viewer.SameVerdicts after.catalog final.catalog := by
  have hgains := gains_of_performAll hgrants hafter
  refine ⟨fun viewer => Viewer.keepsRights_of_gains hgains,
    fun viewer hothers => Viewer.sameVerdicts_of_unconcerned hgains hothers,
    fun others hsame => ?_⟩
  have hgrantsToo : ∀ op ∈ others, op.IsGrant := fun op hop => hgrants op ((hsame op).mp hop)
  -- Each of the grants would succeed at once, and this does not depend on the order.
  have hsucceed := (exists_performAll_iff hgrants).mp ⟨after, hafter⟩
  obtain ⟨final, hfinal⟩ := (exists_performAll_iff hgrantsToo).mpr fun op hop =>
    hsucceed op ((hsame op).mp hop)
  refine ⟨final, hfinal, fun viewer => ?_⟩
  exact Viewer.sameVerdicts_of_same_grants hgains (gains_of_performAll hgrantsToo hfinal) hsame

/-- Ann is in a team that may connect, and the team joins the staff, which may create in the global
tablespace. Bob is none of them. -/
theorem grants_commute_team :
    let c : Catalog :=
      { Catalog.bootstrap with
        databases := .ofValues Database.oid
          [{ oid := 5, name := "postgres", acl := ⟨[("team", ["CONNECT"])], by decide⟩ }]
        roles := .ofValues Role.name
          [{ name := "ann", memberOf := ["team"] }, { name := "team" }, { name := "staff" },
            { name := "bob" }] }
    let join : Operation := .grantRole "staff" "team"
    let allow : Operation := .grant "tablespace" "pg_global" "staff" "CREATE"
    let ann : Viewer := { role := "ann", database := 5 }
    let bob : Viewer := { role := "bob", database := 5 }
    ∃ after, performAll [join, allow] (saved c) = .ok after ∧
      (ann.checkDatabase after.catalog 5).1 = .ok () ∧ bob.SameVerdicts c after.catalog ∧
      ∃ final, performAll [allow, join, allow] (saved c) = .ok final ∧
        ∀ viewer : Viewer, viewer.SameVerdicts after.catalog final.catalog := by
  intro c join allow ann bob
  have hgrants : ∀ op ∈ [join, allow], op.IsGrant := by
    simp [join, allow, Operation.IsGrant]
  have hsucceed : ∀ op ∈ [join, allow], (op.change.on (saved c).catalog).1 = .ok () := by decide
  obtain ⟨after, hafter⟩ := (exists_performAll_iff hgrants).mpr hsucceed
  obtain ⟨hkeeps, hunconcerned, hcommute⟩ := grants_commute hgrants hafter
  refine ⟨after, hafter, (hkeeps ann).database 5 ?_, hunconcerned bob ?_, hcommute _ ?_⟩
  · rw [Viewer.checkDatabase_follows.passes]
    refine Or.inr (Or.inr ⟨"team", Or.inl ?_, by decide⟩)
    exact Relation.ReflTransGen.single (by decide)
  · have hbob : ∀ role, BelongsTo c.roles "bob" role → role ∈ ["bob"] :=
      fun role hrole => hrole.mem_of_closed (by decide) (by decide)
    intro op hop hconcerns
    rcases List.mem_pair.mp hop with rfl | rfl
    · exact absurd (hbob _ hconcerns) (by decide)
    · rcases hconcerns with hrole | hpublic
      · exact absurd (hbob _ hrole) (by decide)
      · exact absurd hpublic (by decide)
  · intro op
    simp only [List.mem_cons, List.not_mem_nil, or_false]
    tauto

end Store

end Footprint
