import Footprint.Access
import Footprint.Proofs.Catalog.Membership

/-!
# Who may see what

A viewer may see the size of a database if its role is a superuser, belongs to the statistics role,
or belongs to a role that may connect to the database; what the public may do counts as well
(`Viewer.DatabaseRule`). Tablespaces have the same rule with another privilege, and the default
tablespace of the current database is open to everyone (`Viewer.TablespaceRule`). The checks decide
exactly this (`checkDatabase_follows`, `checkTablespace_follows`): each of the tests that they are made
of is one part of the rule, and the roles that they go through are those that the viewer belongs to.

Two catalogs whose roles are the same to a viewer (`Viewer.SameRoles`) give it the same verdict on an
object that grants the same to it (`SameRoles.checkDatabase_eq`, `SameRoles.checkTablespace_eq`).
What other roles are, and what the public is a member of, is not among what has to be the same.
-/

namespace Footprint

open Catalog (BelongsTo parents)

namespace Catalog

/-- The privileges on the object of a number; none if there is no such object. -/
def aclAt {ν : Type} (aclOf : ν → Acl) (objects : Dictionary Int ν) (oid : Int) : Acl :=
  ((objects.find? oid).map aclOf).getD .empty

/-- The privileges on a database. -/
def databaseAcl (c : Catalog) : Int → Acl := aclAt Database.acl c.databases

/-- The privileges on a tablespace. -/
def tablespaceAcl (c : Catalog) : Int → Acl := aclAt Tablespace.acl c.tablespaces

end Catalog

namespace Viewer

variable {viewer : Viewer} {c other : Catalog} {acl otherAcl : Acl} {privilege role : String}
  {database tablespace : Int}

/-! ### The rule -/

/-- Is the role of the viewer itself marked as a superuser? -/
def Superuser (c : Catalog) (viewer : Viewer) : Prop :=
  ∃ info, c.roles.find? viewer.role = some info ∧ info.superuser = true

/-- Is a role one whose privileges the viewer has? Those of the public are everyone's. -/
def Speaks (c : Catalog) (viewer : Viewer) (role : String) : Prop :=
  BelongsTo c.roles viewer.role role ∨ role = everyone

/-- Does a role whose privileges the viewer has hold a privilege? -/
def Granted (c : Catalog) (viewer : Viewer) (acl : Acl) (privilege : String) : Prop :=
  ∃ role, viewer.Speaks c role ∧ privilege ∈ (acl.find? role).getD []

/-- The rule for databases. -/
def DatabaseRule (c : Catalog) (viewer : Viewer) (database : Int) : Prop :=
  viewer.Superuser c ∨ BelongsTo c.roles viewer.role Catalog.statisticsRole ∨
    viewer.Granted c (c.databaseAcl database) connectPrivilege

/-- The rule for tablespaces. -/
def TablespaceRule (c : Catalog) (viewer : Viewer) (tablespace : Int) : Prop :=
  viewer.defaultTablespace c = .ok tablespace ∨ viewer.Superuser c ∨
    BelongsTo c.roles viewer.role Catalog.statisticsRole ∨
    viewer.Granted c (c.tablespaceAcl tablespace) createPrivilege

/-! ### The tests -/

theorem isSuperuser_iff : viewer.isSuperuser c = true ↔ viewer.Superuser c := by
  unfold isSuperuser Superuser
  cases c.roles.find? viewer.role <;> simp

theorem hasPrivilegesOf_iff : viewer.hasPrivilegesOf c role = true ↔
    viewer.Superuser c ∨ BelongsTo c.roles viewer.role role := by
  rw [hasPrivilegesOf, Bool.or_eq_true, isSuperuser_iff, List.contains_iff_mem,
    Catalog.mem_memberships_iff]

theorem holds_iff : holds acl privilege role = true ↔ privilege ∈ (acl.find? role).getD [] :=
  List.contains_iff_mem

theorem isGranted_iff : viewer.isGranted c acl privilege = true ↔
    viewer.Superuser c ∨ viewer.Granted c acl privilege := by
  rw [isGranted, Bool.or_eq_true, isSuperuser_iff, List.any_eq_true]
  refine or_congr Iff.rfl (exists_congr fun role => ?_)
  rw [List.mem_cons, Catalog.mem_memberships_iff, or_comm, holds_iff]
  rfl

theorem maySeeDatabase_iff : viewer.maySeeDatabase c database = true ↔
    viewer.DatabaseRule c database := by
  have htests : viewer.maySeeDatabase c database =
      (viewer.isGranted c (c.databaseAcl database) connectPrivilege ||
        viewer.hasPrivilegesOf c Catalog.statisticsRole) := rfl
  rw [htests, Bool.or_eq_true, isGranted_iff, hasPrivilegesOf_iff, DatabaseRule]
  tauto

theorem maySeeTablespace_eq {default : Int} (hdefault : viewer.defaultTablespace c = .ok default) :
    viewer.maySeeTablespace c tablespace = .ok (tablespace == default ||
      viewer.hasPrivilegesOf c Catalog.statisticsRole ||
      viewer.isGranted c (c.tablespaceAcl tablespace) createPrivilege) := by
  rw [maySeeTablespace, hdefault]
  rfl

theorem tablespaceRule_iff {default : Int} (hdefault : viewer.defaultTablespace c = .ok default) :
    (tablespace == default || viewer.hasPrivilegesOf c Catalog.statisticsRole ||
      viewer.isGranted c (c.tablespaceAcl tablespace) createPrivilege) = true ↔
    viewer.TablespaceRule c tablespace := by
  have hsame : tablespace = default ↔ viewer.defaultTablespace c = .ok tablespace := by
    rw [hdefault, Except.ok.injEq]
    exact eq_comm
  rw [Bool.or_eq_true, Bool.or_eq_true, beq_iff_eq, hasPrivilegesOf_iff, isGranted_iff, hsame,
    TablespaceRule]
  tauto

/-! ### The verdicts -/

/-- A check passes exactly if a rule holds, and otherwise refuses with an error. -/
structure Verdict.Follows (verdict : Verdict Unit) (rule : Prop) (refusal : Error) : Prop where
  passes : verdict.1 = .ok () ↔ rule
  refuses : verdict.1 = .error refusal ↔ ¬rule

theorem Verdict.Follows.eq_of_error {verdict : Verdict Unit} {rule : Prop} {refusal e : Error}
    (h : verdict.Follows rule refusal) (herror : verdict.1 = .error e) : e = refusal := by
  by_cases hrule : rule
  · rw [h.passes.mpr hrule] at herror
    cases herror
  · rw [h.refuses.mpr hrule] at herror
    exact (Except.error.inj herror).symm

theorem Verdict.follows_of_test {allowed : Bool} {rule : Prop} (h : allowed = true ↔ rule)
    (refusal : Error) (warnings : List Warning) :
    Verdict.Follows (if allowed then Verdict.quiet (.ok ()) else (.error refusal, warnings)) rule
      refusal := by
  split
  · next hallowed =>
    have hrule := h.mp hallowed
    exact ⟨iff_of_true rfl hrule, iff_of_false nofun (not_not.mpr hrule)⟩
  · next hrefused =>
    have hrule := mt h.mpr hrefused
    exact ⟨iff_of_false nofun hrule, iff_of_true rfl hrule⟩

theorem checkDatabase_follows : (viewer.checkDatabase c database).Follows
    (viewer.DatabaseRule c database) (.denied "database" (databaseTitle c database)) :=
  Verdict.follows_of_test maySeeDatabase_iff _ _

/-- A current database that is in the catalog has a default tablespace. -/
theorem exists_defaultTablespace (hknown : viewer.database ∈ c.databases.keys) :
    ∃ default, viewer.defaultTablespace c = .ok default := by
  obtain ⟨d, hd⟩ := Dictionary.exists_of_mem_keys hknown
  refine ⟨d.defaultTablespace, ?_⟩
  rw [defaultTablespace, Catalog.defaultTablespace, hd]

theorem checkTablespace_follows (hknown : viewer.database ∈ c.databases.keys) :
    (viewer.checkTablespace c tablespace).Follows (viewer.TablespaceRule c tablespace)
      (.denied "tablespace" (tablespaceTitle c tablespace)) := by
  obtain ⟨default, hdefault⟩ := exists_defaultTablespace hknown
  rw [checkTablespace, maySeeTablespace_eq hdefault]
  exact Verdict.follows_of_test (tablespaceRule_iff hdefault) _ _

/-! ### What verdicts depend on -/

/-- The roles of two catalogs are the same to a viewer: its own role is a superuser in both or in
neither, and the roles that it belongs to have the same memberships. -/
structure SameRoles (viewer : Viewer) (c other : Catalog) : Prop where
  superuser : viewer.Superuser other ↔ viewer.Superuser c
  parents : ∀ member, BelongsTo c.roles viewer.role member →
    ∀ parent, parent ∈ parents other.roles member ↔ parent ∈ parents c.roles member

/-- Two objects grant the same to a viewer. -/
def SameGrants (c : Catalog) (viewer : Viewer) (acl otherAcl : Acl) : Prop :=
  ∀ role, viewer.Speaks c role →
    ∀ privilege, holds otherAcl privilege role = true ↔ holds acl privilege role = true

/-- Two catalogs give a viewer the same verdicts. -/
structure SameVerdicts (viewer : Viewer) (c other : Catalog) : Prop where
  database : ∀ d, viewer.checkDatabase other d = viewer.checkDatabase c d
  tablespace : ∀ t, viewer.checkTablespace other t = viewer.checkTablespace c t
  role : ∀ role, viewer.hasPrivilegesOf other role = viewer.hasPrivilegesOf c role

namespace SameRoles

variable (h : viewer.SameRoles c other)
include h

theorem belongsTo_iff :
    BelongsTo other.roles viewer.role role ↔ BelongsTo c.roles viewer.role role :=
  Catalog.belongsTo_congr h.parents

theorem hasPrivilegesOf_eq : viewer.hasPrivilegesOf other role = viewer.hasPrivilegesOf c role := by
  rw [Bool.eq_iff_iff, hasPrivilegesOf_iff, hasPrivilegesOf_iff, h.superuser, h.belongsTo_iff]

theorem isGranted_eq (hgrants : viewer.SameGrants c acl otherAcl) :
    viewer.isGranted other otherAcl privilege = viewer.isGranted c acl privilege := by
  rw [Bool.eq_iff_iff, isGranted_iff, isGranted_iff, h.superuser]
  refine or_congr Iff.rfl (exists_congr fun role => ?_)
  rw [Speaks, h.belongsTo_iff, ← holds_iff, ← holds_iff]
  exact and_congr_right fun hspeaks => hgrants role hspeaks privilege

theorem checkDatabase_eq (htitle : databaseTitle other database = databaseTitle c database)
    (hgrants : viewer.SameGrants c (c.databaseAcl database) (other.databaseAcl database)) :
    viewer.checkDatabase other database = viewer.checkDatabase c database := by
  have hsame : viewer.maySeeDatabase other database = viewer.maySeeDatabase c database :=
    congrArg₂ or (h.isGranted_eq hgrants) h.hasPrivilegesOf_eq
  rw [checkDatabase, checkDatabase, hsame, htitle]

theorem checkTablespace_eq
    (hdefault : viewer.defaultTablespace other = viewer.defaultTablespace c)
    (htitle : tablespaceTitle other tablespace = tablespaceTitle c tablespace)
    (hgrants : viewer.SameGrants c (c.tablespaceAcl tablespace) (other.tablespaceAcl tablespace)) :
    viewer.checkTablespace other tablespace = viewer.checkTablespace c tablespace := by
  have hsame : viewer.maySeeTablespace other tablespace = viewer.maySeeTablespace c tablespace := by
    cases hfound : viewer.defaultTablespace c with
    | error e =>
      rw [hfound] at hdefault
      rw [maySeeTablespace, maySeeTablespace, hfound, hdefault]
      rfl
    | ok default =>
      rw [hfound] at hdefault
      rw [maySeeTablespace_eq hfound, maySeeTablespace_eq hdefault, h.hasPrivilegesOf_eq,
        h.isGranted_eq hgrants]
  rw [checkTablespace, checkTablespace, hsame, htitle]

end SameRoles

/-- Catalogs that differ only in their roles. -/
theorem SameRoles.sameVerdicts {roles : Dictionary String Role}
    (h : viewer.SameRoles c { c with roles }) : viewer.SameVerdicts c { c with roles } where
  database _ := h.checkDatabase_eq rfl fun _ _ _ => Iff.rfl
  tablespace _ := h.checkTablespace_eq rfl rfl fun _ _ _ => Iff.rfl
  role _ := h.hasPrivilegesOf_eq

/-! ### What does not count -/

theorem superuser_modify_of_ne {name : String} (h : viewer.role ≠ name) (f : Role → Role) :
    viewer.Superuser { c with roles := c.roles.modify name f } ↔ viewer.Superuser c := by
  rw [Superuser, Superuser, Dictionary.find?_modify]
  simp only [if_neg h, Option.map_id']

/-- What other roles may do is not looked at: to be a member of a superuser is not to be one. -/
theorem sameVerdicts_superuser {name : String} (h : name ≠ viewer.role) (superuser : Bool) :
    viewer.SameVerdicts c
      { c with roles := c.roles.modify name fun info => { info with superuser } } := by
  apply SameRoles.sameVerdicts
  constructor
  · exact superuser_modify_of_ne h.symm _
  · intro member _ parent
    have hsame : parents (c.roles.modify name fun info => { info with superuser }) member =
        parents c.roles member := by
      apply Catalog.parents_modify_of_memberOf
      exact fun _ => rfl
    rw [← hsame]

/-- What a role is a member of counts only for those who belong to it. -/
theorem sameVerdicts_memberOf {name : String} (h : ¬BelongsTo c.roles viewer.role name)
    (memberOf : List String) :
    viewer.SameVerdicts c
      { c with roles := c.roles.modify name fun info => { info with memberOf } } := by
  have hne : ∀ member, BelongsTo c.roles viewer.role member → member ≠ name := by
    rintro _ hmember rfl
    exact h hmember
  apply SameRoles.sameVerdicts
  constructor
  · exact superuser_modify_of_ne (hne _ Relation.ReflTransGen.refl) _
  · intro member hmember parent
    rw [Catalog.parents_modify_of_ne (hne member hmember)]

/-- **The checks decide exactly the rule, in every catalog and for every viewer.** The current
database has to be one of the catalog for its tablespaces to be checked. Whether other roles are
superusers makes no difference, and what the public is a member of makes none to a viewer that does
not belong to the public as a role. -/
theorem checks_follow_rules (c : Catalog) (viewer : Viewer) :
    (∀ d, (viewer.checkDatabase c d).Follows (viewer.DatabaseRule c d)
      (.denied "database" (databaseTitle c d))) ∧
    (viewer.database ∈ c.databases.keys → ∀ t,
      (viewer.checkTablespace c t).Follows (viewer.TablespaceRule c t)
        (.denied "tablespace" (tablespaceTitle c t))) ∧
    (∀ name superuser, name ≠ viewer.role → viewer.SameVerdicts c
      { c with roles := c.roles.modify name fun info => { info with superuser } }) ∧
    (¬BelongsTo c.roles viewer.role everyone → ∀ memberOf, viewer.SameVerdicts c
      { c with roles := c.roles.modify everyone fun info => { info with memberOf } }) := by
  refine ⟨fun d => checkDatabase_follows, fun hknown t => checkTablespace_follows hknown, ?_, ?_⟩
  · exact fun name superuser hother => sameVerdicts_superuser hother superuser
  · exact fun hpublic memberOf => sameVerdicts_memberOf hpublic memberOf

/-- Ann and the writers are members of each other, and the writers of a role that is not there. Ann
is also a member of a superuser, and the public of the statistics role. -/
theorem checks_follow_rules_circle :
    let c : Catalog :=
      { Catalog.bootstrap with
        databases := .ofValues Database.oid
          [{ oid := 5, name := "postgres", acl := ⟨[("gone", ["CONNECT"])], by decide⟩ },
            { oid := 6, name := "closed", acl := ⟨[("boss", ["CREATE"])], by decide⟩ }]
        roles := .ofValues Role.name
          [{ name := "ann", memberOf := ["writers", "boss"] },
            { name := "writers", memberOf := ["ann", "gone"] },
            { name := "boss", superuser := true },
            { name := "PUBLIC", memberOf := ["pg_read_all_stats"] }] }
    let viewer : Viewer := { role := "ann", database := 5 }
    (viewer.checkDatabase c 5).1 = .ok () ∧
    (viewer.checkDatabase c 6).1 = .error (.denied "database" "closed") ∧
    (viewer.checkTablespace c 1663).1 = .ok () ∧
    (viewer.checkTablespace c 1664).1 = .error (.denied "tablespace" "pg_global") ∧
    viewer.SameVerdicts c
      { c with roles := c.roles.modify "boss" fun info => { info with superuser := false } } ∧
    viewer.SameVerdicts c
      { c with roles := c.roles.modify "PUBLIC" fun info => { info with memberOf := [] } } := by
  intro c viewer
  have hbelongs : ∀ role, BelongsTo c.roles "ann" role → role ∈ ["ann", "writers", "boss", "gone"] :=
    fun role hrole => hrole.mem_of_closed (by decide) (by decide)
  have hgone : BelongsTo c.roles "ann" "gone" := by
    apply Relation.ReflTransGen.head (b := "writers")
    · decide
    · exact Relation.ReflTransGen.single (by decide)
  have hplain : ¬viewer.Superuser c := mt isSuperuser_iff.mpr (by decide)
  have hstatistics : ¬BelongsTo c.roles "ann" Catalog.statisticsRole := fun hrole =>
    absurd (hbelongs _ hrole) (by decide)
  have hpublic : ¬BelongsTo c.roles "ann" everyone := fun hrole =>
    absurd (hbelongs _ hrole) (by decide)
  -- The roles that Ann speaks for are few enough to go through what they hold.
  have hungranted : ∀ acl privilege,
      (∀ role ∈ ["ann", "writers", "boss", "gone", "PUBLIC"],
        privilege ∉ (acl.find? role).getD []) → ¬viewer.Granted c acl privilege := by
    rintro acl privilege hnone ⟨role, hrole | rfl, hholds⟩
    · exact hnone role (List.mem_append_left ["PUBLIC"] (hbelongs role hrole)) hholds
    · exact hnone everyone (by decide) hholds
  obtain ⟨hdatabases, htablespaces, hsuperuser, hmemberOf⟩ := checks_follow_rules c viewer
  replace htablespaces := htablespaces (by decide)
  refine ⟨(hdatabases 5).passes.mpr ?_, (hdatabases 6).refuses.mpr ?_,
    (htablespaces 1663).passes.mpr ?_, (htablespaces 1664).refuses.mpr ?_,
    hsuperuser "boss" false (by decide), hmemberOf hpublic []⟩
  · exact Or.inr (Or.inr ⟨"gone", Or.inl hgone, by decide⟩)
  · rintro (hsuper | hstats | hgranted)
    · exact hplain hsuper
    · exact hstatistics hstats
    · exact hungranted _ _ (by decide) hgranted
  · exact Or.inl (by decide)
  · rintro (hdefault | hsuper | hstats | hgranted)
    · exact absurd hdefault (by decide)
    · exact hplain hsuper
    · exact hstatistics hstats
    · exact hungranted _ _ (by decide) hgranted

end Viewer

end Footprint
