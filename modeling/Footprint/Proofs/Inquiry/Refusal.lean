import Footprint.Inquiry
import Footprint.Proofs.Access.Decision
import Footprint.Proofs.Storage.Scan

/-!
# What a refused viewer learns

The size of a database or of a tablespace is only looked for once the viewer has been authorized.
An authorization asks the storage for nothing (`runFrom_authorized`), so a viewer that is refused
gets its error, and the warning that goes with it, before the first request, whatever the storage
holds and whether or not the inquiry is called off (`refused_of_error`).

The refusal itself tells about nothing but the object that was referred to and the viewer.
Two catalogs may differ in everything else: if a reference has the same entries in both
(`SameObject`), it is resolved alike, and the checks that follow see the same privileges and the same
name (`SameDatabase.authorizeDatabase_eq`, `SameTablespace.authorizeTablespace_eq`).
-/

namespace Footprint.Inquiry

open Storage Storage.Scan
open Viewer (SameRoles Verdict)

variable {α β : Type}

/-! ### Ending before the first request -/

/-- A scan that ends with an error, without asking for a file or a directory and in the same way on
all views. -/
structure Refused (scan : Scan α) (e : Error) : Prop where
  fails : ∀ view, (scan.start view).1 = .error e
  silent : ∀ view, (scan.start view).2.calls = []
  same : ∀ view other, scan.start view = scan.start other

theorem runFrom_warnings (warnings : List Warning) (view : View) (activity : Activity) :
    (warnings.forM Scan.warn).runFrom view activity =
      (.ok (), { activity with warnings := activity.warnings ++ warnings }) := by
  induction warnings generalizing activity with
  | nil =>
    rw [List.append_nil]
    rfl
  | cons warning rest ih =>
    have hsplit : (warning :: rest).forM Scan.warn =
        Scan.warn warning >>= fun _ => rest.forM Scan.warn := rfl
    rw [hsplit, runFrom_bind, runFrom_warn]
    dsimp only
    rw [ih, List.append_assoc]
    rfl

theorem runFrom_authorized (verdict : Verdict α) (view : View) (activity : Activity) :
    (authorized verdict).runFrom view activity =
      (verdict.1, { activity with warnings := activity.warnings ++ verdict.2 }) := by
  rw [authorized, runFrom_bind, runFrom_warnings]
  exact runFrom_ofExcept verdict.1 view _

/-- Nothing of what would come after an authorization is done if it fails. -/
theorem refused_of_error {verdict : Verdict α} {e : Error} (h : verdict.1 = .error e)
    (next : α → Scan β) : Refused (authorized verdict >>= next) e := by
  have hrun : ∀ view, (authorized verdict >>= next).start view = (.error e, ⟨[], verdict.2⟩) := by
    intro view
    rw [start_eq, runFrom_bind, runFrom_authorized, h]
    rfl
  constructor
  · intro view
    rw [hrun]
  · intro view
    rw [hrun]
  · intro view other
    rw [hrun, hrun]

/-! ### The errors of an authorization -/

variable {viewer : Viewer} {c other : Catalog} {reference : Reference} {e : Error}

/-- The errors by which an object of a kind is refused: it does not exist, or the viewer may not see
it. -/
def IsRefusal (kind : String) (e : Error) : Prop :=
  ∃ name, e = .notFound kind name ∨ e = .denied kind name

/-- An authorization that fails does so in the resolution or in the check. -/
theorem error_cases {resolved : Except Error Int} {check : Int → Verdict Unit}
    (h : (Verdict.next resolved fun oid =>
      ((check oid).1.map fun _ => oid, (check oid).2)).1 = .error e) :
    resolved = .error e ∨ ∃ oid, resolved = .ok oid ∧ (check oid).1 = .error e := by
  cases resolved with
  | error found => exact Or.inl h
  | ok oid =>
    refine Or.inr ⟨oid, rfl, ?_⟩
    cases hcheck : (check oid).1 with
    | error found => simpa [Verdict.next, hcheck, Except.map] using h
    | ok found => simp [Verdict.next, hcheck, Except.map] at h

theorem isRefusal_of_authorizeDatabase
    (h : (viewer.authorizeDatabase c reference).1 = .error e) : IsRefusal "database" e := by
  rcases error_cases h with hresolve | ⟨oid, -, hcheck⟩
  · cases reference with
    | oid n => cases hresolve
    | name s =>
      rw [Viewer.databaseOf, Catalog.databaseOid] at hresolve
      split at hresolve
      · cases hresolve
      · exact ⟨s, Or.inl (Except.error.inj hresolve).symm⟩
  · exact ⟨_, Or.inr (Viewer.checkDatabase_follows.eq_of_error hcheck)⟩

theorem isRefusal_of_authorizeTablespace (hknown : viewer.database ∈ c.databases.keys)
    (h : (viewer.authorizeTablespace c reference).1 = .error e) : IsRefusal "tablespace" e := by
  rcases error_cases h with hresolve | ⟨oid, -, hcheck⟩
  · cases reference with
    | oid n => cases hresolve
    | name s =>
      rw [Viewer.tablespaceOf, Catalog.tablespaceOid] at hresolve
      split at hresolve
      · cases hresolve
      · exact ⟨s, Or.inl (Except.error.inj hresolve).symm⟩
  · exact ⟨_, Or.inr ((Viewer.checkTablespace_follows hknown).eq_of_error hcheck)⟩

/-! ### What an authorization depends on -/

/-- A reference has the same entries among the objects of two catalogs: those of its name, if it is
one, and the one of the number that it is resolved to. -/
structure SameObject {ν : Type} (nameOf : ν → String) (objects others : Dictionary Int ν)
    (resolved : Except Error Int) (reference : Reference) : Prop where
  named : ∀ name, reference = .name name →
    others.values.filter (nameOf · = name) = objects.values.filter (nameOf · = name)
  entry : ∀ oid, resolved = .ok oid → others.find? oid = objects.find? oid

/-- A reference to a database has the same entries in two catalogs. -/
def SameDatabase (c other : Catalog) (reference : Reference) : Prop :=
  SameObject Database.name c.databases other.databases (Viewer.databaseOf c reference) reference

/-- A reference to a tablespace has the same entries in two catalogs. -/
def SameTablespace (c other : Catalog) (reference : Reference) : Prop :=
  SameObject Tablespace.name c.tablespaces other.tablespaces (Viewer.tablespaceOf c reference)
    reference

theorem SameObject.find?_eq {ν : Type} {nameOf : ν → String} {objects others : Dictionary Int ν}
    {resolved : Except Error Int} {name : String}
    (h : SameObject nameOf objects others resolved (.name name)) :
    others.values.find? (nameOf · = name) = objects.values.find? (nameOf · = name) := by
  rw [← List.head?_filter, h.named name rfl, List.head?_filter]

theorem SameDatabase.databaseOf_eq (h : SameDatabase c other reference) :
    Viewer.databaseOf other reference = Viewer.databaseOf c reference := by
  cases reference with
  | oid n => rfl
  | name s =>
    have hfound : other.findDatabase s = c.findDatabase s := SameObject.find?_eq h
    rw [Viewer.databaseOf, Viewer.databaseOf, Catalog.databaseOid, Catalog.databaseOid, hfound]

theorem SameTablespace.tablespaceOf_eq (h : SameTablespace c other reference) :
    Viewer.tablespaceOf other reference = Viewer.tablespaceOf c reference := by
  cases reference with
  | oid n => rfl
  | name s =>
    have hfound : other.findTablespace s = c.findTablespace s := SameObject.find?_eq h
    rw [Viewer.tablespaceOf, Viewer.tablespaceOf, Catalog.tablespaceOid, Catalog.tablespaceOid,
      hfound]

theorem SameDatabase.authorizeDatabase_eq (h : SameDatabase c other reference)
    (hroles : viewer.SameRoles c other) :
    viewer.authorizeDatabase other reference = viewer.authorizeDatabase c reference := by
  rw [Viewer.authorizeDatabase, Viewer.authorizeDatabase, h.databaseOf_eq]
  cases hresolve : Viewer.databaseOf c reference with
  | error found => rfl
  | ok oid =>
    have hentry := h.entry oid hresolve
    have hcheck : viewer.checkDatabase other oid = viewer.checkDatabase c oid := by
      apply hroles.checkDatabase_eq
      · rw [Viewer.databaseTitle, Viewer.databaseTitle, hentry]
      · rw [Catalog.databaseAcl, Catalog.databaseAcl, Catalog.aclAt, Catalog.aclAt, hentry]
        exact fun _ _ _ => Iff.rfl
    rw [Verdict.next, Verdict.next, hcheck]

theorem SameTablespace.authorizeTablespace_eq (h : SameTablespace c other reference)
    (hroles : viewer.SameRoles c other)
    (hdefault : viewer.defaultTablespace other = viewer.defaultTablespace c) :
    viewer.authorizeTablespace other reference = viewer.authorizeTablespace c reference := by
  rw [Viewer.authorizeTablespace, Viewer.authorizeTablespace, h.tablespaceOf_eq]
  cases hresolve : Viewer.tablespaceOf c reference with
  | error found => rfl
  | ok oid =>
    have hentry := h.entry oid hresolve
    have hcheck : viewer.checkTablespace other oid = viewer.checkTablespace c oid := by
      apply hroles.checkTablespace_eq hdefault
      · rw [Viewer.tablespaceTitle, Viewer.tablespaceTitle, hentry]
      · rw [Catalog.tablespaceAcl, Catalog.tablespaceAcl, Catalog.aclAt, Catalog.aclAt, hentry]
        exact fun _ _ _ => Iff.rfl
    rw [Verdict.next, Verdict.next, hcheck]

/-! ### Refused inquiries -/

/-- **A refused viewer learns nothing from the storage**, and from the catalog only what the object
that it asked for, its own role and memberships and its default tablespace decide. The size that it
asks for fails with the error of the authorization. -/
theorem refused_learns_nothing (inquiry : Inquiry) (reference : Reference) :
    let c := inquiry.catalog
    let viewer := inquiry.viewer
    (∀ e, (viewer.authorizeDatabase c reference).1 = .error e →
      IsRefusal "database" e ∧ Refused (inquiry.databaseSize reference) e) ∧
    (∀ e, (viewer.authorizeTablespace c reference).1 = .error e →
      (viewer.database ∈ c.databases.keys → IsRefusal "tablespace" e) ∧
        Refused (inquiry.tablespaceSize reference) e) ∧
    ∀ other, viewer.SameRoles c other →
      (SameDatabase c other reference →
        viewer.authorizeDatabase other reference = viewer.authorizeDatabase c reference) ∧
      (SameTablespace c other reference →
        viewer.defaultTablespace other = viewer.defaultTablespace c →
          viewer.authorizeTablespace other reference = viewer.authorizeTablespace c reference) := by
  intro c viewer
  refine ⟨fun e herror => ?_, fun e herror => ?_, fun other hroles => ⟨fun hsame => ?_, ?_⟩⟩
  · exact ⟨isRefusal_of_authorizeDatabase herror, refused_of_error herror _⟩
  · refine ⟨fun hknown => isRefusal_of_authorizeTablespace hknown herror, ?_⟩
    exact refused_of_error herror _
  · exact hsame.authorizeDatabase_eq hroles
  · exact fun hsame hdefault => hsame.authorizeTablespace_eq hroles hdefault

/-- Eve is told of a database that she may not connect to and of a tablespace that is not there,
in a catalog with other databases and roles as well. -/
theorem refused_learns_nothing_eve :
    let c : Catalog :=
      { Catalog.bootstrap with roles := Catalog.bootstrap.roles.insert "eve" { name := "eve" } }
    let other : Catalog :=
      { c with
        nextOid := 20000
        databases := c.databases.insert 6 { oid := 6, name := "more" }
        roles := c.roles.insert "bob" { name := "bob", superuser := true } }
    let inquiry : Inquiry := ⟨c, { role := "eve", database := 5 }, "V"⟩
    Refused (inquiry.databaseSize (.name "postgres")) (.denied "database" "postgres") ∧
    Refused (inquiry.tablespaceSize (.name "postgres")) (.notFound "tablespace" "postgres") ∧
    (inquiry.viewer.authorizeDatabase other (.name "postgres")).1 =
      .error (.denied "database" "postgres") ∧
    (inquiry.viewer.authorizeTablespace other (.name "postgres")).1 =
      .error (.notFound "tablespace" "postgres") := by
  intro c other inquiry
  have halone : ∀ role, Catalog.BelongsTo c.roles "eve" role → role ∈ ["eve"] :=
    fun role hrole => hrole.mem_of_closed (by decide) (by decide)
  have hrule : ¬inquiry.viewer.DatabaseRule c 5 := by
    rintro (hsuper | hstats | ⟨role, -, hholds⟩)
    · exact absurd (Viewer.isSuperuser_iff.mpr hsuper) (by decide)
    · exact absurd (halone _ hstats) (by decide)
    · have hempty : c.databaseAcl 5 = .empty := by decide
      rw [hempty] at hholds
      cases hholds
  have hdenied : (inquiry.viewer.authorizeDatabase c (.name "postgres")).1 =
      .error (.denied "database" "postgres") :=
    congrArg (Except.map fun _ => (5 : Int)) (Viewer.checkDatabase_follows.refuses.mpr hrule)
  have hmissing : (inquiry.viewer.authorizeTablespace c (.name "postgres")).1 =
      .error (.notFound "tablespace" "postgres") := by decide
  have hroles : inquiry.viewer.SameRoles c other := by
    constructor
    · rw [← Viewer.isSuperuser_iff, ← Viewer.isSuperuser_iff]
      decide
    · intro member hmember parent
      rw [List.mem_singleton.mp (halone member hmember)]
      have hparents : Catalog.parents other.roles "eve" = Catalog.parents c.roles "eve" := by decide
      rw [hparents]
  obtain ⟨hdatabase, htablespace, hsame⟩ := refused_learns_nothing inquiry (.name "postgres")
  obtain ⟨hsameDatabase, hsameTablespace⟩ := hsame other hroles
  refine ⟨(hdatabase _ hdenied).2, (htablespace _ hmissing).2, ?_, ?_⟩
  · rw [hsameDatabase, hdenied]
    constructor
    · intro name hname
      obtain rfl := Reference.name.inj hname
      decide
    · intro oid hoid
      have hfive : Viewer.databaseOf c (.name "postgres") = .ok 5 := by decide
      obtain rfl := Except.ok.inj (hfive.symm.trans hoid)
      decide
  · rw [hsameTablespace ⟨fun _ _ => rfl, fun _ _ => rfl⟩ (by decide), hmissing]

end Footprint.Inquiry
