import Footprint.Proofs.Inquiry.Database
import Footprint.Proofs.Inquiry.FileNumber

/-!
# The global tablespace

The global tablespace is the one without a place for databases: files in it belong to no database,
and whoever looks for a relation by its files takes those for shared. So it had better hold the
shared relations and no others (`Catalog.GlobalIsShared`).

Shared relations are always put there. What keeps the others out is nothing but that nobody asks for
them there, be it by the name of the tablespace or by way of a database whose default tablespace it
is (`Catalog.Operation.AsksForGlobal`). Relations stay where they lie, so an operation that does not
ask for it lets no relation of a database in, and one that does puts one there
(`Catalog.Orderly.globalIsShared_iff_of_effect`).

Where nobody asks for it, three things are true of a relation of a database. Its path is outside the
global directory (`Storage.databasePath_ne_global`), its files are in the directories that are added
up for the size of its database (`Inquiry.Counts`), and it is found by its place.
-/

namespace Footprint

open Storage (globalTablespace globalDirectory Locator View)

namespace Catalog

/-! ### Who asks for the global tablespace -/

/-- The global tablespace holds the shared relations and no others. -/
def GlobalIsShared (c : Catalog) : Prop :=
  ∀ r ∈ c.relations.values, ∃ place, c.locator r = .ok place ∧
    (place.tablespace = globalTablespace ↔ r.isShared = true)

/-- Does the operation make a relation of a database in the global tablespace, which is named or is
the default one of the database? -/
def Operation.AsksForGlobal (op : Operation) (c : Catalog) : Prop :=
  ∃ request made, op = .createRelation request ∧ request.shared = false ∧
    request.prepare c = .ok made ∧ request.target c = .ok globalTablespace

namespace Orderly

variable {c left : Catalog} {op : Operation} {result : Except Error Unit}

theorem globalIsShared_iff (h : c.Orderly) : c.GlobalIsShared ↔ c.Secluded := by
  constructor
  · intro hglobal r hr hno hlies
    obtain ⟨place, hplace, hiff⟩ := hglobal r hr
    have hsame := (locator_eq_ok_iff.mp hplace).1
    have hshared := hiff.mp (Except.ok.inj (hsame.symm.trans hlies))
    rw [hno] at hshared
    cases hshared
  · intro hsecluded r hr
    obtain ⟨place, hplace⟩ := h.exists_locator hr
    have hlies := (locator_eq_ok_iff.mp hplace).1
    refine ⟨place, hplace, fun heq => ?_, fun hshared => ?_⟩
    · by_contra hno
      exact hsecluded r hr (Bool.eq_false_iff.mpr hno) (heq ▸ hlies)
    · exact Except.ok.inj (hlies.symm.trans (h.tablespaceOf_shared hr hshared))

/-- What asks for the global tablespace gets there. -/
theorem not_secluded (h : c.Orderly) (hfresh : op.Fresh c) (heffect : Effect c op result left)
    (hasks : op.AsksForGlobal c) : ¬left.Secluded := by
  obtain ⟨request, made, hop, hshared, hprepare, htarget⟩ := hasks
  obtain ⟨r, hr, hbare⟩ := heffect.exists_made ⟨request, hop, hprepare⟩
  intro hsecluded
  -- Links have nothing to do with where the relation lies.
  have hout : left.Outside r.bare := hsecluded r (Dictionary.mem_values_of_mem_entries hr)
  rw [hbare] at hout
  apply hout
  · exact (h.database_of_prepare hprepare hshared).2
  · exact (h.tablespaceOf_made hfresh heffect hshared hprepare).trans htarget

theorem outside_old (h : c.Orderly) (hsecluded : c.Secluded) (hfresh : op.Fresh c)
    (heffect : Effect c op result left) {r : Relation} (hr : r ∈ c.relations.values) :
    left.Outside r := by
  intro hno
  rw [h.tablespaceOf_eq hfresh heffect (h.placed r hr)]
  exact hsecluded r hr hno

theorem outside_made (h : c.Orderly) (hfresh : op.Fresh c) (heffect : Effect c op result left)
    {made : Relation} (hmakes : op.Makes c made) (hasks : ¬op.AsksForGlobal c) :
    left.Outside made := by
  obtain ⟨request, hop, hprepare⟩ := hmakes
  intro hno hlies
  cases hshared : request.shared with
  | true =>
    rw [(RelationRequest.prepare_shared hprepare hshared).1] at hno
    cases hno
  | false =>
    rw [h.tablespaceOf_made hfresh heffect hshared hprepare] at hlies
    exact hasks ⟨request, made, hop, hshared, hprepare, hlies⟩

/-- **An operation keeps relations of databases out of the global tablespace if and only if it does
not ask for it.** -/
theorem globalIsShared_iff_of_effect (h : c.Orderly) (hglobal : c.GlobalIsShared)
    (hfresh : op.Fresh c) (hpositive : op.Positive) (heffect : Effect c op result left) :
    left.GlobalIsShared ↔ ¬op.AsksForGlobal c := by
  rw [(h.effect hfresh hpositive heffect).globalIsShared_iff]
  rw [h.globalIsShared_iff] at hglobal
  refine ⟨fun hsecluded hasks => h.not_secluded hfresh heffect hasks hsecluded, fun hasks => ?_⟩
  have hlinks : ∀ r : Relation, left.Outside r.bare ↔ left.Outside r := fun _ => Iff.rfl
  apply heffect.forall_values hlinks
  · exact fun r hr => h.outside_old hglobal hfresh heffect hr
  · exact fun made hmakes => h.outside_made hfresh heffect hmakes hasks

end Orderly

theorem persists_globalIsShared : Store.Persists fun c => c.Orderly ∧ c.GlobalIsShared :=
  persists_orderly_and (List.forall_mem_nil _)

end Catalog

namespace Inquiry

open Storage (segmentPath)

variable {inquiry : Inquiry} {r : Relation}

/-! ### What depends on it -/

/-- The size of a database is the sum over the files that its directories list, and all files of a
relation that the storage holds are among them. -/
def Counts (inquiry : Inquiry) (view : View) (database : Int) (r : Relation) : Prop :=
  ((inquiry.databaseSizeOf database).start view.quiet).1 =
      .ok ((inquiry.files view database).map view.fileSize).sum ∧
    ∀ base ∈ inquiry.chains r, ∀ segment : Int, view.holds (segmentPath base segment) = true →
      segmentPath base segment ∈ inquiry.files view database

theorem Walkable.counts {view : View} (h : inquiry.Walkable view r.database)
    (htold : ∀ path ∈ inquiry.files view r.database, view.complaint path = none)
    (hr : r ∈ inquiry.catalog.relations.values) {place : Locator}
    (hplace : inquiry.catalog.locator r = .ok place)
    (hout : place.tablespace ≠ globalTablespace) : inquiry.Counts view r.database r := by
  refine ⟨(h.databaseSizeOf_yields_files htold).start, fun base hbase segment hholds => ?_⟩
  -- A relation that has a chain has files, and they are those of a resident of the database.
  have hstorage : r.hasStorage = true := by
    by_contra hnone
    rw [chains, if_neg hnone] at hbase
    cases hbase
  have hresides : inquiry.residesIn r.database r = true := by
    rw [residesIn, hplace, hstorage, beq_self_eq_true]
    exact bne_iff_ne.mpr hout
  exact (h.segment_cases (List.mem_filter.mpr ⟨hr, hresides⟩) hbase segment).2 hholds

end Inquiry

namespace Store

open Catalog (Operation)

/-- **The global tablespace holds the shared relations and no others, as long as nobody asks for
it.** Then the files of a relation of a database have paths outside the global directory, are
counted with the database, and tell the relation if it is looked for from there. An operation with
a positive and unused number puts another relation there if and only if it asks for it. -/
theorem Run.global_is_shared {store : Store} (viewer : Viewer) (version : String)
    (hrun : Run (fun op c => (op.Fresh c ∧ op.Positive) ∧ ¬op.AsksForGlobal c) (saved .bootstrap)
      store) :
    let inquiry : Inquiry := ⟨store.catalog, viewer, version⟩
    store.catalog.GlobalIsShared ∧
    (∀ r ∈ store.catalog.relations.values, r.isShared = false →
      (∀ fork, ∃ path, inquiry.forkPath r fork = .ok path ∧
        ∀ suffix rest, path ++ suffix ≠ globalDirectory ++ "/" ++ rest) ∧
      (∀ view, inquiry.Walkable view r.database →
        (∀ path ∈ inquiry.files view r.database, view.complaint path = none) →
          inquiry.Counts view r.database r) ∧
      (r.isLookedFor = true → viewer.database = r.database → ∃ place first,
        store.catalog.locator r = .ok place ∧
        store.catalog.relations.values.find? (fun other =>
          other.isLookedFor && store.catalog.locator other = .ok place) = some first ∧
        inquiry.relationOfFile place.tablespace r.fileNumber = .ok (some first.oid))) ∧
    ∀ op : Operation, op.Fresh store.catalog → op.Positive →
      ((store.perform op).2.catalog.GlobalIsShared ↔ ¬op.AsksForGlobal store.catalog) := by
  intro inquiry
  have hkept : ∀ (op : Operation) (c : Catalog), c.Orderly ∧ c.GlobalIsShared →
      (op.Fresh c ∧ op.Positive) ∧ ¬op.AsksForGlobal c →
        (op.change.on c).2.Orderly ∧ (op.change.on c).2.GlobalIsShared := by
    rintro op c ⟨h, hglobal⟩ ⟨⟨hfresh, hpositive⟩, hasks⟩
    refine ⟨h.effect hfresh hpositive (op.effect c), ?_⟩
    exact (h.globalIsShared_iff_of_effect hglobal hfresh hpositive (op.effect c)).mpr hasks
  have hstart : Holds (fun c => c.Orderly ∧ c.GlobalIsShared) (saved .bootstrap) :=
    Catalog.persists_globalIsShared.holds_saved Catalog.persists_globalIsShared.bootstrap
  obtain ⟨h, hglobal⟩ := (hrun.invariant Catalog.persists_globalIsShared hkept hstart).catalog
  refine ⟨hglobal, fun r hr hno => ?_, fun op hfresh hpositive => ?_⟩
  · obtain ⟨place, hplace, hiff⟩ := hglobal r hr
    have hout : place.tablespace ≠ globalTablespace := by
      intro heq
      rw [hiff.mp heq] at hno
      cases hno
    refine ⟨fun fork => ?_, fun view hwalk htold => hwalk.counts htold hr hplace hout, ?_⟩
    · refine ⟨_, Inquiry.forkPath_of_locator hplace hout fork, fun suffix rest => ?_⟩
      simp only [String.append_assoc]
      apply Storage.databasePath_ne_global version hout
    · intro hlooked hviewer
      obtain ⟨hlies, -, hfile⟩ := Catalog.locator_eq_ok_iff.mp hplace
      have hvisible : r.isVisibleFrom viewer.database = true := by
        rw [hviewer, Relation.isVisibleFrom, beq_self_eq_true, Bool.true_or]
      have hsecluded := h.globalIsShared_iff.mp hglobal
      obtain ⟨d, hd⟩ := Dictionary.exists_of_mem_keys (h.database_known r hr hno)
      have hdefault : store.catalog.defaultTablespace viewer.database =
          .ok d.defaultTablespace := by
        rw [Catalog.defaultTablespace, hviewer, hd]
      obtain ⟨first, hfirst, hsame⟩ := h.exists_first hsecluded hr hlooked hvisible hplace
      have hmeant := h.meant_eq hr hvisible hdefault hlies
      refine ⟨place, first, hplace, hsame, ?_⟩
      rw [Inquiry.relationOfFile_eq h hsecluded hdefault fun heq => absurd (hmeant ▸ heq) hout]
      rw [hmeant, ← hfile]
      exact congrArg (fun found => Except.ok (found.map Relation.oid)) hfirst
  · rw [perform_catalog]
    exact h.globalIsShared_iff_of_effect hglobal hfresh hpositive (op.effect store.catalog)

/-- A table of a database whose default tablespace is a linked one, and a shared table. -/
theorem Run.global_is_shared_linked :
    let tablespace : Operation := .createTablespace "x" "/x" none
    let database : Operation := .createDatabase "d" none 16384
    let own : Operation := .createRelation { database := "d", name := "t" }
    let shared : Operation := .createRelation { database := "d", name := "s", shared := true }
    let divided := (((saved .bootstrap).perform tablespace).2.perform database).2
    let store := ((divided.perform own).2.perform shared).2
    let viewer : Viewer := { role := "postgres", database := 16385 }
    let inquiry : Inquiry := ⟨store.catalog, viewer, "V"⟩
    store.catalog.GlobalIsShared ∧ inquiry.relationOfFile 16384 16386 = .ok (some 16386) := by
  intro tablespace database own shared divided store viewer inquiry
  have htablespace : ¬tablespace.AsksForGlobal Catalog.bootstrap := by
    rintro ⟨request, -, hop, -⟩
    have hother : Operation.createTablespace "x" "/x" none = .createRelation request := hop
    cases hother
  have hdatabase : ¬database.AsksForGlobal ((saved .bootstrap).perform tablespace).2.catalog := by
    rintro ⟨request, -, hop, -⟩
    have hother : Operation.createDatabase "d" none 16384 = .createRelation request := hop
    cases hother
  have hown : ¬own.AsksForGlobal divided.catalog := by
    rintro ⟨request, -, hop, -, -, htarget⟩
    obtain rfl := Operation.createRelation.inj hop
    exact absurd htarget (by decide)
  have hshared : ¬shared.AsksForGlobal (divided.perform own).2.catalog := by
    rintro ⟨request, -, hop, hno, -⟩
    obtain rfl := Operation.createRelation.inj hop
    cases hno
  have hrun : Run (fun op c => (op.Fresh c ∧ op.Positive) ∧ ¬op.AsksForGlobal c) (saved .bootstrap)
      store := by
    apply Run.perform shared (.perform own (.perform database (.perform tablespace .start _) _) _)
    · exact ⟨⟨nofun, nofun⟩, hshared⟩
    · exact ⟨⟨nofun, nofun⟩, htablespace⟩
    · exact ⟨⟨nofun, nofun⟩, hdatabase⟩
    · exact ⟨⟨nofun, nofun⟩, hown⟩
  obtain ⟨hglobal, hrelations, -⟩ := Run.global_is_shared viewer "V" hrun
  let made : Relation := { oid := 16386, name := "t", database := 16385, fileNumber := 16386 }
  obtain ⟨place, first, hplace, hfirst, hfound⟩ :=
    (hrelations made (by decide) rfl).2.2 (by decide) rfl
  have hat : store.catalog.locator made = .ok ⟨16384, 16385, 16386⟩ := by decide
  obtain rfl := Except.ok.inj (hat.symm.trans hplace)
  have hmade : (store.catalog.relations.values.find? fun other =>
      other.isLookedFor && store.catalog.locator other = .ok ⟨16384, 16385, 16386⟩) =
        some made := by decide
  obtain rfl := Option.some.inj (hmade.symm.trans hfirst)
  exact ⟨hglobal, hfound⟩

/-- A table of a database that asks for the global tablespace by name gets there. It has a path in
the global directory, where it is not found again. -/
theorem perform_into_global :
    let op : Operation := .createRelation
      { database := "postgres", name := "t", tablespace := some "pg_global", oid := some 600 }
    let store := ((saved .bootstrap).perform op).2
    let viewer : Viewer := { role := "postgres", database := 5 }
    let inquiry : Inquiry := ⟨store.catalog, viewer, "V"⟩
    let made : Relation :=
      { oid := 600, name := "t", database := 5, fileNumber := 600, tablespace := 1664 }
    Run (fun op c => op.Fresh c ∧ op.Positive) (saved .bootstrap) store ∧
      store.catalog.relations.values = [made] ∧ made.isShared = false ∧
      store.catalog.locator made = .ok ⟨globalTablespace, 0, 600⟩ ∧
      inquiry.forkPath made .main = .ok "global/600" ∧
      inquiry.relationOfFile globalTablespace 600 = .ok none := by
  intro op store viewer inquiry made
  refine ⟨.perform op .start ⟨?_, ?_⟩, by decide, rfl, by decide, by decide, by decide⟩
  · intro oid hoid
    obtain rfl : 600 = oid := Option.some.inj hoid
    decide
  · intro oid hoid
    obtain rfl : 600 = oid := Option.some.inj hoid
    decide

end Store

end Footprint
