import Footprint.Proofs.Catalog.Placement
import Footprint.Proofs.Inquiry.Total

/-!
# Relations that can be measured

The files of a relation have paths unless two things come together: they would bear the number of a
backend, and they would lie in the global tablespace, whose objects belong to no backend
(`Catalog.Pathless`). A relation has a path for one of its forks if it has one for all. So a catalog
without such relations answers every question about sizes, numbers and paths as far as the storage
does (`Inquiry.Measurable`), since what hangs on a relation is in the catalog as well, and a catalog
with such a relation fails already for its path (`Inquiry.measuresAll_iff`).

Such relations are made, though. Nothing keeps a temporary relation with a backend from being shared,
or from being asked for in the global tablespace (`Catalog.Operation.AsksForOwnedGlobal`). Since
relations stay where they lie and keep their backend, an operation that does not ask for this makes
no such relation, and one that does makes one (`Catalog.Orderly.pathed_iff_of_effect`).
-/

namespace Footprint

open Storage (globalTablespace noBackend joinPath Fork Locator View)

namespace Catalog

/-! ### Relations without a path -/

/-- Has a relation files that would lie in the global tablespace and bear the number of a backend?
No path leads to such files. -/
def Pathless (c : Catalog) (r : Relation) : Prop :=
  r.hasStorage = true ∧ c.tablespaceOf r = .ok globalTablespace ∧ r.fileBackend ≠ noBackend

/-- All relations with files have paths for them. -/
def Pathed (c : Catalog) : Prop := ∀ r ∈ c.relations.values, ¬c.Pathless r

/-- Does the operation make a relation with files of a backend in the global tablespace? It is asked
for there as a shared relation, by the name of the tablespace, or by way of a database whose default
tablespace it is. -/
def Operation.AsksForOwnedGlobal (op : Operation) (c : Catalog) : Prop :=
  ∃ request made, op = .createRelation request ∧ request.prepare c = .ok made ∧
    made.hasStorage = true ∧ made.fileBackend ≠ noBackend ∧
    (request.shared = true ∨ request.target c = .ok globalTablespace)

namespace Orderly

variable {c left : Catalog} {op : Operation} {result : Except Error Unit}

theorem pathless_made_iff (h : c.Orderly) (hfresh : op.Fresh c) (heffect : Effect c op result left)
    {request : RelationRequest} {made : Relation} (hprepare : request.prepare c = .ok made) :
    left.Pathless made ↔ made.hasStorage = true ∧ made.fileBackend ≠ noBackend ∧
      (request.shared = true ∨ request.target c = .ok globalTablespace) := by
  have hlies : left.tablespaceOf made = .ok globalTablespace ↔
      request.shared = true ∨ request.target c = .ok globalTablespace := by
    cases hshared : request.shared with
    | true =>
      have hglobal := (RelationRequest.prepare_shared hprepare hshared).2
      refine iff_of_true ?_ (Or.inl rfl)
      rw [tablespaceOf, hglobal, if_neg (by decide)]
    | false =>
      rw [h.tablespaceOf_made hfresh heffect hshared hprepare]
      exact (or_iff_right Bool.false_ne_true).symm
  rw [Pathless, hlies]
  tauto

/-- **An operation leaves all relations with paths if and only if it does not ask for files of a
backend in the global tablespace.** -/
theorem pathed_iff_of_effect (h : c.Orderly) (hpathed : c.Pathed) (hfresh : op.Fresh c)
    (heffect : Effect c op result left) : left.Pathed ↔ ¬op.AsksForOwnedGlobal c := by
  -- Links have nothing to do with paths.
  have hlinks : ∀ r : Relation, ¬left.Pathless r.bare ↔ ¬left.Pathless r := fun _ => Iff.rfl
  constructor
  · rintro hleft ⟨request, made, hop, hprepare, hasks⟩
    obtain ⟨r, hr, hbare⟩ := heffect.exists_made ⟨request, hop, hprepare⟩
    have hpath := (hlinks r).mpr (hleft r (Dictionary.mem_values_of_mem_entries hr))
    rw [hbare] at hpath
    exact hpath ((h.pathless_made_iff hfresh heffect hprepare).mpr hasks)
  · intro hasks
    apply heffect.forall_values (p := fun r => ¬left.Pathless r) hlinks
    · intro r hr hpathless
      rw [Pathless, h.tablespaceOf_eq hfresh heffect (h.placed r hr)] at hpathless
      exact hpathed r hr hpathless
    · rintro made ⟨request, hop, hprepare⟩ hpathless
      have hmade := (h.pathless_made_iff hfresh heffect hprepare).mp hpathless
      exact hasks ⟨request, made, hop, hprepare, hmade⟩

end Orderly

end Catalog

theorem Storage.Fork.ofName_name (fork : Fork) : Fork.ofName fork.name = .ok fork := by
  cases fork <;> decide

namespace Inquiry

variable {inquiry : Inquiry} {view : View} {r : Relation} {reference : Reference} {place : Locator}

/-! ### Paths -/

theorem forkPath_eq (h : inquiry.catalog.locator r = .ok place) (fork : Fork) :
    inquiry.forkPath r fork =
      Storage.forkPath inquiry.version place r.fileBackend fork := by
  rw [forkPath, h]
  rfl

/-- There is a path for all forks of a relation or for none. -/
theorem forkPath_isOk_iff (h : inquiry.catalog.locator r = .ok place) (fork : Fork) :
    (inquiry.forkPath r fork).isOk = true ↔
      ¬(place.tablespace = globalTablespace ∧ r.fileBackend ≠ noBackend) := by
  rw [forkPath_eq h, Storage.forkPath]
  split
  · next hboth => exact iff_of_false nofun (not_not.mpr hboth)
  · next hfits => exact iff_of_true rfl hfits

theorem placed_iff (h : inquiry.catalog.locator r = .ok place) :
    inquiry.Placed r ↔ ¬inquiry.catalog.Pathless r := by
  have hlies : inquiry.catalog.tablespaceOf r = .ok globalTablespace ↔
      place.tablespace = globalTablespace := by
    rw [(Catalog.locator_eq_ok_iff.mp h).1, Except.ok.injEq]
  rw [Catalog.Pathless, hlies, Placed, not_and]
  refine forall_congr' fun _ => ⟨fun hforks => ?_, fun hfits fork _ => ?_⟩
  · exact (forkPath_isOk_iff h .main).mp (hforks .main (Fork.mem_all _))
  · exact (forkPath_isOk_iff h fork).mpr hfits

theorem Placed.exists_forkPath (h : inquiry.Placed r) (hstorage : r.hasStorage = true) (fork : Fork) :
    ∃ path, inquiry.forkPath r fork = .ok path := by
  have hok := h hstorage fork (Fork.mem_all fork)
  cases hpath : inquiry.forkPath r fork with
  | error e =>
    rw [hpath] at hok
    cases hok
  | ok path => exact ⟨path, rfl⟩

/-! ### Answers -/

/-- The relation that is referred to has a size, for each fork, as a table, of its indexes and in
total, and if it has files, a file number and a path. -/
structure Measurable (inquiry : Inquiry) (view : View) (reference : Reference) : Prop where
  relation : ∀ fork : Fork, ∃ size,
    (inquiry.relationSize fork.name reference).Yields view (.ok (some size))
  table : ∃ size, (inquiry.measured inquiry.tableSize reference).Yields view (.ok (some size))
  indexes : ∃ size, (inquiry.measured inquiry.indexesSize reference).Yields view (.ok (some size))
  total : ∃ size, (inquiry.measured inquiry.totalSize reference).Yields view (.ok (some size))
  fileNumber : ∃ number, inquiry.fileNumber reference = .ok number
  filePath : ∃ path, inquiry.filePath reference = .ok path

/-- Every relation that is referred to can be measured, if the storage tells of the files that are
asked for. -/
def MeasuresAll (inquiry : Inquiry) : Prop :=
  ∀ reference r, inquiry.relation? reference = .ok (some r) → ∀ view : View,
    (∀ path ∈ inquiry.probes view (inquiry.parts r), view.complaint path = none) →
      inquiry.Measurable view reference

theorem measured_clean {measure : Relation → Storage.Scan Nat} {probes : List String} {total : Nat}
    (hrelation : inquiry.relation? reference = .ok (some r))
    (h : (measure r).Adds view probes total) (hclean : ∀ path ∈ probes, view.complaint path = none) :
    (inquiry.measured measure reference).Yields view (.ok (some total)) := by
  have hyields := measured_yields hrelation h
  rwa [View.tally_of_clean hclean] at hyields

/-- The size of one fork asks for files that the total asks for as well. -/
theorem exists_forkSize (hplaced : inquiry.Placed r)
    (hclean : ∀ path ∈ (inquiry.chains r).flatMap view.chainProbes, view.complaint path = none)
    (fork : Fork) : ∃ probes size,
      (if r.hasStorage then inquiry.forkSize r fork else pure 0).Adds view probes size ∧
        ∀ path ∈ probes, view.complaint path = none := by
  split
  · next hstorage =>
    obtain ⟨path, hpath⟩ := hplaced.exists_forkPath hstorage fork
    refine ⟨_, _, forkSize_adds hpath, fun probe hprobe => hclean probe ?_⟩
    refine List.mem_flatMap.mpr ⟨path, ?_, hprobe⟩
    rw [chains, if_pos hstorage]
    refine List.mem_filterMap.mpr ⟨fork, Fork.mem_all fork, ?_⟩
    rw [hpath]
    rfl
  · exact ⟨[], 0, Storage.Scan.adds_pure 0 view, nofun⟩

theorem stored?_eq (hrelation : inquiry.relation? reference = .ok (some r)) :
    inquiry.stored? reference = .ok (if r.hasStorage then some r else none) := by
  rw [stored?, hrelation]
  cases hstorage : r.hasStorage <;> simp [Option.filter, hstorage]

theorem filePath_eq (hrelation : inquiry.relation? reference = .ok (some r)) :
    inquiry.filePath reference =
      if r.hasStorage then (inquiry.forkPath r .main).map some else .ok none := by
  rw [filePath, stored?_eq hrelation]
  split
  · change (inquiry.catalog.locator r >>= fun place =>
      some <$> Storage.forkPath inquiry.version place r.fileBackend .main) = _
    rw [forkPath]
    cases inquiry.catalog.locator r <;> rfl
  · rfl

/-- **A relation whose parts have paths can be measured.** -/
theorem measurable_of_placed (hrelation : inquiry.relation? reference = .ok (some r))
    (hplaced : ∀ part ∈ inquiry.parts r, inquiry.Placed part)
    (hclean : ∀ path ∈ inquiry.probes view (inquiry.parts r), view.complaint path = none) :
    inquiry.Measurable view reference := by
  have hown : inquiry.Placed r := hplaced r List.mem_cons_self
  have hsplit := hplaced
  have hparts := hclean
  rw [parts, List.forall_mem_append] at hsplit
  rw [parts, probes_append, List.forall_mem_append] at hparts
  constructor
  · intro fork
    have hchains : ∀ path ∈ (inquiry.chains r).flatMap view.chainProbes,
        view.complaint path = none := fun path hpath =>
      hclean path (List.mem_flatMap.mpr ⟨r, List.mem_cons_self, hpath⟩)
    obtain ⟨probes, size, hadds, hprobes⟩ := exists_forkSize hown hchains fork
    refine ⟨size, ?_⟩
    rw [relationSize, Fork.ofName_name]
    exact (Storage.Scan.yields_ofExcept (.ok fork) view).bind (measured_clean hrelation hadds hprobes)
  · exact ⟨_, measured_clean hrelation (tableSize_adds hsplit.1) hparts.1⟩
  · exact ⟨_, measured_clean hrelation (ownSizes_adds hsplit.2) hparts.2⟩
  · exact ⟨_, measured_clean hrelation (totalSize_adds hplaced) hclean⟩
  · rw [fileNumber, stored?_eq hrelation]
    exact ⟨_, rfl⟩
  · rw [filePath_eq hrelation]
    split
    · next hstorage =>
      obtain ⟨path, hpath⟩ := hown.exists_forkPath hstorage .main
      rw [hpath]
      exact ⟨some path, rfl⟩
    · exact ⟨none, rfl⟩

/-! ### Catalogs that can be measured -/

theorem mem_values_of_relation? (h : inquiry.relation? reference = .ok (some r)) :
    r ∈ inquiry.catalog.relations.values := by
  cases reference with
  | oid n => exact Dictionary.mem_values_of_find? (Except.ok.inj h)
  | name s =>
    rw [relation?] at h
    split at h
    · next found hfound =>
      obtain rfl := Option.some.inj (Except.ok.inj h)
      exact List.mem_of_find?_eq_some hfound
    · cases h

/-- What a total takes in is in the catalog. -/
theorem mem_values_of_mem_parts (hr : r ∈ inquiry.catalog.relations.values) {part : Relation}
    (h : part ∈ inquiry.parts r) : part ∈ inquiry.catalog.relations.values := by
  have hindexes : ∀ table : Relation, part ∈ inquiry.catalog.indexesOf table →
      part ∈ inquiry.catalog.relations.values := by
    intro table hindex
    obtain ⟨oid, -, hfind⟩ := List.mem_filterMap.mp hindex
    exact Dictionary.mem_values_of_find? hfind
  rcases List.mem_append.mp h with hfront | hindex
  · rcases List.mem_cons.mp hfront with rfl | hoverflow
    · exact hr
    · rw [overflowParts] at hoverflow
      split at hoverflow
      · cases hoverflow
      · next toast hfound =>
        rcases List.mem_cons.mp hoverflow with rfl | hindex
        · obtain ⟨oid, -, hfind⟩ := Option.bind_eq_some_iff.mp hfound
          exact Dictionary.mem_values_of_find? hfind
        · exact hindexes toast hindex
  · exact hindexes r hindex

/-- A storage in which there is nothing. -/
def nothing : View := { tree := .empty, root := "", watch := none }

theorem complaint_nothing (path : String) : nothing.complaint path = none := by
  have hresolve : Storage.Tree.resolve .empty (joinPath "" path) = .error .nothing := by
    unfold Storage.Tree.resolve
    split
    · rfl
    · -- The first directory on the way is missing, or else the file itself.
      dsimp only
      cases Storage.ancestors (Storage.pathParts (joinPath "" path)) <;> rfl
  have hstat : nothing.stat path = .error .nothing := by
    unfold View.stat Storage.Tree.stat nothing
    rw [hresolve]
    rfl
  unfold View.complaint
  rw [hstat]
  rfl

/-- **A consistent catalog can be measured if and only if its relations with files have paths.** -/
theorem measuresAll_iff (h : inquiry.catalog.Consistent) :
    inquiry.MeasuresAll ↔ inquiry.catalog.Pathed := by
  constructor
  · intro hall r hr hpathless
    have hrelation : inquiry.relation? (.oid r.oid) = .ok (some r) :=
      congrArg Except.ok (Dictionary.find?_of_mem_values h.keyed.relations hr)
    -- Its path does not depend on the storage, so an empty one will do.
    obtain ⟨path, hpath⟩ :=
      (hall (.oid r.oid) r hrelation nothing fun path _ => complaint_nothing path).filePath
    obtain ⟨place, hplace⟩ := h.exists_locator hr
    rw [filePath_eq hrelation, if_pos hpathless.1] at hpath
    refine (placed_iff hplace).not.mpr (not_not.mpr hpathless) fun _ fork _ => ?_
    rw [forkPath_isOk_iff hplace, ← forkPath_isOk_iff hplace .main]
    cases hmain : inquiry.forkPath r .main with
    | error e =>
      rw [hmain] at hpath
      cases hpath
    | ok path => rfl
  · intro hpathed reference r hrelation view hclean
    have hr := mem_values_of_relation? hrelation
    refine measurable_of_placed hrelation (fun part hpart => ?_) hclean
    have hmem := mem_values_of_mem_parts hr hpart
    obtain ⟨place, hplace⟩ := h.exists_locator hmem
    exact (placed_iff hplace).mpr (hpathed part hmem)

end Inquiry

namespace Store

open Catalog (Operation)

/-- **Whatever has been created can be measured, unless files of a backend were asked for in the
global tablespace.** An operation with a positive and unused number makes a relation that cannot be
measured if and only if it asks for that. -/
theorem Run.measurable {store : Store} (viewer : Viewer) (version : String)
    (hrun : Run (fun op c => (op.Fresh c ∧ op.Positive) ∧ ¬op.AsksForOwnedGlobal c)
      (saved .bootstrap) store) :
    let inquiry : Catalog → Inquiry := fun c => ⟨c, viewer, version⟩
    (inquiry store.catalog).MeasuresAll ∧
    ∀ op : Operation, op.Fresh store.catalog → op.Positive →
      ((inquiry (store.perform op).2.catalog).MeasuresAll ↔
        ¬op.AsksForOwnedGlobal store.catalog) := by
  intro inquiry
  obtain ⟨h, hpathed⟩ := hrun.orderly_and (P := Catalog.Pathed) (List.forall_mem_nil _)
    fun op c h hpathed hfresh _ hasks =>
      (h.pathed_iff_of_effect hpathed hfresh (op.effect c)).mpr hasks
  refine ⟨(Inquiry.measuresAll_iff h.toConsistent).mpr hpathed, fun op hfresh hpositive => ?_⟩
  rw [perform_catalog]
  have hleft := h.effect hfresh hpositive (op.effect store.catalog)
  rw [Inquiry.measuresAll_iff hleft.toConsistent]
  exact h.pathed_iff_of_effect hpathed hfresh (op.effect store.catalog)

/-- A table of a backend with an index, and a shared table. A shared table of a backend could not be
measured. -/
theorem Run.measurable_temporary :
    let table : Operation := .createRelation
      { database := "postgres", name := "t", persistence := .temporary, backend := some 3 }
    let index : Operation := .createRelation
      { database := "postgres", name := "i", kind := "i", persistence := .temporary,
        backend := some 3, indexOf := some 16384 }
    let shared : Operation := .createRelation { database := "postgres", name := "s", shared := true }
    let owned : Operation := .createRelation
      { database := "postgres", name := "o", persistence := .temporary, backend := some 3,
        shared := true }
    let indexed := (((saved .bootstrap).perform table).2.perform index).2
    let store := (indexed.perform shared).2
    let viewer : Viewer := { role := "postgres", database := 5 }
    (∀ view : View, (∀ path, view.complaint path = none) →
      (⟨store.catalog, viewer, "V"⟩ : Inquiry).Measurable view (.name "t")) ∧
    ¬(⟨(store.perform owned).2.catalog, viewer, "V"⟩ : Inquiry).MeasuresAll := by
  intro table index shared owned indexed store viewer
  have htable : ¬table.AsksForOwnedGlobal Catalog.bootstrap := by
    rintro ⟨request, made, hop, -, -, -, hasks⟩
    obtain rfl := Operation.createRelation.inj hop
    exact absurd hasks (by decide)
  have hindex : ¬index.AsksForOwnedGlobal ((saved .bootstrap).perform table).2.catalog := by
    rintro ⟨request, made, hop, -, -, -, hasks⟩
    obtain rfl := Operation.createRelation.inj hop
    exact absurd hasks (by decide)
  have hshared : ¬shared.AsksForOwnedGlobal indexed.catalog := by
    rintro ⟨request, made, hop, hprepare, -, hbackend, -⟩
    obtain rfl := Operation.createRelation.inj hop
    obtain rfl := Except.ok.inj hprepare
    exact hbackend rfl
  have hrun : Run (fun op c => (op.Fresh c ∧ op.Positive) ∧ ¬op.AsksForOwnedGlobal c)
      (saved .bootstrap) store := by
    apply Run.perform shared (.perform index (.perform table .start _) _)
    · exact ⟨⟨nofun, nofun⟩, hshared⟩
    · exact ⟨⟨nofun, nofun⟩, htable⟩
    · exact ⟨⟨nofun, nofun⟩, hindex⟩
  obtain ⟨hall, hnext⟩ := Run.measurable viewer "V" hrun
  let made : Relation :=
    { oid := 16384, name := "t", database := 5, fileNumber := 16384, persistence := .temporary,
      backend := some 3, indexes := [16385] }
  refine ⟨fun view hclean => hall (.name "t") made (by decide) view fun path _ => hclean path, ?_⟩
  let other : Relation :=
    { oid := 16387, name := "o", database := 0, fileNumber := 16387, tablespace := 1664,
      persistence := .temporary, backend := some 3 }
  refine (hnext owned nofun nofun).not.mpr (not_not.mpr ?_)
  exact ⟨_, other, rfl, by decide, by decide, by decide, Or.inl rfl⟩

/-- A shared table of a backend is made like any other relation. Whatever the storage holds, its sizes
and its path end with an error. -/
theorem perform_shared_temporary :
    let op : Operation := .createRelation
      { database := "postgres", name := "t", persistence := .temporary, backend := some 3,
        shared := true }
    let store := ((saved .bootstrap).perform op).2
    let inquiry : Inquiry := ⟨store.catalog, { role := "postgres", database := 5 }, "V"⟩
    let made : Relation :=
      { oid := 16384, name := "t", database := 0, fileNumber := 16384, tablespace := 1664,
        persistence := .temporary, backend := some 3 }
    Run (fun op c => op.Fresh c ∧ op.Positive) (saved .bootstrap) store ∧
      ((saved .bootstrap).perform op).1 = .ok () ∧ store.catalog.relations.values = [made] ∧
      (∀ view, ((inquiry.relationSize "main" (.oid 16384)).start view).1 =
        .error .sharedTemporary) ∧
      (∀ measure ∈ [inquiry.tableSize, inquiry.totalSize], ∀ view,
        ((inquiry.measured measure (.oid 16384)).start view).1 = .error .sharedTemporary) ∧
      inquiry.filePath (.oid 16384) = .error .sharedTemporary := by
  intro op store inquiry made
  refine ⟨.perform op .start ⟨nofun, nofun⟩, by decide, by decide, fun view => rfl, ?_, by decide⟩
  intro measure hmeasure view
  rcases List.mem_pair.mp hmeasure with rfl | rfl
  · rfl
  · rfl

end Store

end Footprint
