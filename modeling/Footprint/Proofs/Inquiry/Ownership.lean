import Footprint.Proofs.Inquiry.Measurable
import Footprint.Proofs.Storage.Segments

/-!
# Files of backends

A temporary relation belongs to a backend, and the names of its files begin with the number of that
backend. Two rules say which number this is: the one for files in general refuses a temporary object
without a backend (`Storage.backendFor`), whereas the one for relations takes it for an object that
belongs to none (`Relation.fileBackend`). They agree on every relation but a temporary one without a
backend (`Relation.owned_iff`).

Such a relation is made, though, whenever a temporary one is asked for without a backend
(`Catalog.Operation.AsksForUnowned`). A relation keeps its persistence and its backend, so it is
enough to look at the one that an operation makes (`Catalog.owned_iff_of_effect`).

The path of a relation tells its backend as well as its place (`Inquiry.forkPath_eq_iff`). So a
temporary relation with a backend shares its path with no relation that is not temporary, wherever
these lie and whatever file numbers they have been given.
-/

namespace Footprint

open Storage (Locator Fork Chain globalTablespace noBackend backendFor databasePath fileName)

/-! ### The two rules -/

namespace Relation

/-- The two rules for the backend of a relation agree. -/
def Owned (r : Relation) : Prop := backendFor r.persistence r.backend = .ok r.fileBackend

/-- **The rules agree unless a temporary relation has no backend.** -/
theorem owned_iff (r : Relation) :
    r.Owned ↔ (r.persistence = .temporary → r.fileBackend ≠ noBackend) := by
  unfold Owned backendFor fileBackend
  by_cases htemporary : r.persistence = .temporary
  · rw [if_pos htemporary, if_pos htemporary, forall_prop_of_true htemporary]
    cases r.backend with
    | none => exact iff_of_false nofun (not_not.mpr rfl)
    | some backend =>
      dsimp only [Option.getD_some]
      by_cases hnone : backend = noBackend
      · rw [if_pos hnone]
        exact iff_of_false nofun (not_not.mpr hnone)
      · rw [if_neg hnone]
        exact iff_of_true rfl hnone
  · rw [if_neg htemporary, if_neg htemporary]
    exact iff_of_true rfl fun h => absurd h htemporary

/-- The files of a relation that is not temporary bear no number of a backend. -/
theorem fileBackend_of_ne {r : Relation} (h : r.persistence ≠ .temporary) :
    r.fileBackend = noBackend := if_neg h

end Relation

namespace Catalog

/-- The two rules agree on all relations. -/
def Owned (c : Catalog) : Prop := ∀ r ∈ c.relations.values, r.Owned

/-- Does the operation make a temporary relation for which no backend is given? -/
def Operation.AsksForUnowned (op : Operation) (c : Catalog) : Prop :=
  ∃ request made, op = .createRelation request ∧ request.prepare c = .ok made ∧
    request.persistence = .temporary ∧ request.backend.getD noBackend = noBackend

variable {c left : Catalog} {op : Operation} {result : Except Error Unit}

/-- A relation is made with the persistence and the backend that are asked for. -/
theorem RelationRequest.prepare_backend {request : RelationRequest} {made : Relation}
    (h : request.prepare c = .ok made) :
    made.persistence = request.persistence ∧ made.backend = request.backend := by
  unfold prepare at h
  split at h
  · cases h
  · next database _ =>
    split at h
    · cases h
    · cases htablespace : request.tablespaceOid c database with
      | error e =>
        rw [htablespace] at h
        cases h
      | ok tablespace =>
        rw [htablespace] at h
        obtain rfl := Except.ok.inj h
        exact ⟨rfl, rfl⟩

theorem owned_made_iff {request : RelationRequest} {made : Relation}
    (h : request.prepare c = .ok made) : made.Owned ↔
      ¬(request.persistence = .temporary ∧ request.backend.getD noBackend = noBackend) := by
  obtain ⟨hpersistence, hbackend⟩ := RelationRequest.prepare_backend h
  rw [Relation.owned_iff, not_and, ← hpersistence, ← hbackend]
  refine forall_congr' fun htemporary => ?_
  rw [Relation.fileBackend, if_pos htemporary]

/-- **An operation leaves the two rules in agreement if and only if it does not ask for a temporary
relation without a backend.** -/
theorem owned_iff_of_effect (h : c.Owned) (heffect : Effect c op result left) :
    left.Owned ↔ ¬op.AsksForUnowned c := by
  -- Links have nothing to do with backends.
  have hlinks : ∀ r : Relation, r.bare.Owned ↔ r.Owned := fun _ => Iff.rfl
  constructor
  · rintro hleft ⟨request, made, hop, hprepare, hasks⟩
    obtain ⟨r, hr, hbare⟩ := heffect.exists_made ⟨request, hop, hprepare⟩
    have howned := (hlinks r).mpr (hleft r (Dictionary.mem_values_of_mem_entries hr))
    rw [hbare] at howned
    exact (owned_made_iff hprepare).mp howned hasks
  · intro hasks
    apply heffect.forall_values hlinks h
    rintro made ⟨request, hop, hprepare⟩
    exact (owned_made_iff hprepare).mpr fun hunowned =>
      hasks ⟨request, made, hop, hprepare, hunowned⟩

end Catalog

/-! ### Paths -/

namespace Storage

variable {version : String} {place : Locator} {backend : Int} {fork : Fork} {path : String}

/-- Files of the global tablespace that have a path belong to no backend. -/
theorem unowned_of_forkPath (h : forkPath version place backend fork = .ok path) :
    place.tablespace = globalTablespace → backend = noBackend := by
  intro hglobal
  by_contra hbackend
  rw [forkPath, if_pos ⟨hglobal, hbackend⟩] at h
  cases h

/-- The path of a fork is that of its first segment. -/
theorem Chain.path_zero (version : String) (chain : Chain) : chain.path version 0 =
    forkPath version chain.locator chain.backend chain.fork := by
  rw [Chain.path]
  cases forkPath version chain.locator chain.backend chain.fork <;> rfl

end Storage

namespace Inquiry

variable {inquiry : Inquiry} {r s : Relation} {reference : Reference} {place place' : Locator}
  {path path' : String}

/-- **Paths of relations are the same if and only if they are those of the same fork of one object
and bear the same backend.** -/
theorem forkPath_eq_iff {fork fork' : Fork} (hplace : inquiry.catalog.locator r = .ok place)
    (hplace' : inquiry.catalog.locator s = .ok place') (hpath : inquiry.forkPath r fork = .ok path)
    (hpath' : inquiry.forkPath s fork' = .ok path') :
    path = path' ↔ place.SameObject place' ∧ fork = fork' ∧ r.fileBackend = s.fileBackend := by
  rw [forkPath_eq hplace] at hpath
  rw [forkPath_eq hplace'] at hpath'
  -- Both are paths of first segments, and a path of a segment tells its chain.
  let chain : Chain := ⟨place, fork, r.fileBackend, Storage.unowned_of_forkPath hpath⟩
  let chain' : Chain := ⟨place', fork', s.fileBackend, Storage.unowned_of_forkPath hpath'⟩
  have hchains := chain.path_eq_iff inquiry.version chain' 0 0
  rw [chain.path_zero, chain'.path_zero, hpath, hpath', Except.ok.injEq, and_iff_left rfl]
    at hchains
  exact hchains

theorem forkPath_of_filePath (hrelation : inquiry.relation? reference = .ok (some r))
    (h : inquiry.filePath reference = .ok (some path)) : inquiry.forkPath r .main = .ok path := by
  rw [filePath_eq hrelation] at h
  split at h
  · cases hpath : inquiry.forkPath r .main with
    | error e =>
      rw [hpath] at h
      cases h
    | ok found =>
      rw [hpath] at h
      exact congrArg Except.ok (Option.some.inj (Except.ok.inj h))
  · cases h

/-- The path of a relation with files that bear the number of a backend. -/
theorem filePath_of_backend (hrelation : inquiry.relation? reference = .ok (some r))
    (hplace : inquiry.catalog.locator r = .ok place) (hstorage : r.hasStorage = true)
    (hbackend : r.fileBackend ≠ noBackend) : inquiry.filePath reference =
      if place.tablespace = globalTablespace then .error .sharedTemporary
      else .ok (some (databasePath inquiry.version place.tablespace place.database ++ "/" ++
        s!"t{r.fileBackend}_{r.fileNumber}")) := by
  rw [filePath_eq hrelation, if_pos hstorage, forkPath_eq hplace, Storage.forkPath,
    (Catalog.locator_eq_ok_iff.mp hplace).2.2]
  by_cases hglobal : place.tablespace = globalTablespace
  · rw [if_pos ⟨hglobal, hbackend⟩, if_pos hglobal]
    rfl
  · rw [if_neg fun h => hglobal h.1, if_neg hglobal, fileName, if_neg hbackend, if_pos rfl]
    rfl

end Inquiry

namespace Store

open Catalog (Operation)

/-- **Files of temporary relations are kept apart from all others, unless a temporary relation was
asked for without a backend.** Until then the two rules agree, so a path of a temporary relation
bears the number of its backend and is not the path of a relation that is not temporary. An operation
makes a relation on which the rules differ if and only if it asks for one of these. -/
theorem Run.temporary_apart {store : Store} (viewer : Viewer) (version : String)
    (hrun : Run (fun op c => (op.Fresh c ∧ op.Positive) ∧ ¬op.AsksForUnowned c)
      (saved .bootstrap) store) :
    let inquiry : Inquiry := ⟨store.catalog, viewer, version⟩
    (∀ r ∈ store.catalog.relations.values,
      backendFor r.persistence r.backend = .ok r.fileBackend) ∧
    (∀ reference r, inquiry.relation? reference = .ok (some r) →
      r.persistence = .temporary → r.hasStorage = true → ∃ place,
        store.catalog.locator r = .ok place ∧ inquiry.filePath reference =
          if place.tablespace = globalTablespace then .error .sharedTemporary
          else .ok (some (databasePath version place.tablespace place.database ++ "/" ++
            s!"t{r.fileBackend}_{r.fileNumber}"))) ∧
    (∀ reference other r s, inquiry.relation? reference = .ok (some r) →
      inquiry.relation? other = .ok (some s) → r.persistence = .temporary →
        s.persistence ≠ .temporary → ∀ path, inquiry.filePath reference = .ok (some path) →
          inquiry.filePath other ≠ .ok (some path)) ∧
    ∀ op : Operation,
      (store.perform op).2.catalog.Owned ↔ ¬op.AsksForUnowned store.catalog := by
  intro inquiry
  obtain ⟨h, howned⟩ := hrun.orderly_and (P := Catalog.Owned) (List.forall_mem_nil _)
    fun op c _ howned _ _ hasks => (Catalog.owned_iff_of_effect howned (op.effect c)).mpr hasks
  -- What a reference leads to is in the catalog, so it is owned and has a place.
  have hbackend : ∀ {reference r}, inquiry.relation? reference = .ok (some r) →
      r.persistence = .temporary → r.fileBackend ≠ noBackend := fun hrelation =>
    (Relation.owned_iff _).mp (howned _ (Inquiry.mem_values_of_relation? hrelation))
  have hplaced : ∀ {reference r}, inquiry.relation? reference = .ok (some r) →
      ∃ place, store.catalog.locator r = .ok place := fun hrelation =>
    h.exists_locator (Inquiry.mem_values_of_relation? hrelation)
  refine ⟨howned, fun reference r hrelation htemporary hstorage => ?_, ?_, fun op => ?_⟩
  · obtain ⟨place, hplace⟩ := hplaced hrelation
    exact ⟨place, hplace,
      Inquiry.filePath_of_backend hrelation hplace hstorage (hbackend hrelation htemporary)⟩
  · intro reference other r s hr hs htemporary hpermanent path hpath hpath'
    obtain ⟨place, hplace⟩ := hplaced hr
    obtain ⟨place', hplace'⟩ := hplaced hs
    -- The path would bear a backend on the one hand and none on the other.
    obtain ⟨-, -, hsame⟩ := (Inquiry.forkPath_eq_iff hplace hplace'
      (Inquiry.forkPath_of_filePath hr hpath) (Inquiry.forkPath_of_filePath hs hpath')).mp rfl
    rw [Relation.fileBackend_of_ne hpermanent] at hsame
    exact hbackend hr htemporary hsame
  · rw [perform_catalog]
    exact Catalog.owned_iff_of_effect howned (op.effect store.catalog)

/-- A temporary and a permanent table with the same file number. -/
theorem Run.temporary_apart_twins :
    let temporary : Operation := .createRelation
      { database := "postgres", name := "a", persistence := .temporary, backend := some 3,
        fileNumber := some 700 }
    let permanent : Operation := .createRelation
      { database := "postgres", name := "b", fileNumber := some 700 }
    let unowned : Operation := .createRelation
      { database := "postgres", name := "c", persistence := .temporary }
    let store := (((saved .bootstrap).perform temporary).2.perform permanent).2
    let inquiry : Inquiry := ⟨store.catalog, { role := "postgres", database := 5 }, "V"⟩
    inquiry.filePath (.name "a") = .ok (some "base/5/t3_700") ∧
      inquiry.filePath (.name "b") = .ok (some "base/5/700") ∧
      (∀ path, inquiry.filePath (.name "a") = .ok (some path) →
        inquiry.filePath (.name "b") ≠ .ok (some path)) ∧
      ¬(store.perform unowned).2.catalog.Owned := by
  intro temporary permanent unowned store inquiry
  have htemporary : ¬temporary.AsksForUnowned Catalog.bootstrap := by
    rintro ⟨request, made, hop, -, -, hbackend⟩
    obtain rfl := Operation.createRelation.inj hop
    exact absurd hbackend (by decide)
  have hpermanent : ¬permanent.AsksForUnowned ((saved .bootstrap).perform temporary).2.catalog := by
    rintro ⟨request, made, hop, -, hpersistence, -⟩
    obtain rfl := Operation.createRelation.inj hop
    cases hpersistence
  have hrun : Run (fun op c => (op.Fresh c ∧ op.Positive) ∧ ¬op.AsksForUnowned c)
      (saved .bootstrap) store := by
    apply Run.perform permanent (.perform temporary .start _)
    · exact ⟨⟨nofun, nofun⟩, hpermanent⟩
    · exact ⟨⟨nofun, nofun⟩, htemporary⟩
  obtain ⟨-, -, hapart, hnext⟩ := Run.temporary_apart { role := "postgres", database := 5 } "V" hrun
  let a : Relation :=
    { oid := 16384, name := "a", database := 5, fileNumber := 700, persistence := .temporary,
      backend := some 3 }
  let b : Relation := { oid := 16385, name := "b", database := 5, fileNumber := 700 }
  let c : Relation :=
    { oid := 16386, name := "c", database := 5, fileNumber := 16386, persistence := .temporary }
  refine ⟨by decide, by decide, ?_, ?_⟩
  · exact hapart (.name "a") (.name "b") a b (by decide) (by decide) rfl nofun
  · exact (hnext unowned).not.mpr (not_not.mpr ⟨_, c, rfl, by decide, rfl, rfl⟩)

/-- A temporary table is made without a backend, although the one rule refuses to name its files. By
the other one it has the path of a permanent table with the same file number. -/
theorem perform_temporary_unowned :
    let permanent : Operation := .createRelation
      { database := "postgres", name := "b", fileNumber := some 700 }
    let temporary : Operation := .createRelation
      { database := "postgres", name := "a", persistence := .temporary, fileNumber := some 700 }
    let first := (saved .bootstrap).perform permanent
    let second := first.2.perform temporary
    let inquiry : Inquiry := ⟨second.2.catalog, { role := "postgres", database := 5 }, "V"⟩
    Run (fun op c => op.Fresh c ∧ op.Positive) (saved .bootstrap) second.2 ∧
      first.1 = .ok () ∧ second.1 = .ok () ∧
      second.2.catalog.relations.values.map (fun r => (r.name, r.persistence, r.backend)) =
        [("b", .permanent, none), ("a", .temporary, none)] ∧
      backendFor .temporary none = .error .temporaryWithoutOwner ∧
      inquiry.filePath (.name "b") = .ok (some "base/5/700") ∧
      inquiry.filePath (.name "a") = .ok (some "base/5/700") := by
  intro permanent temporary first second inquiry
  refine ⟨?_, by decide, by decide, by decide, rfl, by decide, by decide⟩
  exact .perform temporary (.perform permanent .start ⟨nofun, nofun⟩) ⟨nofun, nofun⟩

end Store
end Footprint
