import Footprint.Proofs.Catalog.Dropping
import Footprint.Proofs.Inquiry.Measurable

/-!
# Relations that stay

A relation is made where it is asked for, and from then on neither its place nor the path of its
files changes until it is dropped (`Store.Run.relation_stays`).

The place of a relation is not said by the relation alone. One that names no tablespace lies in the
default tablespace of its database, so that its place depends on an object that other operations
know nothing of. What is kept is therefore a fact about the catalog, `Catalog.Rests`: the relation
is there, but for its links, and it has this place.

* An operation takes a relation away only if it drops it or a relation from which it is reached
  (`Numbered.exists_kept`), and leaves alone what a place depends on (`Numbered.rests_effect`).
* A relation that has just been made has the place that was asked for (`Numbered.rests_made`).
* A new catalog has no relation, so what is kept does not hold of it. It is enough that a catalog is
  read as it was written (`Store.Run.of_saved`).

How a reference comes to lead to the relation does not matter: the path depends on the relation
without its links and on its place (`Catalog.Rests.filePath_eq`).
-/

namespace Footprint

namespace Catalog

open Storage (globalTablespace Locator)

variable {c left : Catalog} {op : Operation} {result : Except Error Unit} {r made : Relation}
  {oid : Int} {place : Locator}

/-! ### What goes and what comes -/

/-- Does an operation drop a relation, by itself or with another one? -/
def Operation.Drops (op : Operation) (oid : Int) (c : Catalog) : Prop :=
  ∃ start, op = .dropRelation start ∧ Reaches c.relations start oid

/-- Where no relation is made, none goes but those that are dropped. -/
theorem Effect.mem_keys_of_kept (h : Effect c op result left) (hlinked : WellLinked c.relations)
    (hnone : ∀ made, ¬op.Makes c made) (hkept : ¬op.Drops oid c) (hmem : oid ∈ c.relations.keys) :
    oid ∈ left.relations.keys := by
  cases h with
  | dropped start =>
    have hlate : Late c.relations [.remove start] := fun _ htask =>
      nomatch List.mem_singleton.mp htask
    refine (mem_keys_dropAll hlinked hlate).mpr ⟨hmem, ?_⟩
    rintro ⟨other, htask, hreaches⟩
    obtain rfl : other = start := DropTask.remove.inj (List.mem_singleton.mp htask)
    exact hkept ⟨other, rfl, hreaches⟩
  | relation hprepare => exact absurd ⟨_, rfl, hprepare⟩ (hnone _)
  | indexOfNothing hprepare => exact absurd ⟨_, rfl, hprepare⟩ (hnone _)
  | toastOfNothing hprepare => exact absurd ⟨_, rfl, hprepare⟩ (hnone _)
  | _ => exact hmem

theorem Effect.exists_prepared {request : RelationRequest}
    (h : Effect c (.createRelation request) (.ok ()) left) :
    ∃ made, request.prepare c = .ok made := by
  cases h with
  | relation hprepare => exact ⟨_, hprepare⟩

/-- An orderly catalog in which relations have positive numbers as well. -/
structure Numbered (c : Catalog) : Prop extends c.Orderly where
  relation_pos : ∀ oid ∈ c.relations.keys, 0 < oid

theorem bootstrap_numbered : bootstrap.Numbered where
  toOrderly := bootstrap_orderly
  relation_pos := List.forall_mem_nil _

/-- A relation has a place; what it is linked to is left open. -/
structure Rests (c : Catalog) (made : Relation) (place : Locator) : Prop where
  found : ∃ r, c.relations.find? made.oid = some r ∧ r.bare = made.bare
  placed : c.locator made = .ok place

/-- Links have nothing to do with the place of a relation. -/
theorem locator_congr (h : r.bare = made.bare) : c.locator r = c.locator made :=
  calc c.locator r = c.locator r.bare := rfl
    _ = c.locator made.bare := congrArg c.locator h
    _ = c.locator made := rfl

namespace Numbered

theorem effect (h : c.Numbered) (hfresh : op.Fresh c) (hpositive : op.Positive)
    (heffect : Effect c op result left) : left.Numbered where
  toOrderly := h.toOrderly.effect hfresh hpositive heffect
  relation_pos := by
    intro oid hmem
    rcases heffect.mem_relations_keys hmem with hold | rfl
    · exact h.relation_pos oid hold
    · exact h.chosen_pos hpositive

/-- Links lead to relations, and no relation has the number that would count as no overflow
table. -/
theorem wellLinked (h : c.Numbered) : WellLinked c.relations where
  nodup := h.indexes_nodup
  toast_ne := by
    intro r hr htoast
    have hmem : Relation.unset ∈ c.relations.keys := h.links r hr Relation.unset (Or.inr htoast)
    exact lt_irrefl 0 (h.relation_pos Relation.unset hmem)

/-- **A relation that is not dropped stays, but for its links.** -/
theorem exists_kept (h : c.Numbered) (hfresh : op.Fresh c) (heffect : Effect c op result left)
    (hkept : ¬op.Drops oid c) (hfound : c.relations.find? oid = some r) :
    ∃ kept, left.relations.find? oid = some kept ∧ kept.bare = r.bare := by
  suffices hentry : ∃ kept, (oid, kept) ∈ left.relations.entries ∧ kept.bare = r.bare by
    simpa only [Dictionary.find?_eq_some_iff] using hentry
  have hmem : oid ∈ c.relations.keys := Dictionary.mem_keys_of_find? hfound
  by_cases hmakes : ∃ made, op.Makes c made
  · obtain ⟨made, request, rfl, hprepare⟩ := hmakes
    obtain ⟨htrimmed, hkeys⟩ := heffect.trimmed_of_makes ⟨request, rfl, hprepare⟩
    -- What is made gets a number of its own, so it does not take the place of another relation.
    have hnew : made.oid ∉ c.relations.keys := by
      rw [(RelationRequest.prepare_ok hprepare).1]
      exact h.chosen_not_mem hfresh
    apply htrimmed.exists_kept (Dictionary.find?_insert_of_not_mem hnew hfound)
    rw [hkeys]
    exact Dictionary.mem_keys_insert.mpr (Or.inr hmem)
  · have hnone := not_exists.mp hmakes
    apply (heffect.trimmed hnone).exists_kept hfound
    exact heffect.mem_keys_of_kept h.wellLinked hnone hkept hmem

/-! ### Places that are kept -/

/-- **No operation moves a relation that it does not drop.** -/
theorem rests_effect (h : c.Numbered) (hfresh : op.Fresh c) (heffect : Effect c op result left)
    (hkept : ¬op.Drops made.oid c) (hrests : c.Rests made place) : left.Rests made place := by
  obtain ⟨r, hfound, hbare⟩ := hrests.found
  obtain ⟨kept, hkept, hsame⟩ := h.exists_kept hfresh heffect hkept hfound
  refine ⟨⟨kept, hkept, hsame.trans hbare⟩, ?_⟩
  -- The relation names a tablespace or belongs to a database that is there, and so it stays.
  have hplaced := h.placed r (Dictionary.mem_values_of_find? hfound)
  calc left.locator made = left.locator r := (locator_congr hbare).symm
    _ = c.locator r := by
      rw [locator_eq, locator_eq, h.tablespaceOf_eq hfresh heffect hplaced]
    _ = c.locator made := locator_congr hbare
    _ = .ok place := hrests.placed

/-- **A relation is made where it is asked for.** -/
theorem rests_made (h : c.Numbered) {request : RelationRequest}
    (hfresh : (Operation.createRelation request).Fresh c)
    (hpositive : (Operation.createRelation request).Positive)
    (heffect : Effect c (.createRelation request) result left)
    (hprepare : request.prepare c = .ok made) :
    ∃ place, left.Rests made place ∧
      if request.shared then place.tablespace = globalTablespace
      else request.target c = .ok place.tablespace := by
  obtain ⟨r, hentry, hbare⟩ := heffect.exists_made ⟨request, rfl, hprepare⟩
  have hleft : left.Orderly := h.toOrderly.effect hfresh hpositive heffect
  obtain ⟨place, hplace⟩ := hleft.exists_locator (Dictionary.mem_values_of_mem_entries hentry)
  have hmade : left.locator made = .ok place := (locator_congr hbare).symm.trans hplace
  refine ⟨place, ⟨⟨r, Dictionary.find?_eq_some_iff.mpr hentry, hbare⟩, hmade⟩, ?_⟩
  have htablespace : left.tablespaceOf made = .ok place.tablespace :=
    (locator_eq_ok_iff.mp hmade).1
  cases hshared : request.shared with
  | true =>
    have hglobal := (RelationRequest.prepare_shared hprepare hshared).2
    rw [tablespaceOf, hglobal, if_neg (by decide)] at htablespace
    exact (Except.ok.inj htablespace).symm
  | false =>
    rw [h.tablespaceOf_made hfresh heffect hshared hprepare] at htablespace
    exact htablespace

end Numbered

/-! ### Places as they are seen -/

/-- The relation of a number has a place, and whoever refers to it is told the same path, which
depends on the version directory only. -/
structure LiesAt (c : Catalog) (oid : Int) (place : Locator)
    (path : String → Except Error (Option String)) : Prop where
  locator : c.relation oid >>= c.locator = .ok place
  filePath : ∀ (viewer : Viewer) (version : String) (reference : Reference) (r : Relation),
    (⟨c, viewer, version⟩ : Inquiry).relation? reference = .ok (some r) → r.oid = oid →
      (⟨c, viewer, version⟩ : Inquiry).filePath reference = path version

/-- The path of the files of a relation with a place. -/
def pathAt (made : Relation) (place : Locator) (version : String) :
    Except Error (Option String) :=
  if made.hasStorage then (Storage.forkPath version place made.fileBackend .main).map some
  else .ok none

namespace Rests

theorem filePath_eq (inquiry : Inquiry) {reference : Reference}
    (h : inquiry.catalog.Rests made place) (hkeyed : inquiry.catalog.Keyed)
    (hrelation : inquiry.relation? reference = .ok (some r)) (hoid : r.oid = made.oid) :
    inquiry.filePath reference = pathAt made place inquiry.version := by
  obtain ⟨found, hfound, hbare⟩ := h.found
  have hr : inquiry.catalog.relations.find? r.oid = some r :=
    Dictionary.find?_of_mem_values hkeyed.relations (Inquiry.mem_values_of_relation? hrelation)
  obtain rfl : found = r := Option.some.inj (hfound.symm.trans (hoid ▸ hr))
  have hplace : inquiry.catalog.locator found = .ok place := (locator_congr hbare).trans h.placed
  have hstorage : found.bare.hasStorage = made.bare.hasStorage := by rw [hbare]
  have hbackend : found.bare.fileBackend = made.bare.fileBackend := by rw [hbare]
  change found.hasStorage = made.hasStorage at hstorage
  change found.fileBackend = made.fileBackend at hbackend
  rw [Inquiry.filePath_eq hrelation, Inquiry.forkPath_eq hplace, hstorage, hbackend]
  rfl

theorem liesAt (h : c.Rests made place) (hkeyed : c.Keyed) :
    c.LiesAt made.oid place (pathAt made place) where
  locator := by
    obtain ⟨r, hfound, hbare⟩ := h.found
    calc c.relation made.oid >>= c.locator = c.locator r := by
          rw [relation_eq_ok_iff.mpr hfound]
          rfl
      _ = c.locator made := locator_congr hbare
      _ = .ok place := h.placed
  filePath := by
    intro viewer version reference r hrelation hoid
    exact filePath_eq ⟨c, viewer, version⟩ h hkeyed hrelation hoid

end Rests

end Catalog

namespace Store

open Catalog (Operation)
open Storage (globalTablespace)

theorem Run.numbered {store : Store}
    (hrun : Run (fun op c => op.Fresh c ∧ op.Positive) (saved .bootstrap) store) :
    store.catalog.Numbered := by
  have hkept : ∀ (op : Operation) (c : Catalog), c.Numbered → op.Fresh c ∧ op.Positive →
      (op.change.on c).2.Numbered := fun op c h hallowed =>
    h.effect hallowed.1 hallowed.2 (op.effect c)
  exact hrun.of_saved (fun _ h => h.keyed) hkept Catalog.bootstrap_numbered

/-- A relation that has a place keeps it through every run in which it is not dropped. -/
theorem Run.rests {start : Catalog} {store : Store} {made : Relation} {place : Storage.Locator}
    (hstart : start.Numbered) (hrests : start.Rests made place)
    (hrun : Run (fun op c => (op.Fresh c ∧ op.Positive) ∧ ¬op.Drops made.oid c) (saved start)
      store) : store.catalog.Numbered ∧ store.catalog.Rests made place := by
  have hkept : ∀ (op : Operation) (c : Catalog), c.Numbered ∧ c.Rests made place →
      (op.Fresh c ∧ op.Positive) ∧ ¬op.Drops made.oid c →
        (op.change.on c).2.Numbered ∧ (op.change.on c).2.Rests made place := by
    rintro op c ⟨h, hrests⟩ ⟨⟨hfresh, hpositive⟩, hdrops⟩
    have heffect := op.effect c
    exact ⟨h.effect hfresh hpositive heffect, h.rests_effect hfresh heffect hdrops hrests⟩
  exact hrun.of_saved (P := fun c => c.Numbered ∧ c.Rests made place) (fun _ h => h.1.keyed) hkept
    ⟨hstart, hrests⟩

/-- **A relation lies where it was asked for until it is dropped.** It was asked for in the global
tablespace if it is shared, else in the tablespace that was named or in the default one of its
database. Whatever is done then, whether it succeeds or fails, and however often the catalog is read
again: as long as the relation is not dropped, by itself or with another one, its place is the same,
and so is the path of its files, whoever asks for it. -/
theorem Run.relation_stays {before after : Store} {request : Catalog.RelationRequest}
    (hrun : Run (fun op c => op.Fresh c ∧ op.Positive) (saved .bootstrap) before)
    (hfresh : (Operation.createRelation request).Fresh before.catalog)
    (hpositive : (Operation.createRelation request).Positive)
    (hmade : before.perform (.createRelation request) = (.ok (), after)) :
    let oid := before.catalog.chosen request.oid
    ∃ place path,
      (if request.shared then place.tablespace = globalTablespace
        else request.target before.catalog = .ok place.tablespace) ∧
      ∀ later, Run (fun op c => (op.Fresh c ∧ op.Positive) ∧ ¬op.Drops oid c) after later →
        later.catalog.LiesAt oid place path := by
  intro oid
  have hbefore := hrun.numbered
  obtain ⟨hon, hsaved⟩ := perform_ok hmade
  have heffect := (Operation.createRelation request).effect before.catalog
  rw [hon] at heffect
  obtain ⟨made, hprepare⟩ := heffect.exists_prepared
  -- The catalog after the creation is where the invariant begins to hold.
  obtain ⟨place, hrests, hasked⟩ := hbefore.rests_made hfresh hpositive heffect hprepare
  have hoid : made.oid = oid := (Catalog.RelationRequest.prepare_ok hprepare).1
  have hafter := hbefore.effect hfresh hpositive heffect
  refine ⟨place, Catalog.pathAt made place, hasked, fun later hlater => ?_⟩
  rw [hsaved, ← hoid] at hlater
  obtain ⟨hnumbered, hstays⟩ := hlater.rests hafter hrests
  rw [← hoid]
  exact hstays.liesAt hnumbered.keyed

/-- A table in the default tablespace of a database that is not the first one. It gets an index, the
catalog is read again, and the index is dropped. -/
theorem Run.relation_stays_indexed :
    let tablespace : Operation := .createTablespace "fast" "/mnt/fast" (some 16400)
    let database : Operation := .createDatabase "other" (some 30000) 16400
    let request : Catalog.RelationRequest := { database := "other", name := "t" }
    let index : Operation := .createRelation
      { database := "other", name := "i", kind := "i", indexOf := some 30001 }
    let before := (((saved .bootstrap).perform tablespace).2.perform database).2
    let after := (before.perform (.createRelation request)).2
    let indexed := (after.perform index).2
    let later := ((saved indexed.catalog).perform (.dropRelation 30002)).2
    load "catalog.json" (some indexed.document) = .ok (saved indexed.catalog) ∧
      indexed.catalog.relations.keys = [30001, 30002] ∧
      ∃ place path, place.tablespace = 16400 ∧ later.catalog.LiesAt 30001 place path := by
  intro tablespace database request index before after indexed later
  have hcreated : Run (fun op c => op.Fresh c ∧ op.Positive) (saved .bootstrap)
      ((saved .bootstrap).perform tablespace).2 := by
    apply Run.perform tablespace .start
    constructor <;> (rintro oid ⟨⟩; decide)
  have hrun : Run (fun op c => op.Fresh c ∧ op.Positive) (saved .bootstrap) before := by
    apply Run.perform database hcreated
    constructor <;> (rintro oid ⟨⟩; decide)
  have hpair : ∀ (op : Operation) (store : Store), (store.perform op).1 = .ok () →
      store.perform op = (.ok (), (store.perform op).2) := fun _ _ h => Prod.ext h rfl
  have hmade : before.perform (.createRelation request) = (.ok (), after) := hpair _ _ (by decide)
  have hindex : after.perform index = (.ok (), indexed) := hpair _ _ (by decide)
  have hoid : before.catalog.chosen request.oid = 30001 := by decide
  have htarget : request.target before.catalog = .ok 16400 := by decide
  have hkeyed : indexed.catalog.Keyed := ⟨by decide, by decide, by decide, by decide⟩
  have hdigits : ∀ n ∈ indexed.catalog.toDatum.integers, Json.digits n ≤ Text.digitLimit := by
    decide
  have hkeys : indexed.catalog.relations.keys = [30001, 30002] := by decide
  have hunlinked : ∀ r ∈ indexed.catalog.relations.find? 30002,
      r.indexes = [] ∧ r.toast = none := by
    decide
  -- From here on it does not matter what these stores are.
  clear_value indexed after before
  have hstays := hrun.relation_stays (by rintro _ ⟨⟩) (by rintro _ ⟨⟩) hmade
  dsimp only at hstays
  rw [hoid, htarget] at hstays
  obtain ⟨place, path, hasked, hstays⟩ := hstays
  have hload : load "catalog.json" (some indexed.document) = .ok (saved indexed.catalog) := by
    rw [(perform_ok hindex).2]
    exact load_saved hkeyed hdigits _
  have hgiven : Run (fun op c => (op.Fresh c ∧ op.Positive) ∧ ¬op.Drops 30001 c) after
      (after.perform index).2 := by
    refine .perform index .start ⟨⟨by rintro _ ⟨⟩, by rintro _ ⟨⟩⟩, ?_⟩
    rintro ⟨start, hop : Operation.createRelation _ = _, -⟩
    cases hop
  rw [hindex] at hgiven
  have hdrop : ¬(Operation.dropRelation 30002).Drops 30001 indexed.catalog := by
    rintro ⟨start, ⟨⟩, hreaches⟩
    -- No link leaves the index.
    rcases hreaches.cases_head with heq | ⟨next, ⟨-, r, hfound, hlink⟩, -⟩
    · exact absurd heq (by decide)
    · obtain ⟨hindexes, htoast⟩ := hunlinked r hfound
      rcases hlink with hmem | hsome
      · rw [hindexes] at hmem
        cases hmem
      · rw [htoast] at hsome
        cases hsome
  refine ⟨hload, hkeys, place, path, (Except.ok.inj hasked).symm, hstays later ?_⟩
  apply Run.perform (.dropRelation 30002) (.reload "catalog.json" hgiven hload)
  exact ⟨⟨by rintro _ ⟨⟩, by rintro _ ⟨⟩⟩, hdrop⟩

end Store

end Footprint
