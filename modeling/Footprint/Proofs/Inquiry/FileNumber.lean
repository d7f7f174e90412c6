import Footprint.Inquiry
import Footprint.Proofs.Catalog.Placement
import Mathlib.Data.List.Find

/-!
# From files back to relations

The place of a relation is found by the catalog, and the relation of a place by looking through the
relations. The two follow different rules. The search does not ask where a relation lies but what it
names: it takes zero for the default tablespace of the current database, and in the global
tablespace it looks at nothing but whether a relation is shared.

In an orderly catalog this comes to the same (`Catalog.Orderly.owns_eq`). A relation names a
tablespace only if it is not the default one, so what it names tells where it lies
(`Catalog.eq_named_iff`), and shared relations lie in the global tablespace. That no others lie
there (`Catalog.Secluded`) has to be assumed, since nothing keeps them out.

So the search finds the first relation that lies at a place (`Inquiry.relationOfFile_eq`). The main
theorem, `Inquiry.relationOfFile_inverts`, says this of places as the catalog gives them.
-/

namespace Footprint

open Storage (globalTablespace Locator)

/-- Is a relation one that is looked for by its files? -/
def Relation.isLookedFor (r : Relation) : Bool := r.persistence != .temporary && r.hasStorage

namespace Catalog

variable {c : Catalog} {r : Relation} {database default t f : Int}

/-! ### What a relation names and where it lies -/

/-- The tablespace that is meant by one that is named, where zero stands for the default one. -/
def meant (default t : Int) : Int := if t = Relation.unset then default else t

/-- The tablespace that is named for one that is meant, where the default one is not. -/
def named (default t : Int) : Int := if t = default then Relation.unset else t

theorem eq_named_iff {s : Int} (hs : s = default → s = Relation.unset) :
    s = named default t ↔ meant default s = meant default t := by
  unfold named meant
  split_ifs <;> grind

theorem tablespaceOf_eq_meant (h : c.defaultTablespace r.database = .ok default) :
    c.tablespaceOf r = .ok (meant default r.tablespace) := by
  unfold tablespaceOf meant
  split
  · exact h
  · rfl

theorem mem_keys_of_defaultTablespace (h : c.defaultTablespace database = .ok default) :
    database ∈ c.databases.keys := by
  unfold defaultTablespace at h
  split at h
  · next hfound => exact Dictionary.mem_keys_of_find? hfound
  · cases h

/-- Do the files of a relation that can be seen from a database lie in a tablespace under a file
number? Temporary relations are not looked for. -/
def liesAt (c : Catalog) (database t f : Int) (r : Relation) : Bool :=
  r.isLookedFor && r.fileNumber == f && (r.isVisibleFrom database && c.tablespaceOf r == .ok t)

theorem liesAt_iff : c.liesAt database t f r = true ↔ r.isLookedFor = true ∧
    r.isVisibleFrom database = true ∧
      ∃ place, c.locator r = .ok place ∧ place.tablespace = t ∧ place.file = f := by
  rw [liesAt]
  simp only [Bool.and_eq_true, beq_iff_eq, locator_eq_ok_iff]
  constructor
  · rintro ⟨⟨hlooked, hfile⟩, hvisible, hlies⟩
    exact ⟨hlooked, hvisible, ⟨t, if t = globalTablespace then 0 else r.database, f⟩,
      ⟨hlies, rfl, hfile.symm⟩, rfl, rfl⟩
  · rintro ⟨hlooked, hvisible, place, ⟨hlies, -, hfile⟩, rfl, rfl⟩
    exact ⟨⟨hlooked, hfile.symm⟩, hvisible, hlies⟩

namespace Orderly

/-- In another tablespace than the global one, what a relation names tells where it lies. -/
theorem names_iff (h : c.Orderly) (hr : r ∈ c.relations.values)
    (hdefault : c.defaultTablespace database = .ok default)
    (hmeant : meant default t ≠ globalTablespace) :
    (r.database = database ∧ r.tablespace = named default t) ↔
      r.isVisibleFrom database = true ∧ c.tablespaceOf r = .ok (meant default t) := by
  -- Shared relations can be seen too, but they lie elsewhere.
  have hvisible : r.isVisibleFrom database = true ∧ c.tablespaceOf r = .ok (meant default t) ↔
      r.database = database ∧ c.tablespaceOf r = .ok (meant default t) := by
    refine and_congr_left fun hlies => ?_
    have hno : r.isShared = false := by
      refine Bool.eq_false_iff.mpr fun hshared => hmeant ?_
      exact Except.ok.inj (hlies.symm.trans (h.tablespaceOf_shared hr hshared))
    rw [Relation.isVisibleFrom, hno, Bool.or_false, beq_iff_eq]
  rw [hvisible]
  refine and_congr_right fun hdatabase => ?_
  obtain rfl := hdatabase
  have hno := h.not_shared (mem_keys_of_defaultTablespace hdefault)
  have hsettled := h.settled r hr
  rw [Settled, if_neg (Bool.eq_false_iff.mp hno), hdefault] at hsettled
  rw [tablespaceOf_eq_meant hdefault, Except.ok.injEq]
  exact eq_named_iff fun heq => hsettled (congrArg Except.ok heq.symm)

/-- **What the search asks of a relation is that it lies where it is looked for.** -/
theorem owns_eq (h : c.Orderly) (hsecluded : c.Secluded) (hr : r ∈ c.relations.values)
    (hdefault : c.defaultTablespace database = .ok default)
    (hglobal : meant default t = globalTablespace → default ≠ globalTablespace) :
    owns database (named default t) f r = c.liesAt database (meant default t) f r := by
  suffices hplace : (if named default t = globalTablespace then r.isShared
      else r.database == database && r.tablespace == named default t) =
        (r.isVisibleFrom database && c.tablespaceOf r == .ok (meant default t)) by
    rw [owns, liesAt, Relation.isLookedFor, ← hplace]
  rw [Bool.eq_iff_iff, Bool.and_eq_true, beq_iff_eq]
  -- The search has a rule of its own for the global tablespace.
  by_cases hmeant : meant default t = globalTablespace
  · have hnot := hglobal hmeant
    have ht : named default t = globalTablespace := by
      unfold meant named at *
      grind
    rw [if_pos ht, hmeant]
    constructor
    · intro hshared
      refine ⟨?_, h.tablespaceOf_shared hr hshared⟩
      rw [Relation.isVisibleFrom, hshared, Bool.or_true]
    · rintro ⟨-, hlies⟩
      by_contra hno
      exact hsecluded r hr (Bool.eq_false_iff.mpr hno) hlies
  · have ht : named default t ≠ globalTablespace := by
      have hset : globalTablespace ≠ Relation.unset := by decide
      unfold meant named at *
      grind
    rw [if_neg ht, Bool.and_eq_true, beq_iff_eq, beq_iff_eq]
    exact h.names_iff hr hdefault hmeant

/-- Of relations that lie in one tablespace, those can be seen from a database that have a place in
that database or, in the global tablespace, in none. -/
theorem visible_iff (h : c.Orderly) (hsecluded : c.Secluded) (hr : r ∈ c.relations.values)
    (hlies : c.tablespaceOf r = .ok t) : r.isVisibleFrom database = true ↔
      (if t = globalTablespace then 0 else r.database) =
        if t = globalTablespace then 0 else database := by
  rw [Relation.isVisibleFrom, Bool.or_eq_true, beq_iff_eq]
  by_cases hglobal : t = globalTablespace
  · rw [if_pos hglobal, if_pos hglobal]
    refine iff_of_true (Or.inr ?_) rfl
    by_contra hno
    exact hsecluded r hr (Bool.eq_false_iff.mpr hno) (hglobal ▸ hlies)
  · have hno : r.isShared ≠ true := fun hshared =>
      hglobal (Except.ok.inj (hlies.symm.trans (h.tablespaceOf_shared hr hshared)))
    rw [if_neg hglobal, if_neg hglobal, or_iff_left hno]

/-- A relation that can be seen lies in a tablespace that can be asked for by its number. -/
theorem meant_eq (h : c.Orderly) (hr : r ∈ c.relations.values)
    (hvisible : r.isVisibleFrom database = true)
    (hdefault : c.defaultTablespace database = .ok default) (hlies : c.tablespaceOf r = .ok t) :
    meant default t = t := by
  unfold meant
  split
  · next hzero =>
    rw [hzero] at hlies
    cases hshared : r.isShared with
    | true => exact absurd (hlies.symm.trans (h.tablespaceOf_shared hr hshared)) (by decide)
    | false =>
      -- A relation of the database itself names no tablespace here, or its number would be zero.
      rw [Relation.isVisibleFrom, hshared, Bool.or_false, beq_iff_eq] at hvisible
      rw [tablespaceOf, hvisible, hdefault] at hlies
      split at hlies
      · exact (Except.ok.inj hlies).trans hzero.symm
      · next hset => exact absurd (Except.ok.inj hlies) hset
  · rfl

/-- **What lies where a visible relation lies has the same place.** -/
theorem liesAt_eq (h : c.Orderly) (hsecluded : c.Secluded)
    (hr : r ∈ c.relations.values) (hvisible : r.isVisibleFrom database = true) {place : Locator}
    (hplace : c.locator r = .ok place) {other : Relation} (hother : other ∈ c.relations.values) :
    c.liesAt database place.tablespace place.file other =
      (other.isLookedFor && c.locator other = .ok place) := by
  -- The database of the place is the one that looks, or none.
  obtain ⟨hlies, hdatabase, -⟩ := locator_eq_ok_iff.mp hplace
  rw [(h.visible_iff hsecluded hr hlies).mp hvisible] at hdatabase
  rw [liesAt, Bool.and_assoc, Bool.eq_iff_iff]
  simp only [Bool.and_eq_true, beq_iff_eq, decide_eq_true_eq, locator_eq_ok_iff]
  refine and_congr_right fun _ => ?_
  constructor
  · rintro ⟨hfile, hseen, hsame⟩
    exact ⟨hsame, hdatabase.trans ((h.visible_iff hsecluded hother hsame).mp hseen).symm,
      hfile.symm⟩
  · rintro ⟨hsame, hsamedatabase, hfile⟩
    exact ⟨hfile.symm, (h.visible_iff hsecluded hother hsame).mpr
      (hsamedatabase.symm.trans hdatabase), hsame⟩

/-- The first relation that lies where a visible relation lies is the first one of its place. -/
theorem exists_first (h : c.Orderly) (hsecluded : c.Secluded) (hr : r ∈ c.relations.values)
    (hlooked : r.isLookedFor = true) (hvisible : r.isVisibleFrom database = true) {place : Locator}
    (hplace : c.locator r = .ok place) : ∃ first,
      c.relations.values.find? (c.liesAt database place.tablespace place.file) = some first ∧
      (c.relations.values.find? fun other =>
        other.isLookedFor && c.locator other = .ok place) = some first := by
  have hlies := liesAt_iff.mpr ⟨hlooked, hvisible, place, hplace, rfl, rfl⟩
  obtain ⟨first, hfirst⟩ := Option.isSome_iff_exists.mp (List.find?_isSome.mpr ⟨r, hr, hlies⟩)
  refine ⟨first, hfirst, ?_⟩
  rw [← hfirst]
  exact List.find?_congr fun other hother =>
    (h.liesAt_eq hsecluded hr hvisible hplace hother).symm

end Orderly

end Catalog

namespace Inquiry

open Catalog (meant named)

variable {inquiry : Inquiry} {default t f : Int}

/-- **The search finds the first relation that lies where it is looked for.** -/
theorem relationOfFile_eq (h : inquiry.catalog.Orderly) (hsecluded : inquiry.catalog.Secluded)
    (hdefault : inquiry.catalog.defaultTablespace inquiry.viewer.database = .ok default)
    (hglobal : meant default t = globalTablespace → default ≠ globalTablespace) :
    inquiry.relationOfFile t f = .ok ((inquiry.catalog.relations.values.find?
      (inquiry.catalog.liesAt inquiry.viewer.database (meant default t) f)).map Relation.oid) := by
  have hsame : inquiry.catalog.relations.values.find?
      (Catalog.owns inquiry.viewer.database (named default t) f) =
        inquiry.catalog.relations.values.find?
          (inquiry.catalog.liesAt inquiry.viewer.database (meant default t) f) :=
    List.find?_congr fun r hr => h.owns_eq hsecluded hr hdefault hglobal
  unfold relationOfFile
  split
  · next hzero =>
    -- A relation that is looked for has files, and so its file number is not zero.
    have hnone : inquiry.catalog.relations.values.find?
        (inquiry.catalog.liesAt inquiry.viewer.database (meant default t) f) = none := by
      refine List.find?_eq_none.mpr fun r _ hlies => ?_
      simp only [Catalog.liesAt, Relation.isLookedFor, Relation.hasStorage, Bool.and_eq_true,
        bne_iff_ne, beq_iff_eq] at hlies
      exact hlies.1.1.2.2 (hlies.1.2.trans hzero)
    rw [hnone]
    rfl
  · rw [← hsame, Catalog.relationOfFile, hdefault]
    rfl

/-- **The search by file number inverts the places of relations.** This holds in every catalog that
is reached from a new one with positive and unused numbers, if the global tablespace holds no
relation of a database and is not the default one of the current database. At the place of a
relation that can be seen, the search finds the first relation of that place, which is the relation
itself if places are distinct. Zero stands for the default tablespace. Whatever is found lies where
it was looked for, and nothing is found only where nothing lies. -/
theorem relationOfFile_inverts {store : Store} {default : Int} (viewer : Viewer) (version : String)
    (hrun : Store.Run (fun op c => op.Fresh c ∧ op.Positive) (.saved .bootstrap) store)
    (hown : ∀ r ∈ store.catalog.relations.values, r.isShared = false → ∀ place,
      store.catalog.locator r = .ok place → place.tablespace ≠ globalTablespace)
    (hdefault : store.catalog.defaultTablespace viewer.database = .ok default)
    (hglobal : default ≠ globalTablespace) :
    let inquiry : Inquiry := ⟨store.catalog, viewer, version⟩
    (∀ r ∈ store.catalog.relations.values, r.isLookedFor = true →
      r.isVisibleFrom viewer.database = true → ∃ place first,
        store.catalog.locator r = .ok place ∧
        store.catalog.relations.values.find? (fun other =>
          other.isLookedFor && store.catalog.locator other = .ok place) = some first ∧
        inquiry.relationOfFile place.tablespace r.fileNumber = .ok (some first.oid) ∧
        (place.tablespace = default →
          inquiry.relationOfFile Relation.unset r.fileNumber = .ok (some first.oid)) ∧
        ((∀ other ∈ store.catalog.relations.values, other.isLookedFor = true →
          store.catalog.locator other = .ok place → other = r) → first = r)) ∧
    ∀ t f, ∃ result, inquiry.relationOfFile t f = .ok result ∧
      (∀ oid, result = some oid → ∃ r place, store.catalog.relations.find? oid = some r ∧
        r.isLookedFor = true ∧ r.isVisibleFrom viewer.database = true ∧
        store.catalog.locator r = .ok place ∧ place.tablespace = meant default t ∧
        place.file = f) ∧
      (result = none ↔ ∀ r ∈ store.catalog.relations.values, r.isLookedFor = true →
        r.isVisibleFrom viewer.database = true → ∀ place, store.catalog.locator r = .ok place →
          ¬(place.tablespace = meant default t ∧ place.file = f)) := by
  intro inquiry
  have h := hrun.orderly
  have hsecluded : store.catalog.Secluded := by
    intro r hr hno hlies
    obtain ⟨place, hplace⟩ := h.exists_locator hr
    have hsame := (Catalog.locator_eq_ok_iff.mp hplace).1
    exact hown r hr hno place hplace (Except.ok.inj (hsame.symm.trans hlies))
  have hsearch : ∀ t f, inquiry.relationOfFile t f = .ok ((store.catalog.relations.values.find?
      (store.catalog.liesAt viewer.database (meant default t) f)).map Relation.oid) := fun t f =>
    relationOfFile_eq h hsecluded hdefault fun _ => hglobal
  constructor
  · intro r hr hlooked hvisible
    obtain ⟨place, hplace⟩ := h.exists_locator hr
    obtain ⟨hthere, -, hfile⟩ := Catalog.locator_eq_ok_iff.mp hplace
    obtain ⟨first, hfirst, hsame⟩ := h.exists_first hsecluded hr hlooked hvisible hplace
    have hfound : ∀ t, meant default t = place.tablespace →
        inquiry.relationOfFile t r.fileNumber = .ok (some first.oid) := by
      intro t ht
      rw [hsearch, ht, ← hfile, hfirst]
      rfl
    refine ⟨place, first, hplace, hsame, hfound _ ?_, fun heq => hfound _ ?_, ?_⟩
    · exact h.meant_eq hr hvisible hdefault hthere
    · exact (if_pos rfl).trans heq.symm
    · intro hdistinct
      have hlike := List.find?_some hsame
      rw [Bool.and_eq_true, decide_eq_true_eq] at hlike
      exact hdistinct first (List.mem_of_find?_eq_some hfirst) hlike.1 hlike.2
  · intro t f
    refine ⟨_, hsearch t f, fun oid hfound => ?_, ?_⟩
    · obtain ⟨r, hfirst, rfl⟩ := Option.map_eq_some_iff.mp hfound
      obtain ⟨hlooked, hvisible, place, hplace, htablespace, hfile⟩ :=
        Catalog.liesAt_iff.mp (List.find?_some hfirst)
      have hkey := Dictionary.find?_of_mem_values h.keyed.relations
        (List.mem_of_find?_eq_some hfirst)
      exact ⟨r, place, hkey, hlooked, hvisible, hplace, htablespace, hfile⟩
    · rw [Option.map_eq_none_iff, List.find?_eq_none]
      refine forall₂_congr fun r hr => ?_
      rw [Catalog.liesAt_iff]
      simp only [not_and, not_exists]

/-- Two tables of one place, a shared table of the same file number, and a number of no file. -/
theorem relationOfFile_inverts_twins :
    let table : Catalog.Operation := .createRelation
      { database := "postgres", name := "t", fileNumber := some 7 }
    let twin : Catalog.Operation := .createRelation
      { database := "postgres", name := "u", tablespace := some "pg_default", fileNumber := some 7 }
    let shared : Catalog.Operation := .createRelation
      { database := "postgres", name := "s", shared := true, fileNumber := some 7, oid := some 600 }
    let start := Store.saved .bootstrap
    let store := (((start.perform table).2.perform twin).2.perform shared).2
    let viewer : Viewer := { role := "postgres", database := 5 }
    let inquiry : Inquiry := ⟨store.catalog, viewer, "V"⟩
    inquiry.relationOfFile 0 7 = .ok (some 16384) ∧ inquiry.relationOfFile 1663 8 = .ok none := by
  intro table twin shared start store viewer inquiry
  have hrun : Store.Run (fun op c => op.Fresh c ∧ op.Positive) start store := by
    refine .perform shared (.perform twin (.perform table .start ⟨nofun, nofun⟩) ⟨nofun, nofun⟩) ?_
    constructor
    · intro oid hoid
      obtain rfl : 600 = oid := Option.some.inj hoid
      decide
    · intro oid hoid
      obtain rfl : 600 = oid := Option.some.inj hoid
      decide
  have hplaces : ∀ r ∈ store.catalog.relations.values, r.isShared = false →
      (store.catalog.locator r).map Locator.tablespace = .ok 1663 := by decide
  have hown : ∀ r ∈ store.catalog.relations.values, r.isShared = false → ∀ place,
      store.catalog.locator r = .ok place → place.tablespace ≠ globalTablespace := by
    intro r hr hno place hplace hglobal
    have hdefault := hplaces r hr hno
    rw [hplace] at hdefault
    exact absurd (hglobal.symm.trans (Except.ok.inj hdefault)) (by decide)
  have hdefault : store.catalog.defaultTablespace viewer.database = .ok 1663 := by decide
  obtain ⟨hthere, hall⟩ := relationOfFile_inverts viewer "V" hrun hown hdefault (by decide)
  constructor
  · -- The search for the second table finds the first one, which has the same place.
    let made : Relation := { oid := 16385, name := "u", database := 5, fileNumber := 7 }
    obtain ⟨place, first, hplace, hfirst, -, hzero, -⟩ :=
      hthere made (by decide) (by decide) (by decide)
    have hat : store.catalog.locator made = .ok ⟨1663, 5, 7⟩ := by decide
    obtain rfl := Except.ok.inj (hat.symm.trans hplace)
    have htable : (store.catalog.relations.values.find? fun other =>
        other.isLookedFor && store.catalog.locator other = .ok ⟨1663, 5, 7⟩) =
          some { oid := 16384, name := "t", database := 5, fileNumber := 7 } := by decide
    obtain rfl := Option.some.inj (htable.symm.trans hfirst)
    exact hzero rfl
  · obtain ⟨result, hresult, -, hnone⟩ := hall 1663 8
    rw [hresult, hnone.mpr]
    rintro r hr - - place hplace ⟨-, hfile⟩
    have hseven : ∀ r ∈ store.catalog.relations.values, r.fileNumber = 7 := by decide
    have hsame := (Catalog.locator_eq_ok_iff.mp hplace).2.2
    rw [hfile, hseven r hr] at hsame
    cases hsame

end Inquiry

end Footprint
