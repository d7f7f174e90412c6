import Footprint.Proofs.Catalog.Reload
import Mathlib.Data.List.Find

/-!
# Names of relations

A name is looked up from a database, and the relations that can be seen from there are its own and
the shared ones. The name is unambiguous if at most one of them has it. When a relation is made, it
is looked up whether its name is free, but only as its own database sees it. For a relation of a
database this is enough: whoever sees it sees what that database sees. A shared relation is seen by
all, and what is looked up for it is the shared relations alone. So it can take a name that a
relation of some database has already (`Catalog.Operation.Shadows`).

This is the only way in which names become ambiguous. As long as no operation does it, names stay
unambiguous (`Distinct.addRelation`), and what a name stands for does not depend on the order of the
relations. An operation that does it makes a name ambiguous at once
(`Effect.unambiguous_iff`).
-/

namespace Footprint

namespace Relation

/-- Have two relations one name where both can be seen? -/
def Clashes (r other : Relation) : Prop :=
  r.name = other.name ∧
    ∃ database, r.isVisibleFrom database = true ∧ other.isVisibleFrom database = true

theorem Clashes.symm {r other : Relation} (h : r.Clashes other) : other.Clashes r := by
  obtain ⟨hname, database, hr, hother⟩ := h
  exact ⟨hname.symm, database, hother, hr⟩

/-- A relation is seen from its own database. -/
theorem isVisibleFrom_self (r : Relation) : r.isVisibleFrom r.database = true := by
  rw [isVisibleFrom, beq_self_eq_true, Bool.true_or]

/-- Where a relation that is not shared can be seen is its own database. -/
theorem database_of_visible {r : Relation} {database : Int} (h : r.isVisibleFrom database = true)
    (hown : r.isShared ≠ true) : r.database = database := by
  rw [isVisibleFrom, Bool.or_eq_true, or_iff_left hown, beq_iff_eq] at h
  exact h

end Relation

namespace Catalog

/-! ### Relations that can be told apart -/

/-- At most one relation of each name can be seen from a database. -/
def Unambiguous (c : Catalog) : Prop :=
  ∀ database, ((c.visibleRelations database).map Relation.name).Nodup

/-- No two relations have one name where both can be seen. -/
def Distinct (rs : Dictionary Int Relation) : Prop :=
  ∀ entry ∈ rs.entries, ∀ other ∈ rs.entries, entry.1 ≠ other.1 → ¬entry.2.Clashes other.2

theorem unambiguous_iff {c : Catalog} : c.Unambiguous ↔ Distinct c.relations := by
  have hdatabase : ∀ database, ((c.visibleRelations database).map Relation.name).Nodup ↔
      ∀ entry ∈ c.relations.entries, ∀ other ∈ c.relations.entries, entry.1 ≠ other.1 →
        entry.2.isVisibleFrom database = true → other.2.isVisibleFrom database = true →
          entry.2.name ≠ other.2.name := by
    intro database
    rw [List.nodup_iff_pairwise_ne, List.pairwise_map, visibleRelations, List.pairwise_filter]
    exact Dictionary.pairwise_values_iff fun r other h hother hr heq => h hr hother heq.symm
  -- From a list for each database to pairs of relations, with the database inside.
  unfold Unambiguous Distinct Relation.Clashes
  simp only [hdatabase]
  constructor
  · rintro h entry hentry other hother hne ⟨hname, database, hseen, hseen'⟩
    exact h database entry hentry other hother hne hseen hseen' hname
  · intro h database entry hentry other hother hne hseen hseen' hname
    exact h entry hentry other hother hne ⟨hname, database, hseen, hseen'⟩

/-- Links have nothing to do with names. -/
theorem Distinct.trimmed {left rs : Dictionary Int Relation} (h : Distinct rs)
    (htrimmed : Trimmed left rs) : Distinct left := by
  intro entry hentry other hother hne hclash
  obtain ⟨old, hold, hbare⟩ := htrimmed.exists_entry hentry
  obtain ⟨old', hold', hbare'⟩ := htrimmed.exists_entry hother
  have hsame : entry.2.bare.Clashes other.2.bare := hclash
  rw [hbare, hbare'] at hsame
  exact h _ hold _ hold' hne hsame

/-! ### What makes names ambiguous -/

/-- Does the operation make a shared relation of a name that another relation has? -/
def Operation.Shadows (op : Operation) (c : Catalog) : Prop :=
  ∃ made, op.Makes c made ∧ made.isShared = true ∧
    ∃ entry ∈ c.relations.entries, entry.1 ≠ made.oid ∧ entry.2.name = made.name

variable {c left : Catalog} {op : Operation} {result : Except Error Unit} {made : Relation}

theorem Operation.Makes.findRelation_eq_none (h : op.Makes c made) :
    c.findRelation made.database made.name = none := by
  obtain ⟨request, -, hprepare⟩ := h
  obtain ⟨-, -, -, hname, -⟩ := RelationRequest.prepare_ok hprepare
  exact hname

/-- A relation of a database that is made has a name of its own. -/
theorem Operation.Makes.not_clashes (h : op.Makes c made) (hown : made.isShared ≠ true)
    {r : Relation} (hr : r ∈ c.relations.values) : ¬made.Clashes r := by
  rintro ⟨hname, database, hseen, hseen'⟩
  -- The other one can be seen from where the name was looked up.
  have hnone := List.find?_eq_none.mp h.findRelation_eq_none r hr
  rw [Relation.database_of_visible hseen hown] at hnone
  simp [hname, hseen'] at hnone

/-- **Relations can still be told apart when another is made that shadows none.** -/
theorem Distinct.addRelation (h : Distinct c.relations) (hmakes : op.Makes c made)
    (hshadows : ¬op.Shadows c) : Distinct (c.addRelation made).relations := by
  have hnew : ∀ entry ∈ c.relations.entries, entry.1 ≠ made.oid → ¬made.Clashes entry.2 := by
    intro entry hentry hne hclash
    by_cases hshared : made.isShared = true
    · exact hshadows ⟨made, hmakes, hshared, entry, hentry, hne, hclash.1.symm⟩
    · exact hmakes.not_clashes hshared (Dictionary.mem_values_of_mem_entries hentry) hclash
  intro entry hentry other hother hne
  rcases Dictionary.mem_entries_insert hentry with rfl | hold
  · rcases Dictionary.mem_entries_insert hother with rfl | hold'
    · exact absurd rfl hne
    · exact hnew other hold' hne.symm
  · rcases Dictionary.mem_entries_insert hother with rfl | hold'
    · exact fun hclash => hnew entry hold hne hclash.symm
    · exact h entry hold other hold' hne

/-- A shared relation clashes with every relation of its name. -/
theorem Effect.not_distinct (heffect : Effect c op result left) (hshadows : op.Shadows c) :
    ¬Distinct left.relations := by
  obtain ⟨made, hmakes, hshared, entry, hentry, hne, hname⟩ := hshadows
  obtain ⟨r, hr, hbare⟩ := heffect.exists_made hmakes
  obtain ⟨htrimmed, hkeys⟩ := heffect.trimmed_of_makes hmakes
  have hother : (c.addRelation made).relations.find? entry.1 = some entry.2 := by
    rw [addRelation, Dictionary.find?_insert, if_neg hne]
    exact Dictionary.find?_eq_some_iff.mpr hentry
  obtain ⟨r', hr', hbare'⟩ := htrimmed.exists_kept hother
    (hkeys ▸ Dictionary.mem_keys_of_find? hother)
  intro hdistinct
  -- The database of the other relation sees both.
  refine hdistinct _ hr _ hr' hne.symm ?_
  suffices hclash : r.bare.Clashes r'.bare from hclash
  rw [hbare, hbare']
  refine ⟨hname.symm, entry.2.database, ?_, entry.2.isVisibleFrom_self⟩
  have hseen : made.isVisibleFrom entry.2.database = true := by
    rw [Relation.isVisibleFrom, hshared, Bool.or_true]
  exact hseen

/-- **An operation keeps names unambiguous if and only if it shadows no name.** -/
theorem Effect.unambiguous_iff (h : c.Unambiguous) (heffect : Effect c op result left) :
    left.Unambiguous ↔ ¬op.Shadows c := by
  rw [Catalog.unambiguous_iff] at h ⊢
  refine ⟨fun hdistinct hshadows => heffect.not_distinct hshadows hdistinct, fun hshadows => ?_⟩
  by_cases hmakes : ∃ made, op.Makes c made
  · obtain ⟨made, hmakes⟩ := hmakes
    exact (h.addRelation hmakes hshadows).trimmed (heffect.trimmed_of_makes hmakes).1
  · exact h.trimmed (heffect.trimmed (not_exists.mp hmakes))

/-! ### What a name stands for -/

section Lookup

variable {r other : Relation} {database : Int} {name : String}

theorem findRelation_some (h : c.findRelation database name = some r) :
    r ∈ c.visibleRelations database ∧ r.name = name := by
  have hlike := List.find?_some h
  rw [Bool.and_eq_true, decide_eq_true_eq] at hlike
  exact ⟨List.mem_filter.mpr ⟨List.mem_of_find?_eq_some h, hlike.2⟩, hlike.1⟩

theorem Unambiguous.eq_of_name (h : c.Unambiguous) (hr : r ∈ c.visibleRelations database)
    (hother : other ∈ c.visibleRelations database) (hname : r.name = other.name) : r = other :=
  List.inj_on_of_nodup_map (h database) hr hother hname

/-- What is found by a name is the relation that has it. -/
theorem Unambiguous.findRelation_eq_some_iff (h : c.Unambiguous) :
    c.findRelation database name = some r ↔
      r ∈ c.visibleRelations database ∧ r.name = name := by
  refine ⟨findRelation_some, fun ⟨hr, hname⟩ => ?_⟩
  obtain ⟨hmem, hseen⟩ := List.mem_filter.mp hr
  have hsome : (c.findRelation database name).isSome = true :=
    List.find?_isSome.mpr ⟨r, hmem, (Bool.and_eq_true _ _).mpr ⟨decide_eq_true hname, hseen⟩⟩
  obtain ⟨first, hfirst⟩ := Option.isSome_iff_exists.mp hsome
  obtain ⟨hfirst', hname'⟩ := findRelation_some hfirst
  rw [hfirst, h.eq_of_name hfirst' hr (hname'.trans hname.symm)]

/-- The order of the relations makes no difference. -/
theorem Unambiguous.findRelation_perm (h : c.Unambiguous) {permuted : Catalog}
    (hperm : permuted.relations.values.Perm c.relations.values) :
    permuted.findRelation database name = c.findRelation database name := by
  refine (List.find?_eq_find?_of_perm hperm.symm ?_).symm
  rintro r ⟨hr, hlike⟩ other ⟨hother, hlike'⟩
  rw [Bool.and_eq_true, decide_eq_true_eq] at hlike hlike'
  exact h.eq_of_name (List.mem_filter.mpr ⟨hr, hlike.2⟩)
    (List.mem_filter.mpr ⟨hother, hlike'.2⟩) (hlike.1.trans hlike'.1.symm)

end Lookup

theorem persists_unambiguous : Store.Persists fun c => c.Keyed ∧ c.Unambiguous where
  bootstrap := ⟨bootstrap_keyed, fun _ => List.nodup_nil⟩
  parse _ _ _ h hparse := eq_of_parse_render h.1 hparse ▸ h

end Catalog

namespace Store

open Catalog (Operation)

/-- **Names are unambiguous as long as no shared relation takes the name of another one.** What a
name stands for then is the relation of that name, whatever order the relations are in. An operation
makes a name ambiguous if and only if it does just that. -/
theorem Run.names_unambiguous {store : Store}
    (hrun : Run (fun op c => ¬op.Shadows c) (saved .bootstrap) store) :
    store.catalog.Unambiguous ∧
      (∀ database name r, store.catalog.findRelation database name = some r ↔
        r ∈ store.catalog.visibleRelations database ∧ r.name = name) ∧
      (∀ permuted : Catalog, permuted.relations.values.Perm store.catalog.relations.values →
        ∀ database name,
          permuted.findRelation database name = store.catalog.findRelation database name) ∧
      ∀ op : Operation,
        (store.perform op).2.catalog.Unambiguous ↔ ¬op.Shadows store.catalog := by
  have hkept : ∀ (op : Operation) (c : Catalog), c.Keyed ∧ c.Unambiguous → ¬op.Shadows c →
      (op.change.on c).2.Keyed ∧ (op.change.on c).2.Unambiguous := fun op c h hshadows =>
    ⟨h.1.effect (op.effect c), (op.effect c).unambiguous_iff h.2 |>.mpr hshadows⟩
  have hstart : Holds (fun c => c.Keyed ∧ c.Unambiguous) (saved .bootstrap) :=
    Catalog.persists_unambiguous.holds_saved Catalog.persists_unambiguous.bootstrap
  have h := (hrun.invariant Catalog.persists_unambiguous hkept hstart).catalog.2
  refine ⟨h, fun _ _ _ => h.findRelation_eq_some_iff, fun _ hperm _ _ => h.findRelation_perm hperm,
    fun op => ?_⟩
  rw [perform_catalog]
  exact (op.effect store.catalog).unambiguous_iff h

/-- A table of a database and a shared one of another name, which every database sees. -/
theorem Run.names_unambiguous_shared :
    let own : Operation := .createRelation { database := "postgres", name := "t" }
    let shared : Operation := .createRelation
      { database := "postgres", name := "s", shared := true }
    let made := ((saved .bootstrap).perform own).2
    let store := (made.perform shared).2
    store.catalog.Unambiguous ∧
      (store.catalog.findRelation 7 "s").map Relation.oid = some 16385 := by
  intro own shared made store
  have hown : ¬own.Shadows Catalog.bootstrap := by
    rintro ⟨-, -, -, entry, hentry, -⟩
    cases hentry
  have hshared : ¬shared.Shadows made.catalog := by
    rintro ⟨new, ⟨request, hop, hprepare⟩, -, entry, hentry, -, hname⟩
    obtain rfl := Operation.createRelation.inj hop
    have hnew : Catalog.RelationRequest.prepare
        { database := "postgres", name := "s", shared := true } made.catalog =
          .ok { oid := 16385, name := "s", database := 0, fileNumber := 16385,
                tablespace := 1664 } := by decide
    obtain rfl := Except.ok.inj (hnew.symm.trans hprepare)
    have hnames : ∀ entry ∈ made.catalog.relations.entries, entry.2.name = "t" := by decide
    rw [hnames entry hentry] at hname
    exact absurd hname (by decide)
  have hrun : Run (fun op c => ¬op.Shadows c) (saved .bootstrap) store :=
    .perform shared (.perform own .start hown) hshared
  exact ⟨(Run.names_unambiguous hrun).1, by decide⟩

/-- A shared table takes the name of a table of a database, and both can be seen from there. In the
other order the second table is refused. -/
theorem perform_shared_shadows :
    let own : Operation := .createRelation { database := "postgres", name := "t" }
    let shared : Operation := .createRelation
      { database := "postgres", name := "t", shared := true }
    let made := ((saved .bootstrap).perform own).2
    let store := (made.perform shared).2
    Run (fun _ _ => True) (saved .bootstrap) store ∧ (made.perform shared).1 = .ok () ∧
      ¬store.catalog.Unambiguous ∧
      (store.catalog.visibleRelations 5).map Relation.oid = [16384, 16385] ∧
      (store.catalog.findRelation 5 "t").map Relation.oid = some 16384 ∧
      (((saved .bootstrap).perform shared).2.perform own).1 =
        .error (.alreadyExists "relation" "t") := by
  intro own shared made store
  have hrun : Run (fun _ _ => True) (saved .bootstrap) store :=
    .perform shared (.perform own .start trivial) trivial
  have htwice : ((store.catalog.visibleRelations 5).map Relation.name) = ["t", "t"] := by decide
  refine ⟨hrun, by decide, fun h => ?_, by decide, by decide, by decide⟩
  have hnodup := h 5
  rw [htwice] at hnodup
  exact absurd hnodup (by decide)

end Store

end Footprint
