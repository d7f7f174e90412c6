import Footprint.Proofs.Catalog.Consistency

/-!
# Where relations lie

A relation lies in the tablespace that it names, or else in the default one of its database
(`Catalog.tablespaceOf`). Two conventions stand behind this. The number zero is that of no
tablespace and no database, for it means that none is named. And a relation names a tablespace only
if it has to: if it was asked for in the default tablespace of its database, it names none.

`Catalog.Orderly` is what is true of a consistent catalog in which this is kept, and it is kept as
long as the numbers that are given are positive (`Orderly.effect`). An operation leaves the
relations that there are where they lie: it creates databases, but changes no default tablespace
(`Effect.defaultTablespace_eq`). So it is enough to look at a relation that is made, which lies
where it was asked for (`RelationRequest.tablespaceOf_made`).
-/

namespace Footprint

namespace Catalog

open Storage (globalTablespace Locator)

/-- The tablespace in which a relation lies. -/
def tablespaceOf (c : Catalog) (r : Relation) : Except Error Int :=
  if r.tablespace = Relation.unset then c.defaultTablespace r.database else .ok r.tablespace

theorem locator_eq (c : Catalog) (r : Relation) : c.locator r = (c.tablespaceOf r).map fun t =>
    ⟨t, if t = globalTablespace then 0 else r.database, r.fileNumber⟩ := by
  unfold locator tablespaceOf
  by_cases hunset : r.tablespace = Relation.unset
  · rw [if_neg (not_not.mpr hunset), if_pos hunset]
    cases c.defaultTablespace r.database <;> rfl
  · rw [if_pos hunset, if_neg hunset]
    rfl

theorem locator_eq_ok_iff {c : Catalog} {r : Relation} {place : Locator} :
    c.locator r = .ok place ↔ c.tablespaceOf r = .ok place.tablespace ∧
      place.database = (if place.tablespace = globalTablespace then 0 else r.database) ∧
      place.file = r.fileNumber := by
  obtain ⟨tablespace, database, file⟩ := place
  rw [locator_eq]
  cases c.tablespaceOf r with
  | error e => simp [Except.map]
  | ok t =>
    simp only [Except.map, Except.ok.injEq, Locator.mk.injEq]
    constructor
    · rintro ⟨rfl, rfl, rfl⟩
      exact ⟨rfl, rfl, rfl⟩
    · rintro ⟨rfl, hdatabase, hfile⟩
      exact ⟨rfl, hdatabase.symm, hfile.symm⟩

/-! ### Requests -/

/-- The tablespace in which a relation of a database is asked for: a named one, or the default one
of the database. -/
def RelationRequest.target (request : RelationRequest) (c : Catalog) : Except Error Int :=
  match request.tablespace with
  | some name => c.tablespaceOid name
  | none => do c.defaultTablespace (← c.databaseOid request.database)

section Request

variable {c : Catalog} {request : RelationRequest} {made : Relation}

theorem RelationRequest.prepare_database (h : request.prepare c = .ok made) :
    request.databaseOid c = .ok made.database ∧
      request.tablespaceOid c made.database = .ok made.tablespace := by
  unfold prepare at h
  split at h
  · cases h
  · next database hdatabase =>
    split at h
    · cases h
    · cases htablespace : request.tablespaceOid c database with
      | error e =>
        rw [htablespace] at h
        cases h
      | ok tablespace =>
        rw [htablespace] at h
        obtain rfl := Except.ok.inj h
        exact ⟨hdatabase, htablespace⟩

theorem RelationRequest.prepare_shared (h : request.prepare c = .ok made)
    (hshared : request.shared = true) :
    made.isShared = true ∧ made.tablespace = globalTablespace := by
  obtain ⟨hdatabase, htablespace⟩ := prepare_database h
  rw [databaseOid, if_pos hshared] at hdatabase
  rw [tablespaceOid, if_pos hshared] at htablespace
  exact ⟨beq_iff_eq.mpr (Except.ok.inj hdatabase).symm, (Except.ok.inj htablespace).symm⟩

/-- A relation of a database names the tablespace that is asked for, unless that is the default
one. -/
theorem RelationRequest.prepare_own (h : request.prepare c = .ok made)
    (hshared : request.shared = false) :
    c.databaseOid request.database = .ok made.database ∧
      (request.tablespace = none ∧ made.tablespace = Relation.unset ∨
        ∃ name oid default, request.tablespace = some name ∧ c.tablespaceOid name = .ok oid ∧
          c.defaultTablespace made.database = .ok default ∧
          made.tablespace = if oid = default then Relation.unset else oid) := by
  obtain ⟨hdatabase, htablespace⟩ := prepare_database h
  rw [databaseOid, hshared] at hdatabase
  rw [tablespaceOid, hshared] at htablespace
  refine ⟨hdatabase, ?_⟩
  cases hname : request.tablespace with
  | none =>
    rw [hname] at htablespace
    exact Or.inl ⟨rfl, (Except.ok.inj htablespace).symm⟩
  | some name =>
    rw [hname] at htablespace
    dsimp only at htablespace
    cases hoid : c.tablespaceOid name with
    | error e =>
      rw [hoid] at htablespace
      cases htablespace
    | ok oid =>
      cases hdefault : c.defaultTablespace made.database with
      | error e =>
        rw [hoid, hdefault] at htablespace
        cases htablespace
      | ok default =>
        rw [hoid, hdefault] at htablespace
        exact Or.inr ⟨name, oid, default, rfl, hoid, rfl, (Except.ok.inj htablespace).symm⟩

theorem tablespaceOid_ok {name : String} {oid : Int} (h : c.tablespaceOid name = .ok oid) :
    ∃ t ∈ c.tablespaces.values, t.oid = oid := by
  unfold tablespaceOid at h
  split at h
  · next t ht => exact ⟨t, List.mem_of_find?_eq_some ht, Except.ok.inj h⟩
  · cases h

/-- **A relation of a database lies where it is asked for.** No tablespace has the number that means
that none is named. -/
theorem RelationRequest.tablespaceOf_made (h : request.prepare c = .ok made)
    (hshared : request.shared = false) (hset : ∀ t ∈ c.tablespaces.values, t.oid ≠ Relation.unset) :
    c.tablespaceOf made = request.target c := by
  obtain ⟨hdatabase, ⟨hname, hunset⟩ | ⟨name, oid, default, hname, hoid, hdefault, heq⟩⟩ :=
    prepare_own h hshared
  · rw [tablespaceOf, if_pos hunset, target, hname, hdatabase]
    rfl
  · rw [target, hname]
    dsimp only
    rw [hoid, tablespaceOf, heq]
    by_cases hsame : oid = default
    · -- It was asked for in the default tablespace by name, and names none.
      rw [if_pos hsame, if_pos rfl, hdefault, hsame]
    · obtain ⟨t, ht, rfl⟩ := tablespaceOid_ok hoid
      rw [if_neg hsame, if_neg (hset t ht)]

/-- A relation does not name the default tablespace of its database. -/
theorem RelationRequest.default_not_named (h : request.prepare c = .ok made)
    (hshared : request.shared = false)
    (hdefault : c.defaultTablespace made.database = .ok made.tablespace) :
    made.tablespace = Relation.unset := by
  obtain ⟨-, ⟨-, hunset⟩ | ⟨name, oid, default, -, -, hdefault', heq⟩⟩ := prepare_own h hshared
  · exact hunset
  · obtain rfl := Except.ok.inj (hdefault.symm.trans hdefault')
    by_cases hsame : oid = made.tablespace
    · rw [heq, if_pos hsame]
    · rw [if_neg hsame] at heq
      exact absurd heq.symm hsame

end Request

/-! ### What operations leave alone -/

/-- Is the number that an operation gives a positive one? -/
def Operation.Positive (op : Operation) : Prop := ∀ oid, op.oid = some oid → 0 < oid

namespace Effect

variable {c left : Catalog} {op : Operation} {result : Except Error Unit} {oid : Int}

theorem mem_databases_keys (h : Effect c op result left) (hmem : oid ∈ left.databases.keys) :
    oid ∈ c.databases.keys ∨ oid = c.chosen op.oid := by
  cases h with
  | database => exact (Dictionary.mem_keys_insert.mp hmem).symm
  | databasePrivilege =>
    rw [Dictionary.keys_modify] at hmem
    exact Or.inl hmem
  | relation =>
    rw [RelationRequest.addLinked_databases] at hmem
    exact Or.inl hmem
  | toastOfNothing =>
    rw [RelationRequest.addIndexed_databases] at hmem
    exact Or.inl hmem
  | _ => exact Or.inl hmem

theorem mem_tablespaces_keys (h : Effect c op result left) (hmem : oid ∈ left.tablespaces.keys) :
    oid ∈ c.tablespaces.keys ∨ oid = c.chosen op.oid := by
  cases h with
  | tablespace => exact (Dictionary.mem_keys_insert.mp hmem).symm
  | tablespacePrivilege =>
    rw [Dictionary.keys_modify] at hmem
    exact Or.inl hmem
  | relation =>
    rw [RelationRequest.addLinked_tablespaces] at hmem
    exact Or.inl hmem
  | toastOfNothing =>
    rw [RelationRequest.addIndexed_tablespaces] at hmem
    exact Or.inl hmem
  | _ => exact Or.inl hmem

theorem mem_relations_keys (h : Effect c op result left) (hmem : oid ∈ left.relations.keys) :
    oid ∈ c.relations.keys ∨ oid = c.chosen op.oid := by
  by_cases hmakes : ∃ made, op.Makes c made
  · obtain ⟨made, request, rfl, hprepare⟩ := hmakes
    obtain ⟨-, hkeys⟩ := h.trimmed_of_makes ⟨request, rfl, hprepare⟩
    have hoid : made.oid = c.chosen request.oid := (RelationRequest.prepare_ok hprepare).1
    rw [hkeys] at hmem
    rcases Dictionary.mem_keys_insert.mp hmem with rfl | hold
    · exact Or.inr hoid
    · exact Or.inl hold
  · exact Or.inl ((h.trimmed (not_exists.mp hmakes)).keys_sublist.subset hmem)

/-- **A database keeps its default tablespace.** -/
theorem defaultTablespace_eq (h : Effect c op result left) (hfree : c.chosen op.oid ∉ op.taken c)
    (hmem : oid ∈ c.databases.keys) : left.defaultTablespace oid = c.defaultTablespace oid := by
  obtain ⟨d, hd⟩ := Dictionary.exists_of_mem_keys hmem
  -- Its privileges may have changed, so the database itself need not be the same.
  suffices hsame : (left.databases.find? oid).map Database.defaultTablespace =
      some d.defaultTablespace by
    obtain ⟨d', hd', heq⟩ := Option.map_eq_some_iff.mp hsame
    rw [defaultTablespace, defaultTablespace, hd, hd']
    exact congrArg Except.ok heq
  cases h with
  | database => exact congrArg _ (Dictionary.find?_insert_of_not_mem hfree hd)
  | databasePrivilege changed =>
    rw [Dictionary.find?_modify, hd]
    dsimp only [Option.map_some]
    split <;> rfl
  | relation =>
    rw [RelationRequest.addLinked_databases, hd]
    rfl
  | toastOfNothing =>
    rw [RelationRequest.addIndexed_databases, hd]
    rfl
  | _ => exact congrArg (Option.map Database.defaultTablespace) hd

end Effect

/-! ### Orderly catalogs -/

/-- A shared relation names the global tablespace, and a relation of a database does not name the
default tablespace of that. -/
def Settled (c : Catalog) (r : Relation) : Prop :=
  if r.isShared then r.tablespace = globalTablespace
  else c.defaultTablespace r.database = .ok r.tablespace → r.tablespace = Relation.unset

/-- What is true of where relations lie in a catalog in which no number was given twice, and only
positive ones. -/
structure Orderly (c : Catalog) : Prop extends c.Consistent where
  /-- No database and no tablespace has the number that means that none is named. -/
  database_pos : ∀ oid ∈ c.databases.keys, 0 < oid
  tablespace_pos : ∀ oid ∈ c.tablespaces.keys, 0 < oid
  /-- Relations name a tablespace only if they have to. -/
  settled : ∀ r ∈ c.relations.values, c.Settled r

theorem bootstrap_orderly : bootstrap.Orderly where
  toConsistent := bootstrap_consistent
  database_pos := by decide
  tablespace_pos := by decide
  settled := List.forall_mem_nil _

/-- Unless it is shared, a relation does not lie in the global tablespace. -/
def Outside (c : Catalog) (r : Relation) : Prop :=
  r.isShared = false → c.tablespaceOf r ≠ .ok globalTablespace

/-- No relation of a database lies in the global tablespace. -/
def Secluded (c : Catalog) : Prop := ∀ r ∈ c.relations.values, c.Outside r

namespace Orderly

variable {c left : Catalog} {op : Operation} {result : Except Error Unit} {r : Relation}

theorem tablespace_ne (h : c.Orderly) : ∀ t ∈ c.tablespaces.values, t.oid ≠ Relation.unset := by
  intro t ht
  have hfound := Dictionary.find?_of_mem_values h.keyed.tablespaces ht
  exact (h.tablespace_pos t.oid (Dictionary.mem_keys_of_find? hfound)).ne'

/-- A relation of a database that is there is not shared. -/
theorem not_shared (h : c.Orderly) (hmem : r.database ∈ c.databases.keys) : r.isShared = false :=
  beq_eq_false_iff_ne.mpr (h.database_pos _ hmem).ne'

theorem tablespaceOf_shared (h : c.Orderly) (hr : r ∈ c.relations.values)
    (hshared : r.isShared = true) : c.tablespaceOf r = .ok globalTablespace := by
  have hsettled := h.settled r hr
  rw [Settled, if_pos hshared] at hsettled
  rw [tablespaceOf, hsettled, if_neg (by decide)]

/-! What an operation does. -/

theorem chosen_pos (h : c.Orderly) (hpositive : op.Positive) : 0 < c.chosen op.oid := by
  cases hoid : op.oid with
  | some oid => exact hpositive oid hoid
  | none => exact (by decide : 0 < firstUserOid).trans_le h.first_le

/-- A relation that is made for a database belongs to one that is there. -/
theorem database_of_prepare (h : c.Orderly) {request : RelationRequest} {made : Relation}
    (hprepare : request.prepare c = .ok made) (hshared : request.shared = false) :
    made.database ∈ c.databases.keys ∧ made.isShared = false := by
  obtain ⟨d, hd, heq⟩ := databaseOid_ok (RelationRequest.prepare_own hprepare hshared).1
  have hfound := Dictionary.find?_of_mem_values h.keyed.databases hd
  have hmem := Dictionary.mem_keys_of_find? hfound
  rw [heq] at hmem
  exact ⟨hmem, h.not_shared hmem⟩

/-- **Relations stay where they lie.** -/
theorem tablespaceOf_eq (h : c.Orderly) (hfresh : op.Fresh c) (heffect : Effect c op result left)
    (hplaced : r.tablespace ≠ Relation.unset ∨ r.database ∈ c.databases.keys) :
    left.tablespaceOf r = c.tablespaceOf r := by
  unfold tablespaceOf
  by_cases hunset : r.tablespace = Relation.unset
  · have hknown := hplaced.resolve_left (not_not.mpr hunset)
    rw [if_pos hunset, if_pos hunset]
    exact heffect.defaultTablespace_eq (h.chosen_not_mem hfresh) hknown
  · rw [if_neg hunset, if_neg hunset]

/-- A relation that is made for a database lies where it is asked for, also in the catalog that is
left. -/
theorem tablespaceOf_made (h : c.Orderly) (hfresh : op.Fresh c) (heffect : Effect c op result left)
    {request : RelationRequest} {made : Relation} (hshared : request.shared = false)
    (hprepare : request.prepare c = .ok made) :
    left.tablespaceOf made = request.target c := by
  have hknown := (h.database_of_prepare hprepare hshared).1
  calc left.tablespaceOf made = c.tablespaceOf made :=
        h.tablespaceOf_eq hfresh heffect (Or.inr hknown)
    _ = request.target c := RelationRequest.tablespaceOf_made hprepare hshared h.tablespace_ne

theorem settled_old (h : c.Orderly) (hfresh : op.Fresh c) (heffect : Effect c op result left)
    (hr : r ∈ c.relations.values) : left.Settled r := by
  have hsettled := h.settled r hr
  unfold Settled at hsettled ⊢
  -- What is said of a relation of a database depends on the catalog by its default tablespace.
  split
  · next hshared => rwa [if_pos hshared] at hsettled
  · next hshared =>
    have hknown := h.database_known r hr (Bool.eq_false_iff.mpr hshared)
    rw [if_neg hshared] at hsettled
    rwa [heffect.defaultTablespace_eq (h.chosen_not_mem hfresh) hknown]

theorem settled_made (h : c.Orderly) (hfresh : op.Fresh c) (heffect : Effect c op result left)
    (hmakes : op.Makes c r) : left.Settled r := by
  obtain ⟨request, -, hprepare⟩ := hmakes
  unfold Settled
  cases hshared : request.shared with
  | true =>
    obtain ⟨hyes, hglobal⟩ := RelationRequest.prepare_shared hprepare hshared
    rwa [if_pos hyes]
  | false =>
    obtain ⟨hknown, hno⟩ := h.database_of_prepare hprepare hshared
    rw [if_neg (Bool.eq_false_iff.mp hno),
      heffect.defaultTablespace_eq (h.chosen_not_mem hfresh) hknown]
    exact RelationRequest.default_not_named hprepare hshared

/-- **Every operation that gives no number twice and only positive ones keeps a catalog
orderly.** -/
theorem effect (h : c.Orderly) (hfresh : op.Fresh c) (hpositive : op.Positive)
    (heffect : Effect c op result left) : left.Orderly := by
  have hchosen := h.chosen_pos hpositive
  exact {
    toConsistent := h.toConsistent.effect hfresh heffect
    database_pos := fun oid hoid => (heffect.mem_databases_keys hoid).elim (h.database_pos oid)
      fun heq => heq ▸ hchosen
    tablespace_pos := fun oid hoid =>
      (heffect.mem_tablespaces_keys hoid).elim (h.tablespace_pos oid) fun heq => heq ▸ hchosen
    settled := heffect.forall_values (fun _ => Iff.rfl)
      (fun r hr => h.settled_old hfresh heffect hr)
      fun made hmakes => h.settled_made hfresh heffect hmakes }

end Orderly

/-- An orderly catalog is read as it was written, so it keeps whatever else is true of it. -/
theorem persists_orderly_and {P : Catalog → Prop} (hbootstrap : P bootstrap) :
    Store.Persists fun c => c.Orderly ∧ P c where
  bootstrap := ⟨bootstrap_orderly, hbootstrap⟩
  parse _ _ _ h hparse := eq_of_parse_render h.1.keyed hparse ▸ h

end Catalog

namespace Store

open Catalog (Operation)

/-- What is reached from a new data directory without giving a number twice or one that is not
positive is orderly. -/
theorem Run.orderly {store : Store}
    (hrun : Run (fun op c => op.Fresh c ∧ op.Positive) (saved .bootstrap) store) :
    store.catalog.Orderly := by
  have hkept : ∀ (op : Operation) (c : Catalog), c.Orderly → op.Fresh c ∧ op.Positive →
      (op.change.on c).2.Orderly := fun op c h hallowed =>
    h.effect hallowed.1 hallowed.2 (op.effect c)
  exact hrun.of_saved (fun _ h => h.keyed) hkept Catalog.bootstrap_orderly

/-- What operations keep in an orderly catalog holds after a run of operations that keep it. -/
theorem Run.orderly_and {store : Store} {P : Catalog → Prop} {allowed : Operation → Catalog → Prop}
    (hbootstrap : P .bootstrap)
    (hstep : ∀ (op : Operation) (c : Catalog), c.Orderly → P c → op.Fresh c → op.Positive →
      allowed op c → P (op.change.on c).2)
    (hrun : Run (fun op c => (op.Fresh c ∧ op.Positive) ∧ allowed op c) (saved .bootstrap) store) :
    store.catalog.Orderly ∧ P store.catalog := by
  have hkept : ∀ (op : Operation) (c : Catalog), c.Orderly ∧ P c →
      (op.Fresh c ∧ op.Positive) ∧ allowed op c →
        (op.change.on c).2.Orderly ∧ P (op.change.on c).2 := by
    rintro op c ⟨h, hc⟩ ⟨⟨hfresh, hpositive⟩, hallowed⟩
    refine ⟨h.effect hfresh hpositive (op.effect c), ?_⟩
    exact hstep op c h hc hfresh hpositive hallowed
  exact hrun.of_saved (P := fun c => c.Orderly ∧ P c) (fun _ h => h.1.keyed) hkept
    ⟨Catalog.bootstrap_orderly, hbootstrap⟩

end Store

end Footprint
