import Footprint.Catalog.Placement
import Footprint.Proofs.Catalog.Reload

/-!
# Consistent catalogs

`Catalog.Consistent` is what is true of the catalog of a data directory as long as no number is
given twice: objects stand under their numbers, the next number is beyond all of them, names tell
objects apart, links lead to relations, and relations have a place.

Every operation keeps this, also one that fails after it has added a relation. Three kinds of change
are enough to see it. An object that is added has a new number and a new name. An object that is
changed keeps its number and name. Where only links change or relations go, the relations that are
left are as before (`Trimmed`) and hold together (`Held`).

The number of a new object is the next one, which is beyond all that are there, or it is given. In
the second case it has to be a free one, and that is all that is asked of an operation
(`Operation.Fresh`): it need not even be positive.
-/

namespace Footprint

namespace Catalog

/-- What is true of a catalog in which no number was given twice. -/
structure Consistent (c : Catalog) : Prop where
  /-- Every object stands under its own number or name. -/
  keyed : c.Keyed
  /-- The next number is one for objects of users. -/
  first_le : firstUserOid ≤ c.nextOid
  /-- The next number is beyond all that are there. -/
  tablespace_lt : ∀ oid ∈ c.tablespaces.keys, oid < c.nextOid
  database_lt : ∀ oid ∈ c.databases.keys, oid < c.nextOid
  relation_lt : ∀ oid ∈ c.relations.keys, oid < c.nextOid
  /-- Names tell objects apart, those of relations within a database. -/
  tablespace_names : (c.tablespaces.values.map Tablespace.name).Nodup
  database_names : (c.databases.values.map Database.name).Nodup
  relation_names : (c.relations.values.map fun r => (r.database, r.name)).Nodup
  /-- No index is listed twice, and all links lead to relations. -/
  indexes_nodup : ∀ r ∈ c.relations.values, r.indexes.Nodup
  links : ∀ r ∈ c.relations.values, ∀ oid, r.LinksTo oid → oid ∈ c.relations.keys
  /-- A relation belongs to a database that is there, unless it is shared. -/
  database_known : ∀ r ∈ c.relations.values, r.isShared = false → r.database ∈ c.databases.keys
  /-- A relation says where it lies, or its database does. -/
  placed : ∀ r ∈ c.relations.values,
    r.tablespace ≠ Relation.unset ∨ r.database ∈ c.databases.keys

theorem bootstrap_consistent : bootstrap.Consistent where
  keyed := bootstrap_keyed
  first_le := le_refl _
  tablespace_lt := by decide
  database_lt := by decide
  relation_lt := List.forall_mem_nil _
  tablespace_names := by decide
  database_names := by decide
  relation_names := by decide
  indexes_nodup := List.forall_mem_nil _
  links := List.forall_mem_nil _
  database_known := List.forall_mem_nil _
  placed := List.forall_mem_nil _

/-- The numbers in use stay below the next one when one of them is added. -/
theorem lt_nextOid_insert {ν : Type} {d : Dictionary Int ν} {next oid : Int} {value : ν}
    (h : ∀ k ∈ d.keys, k < next) :
    ∀ k ∈ (d.insert oid value).keys, k < max next (oid + 1) := by
  intro k hk
  rcases Dictionary.mem_keys_insert.mp hk with rfl | hold
  · exact lt_max_of_lt_right (lt_add_one k)
  · exact lt_max_of_lt_left (h k hold)

namespace Consistent

variable {c : Catalog}

/-! ### Adding objects -/

theorem addTablespace (h : c.Consistent) {t : Tablespace} (hfree : t.oid ∉ c.tablespaces.keys)
    (hname : c.findTablespace t.name = none) : (c.addTablespace t).Consistent := by
  have hnext : c.nextOid ≤ (c.addTablespace t).nextOid := le_max_left _ _
  have hnames : ∀ other ∈ c.tablespaces.values, other.name ≠ t.name := by
    intro other hother
    simpa using List.find?_eq_none.mp hname other hother
  exact { h with
    keyed := h.keyed.addTablespace t
    first_le := h.first_le.trans hnext
    tablespace_lt := lt_nextOid_insert h.tablespace_lt
    database_lt := fun oid hoid => (h.database_lt oid hoid).trans_le hnext
    relation_lt := fun oid hoid => (h.relation_lt oid hoid).trans_le hnext
    tablespace_names := Dictionary.nodup_map_values_insert h.tablespace_names hfree hnames }

theorem addDatabase (h : c.Consistent) {d : Database} (hfree : d.oid ∉ c.databases.keys)
    (hname : c.findDatabase d.name = none) : (c.addDatabase d).Consistent := by
  have hnext : c.nextOid ≤ (c.addDatabase d).nextOid := le_max_left _ _
  have hnames : ∀ other ∈ c.databases.values, other.name ≠ d.name := by
    intro other hother
    simpa using List.find?_eq_none.mp hname other hother
  -- The databases that relations lie in are still there.
  have hkept : ∀ oid ∈ c.databases.keys, oid ∈ (c.addDatabase d).databases.keys :=
    fun oid hoid => Dictionary.mem_keys_insert.mpr (Or.inr hoid)
  exact { h with
    keyed := h.keyed.addDatabase d
    first_le := h.first_le.trans hnext
    tablespace_lt := fun oid hoid => (h.tablespace_lt oid hoid).trans_le hnext
    database_lt := lt_nextOid_insert h.database_lt
    relation_lt := fun oid hoid => (h.relation_lt oid hoid).trans_le hnext
    database_names := Dictionary.nodup_map_values_insert h.database_names hfree hnames
    database_known := fun r hr hshared => hkept _ (h.database_known r hr hshared)
    placed := fun r hr => (h.placed r hr).imp_right (hkept _) }

theorem addRelation (h : c.Consistent) {request : RelationRequest} {made : Relation}
    (hprepare : request.prepare c = .ok made) (hfree : made.oid ∉ c.relations.keys) :
    (c.addRelation made).Consistent := by
  obtain ⟨-, hindexes, -, hname, hplace⟩ := RelationRequest.prepare_ok hprepare
  have hnext : c.nextOid ≤ (c.addRelation made).nextOid := le_max_left _ _
  have hnames : ∀ other ∈ c.relations.values,
      (other.database, other.name) ≠ (made.database, made.name) := by
    intro other hother heq
    obtain ⟨hdatabase, hsame⟩ := Prod.mk.inj heq
    have hnone := List.find?_eq_none.mp hname other hother
    simp [hsame, Relation.isVisibleFrom, hdatabase] at hnone
  have hvalues : ∀ r ∈ (c.addRelation made).relations.values, r = made ∨ r ∈ c.relations.values :=
    fun r hr => Dictionary.mem_values_insert hr
  have hdatabase : made.isShared = true ∧ made.tablespace ≠ Relation.unset ∨
      made.database ∈ c.databases.keys := by
    refine hplace.imp ?_ ?_
    · rintro ⟨hunset, hglobal⟩
      rw [hglobal]
      exact ⟨beq_iff_eq.mpr hunset, by decide⟩
    · rintro ⟨d, hd, heq⟩
      rw [← heq]
      exact Dictionary.mem_keys_of_find? (Dictionary.find?_of_mem_values h.keyed.databases hd)
  exact { h with
    keyed := h.keyed.addRelation made
    first_le := h.first_le.trans hnext
    tablespace_lt := fun oid hoid => (h.tablespace_lt oid hoid).trans_le hnext
    database_lt := fun oid hoid => (h.database_lt oid hoid).trans_le hnext
    relation_lt := lt_nextOid_insert h.relation_lt
    relation_names := Dictionary.nodup_map_values_insert h.relation_names hfree hnames
    indexes_nodup := by
      intro r hr
      rcases hvalues r hr with rfl | hold
      · rw [hindexes]
        exact List.nodup_nil
      · exact h.indexes_nodup r hold
    links := by
      intro r hr oid hlink
      rcases hvalues r hr with rfl | hold
      · exact absurd hlink (RelationRequest.not_linksTo hprepare oid)
      · exact Dictionary.mem_keys_insert.mpr (Or.inr (h.links r hold oid hlink))
    database_known := by
      intro r hr hshared
      rcases hvalues r hr with rfl | hold
      · exact hdatabase.resolve_left fun hyes => by rw [hyes.1] at hshared; cases hshared
      · exact h.database_known r hold hshared
    placed := by
      intro r hr
      rcases hvalues r hr with rfl | hold
      · exact hdatabase.imp_left And.right
      · exact h.placed r hold }

/-! ### Changing objects -/

theorem held (h : c.Consistent) : Held c.relations [] :=
  ⟨h.indexes_nodup, fun r hr oid hlink => Or.inl (h.links r hr oid hlink)⟩

/-- Relations may go and links may change as long as all links lead to relations. -/
theorem trimmed {rs : Dictionary Int Relation} (h : c.Consistent) (hrs : Trimmed rs c.relations)
    (hheld : Held rs []) : Consistent { c with relations := rs } := by
  -- Where a relation belongs is the same as before.
  have hplace : ∀ r ∈ rs.values, ∃ old ∈ c.relations.values,
      r.database = old.database ∧ r.tablespace = old.tablespace := by
    intro r hr
    obtain ⟨⟨oid, _⟩, hentry, rfl⟩ := List.mem_map.mp hr
    obtain ⟨old, hold, hbare⟩ := hrs.exists_entry hentry
    have hdatabase := congrArg Relation.database hbare
    have htablespace := congrArg Relation.tablespace hbare
    exact ⟨old, Dictionary.mem_values_of_mem_entries hold, hdatabase, htablespace⟩
  exact { h with
    keyed := h.keyed.trimmed hrs
    relation_lt := fun oid hoid => h.relation_lt oid (hrs.keys_sublist.subset hoid)
    relation_names := h.relation_names.sublist (hrs.values_sublist fun _ => rfl)
    indexes_nodup := hheld.nodup
    links := fun r hr oid hlink => (hheld.links r hr oid hlink).resolve_right nofun
    database_known := by
      intro r hr hshared
      obtain ⟨old, hold, hdatabase, -⟩ := hplace r hr
      rw [Relation.isShared, hdatabase] at hshared
      rw [hdatabase]
      exact h.database_known old hold hshared
    placed := by
      intro r hr
      obtain ⟨old, hold, hdatabase, htablespace⟩ := hplace r hr
      rw [hdatabase, htablespace]
      exact h.placed old hold }

theorem modifyTablespace (h : c.Consistent) (oid : Int) {f : Tablespace → Tablespace}
    (hoid : ∀ t, (f t).oid = t.oid) (hname : ∀ t, (f t).name = t.name) :
    Consistent { c with tablespaces := c.tablespaces.modify oid f } := by
  have hkeys : (c.tablespaces.modify oid f).keys = c.tablespaces.keys :=
    Dictionary.keys_modify c.tablespaces oid f
  have hnames : (c.tablespaces.modify oid f).values.map Tablespace.name =
      c.tablespaces.values.map Tablespace.name := Dictionary.map_values_modify hname
  have hplaces := Dictionary.forall_mem_modify h.keyed.tablespaces
    fun t (ht : oid = t.oid) => ht.trans (hoid t).symm
  exact { h with
    keyed := { h.keyed with tablespaces := hplaces }
    tablespace_lt := hkeys ▸ h.tablespace_lt
    tablespace_names := hnames ▸ h.tablespace_names }

theorem modifyDatabase (h : c.Consistent) (oid : Int) {f : Database → Database}
    (hoid : ∀ d, (f d).oid = d.oid) (hname : ∀ d, (f d).name = d.name) :
    Consistent { c with databases := c.databases.modify oid f } := by
  have hkeys : (c.databases.modify oid f).keys = c.databases.keys :=
    Dictionary.keys_modify c.databases oid f
  have hnames : (c.databases.modify oid f).values.map Database.name =
      c.databases.values.map Database.name := Dictionary.map_values_modify hname
  have hplaces := Dictionary.forall_mem_modify h.keyed.databases
    fun d (hd : oid = d.oid) => hd.trans (hoid d).symm
  exact { h with
    keyed := { h.keyed with databases := hplaces }
    database_lt := hkeys ▸ h.database_lt
    database_names := hnames ▸ h.database_names
    database_known := hkeys ▸ h.database_known
    placed := hkeys ▸ h.placed }

theorem indexed (h : c.Consistent) {oid : Int} (hmem : oid ∈ c.relations.keys)
    (parent : Option Int) (hunlinked : ∀ r ∈ c.relations.values, ¬r.LinksTo oid) :
    (c.linked parent (.addIndex oid)).Consistent := by
  rw [linked_eq]
  exact h.trimmed (linked_trimmed c parent (Relation.bare_addIndex oid))
    (linked_addIndex_held h.held hmem parent hunlinked)

theorem toasted (h : c.Consistent) {oid : Int} (hmem : oid ∈ c.relations.keys)
    (parent : Option Int) : (c.linked parent (.setToast oid)).Consistent := by
  rw [linked_eq]
  exact h.trimmed (linked_trimmed c parent (Relation.bare_setToast oid))
    (linked_setToast_held h.held hmem parent)

/-- Nothing is linked to a relation that has just been added. -/
theorem not_linksTo_added (h : c.Consistent) {request : RelationRequest} {made : Relation}
    (hprepare : request.prepare c = .ok made) (hfree : made.oid ∉ c.relations.keys) :
    ∀ r ∈ (c.addRelation made).relations.values, ¬r.LinksTo made.oid := by
  intro r hr hlink
  rcases Dictionary.mem_values_insert hr with rfl | hold
  · exact RelationRequest.not_linksTo hprepare r.oid hlink
  · exact hfree (h.links r hold made.oid hlink)

/-- A relation that has been added becomes an index. -/
theorem addIndexed (h : c.Consistent) {request : RelationRequest} {made : Relation}
    (hprepare : request.prepare c = .ok made) (hfree : made.oid ∉ c.relations.keys) :
    (request.addIndexed made c).Consistent :=
  (h.addRelation hprepare hfree).indexed (mem_keys_addRelation made c) request.indexOf
    (h.not_linksTo_added hprepare hfree)

/-! ### Operations -/

/-- The number of a new object is not that of another one. -/
theorem chosen_not_mem (h : c.Consistent) {op : Operation} (hfresh : op.Fresh c) :
    c.chosen op.oid ∉ op.taken c := by
  cases hoid : op.oid with
  | some oid => exact hfresh oid hoid
  | none =>
    intro hmem
    have hlt : c.nextOid < c.nextOid := by
      cases op with
      | createTablespace => exact h.tablespace_lt _ hmem
      | createDatabase => exact h.database_lt _ hmem
      | createRelation => exact h.relation_lt _ hmem
      | _ => cases hmem
    exact lt_irrefl _ hlt

/-- **Every operation that gives no number twice keeps a catalog consistent.** -/
theorem effect {op : Operation} {result : Except Error Unit} {left : Catalog} (h : c.Consistent)
    (hfresh : op.Fresh c) (heffect : Effect c op result left) : left.Consistent := by
  have hfree := h.chosen_not_mem hfresh
  have hadded {request : RelationRequest} {made : Relation} (hop : op = .createRelation request)
      (hprepare : request.prepare c = .ok made) : made.oid ∉ c.relations.keys := by
    rw [(RelationRequest.prepare_ok hprepare).1]
    rw [hop] at hfree
    exact hfree
  cases heffect with
  | refused => exact h
  | tablespace hname => exact h.addTablespace hfree hname
  | database hname => exact h.addDatabase hfree hname
  | role hname => exact { h with keyed := h.keyed.effect (.role hname) }
  | member => exact { h with keyed := h.keyed.effect .member }
  | databasePrivilege oid => exact h.modifyDatabase oid (fun _ => rfl) fun _ => rfl
  | tablespacePrivilege oid => exact h.modifyTablespace oid (fun _ => rfl) fun _ => rfl
  | @relation request made hprepare hindex htoast =>
    have hmem : made.oid ∈ (request.addIndexed made c).relations.keys := by
      rw [RelationRequest.keys_addIndexed]
      exact mem_keys_addRelation made c
    exact (h.addIndexed hprepare (hadded rfl hprepare)).toasted hmem request.toastOf
  | @indexOfNothing request made e hprepare hindex =>
    exact h.addRelation hprepare (hadded rfl hprepare)
  | @toastOfNothing request made e hprepare hindex htoast =>
    exact h.addIndexed hprepare (hadded rfl hprepare)
  | dropped oid r hfound =>
    have hheld : Held c.relations [.remove oid] :=
      ⟨h.indexes_nodup, fun r hr other hlink => Or.inl (h.links r hr other hlink)⟩
    exact h.trimmed (dropAll_trimmed c.relations _) (dropAll_held hheld)

/-! ### Places -/

/-- Every relation has a place for its files. -/
theorem exists_locator (h : c.Consistent) {r : Relation} (hr : r ∈ c.relations.values) :
    ∃ place, c.locator r = .ok place := by
  unfold locator
  split
  · exact ⟨_, rfl⟩
  · next hunset =>
    have hknown := (h.placed r hr).resolve_left hunset
    obtain ⟨d, hd⟩ := Dictionary.exists_of_mem_keys hknown
    have hdefault : c.defaultTablespace r.database = .ok d.defaultTablespace := by
      rw [defaultTablespace, hd]
    rw [hdefault]
    exact ⟨_, rfl⟩

end Consistent

end Catalog

namespace Store

open Catalog (Operation)

end Store

end Footprint
