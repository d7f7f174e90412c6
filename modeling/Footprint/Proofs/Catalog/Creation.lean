import Footprint.Proofs.Catalog.Consistency

/-!
# Creating objects

A new object is put under its number. Where the number is free, everything that was there is kept:
of the relations that the new one is linked to the links change, and nothing else does
(`Catalog.Kept`). Where the number is taken, the object that had it is gone. Nothing but names is
looked at before an object is created, so this can happen in two ways: by a number that is given,
and by a next number that was read from a document and is not beyond all numbers there.

`Store.perform_kept_iff` says that a creation that succeeds keeps everything if and only if the
number was free. In a consistent catalog the next number always is
(`Catalog.Consistent.chosen_not_mem`).
-/

namespace Footprint

namespace Catalog

/-- Does the operation create a tablespace, a database or a relation? -/
def Operation.creates : Operation → Bool
  | createTablespace .. => true
  | createDatabase .. => true
  | createRelation _ => true
  | _ => false

/-- What becomes of the relation of a number when another one is linked to it under a new number. -/
def RelationRequest.relink (request : RelationRequest) (new oid : Int) (r : Relation) : Relation :=
  let indexed := if request.indexOf = some oid then r.addIndex new else r
  if request.toastOf = some oid then indexed.setToast new else indexed

/-- What becomes of the relation of a number by an operation that gives a new number. -/
def Operation.relink (op : Operation) (new oid : Int) (r : Relation) : Relation :=
  match op with
  | createRelation request => request.relink new oid r
  | _ => r

/-- The number of tablespaces, databases and relations. -/
def size (c : Catalog) : Nat := c.tablespaces.size + c.databases.size + c.relations.size

/-- Everything that was there is there, unchanged but for links to a new relation, and there is one
object more. -/
structure Kept (op : Operation) (before after : Catalog) : Prop where
  tablespaces : ∀ oid t, before.tablespaces.find? oid = some t →
    after.tablespaces.find? oid = some t
  databases : ∀ oid d, before.databases.find? oid = some d → after.databases.find? oid = some d
  relations : ∀ oid r, before.relations.find? oid = some r →
    after.relations.find? oid = some (op.relink (before.chosen op.oid) oid r)
  size : after.size = before.size + 1

/-! ### One object more -/

section Size

variable {c : Catalog}

theorem size_addTablespace_iff {t : Tablespace} :
    (c.addTablespace t).size = c.size + 1 ↔ t.oid ∉ c.tablespaces.keys := by
  have hone : (c.tablespaces.insert t.oid t).size = c.tablespaces.size + 1 ↔
      t.oid ∉ c.tablespaces.keys := Dictionary.size_insert_eq_iff
  rw [← hone]
  simp only [size, addTablespace]
  omega

theorem size_addDatabase_iff {d : Database} :
    (c.addDatabase d).size = c.size + 1 ↔ d.oid ∉ c.databases.keys := by
  have hone : (c.databases.insert d.oid d).size = c.databases.size + 1 ↔
      d.oid ∉ c.databases.keys := Dictionary.size_insert_eq_iff
  rw [← hone]
  simp only [size, addDatabase]
  omega

theorem size_addRelation_iff {r : Relation} :
    (c.addRelation r).size = c.size + 1 ↔ r.oid ∉ c.relations.keys := by
  have hone : (c.relations.insert r.oid r).size = c.relations.size + 1 ↔
      r.oid ∉ c.relations.keys := Dictionary.size_insert_eq_iff
  rw [← hone]
  simp only [size, addRelation]
  omega

@[simp] theorem size_linked (parent : Option Int) (f : Relation → Relation) :
    (c.linked parent f).size = c.size := by
  have hkeys := congrArg List.length (keys_linked c parent f)
  rw [Dictionary.length_keys, Dictionary.length_keys] at hkeys
  rw [size, size, linked_tablespaces, linked_databases, hkeys]

end Size

/-! ### Everything else -/

/-- **A creation keeps everything if and only if the new number was free.** -/
theorem Effect.kept_iff {c left : Catalog} {op : Operation}
    (heffect : Effect c op (.ok ()) left) (hcreates : op.creates = true) :
    Kept op c left ↔ c.chosen op.oid ∉ op.taken c := by
  cases heffect with
  | tablespace =>
    refine ⟨fun hkept => size_addTablespace_iff.mp hkept.size, fun hfree => ?_⟩
    exact {
      tablespaces := fun oid t ht => Dictionary.find?_insert_of_not_mem hfree ht
      databases := fun oid d hd => hd
      relations := fun oid r hr => hr
      size := size_addTablespace_iff.mpr hfree }
  | database =>
    refine ⟨fun hkept => size_addDatabase_iff.mp hkept.size, fun hfree => ?_⟩
    exact {
      tablespaces := fun oid t ht => ht
      databases := fun oid d hd => Dictionary.find?_insert_of_not_mem hfree hd
      relations := fun oid r hr => hr
      size := size_addDatabase_iff.mpr hfree }
  | @relation request made hprepare hindex htoast =>
    have hoid : made.oid = c.chosen request.oid := (RelationRequest.prepare_ok hprepare).1
    have hsize : (request.addLinked made c).size = c.size + 1 ↔
        c.chosen request.oid ∉ c.relations.keys := by
      rw [RelationRequest.addLinked, size_linked, RelationRequest.addIndexed, size_linked,
        size_addRelation_iff, hoid]
    refine ⟨fun hkept => hsize.mp hkept.size, fun hfree => ?_⟩
    exact {
      tablespaces := by
        intro oid t ht
        rw [RelationRequest.addLinked, linked_tablespaces, RelationRequest.addIndexed,
          linked_tablespaces]
        exact ht
      databases := by
        intro oid d hd
        rw [RelationRequest.addLinked, linked_databases, RelationRequest.addIndexed,
          linked_databases]
        exact hd
      relations := by
        intro oid r hr
        have hadded : (c.addRelation made).relations.find? oid = some r :=
          Dictionary.find?_insert_of_not_mem (hoid ▸ hfree) hr
        rw [RelationRequest.addLinked, find?_linked, RelationRequest.addIndexed, find?_linked,
          hadded, hoid]
        rfl
      size := hsize.mpr hfree }
  | _ => cases hcreates

end Catalog

namespace Store

open Catalog (Operation Kept)

/-- **A creation that succeeds keeps everything if and only if the number of the new object was
free**, whatever catalog it is applied to. The number is the given one or else the next. -/
theorem perform_kept_iff {op : Operation} {store after : Store}
    (h : store.perform op = (.ok (), after)) (hcreates : op.creates = true) :
    Kept op store.catalog after.catalog ↔
      store.catalog.chosen op.oid ∉ op.taken store.catalog := by
  have heffect := op.effect store.catalog
  rw [(perform_ok h).1] at heffect
  exact heffect.kept_iff hcreates

/-- An index under the next number: its table gains it, and everything else is kept. -/
theorem perform_kept_iff_index :
    let table : Operation := .createRelation { database := "postgres", name := "t" }
    let index : Operation := .createRelation
      { database := "postgres", name := "i", kind := "i", indexOf := some 16384 }
    let made := ((saved .bootstrap).perform table).2
    let indexed := (made.perform index).2
    Kept index made.catalog indexed.catalog ∧
      (indexed.catalog.relations.find? 16384).map Relation.indexes = some [16385] := by
  intro table index made indexed
  have hok : made.perform index = (.ok (), indexed) := Prod.ext (by decide) rfl
  exact ⟨(perform_kept_iff hok rfl).mpr (by decide), by decide⟩

/-- What a document may hold that does not say what the next number is. -/
def withoutNextOid : Datum :=
  .record [
    ("databases", .list [.record [("oid", .int 5), ("name", .text "postgres")]]),
    ("relations", .list [
      .record [("oid", .int 16384), ("name", .text "t"), ("database_id", .int 5)]])]

theorem withoutNextOid_plain : withoutNextOid.Plain := by
  have hdatabase : (Datum.record [("oid", .int 5), ("name", .text "postgres")]).Plain := by
    refine .record (by simp) ?_
    simp only [List.forall_mem_cons]
    exact ⟨.int 5, .text "postgres", nofun⟩
  have hrelation : (Datum.record
      [("oid", .int 16384), ("name", .text "t"), ("database_id", .int 5)]).Plain := by
    refine .record (by simp) ?_
    simp only [List.forall_mem_cons]
    exact ⟨.int 16384, .text "t", .int 5, nofun⟩
  refine .record (by simp) ?_
  simp only [List.forall_mem_cons]
  exact ⟨.list (List.forall_mem_singleton.mpr hdatabase),
    .list (List.forall_mem_singleton.mpr hrelation), nofun⟩

/-- The next number is that of a relation, which a new one takes the place of. -/
theorem perform_relation_overwrites :
    ∃ before, load "catalog.json" (some (Json.render withoutNextOid)) = .ok before ∧
      let op : Operation := .createRelation { database := "postgres", name := "u" }
      let after := (before.perform op).2
      (before.perform op).1 = .ok () ∧
        (before.catalog.relations.find? 16384).map Relation.name = some "t" ∧
        (after.catalog.relations.find? 16384).map Relation.name = some "u" ∧
        after.catalog.size = before.catalog.size := by
  refine ⟨_, load_render withoutNextOid_plain (by decide) "catalog.json", ?_⟩
  decide

end Store

end Footprint
