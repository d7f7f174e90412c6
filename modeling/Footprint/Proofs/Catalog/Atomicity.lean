import Footprint.Proofs.Catalog.Saving

/-!
# Operations that fail

An operation that fails may leave something behind in two ways.

Most operations check everything before they change anything. The exception is the creation of a
relation that is to be an index or an overflow table: whether the relation exists that it belongs to
is looked up after the new relation has been added, and even after the other link has been made. So
such an operation fails and leaves a relation behind, in memory but not in the document. That
something is left is seen by the name of the new relation, which no relation had before and one has
afterwards (`Catalog.ne_of_trimmed_added`).

The second way is a save that is cut (`Store.CutBy`): saving comes last, or between the relations
that are dropped, and what has been done by then is not undone. It is in memory, and what has been
written of it is in the document.

`Store.performOn_atomic_iff` says, for any medium, that these are the only ways.
-/

namespace Footprint

namespace Catalog

/-- Would the operation create a relation but for one that it should be linked to? -/
def Operation.LacksParent (op : Operation) (c : Catalog) : Prop :=
  ∃ request made parent, op = .createRelation request ∧ request.prepare c = .ok made ∧
    (request.indexOf = some parent ∨ request.toastOf = some parent) ∧
    parent ∉ (c.addRelation made).relations.keys

theorem findParent_error {c : Catalog} {parent : Option Int} {e : Error}
    (h : c.findParent parent = .error e) : ∃ oid, parent = some oid ∧ oid ∉ c.relations.keys := by
  cases parent with
  | none => cases h
  | some oid =>
    refine ⟨oid, rfl, fun hmem => ?_⟩
    obtain ⟨r, hr⟩ := exists_relation hmem
    rw [findParent, hr] at h
    cases h

theorem findParent_ok {c : Catalog} {parent : Option Int} {oid : Int}
    (h : c.findParent parent = .ok ()) (hparent : parent = some oid) :
    oid ∈ c.relations.keys := by
  subst hparent
  rw [findParent] at h
  cases hfound : c.relation oid with
  | error e =>
    rw [hfound] at h
    cases h
  | ok r => exact Dictionary.mem_keys_of_find? (relation_eq_ok_iff.mp hfound)

/-- An operation that does what it is asked for lacks nothing. -/
theorem Operation.not_lacksParent {op : Operation} {c : Catalog}
    (h : (op.change.on c).1 = .ok ()) : ¬op.LacksParent c := by
  rintro ⟨request, made, parent, rfl, hprepare, hlink, hmissing⟩
  have heffect := (Operation.createRelation request).effect c
  rw [h] at heffect
  generalize ((Operation.createRelation request).change.on c).2 = left at heffect
  cases heffect with
  | @relation _ found hfound hindex htoast =>
    obtain rfl : found = made := Except.ok.inj (hfound.symm.trans hprepare)
    rcases hlink with hlink | hlink
    · exact hmissing (findParent_ok hindex hlink)
    · have hkey := findParent_ok htoast hlink
      rw [RelationRequest.keys_addIndexed] at hkey
      exact hmissing hkey

/-- A relation that was added and perhaps linked makes a difference. -/
theorem ne_of_trimmed_added {request : RelationRequest} {c left : Catalog} {made : Relation}
    (hprepare : request.prepare c = .ok made)
    (hmem : made.oid ∈ left.relations.keys)
    (htrimmed : Trimmed left.relations (c.addRelation made).relations) : left ≠ c := by
  rintro rfl
  obtain ⟨-, -, -, hname, -⟩ := RelationRequest.prepare_ok hprepare
  -- Under the new number stands a relation with the name of the new one.
  obtain ⟨r, hr⟩ := Dictionary.exists_of_mem_keys hmem
  have hentry := Dictionary.mem_entries_of_find? hr
  obtain ⟨old, hold, hbare⟩ := htrimmed.exists_entry hentry
  have hmade : old = made := by
    have hfind := Dictionary.find?_eq_some_iff.mpr hold
    rw [addRelation, Dictionary.find?_insert, if_pos rfl] at hfind
    exact (Option.some.inj hfind).symm
  rw [hmade] at hbare
  have hdatabase := congrArg Relation.database hbare
  have hsame := congrArg Relation.name hbare
  change r.database = made.database at hdatabase
  change r.name = made.name at hsame
  -- But there was no relation of this name.
  have hnone := List.find?_eq_none.mp hname r (Dictionary.mem_values_of_mem_entries hentry)
  simp [hsame, Relation.isVisibleFrom, hdatabase] at hnone

end Catalog

namespace Store

open Catalog (Operation)

/-- An operation that fails before anything is saved leaves everything as it was, unless it lacks
the relation that a new one should be linked to. -/
theorem perform_error_eq_iff {op : Operation} {store after : Store} {e : Error}
    (h : store.perform op = (.error e, after)) :
    after = store ↔ ¬op.LacksParent store.catalog := by
  obtain ⟨c, document⟩ := store
  obtain ⟨left, text⟩ := after
  obtain ⟨hon, hdocument⟩ := perform_error h
  obtain rfl : text = document := hdocument
  have hcatalog : (⟨left, text⟩ : Store) = ⟨c, text⟩ ↔ left = c :=
    ⟨congrArg Store.catalog, congrArg (Store.mk · text)⟩
  rw [hcatalog]
  have heffect := op.effect c
  rw [hon] at heffect
  cases heffect with
  | refused hrefused =>
    refine ⟨fun _ => ?_, fun _ => rfl⟩
    rintro ⟨request, made, parent, hop, hprepare, -⟩
    rw [hrefused request hop] at hprepare
    cases hprepare
  | @indexOfNothing request made e hprepare hindex =>
    obtain ⟨parent, hparent, hmissing⟩ := Catalog.findParent_error hindex
    have hlacks : (Operation.createRelation request).LacksParent c :=
      ⟨request, made, parent, rfl, hprepare, Or.inl hparent, hmissing⟩
    have hne := Catalog.ne_of_trimmed_added hprepare (Catalog.mem_keys_addRelation made c)
      (.refl _)
    exact ⟨fun heq => absurd heq hne, fun hnot => absurd hlacks hnot⟩
  | @toastOfNothing request made e hprepare hindex htoast =>
    obtain ⟨parent, hparent, hmissing⟩ := Catalog.findParent_error htoast
    rw [Catalog.RelationRequest.keys_addIndexed] at hmissing
    have hlacks : (Operation.createRelation request).LacksParent c :=
      ⟨request, made, parent, rfl, hprepare, Or.inr hparent, hmissing⟩
    have hmem := Catalog.mem_keys_addRelation made c
    rw [← Catalog.RelationRequest.keys_addIndexed request] at hmem
    have hne := Catalog.ne_of_trimmed_added hprepare hmem
      (Catalog.linked_trimmed _ request.indexOf (Relation.bare_addIndex made.oid))
    exact ⟨fun heq => absurd heq hne, fun hnot => absurd hlacks hnot⟩

/-- **When an operation that fails leaves everything as it was.** It does so unless it lacks the
relation that a new one should be linked to, or a save is cut and leaves something else. In the
first case it has not saved anything; in the second case it has done what it was asked for, as far
as the save that was cut, and on a medium which only limits the digits of integers there is one with
too many of them. -/
theorem performOn_atomic_iff {medium : Medium} {op : Operation} {store after : Store} {e : Error}
    (h : store.performOn medium op = (.error e, after)) :
    (after = store ↔ ¬op.LacksParent store.catalog ∧
        ∀ left, store.CutBy medium op e left → left = store) ∧
      (store.perform op = (.error e, after) ∧ after.document = store.document ∨
        store.CutBy medium op e after ∧ after.catalog ∈ op.saves store.catalog ∧
          (medium = .limited → e = Text.numberTooLong ∧
            after.document.toList <+: after.catalog.render.toList ∧
            ∃ n ∈ after.catalog.toDatum.integers, Text.digitLimit < Json.digits n)) := by
  by_cases hcuts : ∃ e left, store.CutBy medium op e left
  · obtain ⟨e', left, hcut⟩ := hcuts
    obtain ⟨he, rfl⟩ := Prod.mk.inj ((performOn_of_cut hcut).symm.trans h)
    obtain rfl : e' = e := Except.error.inj he
    have hlimited : medium = .limited → _ := fun hmedium => (hmedium ▸ hcut.2).of_limited
    refine ⟨⟨?_, fun hall => hall.2 left hcut⟩, Or.inr ⟨hcut, hcut.2.mem, hlimited⟩⟩
    rintro rfl
    -- What a cut leaves is determined by the medium, so no other cut leaves anything else.
    refine ⟨Catalog.Operation.not_lacksParent hcut.1, fun other hother => ?_⟩
    exact (Prod.mk.inj ((performOn_of_cut hother).symm.trans (performOn_of_cut hcut))).2
  · have hsaved : ∀ e left, ¬store.CutBy medium op e left := by simpa using hcuts
    have hperform := (performOn_of_saved hsaved).symm.trans h
    refine ⟨?_, Or.inl ⟨hperform, (perform_error hperform).2⟩⟩
    rw [perform_error_eq_iff hperform, and_iff_left fun left hcut => absurd hcut (hsaved e left)]

/-- A tablespace of the last number that can be read: the next number cannot be written. The
tablespace is there, and the document breaks off. -/
theorem performOn_atomic_iff_last_number :
    let oid : Int := 10 ^ Text.digitLimit - 1
    let store := saved .bootstrap
    let op : Operation := .createTablespace "d" "/d" (some oid)
    let after := (store.performOn .limited op).2
    Json.digits oid ≤ Text.digitLimit ∧
      (store.performOn .limited op).1 = .error Text.numberTooLong ∧
      after.document = "\x7b\n  \"next_oid\": " ∧ after.catalog ∈ op.saves store.catalog ∧
      (∃ n ∈ after.catalog.toDatum.integers, Text.digitLimit < Json.digits n) ∧ after ≠ store := by
  intro oid
  have hdigits : ∀ n : Int, Json.digits n ≤ Text.digitLimit ↔ n.natAbs < 10 ^ Text.digitLimit :=
    fun n => Nat.length_toDigits_le_iff (by decide) (by decide)
  have hpow : (16384 : ℕ) ≤ 10 ^ Text.digitLimit :=
    le_trans (by decide) (Nat.pow_le_pow_right (by decide) (by decide : 5 ≤ Text.digitLimit))
  have hoid : oid + 1 = ((10 ^ Text.digitLimit : ℕ) : Int) := by
    push_cast
    exact sub_add_cancel _ _
  clear_value oid
  have hshort : Json.digits oid ≤ Text.digitLimit := (hdigits oid).mpr (by omega)
  have hlong : Text.digitLimit < Json.digits (max 16384 (oid + 1)) :=
    Nat.lt_of_not_le fun hle => absurd ((hdigits _).mp hle) (by omega)
  intro store op after
  have hon : op.change.on store.catalog =
      (.ok (), store.catalog.addTablespace ⟨oid, "d", "/d", .empty⟩) := by
    change (Catalog.createTablespace "d" "/d" (some oid) >>= fun _ => pure ()).on _ = _
    rw [Catalog.Update.on_bind, Catalog.createTablespace_on, if_neg (by decide)]
    rfl
  have hfails := performOn_of_cut (cutBy_of_nextOid hon rfl hlong)
  have hafter : after = _ := congrArg Prod.snd hfails
  obtain ⟨hrefused, -⟩ | ⟨-, hsaved, hlimited⟩ := (performOn_atomic_iff hfails).2
  · rw [perform_eq, hon] at hrefused
    cases hrefused
  · obtain ⟨he, -, hdigits⟩ := hlimited rfl
    rw [hafter]
    refine ⟨hshort, congrArg Prod.fst hfails, rfl, hsaved, hdigits, fun hsame => ?_⟩
    have hnext : max 16384 (oid + 1) = 16384 := congrArg (fun s => s.catalog.nextOid) hsame
    rw [hnext] at hlong
    exact absurd hlong (by decide)

/-- An index of a table that is not there: the index is there all the same, but not in the document,
and its number is used up. -/
theorem perform_index_of_nothing :
    let store := saved .bootstrap
    let op : Operation := .createRelation
      { database := "postgres", name := "i", kind := "i", indexOf := some 99999 }
    let after := (store.perform op).2
    (store.perform op).1 = .error (.notFound "relation" "99999") ∧
      store.catalog.nextOid = 16384 ∧ after.catalog.nextOid = 16385 ∧
      store.catalog.findRelation 5 "i" = none ∧
      after.catalog.findRelation 5 "i" = some
        { oid := 16384, name := "i", database := 5, kind := "i", fileNumber := 16384 } ∧
      after.document = store.document := by
  refine ⟨by decide, by decide, by decide, by decide, by decide, ?_⟩
  rfl

end Store

end Footprint
