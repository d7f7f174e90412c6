import Footprint.Proofs.Catalog.Consistency
import Footprint.Proofs.Shell.Frame

/-!
# What changes of the catalog leave alone of what is looked up

Sessions look up two things in a catalog, a database by its name and a role. A role that is there
stays there (`Catalog.offers_role_on`). A database keeps its name and number, but for one change: a
new database that is given its number takes its place (`Catalog.Operation.ReplacesDatabase`). Then
its name stands for it no more, and there is no other change that does this
(`Catalog.Keyed.databaseOid_on_iff`).

In a catalog in which no number was given twice nothing is replaced
(`Catalog.Consistent.not_replacesDatabase`).
-/

namespace Footprint

namespace Catalog

variable {c left : Catalog} {op : Operation} {result : Except Error Unit} {name : String}
  {oid : Int}

/-- Puts an operation a new database in the place of that with a number? -/
def Operation.ReplacesDatabase (op : Operation) (oid : Int) (c : Catalog) : Prop :=
  ∃ name given tablespace, op = .createDatabase name given tablespace ∧
    c.findDatabase name = none ∧ c.chosen given = oid

/-- What counts when a database is looked up by its name. -/
def databaseNumbers (c : Catalog) : List (String × Int) :=
  c.databases.values.map fun d => (d.name, d.oid)

theorem databaseOid_eq_ok_iff :
    c.databaseOid name = .ok oid ↔ ∃ d, c.findDatabase name = some d ∧ d.oid = oid := by
  rw [databaseOid]
  cases c.findDatabase name <;> simp

theorem databaseOid_congr_numbers (h : left.databaseNumbers = c.databaseNumbers) :
    left.databaseOid name = c.databaseOid name := by
  have hfind : ∀ c : Catalog, (c.findDatabase name).map (fun d => (d.name, d.oid)) =
      c.databaseNumbers.find? (·.1 = name) := by
    intro c
    rw [databaseNumbers, List.find?_map]
    rfl
  have hsame := (hfind left).trans (h ▸ (hfind c).symm)
  rw [databaseOid, databaseOid]
  cases hleft : left.findDatabase name <;> cases hc : c.findDatabase name <;> simp_all

/-- An operation that gives no number twice replaces no database. -/
theorem Consistent.not_replacesDatabase (h : c.Consistent) (hfresh : op.Fresh c)
    (hoid : c.databaseOid name = .ok oid) : ¬op.ReplacesDatabase oid c := by
  rintro ⟨new, given, tablespace, rfl, -, rfl⟩
  obtain ⟨d, hd, hsame⟩ := databaseOid_ok hoid
  have hmem := Dictionary.mem_keys_of_find? (Dictionary.find?_of_mem_values h.keyed.databases hd)
  rw [hsame] at hmem
  exact h.chosen_not_mem hfresh hmem

/-- Only the creation of a database changes what databases are looked up by. -/
theorem Effect.databaseNumbers_eq (heffect : Effect c op result left)
    (hop : ∀ name given tablespace, op ≠ .createDatabase name given tablespace) :
    left.databaseNumbers = c.databaseNumbers := by
  cases heffect with
  | database => exact absurd rfl (hop _ _ _)
  | databasePrivilege => exact Dictionary.map_values_modify fun _ => rfl
  | relation => rw [databaseNumbers, RelationRequest.addLinked_databases, databaseNumbers]
  | toastOfNothing => rw [databaseNumbers, RelationRequest.addIndexed_databases, databaseNumbers]
  | _ => rfl

/-- A new database hides another one only if it gets its number. -/
theorem Keyed.databaseOid_addDatabase_iff (h : c.Keyed) (hoid : c.databaseOid name = .ok oid)
    {d : Database} (hname : c.findDatabase d.name = none) :
    (c.addDatabase d).databaseOid name = .ok oid ↔ d.oid ≠ oid := by
  obtain ⟨found, hfound, rfl⟩ := databaseOid_eq_ok_iff.mp hoid
  have hne : d.name ≠ name := by
    rintro rfl
    rw [hname] at hfound
    cases hfound
  constructor
  · intro hleft hsame
    -- What is under the number now is the new database, and that has another name.
    obtain ⟨other, hother, hnumber⟩ := databaseOid_eq_ok_iff.mp hleft
    have hkeyed : (c.addDatabase d).databases.find? other.oid = some other :=
      Dictionary.find?_of_mem_values (h.addDatabase d).databases (List.mem_of_find?_eq_some hother)
    have hnew : (c.addDatabase d).databases.find? other.oid = some d := by
      rw [Catalog.addDatabase, Dictionary.find?_insert, if_pos (hnumber.trans hsame.symm)]
    have hfirst := List.find?_some hother
    rw [Option.some.inj (hkeyed.symm.trans hnew)] at hfirst
    exact hne (of_decide_eq_true hfirst)
  · intro hnumber
    have hkept : c.databases.find? d.oid ≠ some found := by
      intro hd
      exact hnumber (h.databases (d.oid, found) (Dictionary.mem_entries_of_find? hd))
    have hleft : (c.addDatabase d).findDatabase name = some found :=
      Dictionary.find?_values_insert_of_ne (decide_eq_false hne) hfound hkept
    exact databaseOid_eq_ok_iff.mpr ⟨found, hleft, rfl⟩

/-- **What is looked up by its name is the same database until that is replaced.** -/
theorem Keyed.databaseOid_on_iff (h : c.Keyed) (op : Operation)
    (hoid : c.databaseOid name = .ok oid) :
    (op.change.on c).2.databaseOid name = .ok oid ↔ ¬op.ReplacesDatabase oid c := by
  by_cases hop : ∃ name given tablespace, op = .createDatabase name given tablespace
  · obtain ⟨new, given, tablespace, rfl⟩ := hop
    have hreplaces : (Operation.createDatabase new given tablespace).ReplacesDatabase oid c ↔
        c.findDatabase new = none ∧ c.chosen given = oid := by
      simp [Operation.ReplacesDatabase]
    rw [hreplaces, Operation.change, Update.on_bind, createDatabase_on]
    split_ifs with hnew
    · refine iff_of_true hoid fun hnone => ?_
      rw [hnone.1] at hnew
      cases hnew
    · have hnone := Option.not_isSome_iff_eq_none.mp hnew
      rw [not_and, ← ne_eq]
      refine (h.databaseOid_addDatabase_iff hoid hnone).trans ?_
      exact ⟨fun hne _ => hne, fun hne => hne hnone⟩
  · have hnever : ∀ name given tablespace, op ≠ .createDatabase name given tablespace := by
      intro name given tablespace heq
      exact hop ⟨name, given, tablespace, heq⟩
    refine iff_of_true ?_ ?_
    · rw [databaseOid_congr_numbers ((op.effect c).databaseNumbers_eq hnever), hoid]
    · rintro ⟨name, given, tablespace, heq, -⟩
      exact hnever name given tablespace heq

/-- Roles stay where they are. -/
theorem Effect.mem_roles_keys (heffect : Effect c op result left) (hmem : name ∈ c.roles.keys) :
    name ∈ left.roles.keys := by
  cases heffect with
  | role => exact Dictionary.mem_keys_insert.mpr (Or.inr hmem)
  | member => exact (Dictionary.keys_modify c.roles _ _).symm ▸ hmem
  | relation => rwa [RelationRequest.addLinked, linked_eq, RelationRequest.addIndexed, linked_eq]
  | toastOfNothing => rwa [RelationRequest.addIndexed, linked_eq]
  | _ => exact hmem

/-- A role that can be chosen can be chosen after any operation. -/
theorem offers_role_on (op : Operation) (h : c.offers (.role name) = true) :
    (op.change.on c).2.offers (.role name) = true :=
  Dictionary.contains_iff.mpr ((op.effect c).mem_roles_keys (Dictionary.contains_iff.mp h))

end Catalog

end Footprint
