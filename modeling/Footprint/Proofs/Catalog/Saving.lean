import Footprint.Proofs.Catalog.Links
import Footprint.Proofs.Catalog.Run
import Footprint.Proofs.Json.Dump

/-!
# Saving that can fail

A run, as `Store.Run` has it, lies on a medium on which every document can be written. Here an
operation is carried out on any medium, `Store.performOn`, and `Store.CutBy` says how saving it can
fail. The catalogs that an operation saves are `Operation.saves`: one for an operation that adds or
changes an object, and one for each relation that is dropped. Each of them is what is in memory
while it is saved, so a save that is cut leaves it there (`Store.Cut`).

That every save is whole is the hypothesis under which an operation is what it is in a run:
`Store.performOn_of_saved`. So what holds of runs holds on any medium as long as no save is cut.

`saveAll` follows the list of catalogs, and so does `Store.saveAll_cases`. That the list which the
dropping of a relation works with is the one of all saves is a matter of its tasks: the last of them
is the unlinking of the relation itself (`Catalog.dropStages_append_unlink`). Only saving can cut a
drop short here; the depth of its recursion is not limited.
-/

namespace Footprint

open Catalog (Operation)

namespace Catalog

/-! ### What is saved while relations are dropped -/

section Stages

variable {rs : Dictionary Int Relation} {oid : Int} {r : Relation} {tasks : List DropTask}

theorem dropStages_unlink : dropStages rs (.unlink oid :: tasks) =
    rs.mapValues (·.unlink oid) :: dropStages (rs.mapValues (·.unlink oid)) tasks := by
  rw [dropStages]

theorem dropStages_missing (h : rs.find? oid = none) :
    dropStages rs (.remove oid :: tasks) = dropStages rs tasks := by
  rw [dropStages]
  split
  · rfl
  · next hfound =>
    rw [h] at hfound
    cases hfound

theorem dropStages_found (h : rs.find? oid = some r) : dropStages rs (.remove oid :: tasks) =
    dropStages (rs.erase oid) (r.dependents.map .remove ++ .unlink oid :: tasks) := by
  rw [dropStages]
  split
  · next hmissing =>
    rw [h] at hmissing
    cases hmissing
  · next found hfound =>
    rw [h] at hfound
    obtain rfl := Option.some.inj hfound
    rfl

end Stages

/-- The last relations that are saved are those that are left. -/
theorem dropStages_append_unlink (rs : Dictionary Int Relation) (tasks : List DropTask)
    (oid : Int) : dropStages rs (tasks ++ [.unlink oid]) =
      dropStages rs tasks ++ [(dropAll rs (tasks ++ [.unlink oid])).1] := by
  induction rs, tasks using dropAll.induct with
  | case1 rs => simp [dropStages, dropAll]
  | case2 rs other tasks ih =>
    rw [List.cons_append, dropStages_unlink, dropStages_unlink, dropAll_unlink, ih,
      List.cons_append]
  | case3 rs other tasks hmissing ih =>
    rw [List.cons_append, dropStages_missing hmissing, dropStages_missing hmissing,
      dropAll_missing hmissing, ih]
  | case4 rs other tasks r hfound left dropped _ ih =>
    -- The tasks of what is dropped come first, so the unlinking that is looked for stays the last.
    rw [List.cons_append, dropStages_found hfound, dropStages_found hfound, dropAll_found hfound]
    simpa using ih

namespace Operation

/-- The catalogs that are saved before an operation is at its end. -/
def onTheWay : Operation → Catalog → List Catalog
  | dropRelation oid, c => dropOnTheWay oid c
  | _, _ => []

/-- The catalogs that an operation saves if it succeeds, in turn. -/
def saves : Operation → Catalog → List Catalog
  | dropRelation oid, c =>
    (dropStages c.relations [.remove oid]).map fun left => { c with relations := left }
  | op, c => [(op.change.on c).2]

/-- What is saved last is the catalog at the end. -/
theorem saves_eq {op : Operation} {c left : Catalog} (h : op.change.on c = (.ok (), left)) :
    op.saves c = op.onTheWay c ++ [left] := by
  have heffect := op.effect c
  rw [h] at heffect
  cases heffect with
  | dropped oid r hfound =>
    -- Dropping a relation is to drop what hangs on it, and then to unlink the relation itself.
    have hstages := dropStages_append_unlink (c.relations.erase oid) (r.dependents.map .remove) oid
    rw [← dropStages_found hfound, ← dropAll_found hfound] at hstages
    simp only [saves, onTheWay, dropOnTheWay, hfound, hstages, List.map_append, List.map_singleton]
  | _ => simp only [saves, onTheWay, h, List.nil_append]

end Operation

end Catalog

namespace Store

/-! ### Saves that are cut -/

/-- Of some catalogs that are saved in turn one cannot be written whole: those before it have been,
it is in memory, and the document is left with a text. -/
inductive Cut (medium : Medium) : Nat → List Catalog → String → Error → Store → Prop
  | here {turn : Nat} {c : Catalog} {later : List Catalog} {old left : String} {e : Error}
      (hwrite : medium.write turn c old = .cut e left) :
      Cut medium turn (c :: later) old e ⟨c, left⟩
  | later {turn : Nat} {c : Catalog} {later : List Catalog} {old : String} {e : Error}
      {after : Store} (hwrite : medium.write turn c old = .whole)
      (hcut : Cut medium (turn + 1) later c.render e after) :
      Cut medium turn (c :: later) old e after

variable {medium : Medium} {store after : Store} {e : Error}

theorem saveAll_of_cut {turn : Nat} {catalogs : List Catalog} {old : String}
    (h : Cut medium turn catalogs old e after) (hold : store.document = old) :
    saveAll medium turn catalogs store = (.error e, after) := by
  induction h generalizing store with
  | here hwrite => rw [saveAll, hold, hwrite]
  | later hwrite hcut ih =>
    rw [saveAll, hold, hwrite]
    exact ih rfl

/-- What is left in memory is one of the catalogs that were to be saved. -/
theorem Cut.mem {turn : Nat} {catalogs : List Catalog} {old : String}
    (h : Cut medium turn catalogs old e after) : after.catalog ∈ catalogs := by
  induction h with
  | here _ => exact List.mem_cons_self
  | later _ _ ih => exact List.mem_cons_of_mem _ ih

/-- A catalog in which no integer has too many digits can be written; of another one there is a part
in the document. -/
theorem Cut.of_limited {turn : Nat} {catalogs : List Catalog} {old : String}
    (h : Cut .limited turn catalogs old e after) :
    e = Text.numberTooLong ∧ after.document.toList <+: after.catalog.render.toList ∧
      ∃ n ∈ after.catalog.toDatum.integers, Text.digitLimit < Json.digits n := by
  induction h with
  | later _ _ ih => exact ih
  | @here turn c later old left e hwrite =>
    have hdump := Json.dump_of Text.digitLimit 0 c.toDatum
    rw [Medium.limited] at hwrite
    dsimp only at hwrite
    split at hwrite
    · cases hwrite
    · next text htext =>
      rw [htext] at hdump
      cases hwrite
      rw [Catalog.render, Json.render, String.toList_ofList, String.toList_ofList]
      exact ⟨rfl, hdump⟩

/-- **Saving ends with the last catalog or is cut.** -/
theorem saveAll_cases (medium : Medium) (turn : Nat) (before : List Catalog) (last : Catalog)
    (store : Store) : saveAll medium turn (before ++ [last]) store = (.ok (), saved last) ∨
      ∃ e after, Cut medium turn (before ++ [last]) store.document e after := by
  induction before generalizing turn store with
  | nil =>
    cases hwrite : medium.write turn last store.document with
    | whole =>
      left
      rw [List.nil_append, saveAll, hwrite, saveAll]
    | cut e text => exact Or.inr ⟨e, _, .here hwrite⟩
  | cons c before ih =>
    cases hwrite : medium.write turn c store.document with
    | whole =>
      -- The save that comes next finds the document that this one has left.
      rw [List.cons_append, saveAll, hwrite]
      rcases ih (turn + 1) (saved c) with hall | ⟨e, after, hcut⟩
      · exact Or.inl hall
      · exact Or.inr ⟨e, after, .later hwrite hcut⟩
    | cut e text => exact Or.inr ⟨e, _, .here hwrite⟩

/-! ### Operations on a medium -/

/-- Carries out an operation on a medium. -/
def performOn (medium : Medium) (op : Operation) (store : Store) : Except Error Unit × Store :=
  store.updateOn medium (op.onTheWay store.catalog) op.change

/-- An operation does what it is asked for, and one of its saves is cut by an error, which leaves a
store. -/
def CutBy (medium : Medium) (op : Operation) (store : Store) (e : Error) (after : Store) : Prop :=
  (op.change.on store.catalog).1 = .ok () ∧
    Cut medium 0 (op.saves store.catalog) store.document e after

variable {op : Operation}

theorem performOn_of_error (h : (op.change.on store.catalog).1 = .error e) :
    store.performOn medium op = store.perform op := by
  rw [perform_eq, performOn, updateOn, ← Catalog.Update.on]
  rcases hon : op.change.on store.catalog with ⟨_ | _, left⟩
  · rfl
  · rw [hon] at h
    cases h

theorem performOn_of_ok {left : Catalog} (h : op.change.on store.catalog = (.ok (), left)) :
    store.performOn medium op = saveAll medium 0 (op.onTheWay store.catalog ++ [left]) store := by
  rw [performOn, updateOn, ← Catalog.Update.on, h]
  dsimp only
  rcases saveAll medium 0 (op.onTheWay store.catalog ++ [left]) store with ⟨_ | _, _⟩ <;> rfl

theorem performOn_of_cut (h : store.CutBy medium op e after) :
    store.performOn medium op = (.error e, after) := by
  obtain ⟨hdone, hcut⟩ := h
  rcases hon : op.change.on store.catalog with ⟨_ | _, left⟩
  · rw [hon] at hdone
    cases hdone
  · rw [Operation.saves_eq hon] at hcut
    calc store.performOn medium op
        = saveAll medium 0 (op.onTheWay store.catalog ++ [left]) store := performOn_of_ok hon
      _ = (.error e, after) := saveAll_of_cut hcut rfl

/-- **Where no save is cut an operation is what it is in a run.** -/
theorem performOn_of_saved (h : ∀ e after, ¬store.CutBy medium op e after) :
    store.performOn medium op = store.perform op := by
  rcases hon : op.change.on store.catalog with ⟨e | ⟨⟩, left⟩
  · exact performOn_of_error (congrArg Prod.fst hon)
  · rcases saveAll_cases medium 0 (op.onTheWay store.catalog) left store with
      hall | ⟨e, after, hcut⟩
    · calc store.performOn medium op
          = saveAll medium 0 (op.onTheWay store.catalog ++ [left]) store := performOn_of_ok hon
        _ = (.ok (), saved left) := hall
        _ = store.perform op := by rw [perform_eq, hon]
    · rw [← Operation.saves_eq hon] at hcut
      exact absurd ⟨congrArg Prod.fst hon, hcut⟩ (h e after)

/-- The next number stands first in a document, so a save stops at it if it has too many digits. -/
theorem cutBy_of_nextOid {op : Operation} {store : Store} {left : Catalog}
    (h : op.change.on store.catalog = (.ok (), left)) (hway : op.onTheWay store.catalog = [])
    (hlong : Text.digitLimit < Json.digits left.nextOid) :
    store.CutBy .limited op Text.numberTooLong ⟨left, "\x7b\n  \"next_oid\": "⟩ := by
  have hdump : Json.dump Text.digitLimit 0 left.toDatum =
      .cut ("\x7b\n  \"next_oid\": ").toList := by
    rw [Catalog.toDatum, Json.dump, Json.dump, if_pos hlong]
    rfl
  have hwrite : Medium.limited.write 0 left store.document =
      .cut Text.numberTooLong "\x7b\n  \"next_oid\": " := by
    simp only [Medium.limited, hdump, String.ofList_toList]
  refine ⟨congrArg Prod.fst h, ?_⟩
  rw [Operation.saves_eq h, hway]
  exact .here hwrite

end Store

end Footprint
