import Footprint.Catalog.Store
import Footprint.Proofs.Catalog.Document
import Footprint.Proofs.Catalog.Operation

/-!
# Runs

A caller changes a catalog by operations and may read the saved document again in between. A run,
`Store.Run`, is any sequence of these from some store on; operations that fail belong to it as those
that succeed do. Which operations may be asked for, and when, is a parameter. In a run every
document can be written. Where saving can fail, an operation is what it is in a run as long as none
of its saves does (`Store.performOn_of_saved`).

What holds of a catalog after every run is shown by `Store.Run.invariant`. An invariant has to be
kept by every operation, and by writing and reading the document. Since an operation that fails has
changed the catalog but not the document, a run carries the invariant for both: for the catalog in
memory and for whatever the document is read as. An invariant that a new catalog does not have may
still be kept from some store on, if it is not lost by saving (`Store.Run.invariant_of_saved`).
-/

namespace Footprint

open Catalog (Operation)

namespace Store

/-- Carries out an operation where every document can be written. -/
def perform (op : Operation) (store : Store) : Except Error Unit × Store := store.update op.change

/-- The stores that are reached from a store by operations that are allowed, whether they succeed or
fail, and by reading the saved document again. -/
inductive Run (allowed : Operation → Catalog → Prop) (start : Store) : Store → Prop
  | start : Run allowed start start
  | perform {store : Store} (op : Operation) (before : Run allowed start store)
      (hallowed : allowed op store.catalog) : Run allowed start (store.perform op).2
  | reload {store loaded : Store} (path : String) (before : Run allowed start store)
      (hload : Store.load path (some store.document) = .ok loaded) : Run allowed start loaded

/-! ### Steps -/

theorem perform_eq (op : Operation) (store : Store) :
    store.perform op = match op.change.on store.catalog with
      | (.ok _, left) => (.ok (), saved left)
      | (.error e, left) => (.error e, { store with catalog := left }) := by
  rw [perform, update, updateOn, ← Catalog.Update.on]
  rcases op.change.on store.catalog with ⟨_ | _, _⟩ <;> rfl

theorem perform_catalog (op : Operation) (store : Store) :
    (store.perform op).2.catalog = (op.change.on store.catalog).2 := by
  rw [perform_eq]
  rcases op.change.on store.catalog with ⟨_ | _, _⟩ <;> rfl

/-- What an operation that succeeds leaves is saved. -/
theorem perform_ok {op : Operation} {store after : Store} (h : store.perform op = (.ok (), after)) :
    op.change.on store.catalog = (.ok (), after.catalog) ∧ after = saved after.catalog := by
  rw [perform_eq] at h
  split at h
  · next left hon =>
    obtain rfl : saved left = after := (Prod.mk.inj h).2
    exact ⟨hon, rfl⟩
  · cases h

/-- An operation that fails leaves the document as it was. -/
theorem perform_error {op : Operation} {store after : Store} {e : Error}
    (h : store.perform op = (.error e, after)) :
    op.change.on store.catalog = (.error e, after.catalog) ∧ after.document = store.document := by
  rw [perform_eq] at h
  split at h
  · cases h
  · next e' left hon =>
    cases h
    exact ⟨hon, rfl⟩

/-- Reading a document gives a catalog with its text, or a new catalog if there is no text. -/
theorem load_some {path text : String} {loaded : Store} (h : load path (some text) = .ok loaded) :
    loaded = saved .bootstrap ∨
      Catalog.parse path text = .ok loaded.catalog ∧ loaded.document = text := by
  rw [load] at h
  split at h
  · exact Or.inl (Except.ok.inj h).symm
  · cases hparse : Catalog.parse path text with
    | error e => rw [hparse] at h; cases h
    | ok catalog =>
      rw [hparse] at h
      obtain rfl := Except.ok.inj h
      exact Or.inr ⟨rfl, rfl⟩

/-! ### Invariants -/

section Invariant

variable {P : Catalog → Prop}

/-- The property of the catalog, and of whatever the document is read as. -/
structure Holds (P : Catalog → Prop) (store : Store) : Prop where
  catalog : P store.catalog
  document : ∀ path loaded, load path (some store.document) = .ok loaded → P loaded.catalog

/-- A property that a catalog keeps when it is written and read, and that a new catalog has. -/
structure Persists (P : Catalog → Prop) : Prop where
  bootstrap : P .bootstrap
  parse : ∀ c path loaded, P c → Catalog.parse path c.render = .ok loaded → P loaded

theorem Persists.holds_saved (hP : Persists P) {c : Catalog} (hc : P c) : Holds P (saved c) := by
  refine ⟨hc, fun path loaded hload => ?_⟩
  rcases load_some hload with rfl | ⟨hparse, -⟩
  · exact hP.bootstrap
  · exact hP.parse c path loaded.catalog hc hparse

variable {allowed : Operation → Catalog → Prop} {start store : Store}

/-- What every operation keeps holds after every run, if a saved catalog does not lose it. -/
theorem Run.invariant_of_saved (hsaved : ∀ c, P c → Holds P (saved c))
    (hstep : ∀ op c, P c → allowed op c → P (op.change.on c).2) (hstart : Holds P start)
    (hrun : Run allowed start store) : Holds P store := by
  induction hrun with
  | start => exact hstart
  | @perform store op before hallowed ih =>
    have hleft := hstep op store.catalog ih.catalog hallowed
    rw [perform_eq]
    split
    · next left hon =>
      rw [hon] at hleft
      exact hsaved left hleft
    · next e left hon =>
      -- What was done stays in memory, and the document is still the old one.
      rw [hon] at hleft
      exact ⟨hleft, ih.document⟩
  | @reload store loaded path before hload ih =>
    have hloaded := ih.document path loaded hload
    rcases load_some hload with rfl | ⟨-, hdocument⟩
    · exact hsaved .bootstrap hloaded
    · exact ⟨hloaded, hdocument ▸ ih.document⟩

/-- **What every operation keeps holds after every run.** -/
theorem Run.invariant (hP : Persists P)
    (hstep : ∀ op c, P c → allowed op c → P (op.change.on c).2) (hstart : Holds P start)
    (hrun : Run allowed start store) : Holds P store :=
  hrun.invariant_of_saved (fun _ hc => hP.holds_saved hc) hstep hstart

end Invariant

end Store

end Footprint
