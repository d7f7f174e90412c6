import Footprint.Proofs.Catalog.Links
import Footprint.Proofs.Catalog.Run

/-!
# Reading the saved catalog again

A keyed catalog stays keyed whatever is done to it (`Catalog.Keyed.effect`): objects are added under
their own numbers or names, and no change of an object touches these. Reading a document gives a
keyed catalog to start with, so every catalog that is ever reached is keyed.

An operation that succeeds saves the catalog, and the document of a keyed catalog is read as that
catalog. So reading the document after such an operation gives back what is in memory, and saving
that again writes the same text (`Store.load_of_perform`).

It also follows that an invariant of keyed catalogs is a matter of the operations alone
(`Store.Run.of_saved`).
-/

namespace Footprint

namespace Catalog

/-! ### Objects in their places -/

namespace Keyed

variable {c : Catalog}

theorem addTablespace (h : c.Keyed) (t : Tablespace) : (c.addTablespace t).Keyed :=
  { h with tablespaces := Dictionary.forall_mem_insert h.tablespaces rfl }

theorem addDatabase (h : c.Keyed) (d : Database) : (c.addDatabase d).Keyed :=
  { h with databases := Dictionary.forall_mem_insert h.databases rfl }

theorem addRelation (h : c.Keyed) (r : Relation) : (c.addRelation r).Keyed :=
  { h with relations := Dictionary.forall_mem_insert h.relations rfl }

/-- A change of links leaves the relations that are left in their places. -/
theorem trimmed {rs : Dictionary Int Relation} (h : c.Keyed) (hrs : Trimmed rs c.relations) :
    Keyed { c with relations := rs } := by
  have hrelations : ∀ entry ∈ rs.entries, entry.1 = entry.2.oid := by
    rintro ⟨oid, r⟩ hentry
    obtain ⟨old, hold, hbare⟩ := hrs.exists_entry hentry
    have hkey : oid = old.oid := h.relations _ hold
    have hoid : r.bare.oid = old.bare.oid := congrArg Relation.oid hbare
    exact hkey.trans hoid.symm
  exact { h with relations := hrelations }

theorem linked (h : c.Keyed) (parent : Option Int) {f : Relation → Relation}
    (hf : ∀ r, (f r).bare = r.bare) : (c.linked parent f).Keyed := by
  rw [linked_eq]
  exact h.trimmed (linked_trimmed c parent hf)

theorem addIndexed (h : c.Keyed) (request : RelationRequest) (made : Relation) :
    (request.addIndexed made c).Keyed :=
  (h.addRelation made).linked request.indexOf (Relation.bare_addIndex made.oid)

/-- **No operation puts an object in a place that is not its own.** -/
theorem effect {op : Operation} {result : Except Error Unit} {left : Catalog} (h : c.Keyed)
    (heffect : Effect c op result left) : left.Keyed := by
  cases heffect with
  | refused => exact h
  | tablespace => exact h.addTablespace _
  | database => exact h.addDatabase _
  | role => exact { h with roles := Dictionary.forall_mem_insert h.roles rfl }
  | member => exact { h with roles := Dictionary.forall_mem_modify h.roles fun _ hr => hr }
  | databasePrivilege =>
    exact { h with databases := Dictionary.forall_mem_modify h.databases fun _ hd => hd }
  | tablespacePrivilege =>
    exact { h with tablespaces := Dictionary.forall_mem_modify h.tablespaces fun _ ht => ht }
  | @relation request made =>
    exact (h.addIndexed request made).linked request.toastOf (Relation.bare_setToast made.oid)
  | indexOfNothing => exact h.addRelation _
  | @toastOfNothing request made => exact h.addIndexed request made
  | dropped => exact h.trimmed (dropAll_trimmed _ _)

end Keyed

theorem persists_keyed : Store.Persists Keyed where
  bootstrap := bootstrap_keyed
  parse _ _ _ _ hparse := parse_keyed hparse

end Catalog

theorem Json.render_ne_empty {d : Datum} (h : d.Plain) : (Json.render d).isEmpty = false := by
  obtain ⟨first, rest, hwrite, -⟩ := Json.exists_write 0 h
  rw [Json.render, hwrite]
  simp

namespace Store

open Catalog (Operation)

theorem load_keyed {path : String} {document : Option String} {loaded : Store}
    (h : load path document = .ok loaded) : loaded.catalog.Keyed := by
  cases document with
  | none =>
    obtain rfl : saved .bootstrap = loaded := Except.ok.inj h
    exact Catalog.bootstrap_keyed
  | some text =>
    rcases load_some h with rfl | ⟨hparse, -⟩
    · exact Catalog.bootstrap_keyed
    · exact Catalog.parse_keyed hparse

/-- Every catalog that is reached from one that was read has its objects in their places. -/
theorem Run.keyed {allowed : Operation → Catalog → Prop} {path : String} {document : Option String}
    {start store : Store} (hstart : load path document = .ok start)
    (hrun : Run allowed start store) : store.catalog.Keyed := by
  have hkept : ∀ (op : Operation) (c : Catalog), c.Keyed → allowed op c →
      (op.change.on c).2.Keyed := fun op c h _ => h.effect (op.effect c)
  have hholds : Holds Catalog.Keyed start := ⟨load_keyed hstart, fun _ _ => load_keyed⟩
  exact (hrun.invariant Catalog.persists_keyed hkept hholds).catalog

/-- A catalog whose objects are in their places is not read as any other, so that it loses nothing
when it is saved. -/
theorem holds_saved_of_keyed {P : Catalog → Prop} {c : Catalog} (hkeyed : c.Keyed) (hc : P c) :
    Holds P (saved c) := by
  refine ⟨hc, fun path loaded hload => ?_⟩
  have hwritten : c.render.isEmpty = false := Json.render_ne_empty c.toDatum_plain
  change load path (some c.render) = .ok loaded at hload
  rw [load, hwritten] at hload
  cases hparse : Catalog.parse path c.render with
  | error e =>
    rw [hparse] at hload
    cases hload
  | ok catalog =>
    rw [hparse] at hload
    obtain rfl := Except.ok.inj hload
    exact Catalog.eq_of_parse_render hkeyed hparse ▸ hc

/-- What every operation keeps, and what only catalogs have whose objects are in their places, holds
after every run from a saved catalog. It need not hold of a new one. -/
theorem Run.of_saved {P : Catalog → Prop} {allowed : Operation → Catalog → Prop} {start : Catalog}
    {store : Store} (hkeyed : ∀ c, P c → c.Keyed)
    (hstep : ∀ op c, P c → allowed op c → P (op.change.on c).2) (hstart : P start)
    (hrun : Run allowed (saved start) store) : P store.catalog := by
  have hsaved : ∀ c, P c → Holds P (saved c) := fun c hc => holds_saved_of_keyed (hkeyed c hc) hc
  exact (hrun.invariant_of_saved hsaved hstep (hsaved start hstart)).catalog

/-- The text of plain data is read as the catalog that the data holds. -/
theorem load_render {d : Datum} (h : d.Plain)
    (hdigits : ∀ n ∈ d.integers, Json.digits n ≤ Text.digitLimit) (path : String) :
    load path (some (Json.render d)) =
      (Catalog.ofDatum path d).map fun catalog => ⟨catalog, Json.render d⟩ := by
  rw [load, Json.render_ne_empty h, Catalog.parse_render h,
    Json.checkDigits_eq_ok_iff.mpr hdigits]
  rfl

/-- The document of a catalog whose objects are in their places is read as that catalog. -/
theorem load_saved {c : Catalog} (hkeyed : c.Keyed)
    (hdigits : ∀ n ∈ c.toDatum.integers, Json.digits n ≤ Text.digitLimit) (path : String) :
    load path (some c.render) = .ok (saved c) := by
  rw [Catalog.render, load_render c.toDatum_plain hdigits, Catalog.ofDatum_toDatum hkeyed]
  rfl

/-- **The saved catalog is read back as it is in memory, and saving it again changes nothing.** This
holds after any operation that succeeds, whatever was done before to a catalog that was once read or
newly made. -/
theorem load_of_perform {path : String} {document : Option String} {start before after : Store}
    {op : Operation} (hstart : load path document = .ok start)
    (hrun : Run (fun _ _ => True) start before) (hop : before.perform op = (.ok (), after))
    (hdigits : ∀ n ∈ after.catalog.toDatum.integers, Json.digits n ≤ Text.digitLimit)
    (path' : String) :
    ∃ loaded, load path' (some after.document) = .ok loaded ∧ loaded.catalog = after.catalog ∧
      (saved loaded.catalog).document = after.document := by
  have hkeyed : after.catalog.Keyed := by
    have hafter := Run.keyed hstart (hrun.perform op trivial)
    rwa [hop] at hafter
  have hsaved : after = saved after.catalog := (perform_ok hop).2
  have hdocument : after.document = after.catalog.render := congrArg Store.document hsaved
  refine ⟨saved after.catalog, ?_, rfl, hdocument.symm⟩
  rw [hdocument]
  exact load_saved hkeyed hdigits path'

/-- A tablespace whose name has a quotation mark, a backslash and controls, with a privilege. -/
theorem load_of_perform_escaped :
    let name := "a\"b\\c\n\x01"
    let before := ((saved .bootstrap).perform (.createTablespace name "/d" (some (-3)))).2
    let after := (before.perform (.grant "tablespace" name "r" "CREATE")).2
    ∃ loaded, load "catalog.json" (some after.document) = .ok loaded ∧
      loaded.catalog = after.catalog ∧ (saved loaded.catalog).document = after.document := by
  intro name before after
  have hstart : load "catalog.json" none = .ok (saved .bootstrap) := rfl
  have hrun : Run (fun _ _ => True) (saved .bootstrap) before :=
    .perform _ .start trivial
  have hop : before.perform (.grant "tablespace" name "r" "CREATE") = (.ok (), after) :=
    Prod.ext (by decide) rfl
  exact load_of_perform hstart hrun hop (by decide) "catalog.json"

end Store

end Footprint
