import Footprint.Catalog.Change
import Footprint.Catalog.Document

/-!
# The stored catalog

The catalog in memory together with the document that it is saved in. Every change that succeeds is
saved; one that fails is not, although what it has done stays in memory. The dropping of a relation
is also saved on the way, each time that something which hangs on the relation has been dropped.

Saving can fail, and then the change stays in memory too, while the document holds what was written
by then. What comes of a save is up to the `Medium` that the document lies on. The catalog that a
missing document is replaced by is taken to be written whole.
-/

namespace Footprint

/-- A catalog and the text of its document. -/
structure Store where
  catalog : Catalog
  document : String
  deriving DecidableEq, Repr, Inhabited

namespace Store

/-- A catalog that has just been saved. -/
def saved (catalog : Catalog) : Store := ⟨catalog, catalog.render⟩

/-- The catalog of the document at a path. An empty document counts as none, and without a document
a new catalog is made. -/
def load (path : String) : Option String → Except Error Store
  | none => .ok (saved .bootstrap)
  | some text =>
    if text.isEmpty then .ok (saved .bootstrap)
    else (Catalog.parse path text).map fun catalog => ⟨catalog, text⟩

/-! ### Saving -/

/-- What comes of writing a catalog to the document. -/
inductive Saving where
  | whole
  /-- An error ends the writing, and the document is left with a text: with the old one if it could
  not be opened, else with as much of the new one as was written. -/
  | cut (e : Error) (left : String)
  deriving DecidableEq, Repr

/-- What a document lies on. -/
structure Medium where
  /-- What comes of a save: the how manieth of a change it is, counted from zero, the catalog that
  is to be written, and the text that the document holds. -/
  write : Nat → Catalog → String → Saving

/-- The medium on which every document can be written. -/
def Medium.faultless : Medium := ⟨fun _ _ _ => .whole⟩

/-- The medium on which writing fails at the first integer that has too many digits, and at nothing
else. -/
def Medium.limited : Medium where
  write _ catalog _ :=
    match Json.dump Text.digitLimit 0 catalog.toDatum with
    | .whole _ => .whole
    | .cut text => .cut Text.numberTooLong (String.ofList text)

/-- Saves one catalog after the other, each of them when it is what is in memory. The first that
cannot be written whole is the last. -/
def saveAll (medium : Medium) : Nat → List Catalog → Store → Except Error Unit × Store
  | _, [], store => (.ok (), store)
  | turn, catalog :: later, store =>
    match medium.write turn catalog store.document with
    | .whole => saveAll medium (turn + 1) later (saved catalog)
    | .cut e left => (.error e, ⟨catalog, left⟩)

/-- Makes a change, and if it succeeds saves the catalogs that there are on the way to it and the
one at its end. -/
def updateOn {α : Type} (medium : Medium) (onTheWay : List Catalog) (change : Catalog.Update α)
    (store : Store) : Except Error α × Store :=
  match change.run.run store.catalog with
  | (.ok a, catalog) =>
    let (result, store) := saveAll medium 0 (onTheWay ++ [catalog]) store
    (result.map fun _ => a, store)
  | (.error e, catalog) => (.error e, { store with catalog })

/-- Makes a change and saves the catalog if it succeeds, where every document can be written. -/
def update {α : Type} (change : Catalog.Update α) (store : Store) : Except Error α × Store :=
  store.updateOn .faultless [] change

end Store

end Footprint
