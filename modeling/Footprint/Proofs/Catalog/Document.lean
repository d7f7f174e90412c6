import Footprint.Catalog.Document
import Footprint.Proofs.Dictionary
import Footprint.Proofs.Json.RoundTrip

/-!
# The document of a catalog

Every kind of object is read back from the data it is written as, with all its fields, and so is a
list of objects of one kind. Reading a document puts each object under its own number or name, so a
catalog can only come back from its document if its objects stand there already: such a catalog is
`Catalog.Keyed`, and every catalog that was read from a document is (`Catalog.ofDatum_keyed`).

`Catalog.parse_render` joins this to the round trip of the text. The text of plain data, which the
data of a catalog is, is read as the catalog that the data holds, unless one of its integers has
more digits than are read.
-/

namespace Footprint

theorem Except.bind_eq_ok {ε α β : Type} {x : Except ε α} {f : α → Except ε β} {b : β} :
    x >>= f = .ok b ↔ ∃ a, x = .ok a ∧ f a = .ok b := by
  cases x with
  | error e => exact ⟨nofun, fun ⟨_, h, _⟩ => nomatch h⟩
  | ok a => exact ⟨fun h => ⟨a, rfl, h⟩, fun ⟨_, h, hf⟩ => by cases h; exact hf⟩

namespace CatalogDocument

/-! ### Reading back single values -/

theorem mapM_map_ok {α β : Type} {encode : α → β} {read : β → Except Error α}
    (h : ∀ a, read (encode a) = .ok a) (as : List α) : (as.map encode).mapM read = .ok as := by
  have hread : read ∘ encode = fun a => pure (id a) := funext h
  rw [List.mapM_map, hread, List.mapM_pure, List.map_id]
  rfl

theorem listOf_texts (texts : List String) : listOf text (.list (texts.map .text)) = .ok texts := by
  have hread : ∀ s, text (.text s) = .ok s := fun _ => rfl
  exact mapM_map_ok hread texts

theorem listOf_ints (ints : List Int) : listOf int (.list (ints.map .int)) = .ok ints := by
  have hread : ∀ n, int (.int n) = .ok n := fun _ => rfl
  exact mapM_map_ok hread ints

/-- The privileges of a role as a field. -/
def aclField (entry : String × List String) : String × Datum :=
  (entry.1, .list (entry.2.map .text))

/-- The privileges of a role from a field. -/
def aclEntry (field : String × Datum) : Except Error (String × List String) := do
  pure (field.1, ← listOf text field.2)

theorem aclEntry_aclField (entry : String × List String) :
    aclEntry (aclField entry) = .ok entry := by
  rw [aclEntry, aclField, listOf_texts]
  rfl

theorem acl_aclDatum (a : Acl) : acl (aclDatum a) = .ok a := by
  change (Dictionary.ofEntries <$> (a.entries.map aclField).mapM aclEntry) = _
  rw [mapM_map_ok aclEntry_aclField]
  exact congrArg Except.ok (Dictionary.ofEntries_entries a)

theorem intOrNull_optionalInt (n : Option Int) : intOrNull (optionalInt n) = .ok n := by
  cases n <;> rfl

theorem persistence_letter (p : Storage.Persistence) :
    persistence (.text p.letter) = .ok p := by
  cases p <;> rfl

/-! ### Reading back objects -/

theorem tablespace_toDatum (t : Tablespace) : fieldsOf t.toDatum >>= tablespace = .ok t := by
  change (do pure (⟨t.oid, t.name, t.location, ← acl (aclDatum t.acl)⟩ : Tablespace)) = _
  rw [acl_aclDatum]
  rfl

theorem database_toDatum (d : Database) : fieldsOf d.toDatum >>= database = .ok d := by
  change (do pure (⟨d.oid, d.name, d.defaultTablespace, ← acl (aclDatum d.acl)⟩ : Database)) = _
  rw [acl_aclDatum]
  rfl

theorem role_toDatum (r : Role) : fieldsOf r.toDatum >>= role = .ok r := by
  change (do pure (⟨r.name, r.superuser, ← listOf text (.list (r.memberOf.map .text))⟩ : Role)) = _
  rw [listOf_texts]
  rfl

theorem relation_toDatum (r : Relation) : fieldsOf r.toDatum >>= relation = .ok r := by
  change (do
    let p ← persistence (.text r.persistence.letter)
    let backend ← intOrNull (optionalInt r.backend)
    let toast ← intOrNull (optionalInt r.toast)
    let indexes ← listOf int (.list (r.indexes.map .int))
    pure (⟨r.oid, r.name, r.database, r.kind, r.fileNumber, r.tablespace, p, backend, toast,
      indexes⟩ : Relation)) = _
  rw [persistence_letter, intOrNull_optionalInt, intOrNull_optionalInt, listOf_ints]
  rfl

section Objects

variable {κ ν : Type} [DecidableEq κ] {fields : Fields} {name : String}
  {read : Fields → Except Error ν} {key : ν → κ}

/-- The objects of a dictionary are read back if each of them stands under its key. -/
theorem objects_values {encode : ν → Datum} {d : Dictionary κ ν}
    (hread : ∀ v, fieldsOf (encode v) >>= read = .ok v)
    (hkeys : ∀ entry ∈ d.entries, entry.1 = key entry.2)
    (hfield : Datum.field? name fields = some (.list (d.values.map encode))) :
    objects fields name read key = .ok d := by
  rw [objects, hfield]
  change (Dictionary.ofValues key <$> (d.values.map encode).mapM fun item =>
    fieldsOf item >>= read) = _
  rw [mapM_map_ok hread]
  exact congrArg Except.ok (Dictionary.ofValues_values hkeys)

/-- Objects that were read stand under their keys. -/
theorem objects_keyed {d : Dictionary κ ν} (h : objects fields name read key = .ok d) :
    ∀ entry ∈ d.entries, entry.1 = key entry.2 := by
  obtain ⟨found, -, h⟩ := Except.bind_eq_ok.mp h
  obtain ⟨values, -, h⟩ := Except.bind_eq_ok.mp h
  obtain rfl : Dictionary.ofValues key values = d := Except.ok.inj h
  refine Dictionary.forall_mem_ofEntries fun entry hentry => ?_
  obtain ⟨value, -, rfl⟩ := List.mem_map.mp hentry
  rfl

end Objects

end CatalogDocument

/-! ### Catalogs as data -/

/-- Data that is written for an object is plain. -/
theorem aclDatum_plain (a : Acl) : (aclDatum a).Plain := by
  refine .record ?_ fun field hfield => ?_
  · rw [List.map_map]
    exact a.keys_nodup
  · obtain ⟨⟨role, privileges⟩, -, rfl⟩ := List.mem_map.mp hfield
    refine .list fun item hitem => ?_
    obtain ⟨privilege, -, rfl⟩ := List.mem_map.mp hitem
    exact .text privilege

theorem optionalInt_plain (n : Option Int) : (optionalInt n).Plain := by
  cases n
  · exact .null
  · exact .int _

theorem Datum.Plain.map {α : Type} {encode : α → Datum} (h : ∀ a, (encode a).Plain)
    (as : List α) : (Datum.list (as.map encode)).Plain := by
  refine .list fun item hitem => ?_
  obtain ⟨a, -, rfl⟩ := List.mem_map.mp hitem
  exact h a

theorem Tablespace.toDatum_plain (t : Tablespace) : t.toDatum.Plain := by
  refine .record (by simp) ?_
  simp only [List.forall_mem_cons]
  exact ⟨.int _, .text _, .text _, aclDatum_plain _, nofun⟩

theorem Database.toDatum_plain (d : Database) : d.toDatum.Plain := by
  refine .record (by simp) ?_
  simp only [List.forall_mem_cons]
  exact ⟨.int _, .text _, .int _, aclDatum_plain _, nofun⟩

theorem Role.toDatum_plain (r : Role) : r.toDatum.Plain := by
  refine .record (by simp) ?_
  simp only [List.forall_mem_cons]
  exact ⟨.text _, .bool _, .map .text _, nofun⟩

theorem Relation.toDatum_plain (r : Relation) : r.toDatum.Plain := by
  refine .record (by simp) ?_
  simp only [List.forall_mem_cons]
  exact ⟨.int _, .text _, .int _, .text _, .int _, .int _, .text _, optionalInt_plain _,
    optionalInt_plain _, .map .int _, nofun⟩

namespace Catalog

theorem toDatum_plain (c : Catalog) : c.toDatum.Plain := by
  refine .record (by simp) ?_
  simp only [List.forall_mem_cons]
  exact ⟨.int _, .map Tablespace.toDatum_plain _, .map Database.toDatum_plain _,
    .map Relation.toDatum_plain _, .map Role.toDatum_plain _, nofun⟩

/-- Every object stands under its own number or name. -/
structure Keyed (c : Catalog) : Prop where
  tablespaces : ∀ entry ∈ c.tablespaces.entries, entry.1 = entry.2.oid
  databases : ∀ entry ∈ c.databases.entries, entry.1 = entry.2.oid
  relations : ∀ entry ∈ c.relations.entries, entry.1 = entry.2.oid
  roles : ∀ entry ∈ c.roles.entries, entry.1 = entry.2.name

theorem bootstrap_keyed : bootstrap.Keyed where
  tablespaces := by decide
  databases := by decide
  relations := by decide
  roles := by decide

open CatalogDocument in
theorem ofDatum_toDatum {c : Catalog} (h : c.Keyed) (path : String) :
    ofDatum path c.toDatum = .ok c := by
  rw [toDatum, ofDatum]
  rw [objects_values tablespace_toDatum h.tablespaces rfl,
    objects_values database_toDatum h.databases rfl,
    objects_values relation_toDatum h.relations rfl, objects_values role_toDatum h.roles rfl]
  rfl

/-- A catalog that was read has its objects in their places. -/
theorem ofDatum_keyed {path : String} {d : Datum} {c : Catalog} (h : ofDatum path d = .ok c) :
    c.Keyed := by
  cases d with
  | record fields =>
    obtain ⟨tablespaces, htablespaces, h⟩ := Except.bind_eq_ok.mp h
    obtain ⟨databases, hdatabases, h⟩ := Except.bind_eq_ok.mp h
    obtain ⟨relations, hrelations, h⟩ := Except.bind_eq_ok.mp h
    obtain ⟨roles, hroles, h⟩ := Except.bind_eq_ok.mp h
    obtain ⟨nextOid, -, h⟩ := Except.bind_eq_ok.mp h
    obtain rfl := Except.ok.inj h
    exact ⟨CatalogDocument.objects_keyed htablespaces, CatalogDocument.objects_keyed hdatabases,
      CatalogDocument.objects_keyed hrelations, CatalogDocument.objects_keyed hroles⟩
  | _ => cases h

theorem parse_keyed {path text : String} {c : Catalog} (h : parse path text = .ok c) : c.Keyed := by
  unfold parse at h
  split at h
  · exact ofDatum_keyed h
  · cases h
  · cases h

/-- **The text of plain data is read as the catalog that the data holds**, unless one of its
integers is too long. -/
theorem parse_render {d : Datum} (h : d.Plain) (path : String) : parse path (Json.render d) =
    match Json.checkDigits Text.digitLimit d.integers with
    | .ok _ => ofDatum path d
    | .error .malformed => .error (.catalogCorrupted path)
    | .error (.numberTooLong digits) => .error (.integerTooLong digits) := by
  rw [parse, Json.read_render h]
  rcases Json.checkDigits Text.digitLimit d.integers with (_ | digits) | _ <;> rfl

/-- The document of a keyed catalog is not read as any other. -/
theorem eq_of_parse_render {c loaded : Catalog} (h : c.Keyed) {path : String}
    (hparse : parse path c.render = .ok loaded) : loaded = c := by
  rw [render, parse_render c.toDatum_plain, ofDatum_toDatum h] at hparse
  split at hparse
  · exact (Except.ok.inj hparse).symm
  · cases hparse
  · cases hparse

end Catalog

end Footprint
