import Footprint.Catalog.Basic
import Footprint.Json.Reader
import Footprint.Json.Writer

/-!
# Catalogs as documents

A catalog is kept as a JSON document: a record with the next number and four lists of objects, each
a record of its own. A missing field has its default, except for the numbers and names that identify
an object. Of two objects of one number the later one counts, at the place of the earlier.
-/

namespace Footprint

/-! ### Writing -/

/-- Privileges as data. -/
def aclDatum (acl : Acl) : Datum :=
  .record (acl.entries.map fun (role, privileges) => (role, .list (privileges.map .text)))

/-- A number that may be missing as data. -/
def optionalInt : Option Int → Datum
  | none => .null
  | some n => .int n

namespace Tablespace

/-- A tablespace as data. -/
def toDatum (t : Tablespace) : Datum :=
  .record [("oid", .int t.oid), ("name", .text t.name), ("location", .text t.location),
    ("acl", aclDatum t.acl)]

end Tablespace

namespace Database

/-- A database as data. -/
def toDatum (d : Database) : Datum :=
  .record [("oid", .int d.oid), ("name", .text d.name),
    ("default_tablespace_id", .int d.defaultTablespace), ("acl", aclDatum d.acl)]

end Database

namespace Role

/-- A role as data. -/
def toDatum (r : Role) : Datum :=
  .record [("name", .text r.name), ("superuser", .bool r.superuser),
    ("member_of", .list (r.memberOf.map .text))]

end Role

namespace Relation

/-- A relation as data. -/
def toDatum (r : Relation) : Datum :=
  .record [("oid", .int r.oid), ("name", .text r.name), ("database_id", .int r.database),
    ("relkind", .text r.kind), ("relfilenode", .int r.fileNumber),
    ("tablespace_id", .int r.tablespace), ("persistence", .text r.persistence.letter),
    ("backend", optionalInt r.backend), ("toast_relid", optionalInt r.toast),
    ("index_oids", .list (r.indexes.map .int))]

end Relation

namespace Catalog

/-- A catalog as data. -/
def toDatum (c : Catalog) : Datum :=
  .record [("next_oid", .int c.nextOid),
    ("tablespaces", .list (c.tablespaces.values.map Tablespace.toDatum)),
    ("databases", .list (c.databases.values.map Database.toDatum)),
    ("relations", .list (c.relations.values.map Relation.toDatum)),
    ("roles", .list (c.roles.values.map Role.toDatum))]

/-- The text of the document of a catalog. -/
def render (c : Catalog) : String := Json.render c.toDatum

end Catalog

/-! ### Reading -/

namespace CatalogDocument

/-- The fields of a record. -/
abbrev Fields := List (String × Datum)

/-- A value that cannot stand where a value of another kind has to. -/
def unexpected (value : Datum) : Error :=
  .misshapen s!"a value of the kind {value.kindName} is out of place"

/-- The items of a list of objects. A text that is empty and a record without fields have none, and
other texts and records have texts for items. -/
def items : Datum → Except Error (List Datum)
  | .list found => .ok found
  | .text s => .ok (s.toList.map fun c => .text (String.singleton c))
  | .record fields => .ok (fields.map fun field => .text field.1)
  | other => .error (.misshapen s!"'{other.kindName}' object is not iterable")

/-- The fields of an object. -/
def fieldsOf : Datum → Except Error Fields
  | .record fields => .ok fields
  | .text _ => .error (.misshapen "string indices must be integers, not 'str'")
  | .list _ => .error (.misshapen "list indices must be integers or slices, not str")
  | other => .error (.misshapen s!"'{other.kindName}' object is not subscriptable")

/-- A field that every object of its kind has. -/
def required (fields : Fields) (name : String) : Except Error Datum :=
  match Datum.field? name fields with
  | some value => .ok value
  | none => .error (.missingKey (Text.quoted name))

/-- A field that has a default. -/
def optional {α : Type} (fields : Fields) (name : String) (read : Datum → Except Error α)
    (default : α) : Except Error α :=
  match Datum.field? name fields with
  | some value => read value
  | none => .ok default

/-- A whole number. -/
def int : Datum → Except Error Int
  | .int n => .ok n
  | other => .error (unexpected other)

/-- A whole number or nothing. -/
def intOrNull : Datum → Except Error (Option Int)
  | .null => .ok none
  | other => some <$> int other

/-- A text. -/
def text : Datum → Except Error String
  | .text s => .ok s
  | other => .error (unexpected other)

/-- A truth value. -/
def bool : Datum → Except Error Bool
  | .bool b => .ok b
  | other => .error (unexpected other)

/-- A list of values of one kind. -/
def listOf {α : Type} (read : Datum → Except Error α) : Datum → Except Error (List α)
  | .list items => items.mapM read
  | other => .error (unexpected other)

/-- Privileges by role. -/
def acl : Datum → Except Error Acl
  | .record fields => do
    let entries ← fields.mapM fun (role, privileges) => do
      pure (role, ← listOf text privileges)
    pure (.ofEntries entries)
  | other => .error (unexpected other)

/-- A persistence by its letter. -/
def persistence (value : Datum) : Except Error Storage.Persistence :=
  let found := match value with
    | .text s => Storage.Persistence.ofLetter? s
    | _ => none
  match found with
  | some p => .ok p
  | none => .error (.persistence value.shown)

/-- A tablespace. -/
def tablespace (fields : Fields) : Except Error Tablespace := do
  let oid ← required fields "oid"
  let name ← required fields "name"
  pure {
    oid := ← int oid
    name := ← text name
    location := ← optional fields "location" text ""
    acl := ← optional fields "acl" acl .empty }

/-- A database. -/
def database (fields : Fields) : Except Error Database := do
  let oid ← required fields "oid"
  let name ← required fields "name"
  pure {
    oid := ← int oid
    name := ← text name
    defaultTablespace :=
      ← optional fields "default_tablespace_id" int Storage.defaultTablespace
    acl := ← optional fields "acl" acl .empty }

/-- A relation. -/
def relation (fields : Fields) : Except Error Relation := do
  let oid ← required fields "oid"
  let name ← required fields "name"
  let database ← required fields "database_id"
  let persistence ← optional fields "persistence" persistence .permanent
  pure {
    oid := ← int oid
    name := ← text name
    database := ← int database
    persistence
    kind := ← optional fields "relkind" text Relation.tableKind
    fileNumber := ← optional fields "relfilenode" int Relation.unset
    tablespace := ← optional fields "tablespace_id" int Relation.unset
    backend := ← optional fields "backend" intOrNull none
    toast := ← optional fields "toast_relid" intOrNull none
    indexes := ← optional fields "index_oids" (listOf int) [] }

/-- A role. -/
def role (fields : Fields) : Except Error Role := do
  let name ← required fields "name"
  pure {
    name := ← text name
    superuser := ← optional fields "superuser" bool false
    memberOf := ← optional fields "member_of" (listOf text) [] }

/-- A list of objects, by their keys. -/
def objects {κ ν : Type} [DecidableEq κ] (document : Fields) (name : String)
    (read : Fields → Except Error ν) (key : ν → κ) : Except Error (Dictionary κ ν) := do
  let found ← items ((Datum.field? name document).getD (.list []))
  pure (.ofValues key (← found.mapM fun item => fieldsOf item >>= read))

end CatalogDocument

namespace Catalog

open CatalogDocument in
/-- A document as a catalog. -/
def ofDatum (path : String) : Datum → Except Error Catalog
  | .record fields => do
    pure {
      tablespaces := ← objects fields "tablespaces" tablespace Tablespace.oid
      databases := ← objects fields "databases" database Database.oid
      relations := ← objects fields "relations" CatalogDocument.relation Relation.oid
      roles := ← objects fields "roles" role Role.name
      nextOid := ← optional fields "next_oid" int firstUserOid }
  | _ => .error (.catalogNotARecord path)

/-- The catalog that a document of the given path holds. -/
def parse (path text : String) : Except Error Catalog :=
  match Json.read text with
  | .ok value => ofDatum path value
  | .error .malformed => .error (.catalogCorrupted path)
  | .error (.numberTooLong digits) => .error (.integerTooLong digits)

end Catalog

end Footprint
