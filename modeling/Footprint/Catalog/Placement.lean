import Footprint.Catalog.Basic

/-!
# Placement

Where the files of a relation lie, and which relation a file belongs to. A relation that names no
tablespace lies in the default one of its database, and in the global tablespace a place has no
database.
-/

namespace Footprint.Catalog

/-- The place of a relation. -/
def locator (catalog : Catalog) (relation : Relation) : Except Error Storage.Locator := do
  let tablespace ← if relation.tablespace ≠ Relation.unset then .ok relation.tablespace
    else catalog.defaultTablespace relation.database
  let database := if tablespace = Storage.globalTablespace then 0 else relation.database
  pure ⟨tablespace, database, relation.fileNumber⟩

/-- Does a file number in a tablespace, zero for the default one, belong to a relation as seen from
a database? Temporary relations are not looked for. -/
def owns (database tablespace fileNumber : Int) (relation : Relation) : Bool :=
  relation.persistence != .temporary && relation.hasStorage &&
    relation.fileNumber == fileNumber &&
    if tablespace = Storage.globalTablespace then relation.isShared
    else relation.database == database && relation.tablespace == tablespace

/-- The number of the first relation that a file number belongs to. -/
def relationOfFile (catalog : Catalog) (database tablespace fileNumber : Int) :
    Except Error (Option Int) := do
  let default ← catalog.defaultTablespace database
  let tablespace := if tablespace = default then Relation.unset else tablespace
  pure ((catalog.relations.values.find? (owns database tablespace fileNumber)).map Relation.oid)

end Footprint.Catalog

namespace Footprint.Relation

/-- The backend whose number the files of a relation bear. -/
def fileBackend (relation : Relation) : Int :=
  if relation.persistence = .temporary then relation.backend.getD Storage.noBackend
  else Storage.noBackend

end Footprint.Relation
