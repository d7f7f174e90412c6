import Footprint.Error
import Footprint.Storage.Path
import Footprint.Storage.Tree

/-!
# Settings

What can be configured: where the data lies, who asks and how much is logged. A setting may be left
empty, which is not the same as leaving it out.
-/

namespace Footprint

/-- The settings, with their defaults. -/
structure Settings where
  dataDirectory : Option String := some "data"
  /-- The document of the catalog, if it is not in the data directory. -/
  catalogFile : Option String := none
  version : Option String := some Storage.defaultVersion
  role : Option String := some "postgres"
  database : Option String := some "postgres"
  logLevel : Option String := some "WARNING"
  deriving DecidableEq, Repr, Inhabited

namespace Settings

/-- How an empty setting is shown. -/
def emptyText : String := "None"

/-- The name of the document of the catalog in a data directory. -/
def catalogName : String := "catalog.json"

/-- The version directory of the tablespaces. -/
def versionDirectory (settings : Settings) : String := settings.version.getD emptyText

/-- The path of the document of the catalog, which needs a data directory unless it is set by
itself. -/
def catalogPath (settings : Settings) : Except Error String :=
  match settings.catalogFile.filter (!·.isEmpty) with
  | some path => .ok path
  | none =>
    match settings.dataDirectory with
    | some directory => .ok (Storage.joinPath directory catalogName)
    | none => .error (.misshapen "expected str, bytes or os.PathLike object, not NoneType")

end Settings

end Footprint
