import Footprint.Catalog.Store
import Footprint.Inquiry
import Footprint.Settings

/-!
# Sessions

A session holds the catalog of a data directory and who is asking: a role and a current database.
The two are checked against the catalog when they are chosen, and inquiries are made as the viewer
that was found then. A session that is shut down has no viewer until one is chosen again.
-/

namespace Footprint

open Storage (Scan)

/-- The state between requests. -/
structure Session where
  settings : Settings
  store : Store
  /-- The name of the current database. -/
  database : String
  role : Option String
  viewer : Option Viewer
  deriving DecidableEq, Repr

namespace Session

/-- The key under which a viewer is missed once the session is shut down. -/
def viewerKey : String := "'size_calculator'"

/-- Makes the current role and database the viewer. -/
def adopt (session : Session) : Except Error Unit × Session :=
  match Viewer.ofNames session.store.catalog session.role session.database with
  | .ok viewer => (.ok (), { session with viewer := some viewer })
  | .error e => (.error e, session)

/-- Chooses the current database. -/
def useDatabase (name : String) (session : Session) : Except Error Unit × Session :=
  if (session.store.catalog.findDatabase name).isNone then (.error (.databaseMissing name), session)
  else { session with database := name }.adopt

/-- Chooses the current role. -/
def setRole (name : String) (session : Session) : Except Error Unit × Session :=
  if session.store.catalog.roles.contains name then { session with role := some name }.adopt
  else (.error (.roleMissing name), session)

/-- Ends the session, as far as inquiries go. -/
def shutDown (session : Session) : Session := { session with viewer := none }

/-- A session on a catalog, as the role and on the database of the settings. -/
def start (settings : Settings) (store : Store) : Except Error Session :=
  match settings.database with
  | none => .error (.databaseMissing Settings.emptyText)
  | some name =>
    let session : Session := ⟨settings, store, name, settings.role, none⟩
    match session.useDatabase name with
    | (.ok _, started) => .ok started
    | (.error e, _) => .error e

/-- A new session with the same settings on the saved catalog. -/
def reload (session : Session) : Except Error Session := do
  let path ← session.settings.catalogPath
  start session.settings (← Store.load path (some session.store.document))

/-- Changes the catalog. -/
def update {α : Type} (change : Catalog.Update α) (session : Session) : Except Error α × Session :=
  let (result, store) := session.store.updateOn .limited [] change
  (result, { session with store })

/-- Drops a relation with what hangs on it. The result are the relations that were taken away. -/
def drop (oid : Int) (session : Session) : Except Error (List Relation) × Session :=
  let onTheWay := Catalog.dropOnTheWay oid session.store.catalog
  let (result, store) := session.store.updateOn .limited onTheWay (Catalog.dropRelation oid)
  (result, { session with store })

/-- What inquiries are answered from. -/
def inquiry (session : Session) : Except Error Inquiry :=
  match session.viewer with
  | some viewer => .ok ⟨session.store.catalog, viewer, session.settings.versionDirectory⟩
  | none => .error (.missingKey viewerKey)

/-- A scan that needs a viewer. -/
def ask {α : Type} (session : Session) (request : Inquiry → Scan α) : Scan α :=
  Scan.ofExcept session.inquiry >>= request

/-- What scans of the session look at. -/
def view (session : Session) (tree : Storage.Tree) (watch : Option Storage.Watch) :
    Storage.View :=
  ⟨tree, session.settings.dataDirectory.getD Settings.emptyText, watch⟩

end Session

end Footprint
