import Footprint.Session
import Footprint.Text.Quoted

/-!
# Workspaces

The directories and documents among which the program runs: the configuration and the catalog are
documents, and the data directory has to be a directory. Paths are taken from the working directory,
which is there itself, and so are the directories above it.
-/

namespace Footprint

/-- Directories and documents by their paths. -/
structure Workspace where
  directories : List (List String)
  documents : Dictionary (List String) String
  deriving DecidableEq, Repr

namespace Workspace

/-- The part of a path that leads one directory up. -/
def up : String := ".."

/-- The parts of a path without detours: going down and up again cancels out. -/
def straighten (parts : List String) : List String :=
  (parts.foldl (fun done part =>
    match done with
    | last :: before => if part = up ∧ last ≠ up then before else part :: done
    | [] => [part]) []).reverse

/-- What a path is known under, if it can be known at all. -/
def key (path : String) : List String :=
  let parts := straighten (Storage.pathParts path)
  if Storage.isAbsolute path then "/" :: parts.filter (· ≠ up) else parts

/-- Is there a directory under this key? -/
def isDirectoryKey (workspace : Workspace) (key : List String) : Bool :=
  key.all (· == up) || key == ["/"] || workspace.directories.contains key

/-- Is there a directory at a path? An empty path leads nowhere. -/
def isDirectory (workspace : Workspace) (path : String) : Bool :=
  !path.isEmpty && workspace.isDirectoryKey (key path)

/-- The document at a path, if there is anything. -/
def document (workspace : Workspace) (path : String) : Except Error (Option String) :=
  if workspace.isDirectory path then .error (.fileIsDirectory (Text.quoted path))
  else if path.isEmpty then .ok none
  else .ok (workspace.documents.find? (key path))

/-- Fails unless a document can be made at a path where there is none. -/
def checkPlace (workspace : Workspace) (path : String) : Except Error Unit :=
  let above := (key path).dropLast
  if path.isEmpty then .error (.fileMissing (Text.quoted path))
  else if workspace.isDirectoryKey above then .ok ()
  else if (Storage.ancestors (key path)).any workspace.documents.contains then
    .error (.fileNotDirectory (Text.quoted path))
  else .error (.fileMissing (Text.quoted path))

/-- The path as it is shown, without parts that do not count. -/
def shownPath (path : String) : String :=
  let parts := "/".intercalate (Storage.pathParts path)
  if Storage.isAbsolute path then "/" ++ parts
  else if parts.isEmpty then "."
  else parts

/-- The text of a configuration document, if there is one. -/
def configuration (workspace : Workspace) (path : String) : Except Error (Option String) :=
  workspace.document (shownPath path)

/-- The path of the catalog that settings describe, and its text if there is one. -/
def catalog (workspace : Workspace) (settings : Settings) :
    Except Error (String × Option String) := do
  match settings.dataDirectory with
  | none =>
    throw (.misshapen "stat: path should be string, bytes, os.PathLike or integer, not NoneType")
  | some directory =>
    if !workspace.isDirectory directory then throw (.dataDirectoryMissing directory)
    let path ← settings.catalogPath
    let text ← workspace.document path
    if text.isNone then workspace.checkPlace path
    pure (path, text)

/-- The workspace with a document. -/
def put (workspace : Workspace) (path text : String) : Workspace :=
  { workspace with documents := workspace.documents.insert (key path) text }

/-- The session that settings describe. A catalog that is not there yet is made. -/
def openSession (workspace : Workspace) (settings : Settings) : Except Error Session × Workspace :=
  match workspace.catalog settings with
  | .error e => (.error e, workspace)
  | .ok (path, text) =>
    match Store.load path text with
    | .error e => (.error e, workspace)
    | .ok store => (Session.start settings store, workspace.put path store.document)

/-- The documents that are not the same in another workspace, with their paths. -/
def documentsBeside (workspace other : Workspace) : List (String × String) :=
  (workspace.documents.entries.filter fun (key, text) => other.documents.find? key ≠ some text).map
    fun (key, text) => ("/".intercalate key, text)

end Workspace

end Footprint
