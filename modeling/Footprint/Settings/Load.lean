import Footprint.Dictionary
import Footprint.Settings
import Footprint.Text.LetterCase
import Footprint.Yaml.Value

/-!
# Where settings come from

Settings are the defaults, then what the configuration document says, then what the environment
says. The document is a mapping from the names of the settings to texts or nulls. Names that are no
setting are complained about before values that are no text, and a variable of the environment that
is empty says nothing.
-/

namespace Footprint.Settings

/-- The names of the settings. -/
def names : List String :=
  ["data_dir", "catalog_file", "tablespace_version_directory", "role", "database", "log_level"]

/-- The names of the settings that the environment may give. -/
def environmentNames : List String := ["data_dir", "role", "database", "log_level"]

/-- The variable of the environment for a setting. -/
def variableName (name : String) : String := "DBSIZE_" ++ Text.upper name

/-- The entries of a configuration document, by what it is read as. The root has to be a mapping
unless it says nothing. -/
def rootEntries (path : String) :
    Except Yaml.Fault Yaml.Value → Except Error (List (Yaml.Value × Yaml.Value))
  | .error .malformed => .error (.configurationMalformed path)
  | .error (.unreadable e) => .error e
  | .ok root =>
    if root.isNothing then .ok []
    else
      match root with
      | .mapping entries => .ok entries
      | _ => .error .configurationNotAMapping

/-- The name that an entry has, if it is a text. A name that is none is found out when the unknown
names are put in order and into a text, and which complaint that gives depends on the order in which
they are compared. Here it is the one about a single name, of which nothing is said but its kind. -/
def entryName : Yaml.Value → Except Error String
  | .text name => .ok name
  | other =>
    .error (.misshapen s!"sequence item 0: expected str instance, {other.kindName} found")

/-- The entries by their names. Only settings may be named. -/
def namedEntries (entries : List (Yaml.Value × Yaml.Value)) :
    Except Error (Dictionary String Yaml.Value) := do
  let named ← entries.mapM fun (name, value) => do pure (← entryName name, value)
  let found : Dictionary String Yaml.Value := .ofEntries named
  let unknown := found.keys.filter (!names.contains ·)
  if unknown.isEmpty then pure found
  else throw (.configurationKeysUnknown (unknown.mergeSort fun a b => a ≤ b))

/-- The entries with what the environment says. -/
def override (environment : List (String × String)) (entries : Dictionary String Yaml.Value) :
    Dictionary String Yaml.Value :=
  environmentNames.foldl (fun entries name =>
    match (environment.lookup (variableName name)).filter (!·.isEmpty) with
    | some value => entries.insert name (.text value)
    | none => entries) entries

/-- A value that is a text or null. -/
def textOrNull (entry : String × Yaml.Value) : Except Error (String × Option String) :=
  match entry.2 with
  | .null => .ok (entry.1, none)
  | .text value => .ok (entry.1, some value)
  | _ => .error (.configurationNotText entry.1)

/-- The settings with the given values in place of the defaults. -/
def ofValues (values : List (String × Option String)) : Settings :=
  let defaults : Settings := {}
  { dataDirectory := (values.lookup "data_dir").getD defaults.dataDirectory
    catalogFile := (values.lookup "catalog_file").getD defaults.catalogFile
    version := (values.lookup "tablespace_version_directory").getD defaults.version
    role := (values.lookup "role").getD defaults.role
    database := (values.lookup "database").getD defaults.database
    logLevel := (values.lookup "log_level").getD defaults.logLevel }

/-- The settings that a configuration document, if there is one, and an environment give, by what
the document is read as. -/
def loadRead (path : String) (read : Option (Except Yaml.Fault Yaml.Value))
    (environment : List (String × String)) : Except Error Settings := do
  let entries ← match read with
    | some root => rootEntries path root
    | none => pure []
  let values := (override environment (← namedEntries entries)).entries
  ofValues <$> values.mapM textOrNull

/-- The settings that a configuration document, if there is one, and an environment give. -/
def load (path : String) (document : Option String) (environment : List (String × String)) :
    Except Error Settings :=
  loadRead path (document.map Yaml.Value.ofText) environment

end Footprint.Settings
