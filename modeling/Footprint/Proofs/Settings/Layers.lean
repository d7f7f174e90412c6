import Footprint.Proofs.Settings.Document

/-!
# What settings are in the end

A setting is what the environment says of it, else what the document says, else the default
(`Settings.get_loadRead`). The defaults are texts but for the document of the catalog, and what the
environment says is a text. A document can say texts and nulls, and nothing else is let through
(`Settings.settle_ok`).

So there is one way for a setting to be empty: the document says that it is null, and the
environment is silent. This is meant for the document of the catalog, which then has its place in
the data directory. It can be said of all the others as well, and then they are no texts; without a
data directory there is no place for the catalog either (`Settings.exists_get_iff`,
`Settings.exists_catalogPath_iff`).
-/

namespace Footprint.Settings

open Yaml (Fault Value)

variable {path name : String} {environment : List (String × String)}
  {read : Option (Except Fault Value)} {settings : Settings}

/-! ### Layers -/

/-- What the environment says of a setting. -/
def environmentText (environment : List (String × String)) (name : String) : Option String :=
  if name ∈ environmentNames then
    (environment.lookup (variableName name)).filter (!·.isEmpty)
  else none

/-- What a document says of a setting. -/
def documentValue (read : Option (Except Fault Value)) (name : String) : Option Value :=
  match read with
  | some (.ok (.mapping entries)) => (Dictionary.ofEntries (texts entries)).find? name
  | _ => none

/-- What is said of a setting, the environment before the document. -/
def finalValue (read : Option (Except Fault Value)) (environment : List (String × String))
    (name : String) : Option Value :=
  match environmentText environment name with
  | some text => some (.text text)
  | none => documentValue read name

/-- A setting by its name. -/
def get (settings : Settings) (name : String) : Option String :=
  match name with
  | "data_dir" => settings.dataDirectory
  | "catalog_file" => settings.catalogFile
  | "tablespace_version_directory" => settings.version
  | "role" => settings.role
  | "database" => settings.database
  | "log_level" => settings.logLevel
  | _ => none

/-- What is said of some names stands before what was there, whatever is said of the others. -/
theorem find?_foldl_insert (said : String → Option String) (among : List String)
    (entries : Dictionary String Value) (name : String) :
    (among.foldl (fun entries other =>
      match said other with
      | some text => entries.insert other (.text text)
      | none => entries) entries).find? name =
      match if name ∈ among then said name else none with
      | some text => some (.text text)
      | none => entries.find? name := by
  induction among generalizing entries with
  | nil => rfl
  | cons other rest ih =>
    rw [List.foldl_cons, ih]
    by_cases hother : name = other
    · subst hother
      rw [if_pos List.mem_cons_self]
      cases hsaid : said name with
      | none => simp
      | some text => split <;> simp_all [Dictionary.find?_insert]
    · have hmem : name ∈ other :: rest ↔ name ∈ rest := by
        rw [List.mem_cons, or_iff_right hother]
      rw [if_congr hmem rfl rfl]
      cases said other with
      | none => rfl
      | some text => rw [Dictionary.find?_insert, if_neg hother]

/-- **The environment stands before the document.** -/
theorem find?_override (environment : List (String × String)) (entries : Dictionary String Value)
    (name : String) :
    (override environment entries).find? name = match environmentText environment name with
      | some text => some (.text text)
      | none => entries.find? name :=
  find?_foldl_insert (fun other => (environment.lookup (variableName other)).filter (!·.isEmpty))
    environmentNames entries name

theorem get_ofValues (values : List (String × Option String)) (hname : name ∈ names) :
    (ofValues values).get name = (values.lookup name).getD (({} : Settings).get name) := by
  simp only [names, List.mem_cons, List.not_mem_nil, or_false] at hname
  rcases hname with rfl | rfl | rfl | rfl | rfl | rfl <;> rfl

theorem textOrNull_ok {entry : String × Value} {found : String × Option String}
    (h : textOrNull entry = .ok found) :
    found = (entry.1, entry.2.text?) ∧ (entry.2 = .null ∨ ∃ text, entry.2 = .text text) := by
  obtain ⟨name, value⟩ := entry
  cases value with
  | null => exact ⟨(Except.ok.inj h).symm, Or.inl rfl⟩
  | text text => exact ⟨(Except.ok.inj h).symm, Or.inr ⟨text, rfl⟩⟩
  | _ => cases h

/-- What is let through are texts and nulls. -/
theorem mapM_textOrNull_ok {values : List (String × Value)} {found : List (String × Option String)}
    (h : values.mapM textOrNull = .ok found) :
    found = values.map (fun entry => (entry.1, entry.2.text?)) ∧
      ∀ entry ∈ values, entry.2 = .null ∨ ∃ text, entry.2 = .text text := by
  induction values generalizing found with
  | nil =>
    obtain rfl := Except.ok.inj h
    exact ⟨rfl, nofun⟩
  | cons entry rest ih =>
    rw [List.mapM_cons] at h
    obtain ⟨first, hfirst, h⟩ := Except.bind_eq_ok.mp h
    obtain ⟨others, hothers, h⟩ := Except.bind_eq_ok.mp h
    obtain rfl := Except.ok.inj h
    obtain ⟨rfl, hentry⟩ := textOrNull_ok hfirst
    obtain ⟨rfl, hrest⟩ := ih hothers
    exact ⟨rfl, List.forall_mem_cons.mpr ⟨hentry, hrest⟩⟩

/-- Entries that are let through come down to what is said in the end. -/
theorem settle_ok {entries : List (Value × Value)} (h : settle environment entries = .ok settings) :
    let values := override environment (.ofEntries (texts entries))
    (∀ entry ∈ values.entries, entry.2 = .null ∨ ∃ text, entry.2 = .text text) ∧
      settings = ofValues (values.mapValues Value.text?).entries := by
  intro said
  obtain ⟨found, hfound, h⟩ := Except.bind_eq_ok.mp h
  cases hname : nameless? entries with
  | some name =>
    obtain ⟨e, he, -⟩ := exists_namedEntries_error hname
    cases he.symm.trans hfound
  | none =>
    rw [namedEntries_eq hname] at hfound
    split_ifs at hfound
    obtain rfl := Except.ok.inj hfound
    cases hvalues : said.entries.mapM textOrNull with
    | error e =>
      rw [hvalues] at h
      cases h
    | ok values =>
      rw [hvalues] at h
      obtain rfl := Except.ok.inj h
      obtain ⟨rfl, hforms⟩ := mapM_textOrNull_ok hvalues
      exact ⟨hforms, rfl⟩

/-- A document that is let through is looked at by its entries; one that says nothing has none. -/
theorem exists_settle (h : loadRead path read environment = .ok settings) :
    ∃ entries, settle environment entries = .ok settings ∧
      ∀ name, (Dictionary.ofEntries (texts entries)).find? name = documentValue read name := by
  cases read with
  | none => exact ⟨[], h, fun _ => rfl⟩
  | some root =>
    rw [loadRead_some] at h
    cases root with
    | error fault => cases fault <;> cases h
    | ok root =>
      by_cases hroot : ∃ entries, root = .mapping entries
      · obtain ⟨entries, rfl⟩ := hroot
        rw [rootEntries_mapping] at h
        exact ⟨entries, h, fun _ => rfl⟩
      · have hsilent : ∀ name, documentValue (some (.ok root)) name = none := by
          intro name
          cases root with
          | mapping entries => exact absurd ⟨entries, rfl⟩ hroot
          | _ => rfl
        cases hnothing : root.isNothing with
        | true =>
          rw [rootEntries_nothing hnothing] at h
          exact ⟨[], h, fun name => (hsilent name).symm⟩
        | false =>
          rw [rootEntries_other hnothing (not_exists.mp hroot)] at h
          cases h

/-- **A setting is what is said of it in the end, or else the default**, and nothing is said but
texts and nulls. -/
theorem get_loadRead (h : loadRead path read environment = .ok settings) (hname : name ∈ names) :
    match finalValue read environment name with
    | some (.text text) => settings.get name = some text
    | some value => value = .null ∧ settings.get name = none
    | none => settings.get name = ({} : Settings).get name := by
  obtain ⟨entries, hsettle, hdocument⟩ := exists_settle h
  obtain ⟨hforms, rfl⟩ := settle_ok hsettle
  have hfinal : (override environment (.ofEntries (texts entries))).find? name =
      finalValue read environment name := by
    rw [find?_override, hdocument, finalValue]
  have hget : ∀ values : Dictionary String (Option String),
      (ofValues values.entries).get name = (values.find? name).getD (({} : Settings).get name) :=
    fun values => get_ofValues values.entries hname
  rw [hget, Dictionary.find?_mapValues, hfinal]
  cases hvalue : finalValue read environment name with
  | none => rfl
  | some value =>
    have hentry := Dictionary.mem_entries_of_find? (hfinal.trans hvalue)
    rcases hforms _ hentry with hnull | ⟨text, htext⟩
    · obtain rfl : value = .null := hnull
      exact ⟨rfl, rfl⟩
    · obtain rfl : value = .text text := htext
      rfl

/-! ### Settings that can be used -/

/-- The names of the settings that should be texts. -/
def textNames : List String :=
  ["data_dir", "tablespace_version_directory", "role", "database", "log_level"]

/-- All settings are texts that should be, and the catalog has a place. -/
structure Usable (settings : Settings) : Prop where
  texts : ∀ name ∈ textNames, ∃ text, settings.get name = some text
  catalogPath : ∃ path, settings.catalogPath = .ok path

/-- The catalog has a place by itself or in the data directory. -/
theorem exists_catalogPath_iff (settings : Settings) :
    (∃ path, settings.catalogPath = .ok path) ↔
      (∃ file, settings.catalogFile = some file ∧ file ≠ "") ∨
        ∃ directory, settings.dataDirectory = some directory := by
  have hfile : (∃ file, settings.catalogFile.filter (!·.isEmpty) = some file) ↔
      ∃ file, settings.catalogFile = some file ∧ file ≠ "" := by
    simp [Option.filter_eq_some_iff]
  rw [← hfile, catalogPath]
  cases settings.catalogFile.filter (!·.isEmpty) with
  | some file => simp
  | none => cases settings.dataDirectory <;> simp

/-- **A setting that should be a text is one unless it is left null.** -/
theorem exists_get_iff (h : loadRead path read environment = .ok settings)
    (hname : name ∈ textNames) :
    (∃ text, settings.get name = some text) ↔
      finalValue read environment name ≠ some .null := by
  have hmem : ∀ name ∈ textNames, name ∈ names := by decide
  have hdefault : ∀ name ∈ textNames, (({} : Settings).get name).isSome = true := by decide
  have hget := get_loadRead h (hmem name hname)
  cases hfinal : finalValue read environment name with
  | none =>
    rw [hfinal] at hget
    rw [hget]
    exact iff_of_true (Option.isSome_iff_exists.mp (hdefault name hname)) nofun
  | some value =>
    rw [hfinal] at hget
    cases value with
    | text text => exact iff_of_true ⟨text, hget⟩ nofun
    | null =>
      refine iff_of_false ?_ fun hne => hne rfl
      rintro ⟨text, htext⟩
      rw [hget.2] at htext
      cases htext
    | _ => cases hget.1

/-- **Settings can be used if and only if nothing that should be a text is left null.** Each of them
is a text by itself on the same condition, and the catalog has a place if the data directory is a
text or the catalog has a document of its own. -/
theorem loadRead_usable (h : loadRead path read environment = .ok settings) :
    (settings.Usable ↔ ∀ name ∈ textNames, finalValue read environment name ≠ some .null) ∧
      (∀ name ∈ textNames, (∃ text, settings.get name = some text) ↔
        finalValue read environment name ≠ some .null) ∧
      ((∃ path, settings.catalogPath = .ok path) ↔
        (∃ file, settings.catalogFile = some file ∧ file ≠ "") ∨
          finalValue read environment "data_dir" ≠ some .null) := by
  have htexts (name : String) (hname : name ∈ textNames) := exists_get_iff h hname
  have hplace := exists_catalogPath_iff settings
  rw [← htexts "data_dir" (by decide)]
  refine ⟨⟨fun husable name hname => ?_, fun hnull => ⟨fun name hname => ?_, ?_⟩⟩, htexts, hplace⟩
  · exact (htexts name hname).mp (husable.texts name hname)
  · exact (htexts name hname).mpr (hnull name hname)
  · exact hplace.mpr (Or.inr ((htexts "data_dir" (by decide)).mpr (hnull "data_dir" (by decide))))

/-- The data directory is left null by the document and given by the environment, and the catalog
has no document of its own. -/
theorem loadRead_usable_environment :
    let root : Value := .mapping [(.text "data_dir", .null), (.text "catalog_file", .null),
      (.text "role", .text "monitor")]
    let environment := [("DBSIZE_DATA_DIR", "/srv")]
    ∃ settings, loadRead "dbsize.yaml" (some (.ok root)) environment = .ok settings ∧
      settings.Usable ∧ settings.catalogPath = .ok "/srv/catalog.json" := by
  intro root environment
  let settings : Settings := { dataDirectory := some "/srv", role := some "monitor" }
  have hload : loadRead "dbsize.yaml" (some (.ok root)) environment = .ok settings := by
    decide +kernel
  have hkinds : ∀ name ∈ textNames,
      (finalValue (some (.ok root)) environment name).map Value.kindName ≠
        some (Value.kindName .null) := by
    decide +kernel
  refine ⟨settings, hload, (loadRead_usable hload).1.mpr fun name hname hnull => ?_, by decide⟩
  exact hkinds name hname (congrArg (Option.map Value.kindName) hnull)

/-- A data directory that is null is let through, and then the catalog has no place. -/
theorem loadRead_null_directory :
    let root : Value := .mapping [(.text "data_dir", .null)]
    ∃ settings, loadRead "dbsize.yaml" (some (.ok root)) [] = .ok settings ∧
      settings.dataDirectory = none ∧
      settings.catalogPath =
        .error (.misshapen "expected str, bytes or os.PathLike object, not NoneType") := by
  refine ⟨{ dataDirectory := none }, ?_, rfl, rfl⟩
  decide +kernel

end Footprint.Settings
