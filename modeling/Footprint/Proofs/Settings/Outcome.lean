import Footprint.Proofs.Settings.Layers

/-!
# What comes of a mapping

A configuration document is a mapping from names to values, and it is settings or one of two errors
that come of it. This depends on two things only: which of its names are unknown, and the last value
of each setting, which is what the environment says of it, else what the mapping says, else the
default (`Settings.lastValue`). An `Outcome` says what it depends on them. Unknown names come first;
without any, a last value that is neither a text nor null is complained about; and without such a
value each setting is its last value.

An outcome is fixed by the two but for one thing: of several settings whose last values are no texts
any one may be complained about (`Outcome.agree`). Which one it is depends on the order in which the
mapping is written, and nothing else does.
-/

namespace Footprint

namespace Yaml.Value

/-- A value that a setting may have: a text, or null for an empty setting. -/
def IsTextOrNull (value : Value) : Prop := value = .null ∨ ∃ text, value = .text text

instance : DecidablePred IsTextOrNull
  | .null => isTrue (Or.inl rfl)
  | .text value => isTrue (Or.inr ⟨value, rfl⟩)
  | .bool _ | .int _ | .float _ | .bytes _ | .date _ | .list _ | .set _ | .mapping _ =>
    isFalse (by rintro (h | ⟨_, h⟩) <;> cases h)

end Yaml.Value

namespace Settings

open Yaml (Value)

variable {path : String} {environment : List (String × String)} {said : Dictionary String Value}
  {result result' : Except Error Settings} {e : Error} {name : String}

/-! ### Mappings as documents -/

/-- The entries of a document that says a mapping. -/
def written (said : Dictionary String Value) : List (Value × Value) :=
  said.entries.map fun entry => (.text entry.1, entry.2)

theorem texts_written (said : Dictionary String Value) : texts (written said) = said.entries := by
  rw [texts, written, List.filterMap_map]
  exact List.filterMap_some

theorem nameless?_written (said : Dictionary String Value) : nameless? (written said) = none := by
  rw [nameless?, List.find?_eq_none]
  intro name hname
  obtain ⟨entry, hentry, rfl⟩ := List.mem_map.mp hname
  obtain ⟨_, -, rfl⟩ := List.mem_map.mp hentry
  exact Bool.false_ne_true

/-- The names of a mapping that are not those of settings. -/
def unknownKeys (said : Dictionary String Value) : Finset String :=
  said.keys.toFinset \ names.toFinset

theorem mem_unknownKeys : name ∈ unknownKeys said ↔ name ∈ said.keys ∧ name ∉ names := by
  rw [unknownKeys, Finset.mem_sdiff, List.mem_toFinset, List.mem_toFinset]

theorem loadRead_written (path : String) (said : Dictionary String Value)
    (environment : List (String × String)) :
    loadRead path (some (.ok (.mapping (written said)))) environment =
      if unknownKeys said = ∅ then
        ofValues <$> (override environment said).entries.mapM textOrNull
      else .error (.configurationKeysUnknown (unknownKeys said).sort) := by
  have hunknown : unknownNames (written said) = unknownKeys said := by
    rw [unknownNames, texts_written]
    rfl
  have hnames : namedEntries (written said) = if unknownKeys said = ∅ then .ok said
      else .error (.configurationKeysUnknown (unknownKeys said).sort) := by
    rw [namedEntries_eq (nameless?_written said), hunknown, texts_written,
      Dictionary.ofEntries_entries]
  rw [loadRead_some, rootEntries_mapping]
  change settle environment (written said) = _
  rw [settle, hnames]
  split <;> rfl

/-! ### Last values -/

/-- The default of a setting as a value. -/
def defaultValue (name : String) : Value :=
  match ({} : Settings).get name with
  | some text => .text text
  | none => .null

/-- The value of a setting in the end: what the environment says of it, else what the mapping says,
else the default. -/
def lastValue (said : Dictionary String Value) (environment : List (String × String))
    (name : String) : Value :=
  match environmentText environment name with
  | some text => .text text
  | none => (said.find? name).getD (defaultValue name)

theorem text?_defaultValue (name : String) :
    (defaultValue name).text? = ({} : Settings).get name := by
  unfold defaultValue
  split
  · next text htext => exact htext.symm
  · next hnone => exact hnone.symm

theorem isTextOrNull_defaultValue (name : String) : (defaultValue name).IsTextOrNull := by
  unfold defaultValue
  split
  · exact Or.inr ⟨_, rfl⟩
  · exact Or.inl rfl

theorem lastValue_eq (said : Dictionary String Value) (environment : List (String × String))
    (name : String) : lastValue said environment name =
      ((override environment said).find? name).getD (defaultValue name) := by
  rw [find?_override, lastValue]
  cases environmentText environment name <;> rfl

/-- Without unknown names, what is said in the end is said of settings. -/
theorem mem_names_of_override (h : unknownKeys said = ∅) {entry : String × Value}
    (hentry : entry ∈ (override environment said).entries) : entry.1 ∈ names := by
  have henvironment : ∀ name ∈ environmentNames, name ∈ names := by decide
  have hfind := Dictionary.find?_eq_some_iff.mpr hentry
  rw [find?_override, environmentText] at hfind
  by_contra hname
  -- The environment is silent about what is no setting, so the mapping itself has the name.
  rw [if_neg fun hmem => hname (henvironment _ hmem)] at hfind
  have hunknown := mem_unknownKeys.mpr ⟨Dictionary.mem_keys_of_find? hfind, hname⟩
  rw [h] at hunknown
  exact Finset.notMem_empty _ hunknown

/-- An entry in the end is the last value of its name. -/
theorem lastValue_of_override {entry : String × Value}
    (hentry : entry ∈ (override environment said).entries) :
    lastValue said environment entry.1 = entry.2 := by
  rw [lastValue_eq, Dictionary.find?_eq_some_iff.mpr hentry, Option.getD_some]

/-- Unless a setting is said to be something else, its last value is a text or null. -/
theorem isTextOrNull_lastValue
    (h : ∀ entry ∈ (override environment said).entries, entry.2.IsTextOrNull) (name : String) :
    (lastValue said environment name).IsTextOrNull := by
  rw [lastValue_eq]
  cases hfind : (override environment said).find? name with
  | none => exact isTextOrNull_defaultValue name
  | some value => exact h _ (Dictionary.mem_entries_of_find? hfind)

/-- What is not let through is the value of a name that is complained about. -/
theorem exists_of_mapM_textOrNull_error {values : List (String × Value)}
    (h : values.mapM textOrNull = .error e) :
    ∃ entry ∈ values, ¬entry.2.IsTextOrNull ∧ e = .configurationNotText entry.1 := by
  induction values with
  | nil => cases h
  | cons entry rest ih =>
    rw [List.mapM_cons] at h
    rcases Except.bind_eq_error.mp h with hentry | ⟨_, -, h⟩
    · refine ⟨entry, List.mem_cons_self, ?_⟩
      rw [textOrNull] at hentry
      split at hentry
      · cases hentry
      · cases hentry
      · next hnull htext =>
        refine ⟨?_, (Except.error.inj hentry).symm⟩
        rintro (h | ⟨text, h⟩)
        · exact hnull h
        · exact htext text h
    · rcases Except.bind_eq_error.mp h with hrest | ⟨_, -, h⟩
      · obtain ⟨other, hother, hvalue⟩ := ih hrest
        exact ⟨other, List.mem_cons_of_mem _ hother, hvalue⟩
      · cases h

/-! ### Outcomes -/

/-- What comes of the names that are unknown and the last values of the settings. -/
inductive Outcome (unknown : Finset String) (value : String → Value) :
    Except Error Settings → Prop
  | refused (hunknown : unknown ≠ ∅) :
      Outcome unknown value (.error (.configurationKeysUnknown unknown.sort))
  | notText (hunknown : unknown = ∅) {name : String} (hname : name ∈ names)
      (hvalue : ¬(value name).IsTextOrNull) :
      Outcome unknown value (.error (.configurationNotText name))
  | loaded (hunknown : unknown = ∅) (hvalues : ∀ name ∈ names, (value name).IsTextOrNull)
      {settings : Settings} (hget : ∀ name ∈ names, settings.get name = (value name).text?) :
      Outcome unknown value (.ok settings)

/-- **A mapping and an environment** have the outcome of the unknown names and the last values. -/
theorem outcome_loadRead (path : String) (said : Dictionary String Value)
    (environment : List (String × String)) :
    Outcome (unknownKeys said) (lastValue said environment)
      (loadRead path (some (.ok (.mapping (written said)))) environment) := by
  rw [loadRead_written]
  split
  · next hunknown =>
    cases hvalues : (override environment said).entries.mapM textOrNull with
    | error e =>
      obtain ⟨entry, hentry, hvalue, rfl⟩ := exists_of_mapM_textOrNull_error hvalues
      rw [← lastValue_of_override hentry] at hvalue
      exact .notText hunknown (mem_names_of_override hunknown hentry) hvalue
    | ok values =>
      -- What is not said at all is looked up as the default, which is a text or null as well.
      obtain ⟨rfl, hforms⟩ := mapM_textOrNull_ok hvalues
      refine .loaded hunknown (fun name _ => isTextOrNull_lastValue hforms name) fun name hname => ?_
      let values := (override environment said).mapValues Value.text?
      calc (ofValues values.entries).get name
          = (values.find? name).getD (defaultValue name).text? := by
            rw [get_ofValues _ hname, text?_defaultValue]
            rfl
        _ = (((override environment said).find? name).getD (defaultValue name)).text? := by
            rw [Dictionary.find?_mapValues, Option.getD_map]
        _ = (lastValue said environment name).text? := by rw [lastValue_eq]
  · next hunknown => exact .refused hunknown

/-- Settings are told apart by what they are. -/
theorem ext_get {settings settings' : Settings}
    (h : ∀ name ∈ names, settings.get name = settings'.get name) : settings = settings' := by
  cases settings
  cases settings'
  simpa [names, get] using h

namespace Outcome

variable {unknown : Finset String} {value : String → Value}

theorem exists_error_iff (h : Outcome unknown value result) :
    (∃ e, result = .error e) ↔
      unknown ≠ ∅ ∨ ∃ name ∈ names, ¬(value name).IsTextOrNull := by
  cases h with
  | refused hunknown => exact iff_of_true ⟨_, rfl⟩ (Or.inl hunknown)
  | notText _ hname hvalue => exact iff_of_true ⟨_, rfl⟩ (Or.inr ⟨_, hname, hvalue⟩)
  | loaded hunknown hvalues =>
    refine iff_of_false nofun ?_
    rintro (hne | ⟨name, hname, hvalue⟩)
    · exact hne hunknown
    · exact hvalue (hvalues name hname)

theorem eq_of_ne_empty (h : Outcome unknown value result) (hunknown : unknown ≠ ∅) :
    result = .error (.configurationKeysUnknown unknown.sort) := by
  cases h with
  | refused => rfl
  | notText hempty | loaded hempty => exact absurd hempty hunknown

theorem eq_of_not_text (h : Outcome unknown value result) (hunknown : unknown = ∅)
    (hvalue : ∃ name ∈ names, ¬(value name).IsTextOrNull) :
    ∃ name ∈ names, ¬(value name).IsTextOrNull ∧
      result = .error (.configurationNotText name) := by
  cases h with
  | refused hne => exact absurd hunknown hne
  | notText _ hname hvalue => exact ⟨_, hname, hvalue, rfl⟩
  | loaded _ hvalues =>
    obtain ⟨name, hname, hvalue⟩ := hvalue
    exact absurd (hvalues name hname) hvalue

theorem eq_of_texts (h : Outcome unknown value result) (hunknown : unknown = ∅)
    (hvalues : ∀ name ∈ names, (value name).IsTextOrNull) :
    ∃ settings, result = .ok settings ∧ ∀ name ∈ names, settings.get name = (value name).text? := by
  cases h with
  | refused hne => exact absurd hunknown hne
  | notText _ hname hvalue => exact absurd (hvalues _ hname) hvalue
  | loaded _ _ hget => exact ⟨_, rfl, hget⟩

theorem category_eq (h : Outcome unknown value (.error e)) : e.category = some .config := by
  cases h <;> rfl

/-- **The outcome is fixed** but for the setting that is complained about. -/
theorem agree (h : Outcome unknown value result) (h' : Outcome unknown value result') :
    result' = result ∨ ∃ name ∈ names, ∃ name' ∈ names,
      result = .error (.configurationNotText name) ∧
      result' = .error (.configurationNotText name') := by
  -- Two different constructors contradict each other, so only like ones are left.
  cases h with
  | refused hunknown =>
    cases h' with
    | refused => exact Or.inl rfl
    | notText hempty | loaded hempty => exact absurd hempty hunknown
  | notText hunknown hname hvalue =>
    cases h' with
    | refused hne => exact absurd hunknown hne
    | notText _ hname' _ => exact Or.inr ⟨_, hname, _, hname', rfl, rfl⟩
    | loaded _ hvalues => exact absurd (hvalues _ hname) hvalue
  | loaded hunknown hvalues hget =>
    cases h' with
    | refused hne => exact absurd hunknown hne
    | notText _ hname' hvalue => exact absurd (hvalues _ hname') hvalue
    | loaded _ _ hget' =>
      refine Or.inl (congrArg Except.ok (ext_get fun name hname => ?_))
      rw [hget name hname, hget' name hname]

end Outcome

theorem unknownKeys_eq_empty_iff : unknownKeys said = ∅ ↔ ∀ name ∈ said.keys, name ∈ names := by
  simp only [Finset.eq_empty_iff_forall_notMem, mem_unknownKeys, not_and, not_not]

theorem unknownKeys_ne_empty_iff :
    unknownKeys said ≠ ∅ ↔ ∃ name ∈ said.keys, name ∉ names := by
  rw [ne_eq, unknownKeys_eq_empty_iff]
  push Not
  rfl

/-- The outcome of a mapping does not depend on the order in which it is written. -/
theorem outcome_of_perm {other : Dictionary String Value}
    (h : other.entries.Perm said.entries) (path : String) (environment : List (String × String)) :
    Outcome (unknownKeys said) (lastValue said environment)
      (loadRead path (some (.ok (.mapping (written other)))) environment) := by
  have hunknown : unknownKeys other = unknownKeys said :=
    congrArg (· \ names.toFinset) (List.toFinset_eq_of_perm _ _ (h.map Prod.fst))
  have hvalue : lastValue other environment = lastValue said environment := by
    funext name
    rw [lastValue, lastValue, Dictionary.find?_of_perm h]
  rw [← hunknown, ← hvalue]
  exact outcome_loadRead path other environment

/-- **Settings come of a mapping in layers.** The environment stands before the mapping and the
mapping before the defaults. There is an error if and only if some name is unknown or the last value
of some setting is neither a text nor null, and every error is about the configuration. Unknown names
are complained about first, all of them and in order; then a setting whose last value is neither;
and if there is none, every setting is its last value. The order in which the mapping is written has
no influence but on which of these settings is complained about. -/
theorem loadRead_mapping (path : String) (said : Dictionary String Value)
    (environment : List (String × String)) :
    let outcome := loadRead path (some (.ok (.mapping (written said)))) environment
    let value := lastValue said environment
    ((∃ e, outcome = .error e ∧ e.category = some .config) ↔
      (∃ name ∈ said.keys, name ∉ names) ∨ ∃ name ∈ names, ¬(value name).IsTextOrNull) ∧
    (∀ e, outcome = .error e → e.category = some .config) ∧
    ((∃ name ∈ said.keys, name ∉ names) → ∃ keys,
      outcome = .error (.configurationKeysUnknown keys) ∧
      (Error.configurationKeysUnknown keys).message =
        "Unknown configuration keys: " ++ ", ".intercalate keys ∧
      keys.Pairwise (· < ·) ∧ ∀ name, name ∈ keys ↔ name ∈ said.keys ∧ name ∉ names) ∧
    ((∀ name ∈ said.keys, name ∈ names) → (∃ name ∈ names, ¬(value name).IsTextOrNull) →
      ∃ name ∈ names, ¬(value name).IsTextOrNull ∧
        outcome = .error (.configurationNotText name)) ∧
    ((∀ name ∈ said.keys, name ∈ names) → (∀ name ∈ names, (value name).IsTextOrNull) →
      ∃ settings, outcome = .ok settings ∧
        ∀ name ∈ names, settings.get name = (value name).text?) ∧
    (∀ other : Dictionary String Value, other.entries.Perm said.entries →
      let outcome' := loadRead path (some (.ok (.mapping (written other)))) environment
      outcome' = outcome ∨ ∃ name ∈ names, ∃ name' ∈ names,
        outcome = .error (.configurationNotText name) ∧
        outcome' = .error (.configurationNotText name')) := by
  intro outcome value
  have houtcome : Outcome (unknownKeys said) value outcome :=
    outcome_loadRead path said environment
  have hcategory : ∀ e, outcome = .error e → e.category = some .config := by
    intro e he
    rw [he] at houtcome
    exact houtcome.category_eq
  refine ⟨?_, hcategory, fun hunknown => ?_, fun hknown hvalue => ?_, fun hknown hvalues => ?_,
    fun other hother => houtcome.agree (outcome_of_perm hother path environment)⟩
  · rw [← unknownKeys_ne_empty_iff, ← houtcome.exists_error_iff]
    exact exists_congr fun e => and_iff_left_of_imp (hcategory e)
  · rw [← unknownKeys_ne_empty_iff] at hunknown
    refine ⟨(unknownKeys said).sort, houtcome.eq_of_ne_empty hunknown, rfl,
      Finset.sortedLT_sort _ |>.pairwise, fun name => ?_⟩
    rw [Finset.mem_sort, mem_unknownKeys]
  · exact houtcome.eq_of_not_text (unknownKeys_eq_empty_iff.mpr hknown) hvalue
  · exact houtcome.eq_of_texts (unknownKeys_eq_empty_iff.mpr hknown) hvalues

/-- A role that is a number: hidden by the environment, complained about without it, wherever it is
written, and passed over for names that are unknown. -/
theorem loadRead_mapping_role :
    let said : Dictionary String Value := .ofEntries [("role", .int 5), ("data_dir", .null)]
    let other : Dictionary String Value := .ofEntries [("data_dir", .null), ("role", .int 5)]
    let strange : Dictionary String Value := .ofEntries [("role", .int 5), ("user", .null)]
    let given := [("DBSIZE_ROLE", "monitor"), ("DBSIZE_DATA_DIR", "")]
    let load := fun said environment =>
      loadRead "dbsize.yaml" (some (.ok (.mapping (written said)))) environment
    (∃ settings, load said given = .ok settings ∧ settings.get "role" = some "monitor" ∧
      settings.get "data_dir" = none) ∧
    (∃ name ∈ names, load said [] = .error (.configurationNotText name)) ∧
    (∃ keys, load strange [] = .error (.configurationKeysUnknown keys) ∧ "user" ∈ keys) ∧
    (other.entries.Perm said.entries ∧ ∃ e, load other [] = .error e) := by
  intro said other strange given load
  have hknown : ∀ name ∈ said.keys, name ∈ names := by decide +kernel
  have hgiven : ∀ name ∈ names, (lastValue said given name).IsTextOrNull := by decide +kernel
  have hnumber : ∃ name ∈ names, ¬(lastValue said [] name).IsTextOrNull := by decide +kernel
  have hstrange : ∃ name ∈ strange.keys, name ∉ names := by decide +kernel
  have hperm : other.entries.Perm said.entries := List.Perm.swap _ _ []
  obtain ⟨-, -, -, -, hloaded, -⟩ := loadRead_mapping "dbsize.yaml" said given
  obtain ⟨-, -, -, hnotText, -, hother⟩ := loadRead_mapping "dbsize.yaml" said []
  obtain ⟨-, -, hrefused, -⟩ := loadRead_mapping "dbsize.yaml" strange []
  obtain ⟨settings, hsettings, hget⟩ := hloaded hknown hgiven
  obtain ⟨name, hname, -, herror⟩ := hnotText hknown hnumber
  obtain ⟨keys, hkeys, -, -, hmem⟩ := hrefused hstrange
  refine ⟨⟨settings, hsettings, ?_, ?_⟩, ⟨name, hname, herror⟩, ⟨keys, hkeys, ?_⟩, hperm, ?_⟩
  · rw [hget "role" (by decide)]
    decide +kernel
  · rw [hget "data_dir" (by decide)]
    decide +kernel
  · exact (hmem "user").mpr (by decide +kernel)
  · rcases hother other hperm with hsame | ⟨_, -, _, -, -, hsame⟩
    · exact ⟨_, hsame.trans herror⟩
    · exact ⟨_, hsame⟩

end Settings

end Footprint
