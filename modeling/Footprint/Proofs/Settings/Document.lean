import Footprint.Proofs.Catalog.Document
import Footprint.Proofs.Dictionary
import Footprint.Settings.Load
import Mathlib.Data.Finset.Sort
import Mathlib.Data.String.Basic

/-!
# What is said against a configuration document

Whatever a configuration document is read as, settings come of it or an error. Most errors are about
the configuration and say so. Two are not (`Settings.Escapes`). One is that the document holds
something that is written like a number or a date and is none: then reading it ends with an error of
its own, which is passed on. The other is that a name in it is no text. Such a name is not that of a
setting, but it is among the names that are complained about, and the complaint is a text that is
made of texts. Only the kind of the error is said then (`Settings.Nameless`); its text depends on
the order in which the names are sorted.

A document whose root counts as nothing counts as none, even if it is no mapping: an empty sequence
is as good as an empty mapping.

The names come first, in one equation for those that are texts (`Settings.namedEntries_eq`), and
after that only a value can be wrong. So the errors of the whole are those of the root, of the names
and of the values, in this order.
-/

namespace Footprint

theorem Except.bind_eq_error {ε α β : Type} {x : Except ε α} {f : α → Except ε β} {e : ε} :
    x >>= f = .error e ↔ x = .error e ∨ ∃ a, x = .ok a ∧ f a = .error e := by
  cases x with
  | error e' => simp [bind, Except.bind]
  | ok a => simp [bind, Except.bind]

namespace Yaml.Value

/-- The text that a value is. -/
def text? : Value → Option String
  | text value => some value
  | _ => none

end Yaml.Value

namespace Settings

open Yaml (Fault Value)

variable {path : String} {environment : List (String × String)} {e : Error}
  {entries : List (Value × Value)} {read : Option (Except Fault Value)}

/-! ### Names -/

/-- The first name that is no text. -/
def nameless? (entries : List (Value × Value)) : Option Value :=
  (entries.map Prod.fst).find? fun name => name.text?.isNone

/-- The entries whose names are texts. -/
def texts (entries : List (Value × Value)) : List (String × Value) :=
  entries.filterMap fun (name, value) => name.text?.map (·, value)

/-- The names that are not those of settings. -/
def unknownNames (entries : List (Value × Value)) : Finset String :=
  ((texts entries).map Prod.fst).toFinset \ names.toFinset

/-- What is wrong with a name that is no text: it has the wrong kind, whatever is said about it. -/
inductive Nameless : Error → Prop
  | misshapen (reason : String) : Nameless (.misshapen reason)

theorem entryName_text {name : Value} {text : String} (h : name.text? = some text) :
    entryName name = .ok text := by
  cases name with
  | text value => exact congrArg Except.ok (Option.some.inj h)
  | _ => cases h

theorem exists_entryName_error {name : Value} (h : name.text? = none) :
    ∃ e, entryName name = .error e ∧ Nameless e := by
  cases name with
  | text value => cases h
  | _ => exact ⟨_, rfl, .misshapen _⟩

/-- Names that are all texts are read as they are. -/
theorem mapM_entryName (h : nameless? entries = none) :
    (entries.mapM fun (name, value) => do pure (← entryName name, value)) =
      .ok (texts entries) := by
  induction entries with
  | nil => rfl
  | cons entry rest ih =>
    obtain ⟨name, value⟩ := entry
    cases hname : name.text? with
    | none => simp [nameless?, hname] at h
    | some text =>
      have hrest : nameless? rest = none := by simpa [nameless?, hname] using h
      have htexts : texts ((name, value) :: rest) = (text, value) :: texts rest := by
        simp [texts, hname]
      rw [List.mapM_cons, ih hrest, htexts]
      dsimp only
      rw [entryName_text hname]
      rfl

/-- A name that is no text is complained about. -/
theorem exists_mapM_entryName_error {name : Value} (h : nameless? entries = some name) :
    ∃ e, (entries.mapM fun (name, value) => do pure (← entryName name, value)) = .error e ∧
      Nameless e := by
  induction entries with
  | nil => cases h
  | cons entry rest ih =>
    obtain ⟨other, value⟩ := entry
    rw [List.mapM_cons]
    dsimp only
    cases hname : other.text? with
    | none =>
      obtain ⟨e, he, hkind⟩ := exists_entryName_error hname
      exact ⟨e, by rw [he]; rfl, hkind⟩
    | some text =>
      have hrest : nameless? rest = some name := by simpa [nameless?, hname] using h
      obtain ⟨e, he, hkind⟩ := ih hrest
      exact ⟨e, by rw [entryName_text hname, he]; rfl, hkind⟩

theorem exists_namedEntries_error {name : Value} (h : nameless? entries = some name) :
    ∃ e, namedEntries entries = .error e ∧ Nameless e := by
  obtain ⟨e, he, hkind⟩ := exists_mapM_entryName_error h
  refine ⟨e, ?_, hkind⟩
  rw [namedEntries, he]
  rfl

/-- **What is said against names that are texts.** Those that are not those of settings are listed
in order, each once. -/
theorem namedEntries_eq (h : nameless? entries = none) :
    namedEntries entries =
      if unknownNames entries = ∅ then .ok (.ofEntries (texts entries))
      else .error (.configurationKeysUnknown (unknownNames entries).sort) := by
  rw [namedEntries, mapM_entryName h]
  let found : Dictionary String Value := .ofEntries (texts entries)
  let unknown := found.keys.filter (!names.contains ·)
  have hunknown : unknownNames entries = unknown.toFinset := by
    ext name
    rw [List.mem_toFinset, List.mem_filter, Dictionary.mem_keys_ofEntries, unknownNames,
      Finset.mem_sdiff, List.mem_toFinset, List.mem_toFinset]
    simp
  -- Sorting a list without repetitions is sorting the set of its items.
  have hperm : (unknown.mergeSort fun a b => a ≤ b).Perm unknown := List.mergeSort_perm unknown _
  have hnodup : (unknown.mergeSort fun a b => a ≤ b).Nodup :=
    hperm.nodup_iff.mpr (found.keys_nodup.filter _)
  have hsort : (unknownNames entries).sort = unknown.mergeSort fun a b => a ≤ b := by
    rw [hunknown, ← List.toFinset_eq_of_perm _ _ hperm]
    exact (List.toFinset_sort (· ≤ ·) hnodup).mpr (List.pairwise_mergeSort' (· ≤ ·) unknown)
  have hempty : unknownNames entries = ∅ ↔ unknown.isEmpty = true := by
    rw [hunknown, List.toFinset_eq_empty_iff, List.isEmpty_iff]
  have hbranches : (if unknown.isEmpty then Except.ok found
      else throw (Error.configurationKeysUnknown (unknown.mergeSort fun a b => a ≤ b))) =
        if unknownNames entries = ∅ then Except.ok found
        else .error (Error.configurationKeysUnknown (unknownNames entries).sort) := by
    rw [hsort]
    exact if_congr hempty.symm rfl rfl
  exact hbranches

/-! ### Values -/

theorem textOrNull_error {entry : String × Value} (h : textOrNull entry = .error e) :
    e.category = some .config := by
  rw [textOrNull] at h
  split at h
  · cases h
  · cases h
  · obtain rfl := Except.error.inj h
    rfl

/-- The values that are no texts are complained about as such. -/
theorem mapM_textOrNull_error {values : List (String × Value)}
    (h : values.mapM textOrNull = .error e) : e.category = some .config := by
  induction values with
  | nil => cases h
  | cons entry rest ih =>
    rw [List.mapM_cons] at h
    rcases Except.bind_eq_error.mp h with hentry | ⟨_, -, h⟩
    · exact textOrNull_error hentry
    · rcases Except.bind_eq_error.mp h with hrest | ⟨_, -, h⟩
      · exact ih hrest
      · cases h

/-! ### Documents -/

/-- The settings that entries give, with an environment. -/
def settle (environment : List (String × String)) (entries : List (Value × Value)) :
    Except Error Settings :=
  namedEntries entries >>= fun found =>
    ofValues <$> (override environment found).entries.mapM textOrNull

theorem loadRead_some (path : String) (root : Except Fault Value)
    (environment : List (String × String)) :
    loadRead path (some root) environment = rootEntries path root >>= settle environment := rfl

theorem rootEntries_mapping (path : String) (entries : List (Value × Value)) :
    rootEntries path (.ok (.mapping entries)) = .ok entries := by
  cases entries <;> rfl

theorem rootEntries_nothing {root : Value} (h : root.isNothing = true) (path : String) :
    rootEntries path (.ok root) = .ok [] := if_pos h

theorem rootEntries_other {root : Value} (hsomething : root.isNothing = false)
    (hroot : ∀ entries, root ≠ .mapping entries) (path : String) :
    rootEntries path (.ok root) = .error .configurationNotAMapping := by
  have hsomething' : ¬root.isNothing = true := by
    rw [hsomething]
    exact Bool.false_ne_true
  refine (if_neg hsomething').trans ?_
  cases root with
  | mapping entries => exact absurd rfl (hroot entries)
  | _ => rfl

theorem settle_of_names (h : namedEntries entries = .error e) :
    settle environment entries = .error e := by
  rw [settle, h]
  rfl

/-- If the root and the names are right, only a value can be wrong. -/
theorem settle_error (h : settle environment entries = .error e) :
    e.category = some .config ∨ (∃ name, nameless? entries = some name) ∧ Nameless e := by
  rcases Except.bind_eq_error.mp h with hnames | ⟨found, -, hvalues⟩
  · cases hname : nameless? entries with
    | some name =>
      obtain ⟨e', he', hkind⟩ := exists_namedEntries_error hname
      obtain rfl : e' = e := Except.error.inj (he'.symm.trans hnames)
      exact Or.inr ⟨⟨name, rfl⟩, hkind⟩
    | none =>
      rw [namedEntries_eq hname] at hnames
      split_ifs at hnames
      obtain rfl := Except.error.inj hnames
      exact Or.inl rfl
  · cases hmap : (override environment found).entries.mapM textOrNull with
    | error e' =>
      rw [hmap] at hvalues
      obtain rfl := Except.error.inj hvalues
      exact Or.inl (mapM_textOrNull_error hmap)
    | ok values =>
      rw [hmap] at hvalues
      cases hvalues

/-- What goes wrong with a document without being said to be about the configuration. -/
inductive Escapes : Option (Except Fault Value) → Error → Prop
  /-- Something in it is written like a value and is none. -/
  | unreadable (e : Error) : Escapes (some (.error (.unreadable e))) e
  /-- A name in it is no text. -/
  | nameless {entries : List (Value × Value)} {name : Value} {e : Error}
      (hname : nameless? entries = some name) (hkind : Nameless e) :
      Escapes (some (.ok (.mapping entries))) e

/-- What is said against a document as a whole. -/
inductive Wrong (path : String) : Option (Except Fault Value) → Error → Prop
  | malformed : Wrong path (some (.error .malformed)) (.configurationMalformed path)
  /-- Its root is something, and that is no mapping. -/
  | root {root : Value} (hsomething : root.isNothing = false)
      (hroot : ∀ entries, root ≠ .mapping entries) :
      Wrong path (some (.ok root)) .configurationNotAMapping
  /-- Its names are texts, and not all of them are those of settings. -/
  | names {entries : List (Value × Value)} (htexts : nameless? entries = none)
      (hunknown : unknownNames entries ≠ ∅) :
      Wrong path (some (.ok (.mapping entries)))
        (.configurationKeysUnknown (unknownNames entries).sort)

theorem Escapes.exists_loadRead_error (h : Escapes read e) :
    ∃ e', loadRead path read environment = .error e' ∧ Escapes read e' := by
  cases h with
  | unreadable => exact ⟨e, rfl, .unreadable e⟩
  | nameless hname =>
    obtain ⟨e', he', hkind⟩ := exists_namedEntries_error hname
    refine ⟨e', ?_, .nameless hname hkind⟩
    rw [loadRead_some, rootEntries_mapping]
    exact settle_of_names he'

theorem Wrong.loadRead_eq (h : Wrong path read e) : loadRead path read environment = .error e := by
  cases h with
  | malformed => rfl
  | root hsomething hroot =>
    rw [loadRead_some, rootEntries_other hsomething hroot]
    rfl
  | names htexts hunknown =>
    rw [loadRead_some, rootEntries_mapping]
    refine settle_of_names ?_
    rw [namedEntries_eq htexts]
    exact if_neg hunknown

theorem Wrong.category_eq (h : Wrong path read e) : e.category = some .config := by
  cases h <;> rfl

/-- An error is about the configuration or escapes. -/
theorem loadRead_error (h : loadRead path read environment = .error e) :
    e.category = some .config ∨ Escapes read e := by
  have hempty (h : settle environment [] = .error e) : e.category = some .config := by
    refine (settle_error h).resolve_right ?_
    rintro ⟨⟨name, hname⟩, -⟩
    cases hname
  cases read with
  | none => exact Or.inl (hempty h)
  | some root =>
    rw [loadRead_some] at h
    cases root with
    | error fault =>
      cases fault with
      | malformed =>
        obtain rfl := Except.error.inj h
        exact Or.inl rfl
      | unreadable e' =>
        obtain rfl := Except.error.inj h
        exact Or.inr (.unreadable e')
    | ok root =>
      by_cases hnothing : root.isNothing = true
      · rw [rootEntries_nothing hnothing] at h
        exact Or.inl (hempty h)
      · by_cases hroot : ∃ entries, root = .mapping entries
        · obtain ⟨entries, rfl⟩ := hroot
          rw [rootEntries_mapping] at h
          refine (settle_error h).imp_right ?_
          rintro ⟨⟨name, hname⟩, hkind⟩
          exact .nameless hname hkind
        · rw [rootEntries_other (Bool.not_eq_true _ ▸ hnothing) (not_exists.mp hroot)] at h
          obtain rfl := Except.error.inj h
          exact Or.inl rfl

/-- A document is read as settings, or there is an error. **The error is about the configuration but
for the two that escape**, and these always do. What is wrong with a document as a whole is said. A
root that counts as nothing is taken for no document. -/
theorem loadRead_refused (path : String) (read : Option (Except Fault Value))
    (environment : List (String × String)) :
    (∀ e, loadRead path read environment = .error e →
      e.category = some .config ∨ Escapes read e) ∧
      (∀ e, Escapes read e →
        ∃ e', loadRead path read environment = .error e' ∧ Escapes read e') ∧
      (∀ e, Wrong path read e →
        loadRead path read environment = .error e ∧ e.category = some .config) ∧
      ∀ root, root.isNothing = true →
        loadRead path (some (.ok root)) environment = loadRead path none environment := by
  refine ⟨fun e => loadRead_error, fun e => Escapes.exists_loadRead_error,
    fun e h => ⟨h.loadRead_eq, h.category_eq⟩, fun root hroot => ?_⟩
  rw [loadRead_some, rootEntries_nothing hroot]
  rfl

/-- A sequence without items is taken for no document. A name that is a number and a date that is
none end in errors that are not about the configuration. -/
theorem loadRead_lax :
    let date : Error := .unreadableValue "month must be in 1..12"
    loadRead "dbsize.yaml" (some (.ok (.list []))) [] = .ok {} ∧
      (∃ reason, loadRead "dbsize.yaml" (some (.ok (.mapping [(.int 1, .text "x")]))) [] =
        .error (.misshapen reason)) ∧
      loadRead "dbsize.yaml" (some (.error (.unreadable date))) [] = .error date := by
  refine ⟨by decide, ⟨_, rfl⟩, rfl⟩

end Settings

end Footprint
