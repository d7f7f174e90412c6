/-!
# Dictionaries

A finite map that keeps its keys in the order in which they were first inserted. A key has at most
one value: inserting it again replaces the value at the place where the key already stands.
-/

namespace Footprint

variable {κ ν μ : Type}

/-- The entries with a value for a key: at the place of the key if it is there, else at the end. -/
def putEntry [DecidableEq κ] (key : κ) (value : ν) : List (κ × ν) → List (κ × ν)
  | [] => [(key, value)]
  | (other, old) :: rest =>
    if other = key then (other, value) :: rest else (other, old) :: putEntry key value rest

theorem mem_keys_putEntry [DecidableEq κ] {key k : κ} {value : ν} {entries : List (κ × ν)} :
    k ∈ (putEntry key value entries).map Prod.fst ↔ k = key ∨ k ∈ entries.map Prod.fst := by
  induction entries with
  | nil => simp [putEntry]
  | cons entry rest ih =>
    by_cases h : entry.1 = key
    · simp only [putEntry, h, if_true, List.map_cons, List.mem_cons]
      grind
    · simp only [putEntry, h, if_false, List.map_cons, List.mem_cons, ih]
      grind

theorem nodup_keys_putEntry [DecidableEq κ] {key : κ} {value : ν} {entries : List (κ × ν)}
    (h : (entries.map Prod.fst).Nodup) : ((putEntry key value entries).map Prod.fst).Nodup := by
  induction entries with
  | nil => simp [putEntry]
  | cons entry rest ih =>
    rw [List.map_cons, List.nodup_cons] at h
    by_cases hk : entry.1 = key
    · simp only [putEntry, hk, if_true, List.map_cons, List.nodup_cons]
      exact ⟨hk ▸ h.1, h.2⟩
    · rw [putEntry, if_neg hk, List.map_cons, List.nodup_cons, mem_keys_putEntry]
      exact ⟨fun h' => h'.elim hk h.1, ih h.2⟩

/-- A finite map whose keys stand in the order of their first insertion. -/
structure Dictionary (κ ν : Type) where
  entries : List (κ × ν)
  keys_nodup : (entries.map Prod.fst).Nodup

namespace Dictionary

/-- No entries. -/
def empty : Dictionary κ ν := ⟨[], by simp⟩

instance : Inhabited (Dictionary κ ν) := ⟨empty⟩

instance [Repr κ] [Repr ν] : Repr (Dictionary κ ν) := ⟨fun d n => reprPrec d.entries n⟩

instance [DecidableEq κ] [DecidableEq ν] : DecidableEq (Dictionary κ ν) := fun a b =>
  if h : a.entries = b.entries then
    isTrue (by cases a; cases b; cases h; rfl)
  else isFalse fun hab => h (hab ▸ rfl)

/-- The keys, in order. -/
def keys (d : Dictionary κ ν) : List κ := d.entries.map Prod.fst

/-- The values, in the order of their keys. -/
def values (d : Dictionary κ ν) : List ν := d.entries.map Prod.snd

/-- The number of entries. -/
def size (d : Dictionary κ ν) : Nat := d.entries.length

variable [DecidableEq κ]

/-- The value of a key. -/
def find? (d : Dictionary κ ν) (key : κ) : Option ν := d.entries.lookup key

/-- Has the key a value? -/
def contains (d : Dictionary κ ν) (key : κ) : Bool := (d.find? key).isSome

/-- The dictionary with a value for a key. -/
def insert (d : Dictionary κ ν) (key : κ) (value : ν) : Dictionary κ ν :=
  ⟨putEntry key value d.entries, nodup_keys_putEntry d.keys_nodup⟩

/-- The dictionary without a key. -/
def erase (d : Dictionary κ ν) (key : κ) : Dictionary κ ν :=
  ⟨d.entries.filter (·.1 ≠ key), d.keys_nodup.sublist (List.filter_sublist.map _)⟩

/-- The dictionary without the keys that fail a test. -/
def filterKeys (d : Dictionary κ ν) (keep : κ → Bool) : Dictionary κ ν :=
  ⟨d.entries.filter fun entry => keep entry.1, d.keys_nodup.sublist (List.filter_sublist.map _)⟩

/-- The dictionary with every value changed. -/
def mapValues (f : ν → μ) (d : Dictionary κ ν) : Dictionary κ μ :=
  ⟨d.entries.map fun entry => (entry.1, f entry.2), by
    simpa [Function.comp_def] using d.keys_nodup⟩

/-- The dictionary with the value of a key changed, if it has one. -/
def modify (d : Dictionary κ ν) (key : κ) (f : ν → ν) : Dictionary κ ν :=
  ⟨d.entries.map fun entry => if entry.1 = key then (entry.1, f entry.2) else entry, by
    have h : (d.entries.map fun entry => if entry.1 = key then (entry.1, f entry.2) else entry).map
        Prod.fst = d.entries.map Prod.fst := by
      rw [List.map_map]
      refine List.map_congr_left fun entry _ => ?_
      by_cases hk : entry.1 = key <;> simp [hk]
    exact h ▸ d.keys_nodup⟩

/-- Entries as a dictionary. Of several values of a key the last counts. -/
def ofEntries (entries : List (κ × ν)) : Dictionary κ ν :=
  entries.foldl (fun d entry => d.insert entry.1 entry.2) empty

/-- Values as a dictionary, each under its own key. -/
def ofValues (key : ν → κ) (values : List ν) : Dictionary κ ν :=
  ofEntries (values.map fun value => (key value, value))

theorem mem_keys_iff {d : Dictionary κ ν} {key : κ} : key ∈ d.keys ↔ (d.find? key).isSome := by
  simp [keys, find?, List.lookup_isSome_iff]

theorem mem_entries_of_find? {d : Dictionary κ ν} {key : κ} {value : ν}
    (h : d.find? key = some value) : (key, value) ∈ d.entries := by
  have := List.lookup_eq_some_iff.1 h
  grind

/-- Erasing a key that has a value leaves fewer entries. -/
theorem size_erase_lt {d : Dictionary κ ν} {key : κ} {value : ν} (h : d.find? key = some value) :
    (d.erase key).size < d.size :=
  List.length_filter_lt_length_iff_exists.2 ⟨_, mem_entries_of_find? h, by simp⟩

omit [DecidableEq κ] in
theorem size_mapValues (f : ν → μ) (d : Dictionary κ ν) : (d.mapValues f).size = d.size := by
  simp [mapValues, size]

end Dictionary

end Footprint
