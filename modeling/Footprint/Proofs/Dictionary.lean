import Footprint.Dictionary
import Mathlib.Data.List.Nodup
import Mathlib.Data.List.Pairwise

/-!
# Laws of dictionaries

What each operation on a dictionary does to its entries, to the value of a key and to the lists of
keys and values. Inserting is the only operation with two cases: a key that is not there yet goes to
the end (`Dictionary.entries_insert`), a key that is there keeps its place and changes its value
(`Dictionary.keys_insert_of_mem`).

A dictionary is the dictionary of its own entries (`Dictionary.ofEntries_entries`), and of its own
values if each of them stands under its key (`Dictionary.ofValues_values`).
-/

namespace Footprint

variable {κ ν μ : Type}

/-! ### Entries -/

section Entries

variable [DecidableEq κ] {key k : κ} {value v : ν} {entries : List (κ × ν)}

theorem putEntry_of_not_mem (h : key ∉ entries.map Prod.fst) :
    putEntry key value entries = entries ++ [(key, value)] := by
  induction entries with
  | nil => rfl
  | cons entry rest ih =>
    rw [List.map_cons, List.mem_cons, not_or] at h
    rw [putEntry, if_neg (Ne.symm h.1), ih h.2, List.cons_append]

theorem putEntry_of_mem (h : key ∈ entries.map Prod.fst) :
    (putEntry key value entries).map Prod.fst = entries.map Prod.fst := by
  induction entries with
  | nil => cases h
  | cons entry rest ih =>
    rw [putEntry]
    split
    · rfl
    · next hne =>
      have hrest : key ∈ rest.map Prod.fst := by
        rw [List.map_cons, List.mem_cons] at h
        exact h.resolve_left (Ne.symm hne)
      rw [List.map_cons, List.map_cons, ih hrest]

theorem mem_putEntry {entry : κ × ν} (h : entry ∈ putEntry key value entries) :
    entry = (key, value) ∨ entry ∈ entries := by
  induction entries with
  | nil => exact Or.inl (List.mem_singleton.mp h)
  | cons head rest ih =>
    rw [putEntry] at h
    split at h
    · next heq =>
      rw [List.mem_cons] at h
      rcases h with rfl | hrest
      · exact Or.inl (by rw [heq])
      · exact Or.inr (List.mem_cons_of_mem _ hrest)
    · rw [List.mem_cons] at h
      rcases h with rfl | hrest
      · exact Or.inr List.mem_cons_self
      · exact (ih hrest).imp_right (List.mem_cons_of_mem _)

theorem lookup_putEntry : (putEntry key value entries).lookup k =
    if k = key then some value else entries.lookup k := by
  induction entries with
  | nil =>
    rw [putEntry, List.lookup_cons, List.lookup_nil]
    split <;> simp_all
  | cons entry rest ih =>
    rw [putEntry]
    split <;> grind

theorem find?_putEntry_of_ne {p : ν → Bool} (hvalue : p value = false)
    (h : (entries.map Prod.snd).find? p = some v) (hne : entries.lookup key ≠ some v) :
    ((putEntry key value entries).map Prod.snd).find? p = some v := by
  induction entries with
  | nil => cases h
  | cons entry rest ih =>
    obtain ⟨other, old⟩ := entry
    rw [List.map_cons, List.find?_cons] at h
    rw [List.lookup_cons] at hne
    rw [putEntry]
    by_cases hother : other = key
    · -- The new value is passed over, and so is the old one, since it is not what was found.
      rw [if_pos hother, List.map_cons, List.find?_cons_of_neg (by simp [hvalue])]
      rw [beq_iff_eq.mpr hother.symm] at hne
      cases hold : p old with
      | true => simp_all
      | false => simpa [hold] using h
    · rw [if_neg hother, List.map_cons, List.find?_cons]
      rw [beq_false_of_ne (Ne.symm hother)] at hne
      cases hold : p old with
      | true => simpa [hold] using h
      | false => exact ih (by simpa [hold] using h) hne

end Entries

namespace Dictionary

@[ext] theorem ext {a b : Dictionary κ ν} (h : a.entries = b.entries) : a = b := by
  cases a
  cases b
  cases h
  rfl

theorem mem_values_of_mem_entries {d : Dictionary κ ν} {entry : κ × ν} (h : entry ∈ d.entries) :
    entry.2 ∈ d.values := List.mem_map_of_mem h

theorem length_keys (d : Dictionary κ ν) : d.keys.length = d.size := List.length_map _

@[simp] theorem keys_mapValues (f : ν → μ) (d : Dictionary κ ν) :
    (d.mapValues f).keys = d.keys := by
  simp [keys, mapValues, Function.comp_def]

@[simp] theorem values_mapValues (f : ν → μ) (d : Dictionary κ ν) :
    (d.mapValues f).values = d.values.map f := by
  simp [values, mapValues, Function.comp_def]

variable [DecidableEq κ] {d : Dictionary κ ν} {key k : κ} {value v : ν}

/-! ### The value of a key -/

theorem find?_eq_some_iff : d.find? key = some value ↔ (key, value) ∈ d.entries := by
  refine ⟨mem_entries_of_find?, fun h => ?_⟩
  obtain ⟨entries, hnodup⟩ := d
  change entries.lookup key = some value
  induction entries with
  | nil => cases h
  | cons entry rest ih =>
    rw [List.map_cons, List.nodup_cons] at hnodup
    rcases List.mem_cons.mp h with rfl | hrest
    · exact List.lookup_cons_self
    · have hne : (key == entry.1) = false :=
        beq_eq_false_iff_ne.mpr fun heq => hnodup.1 (List.mem_map.mpr ⟨_, hrest, heq⟩)
      rw [List.lookup_cons, hne]
      exact ih hnodup.2 hrest

/-- The value of a key does not depend on the order of the entries. -/
theorem find?_of_perm {e : Dictionary κ ν} (h : d.entries.Perm e.entries) :
    d.find? key = e.find? key := by
  refine Option.ext fun value => ?_
  rw [find?_eq_some_iff, find?_eq_some_iff, h.mem_iff]

theorem contains_iff : d.contains key = true ↔ key ∈ d.keys := mem_keys_iff.symm

theorem find?_eq_none_iff : d.find? key = none ↔ key ∉ d.keys := by
  rw [mem_keys_iff, Bool.not_eq_true, Option.isSome_eq_false_iff, Option.isNone_iff_eq_none]

theorem exists_of_mem_keys (h : key ∈ d.keys) : ∃ value, d.find? key = some value :=
  Option.isSome_iff_exists.mp (mem_keys_iff.mp h)

theorem mem_keys_of_find? (h : d.find? key = some value) : key ∈ d.keys :=
  mem_keys_iff.mpr (Option.isSome_iff_exists.mpr ⟨value, h⟩)

theorem mem_values_of_find? (h : d.find? key = some value) : value ∈ d.values :=
  mem_values_of_mem_entries (mem_entries_of_find? h)

omit [DecidableEq κ] in
/-- What holds of any two values in their order holds of the values of any two keys. -/
theorem pairwise_values_iff {R : ν → ν → Prop} (hR : ∀ v w, R v w → R w v) :
    d.values.Pairwise R ↔ ∀ entry ∈ d.entries, ∀ other ∈ d.entries, entry.1 ≠ other.1 →
      R entry.2 other.2 := by
  rw [values, List.pairwise_map]
  constructor
  · intro h entry hentry other hother hne
    have hsymm : Std.Symm fun entry other : κ × ν => R entry.2 other.2 := ⟨fun _ _ => hR _ _⟩
    exact h.forall hentry hother fun heq => hne (congrArg Prod.fst heq)
  · intro h
    have hkeys := List.pairwise_map.mp d.keys_nodup
    exact hkeys.imp_of_mem fun hentry hother hne => h _ hentry _ hother hne

/-! ### Inserting -/

theorem find?_insert : (d.insert key value).find? k = if k = key then some value else d.find? k :=
  lookup_putEntry

theorem entries_insert (h : key ∉ d.keys) :
    (d.insert key value).entries = d.entries ++ [(key, value)] := putEntry_of_not_mem h

theorem keys_insert (h : key ∉ d.keys) : (d.insert key value).keys = d.keys ++ [key] := by
  rw [keys, entries_insert h, List.map_append]
  rfl

theorem values_insert (h : key ∉ d.keys) : (d.insert key value).values = d.values ++ [value] := by
  rw [values, entries_insert h, List.map_append]
  rfl

theorem keys_insert_of_mem (h : key ∈ d.keys) : (d.insert key value).keys = d.keys :=
  putEntry_of_mem h

theorem mem_keys_insert : k ∈ (d.insert key value).keys ↔ k = key ∨ k ∈ d.keys :=
  mem_keys_putEntry

theorem mem_entries_insert {entry : κ × ν} (h : entry ∈ (d.insert key value).entries) :
    entry = (key, value) ∨ entry ∈ d.entries := mem_putEntry h

theorem size_insert : (d.insert key value).size = if key ∈ d.keys then d.size else d.size + 1 := by
  rw [← length_keys, ← length_keys]
  split
  · next h => rw [keys_insert_of_mem h]
  · next h => rw [keys_insert h, List.length_append, List.length_singleton]

theorem size_insert_eq_iff : (d.insert key value).size = d.size + 1 ↔ key ∉ d.keys := by
  rw [size_insert]
  split
  · next h => exact ⟨fun heq => absurd heq (by omega), fun hnew => absurd h hnew⟩
  · next h => exact ⟨fun _ => h, fun _ => rfl⟩

theorem find?_insert_of_not_mem (hnew : key ∉ d.keys) (h : d.find? k = some v) :
    (d.insert key value).find? k = some v := by
  have hne : k ≠ key := by
    rintro rfl
    exact hnew (mem_keys_iff.mpr (Option.isSome_iff_exists.mpr ⟨v, h⟩))
  rw [find?_insert, if_neg hne, h]

theorem forall_mem_insert {p : κ × ν → Prop} (h : ∀ entry ∈ d.entries, p entry)
    (hnew : p (key, value)) : ∀ entry ∈ (d.insert key value).entries, p entry := by
  intro entry hentry
  rcases mem_entries_insert hentry with rfl | hold
  · exact hnew
  · exact h entry hold

theorem mem_values_insert (h : v ∈ (d.insert key value).values) : v = value ∨ v ∈ d.values := by
  obtain ⟨entry, hentry, rfl⟩ := List.mem_map.mp h
  exact (mem_entries_insert hentry).imp (congrArg Prod.snd) mem_values_of_mem_entries

theorem nodup_map_values_insert {α : Type} {g : ν → α} (hd : (d.values.map g).Nodup)
    (hkey : key ∉ d.keys) (hvalue : ∀ v ∈ d.values, g v ≠ g value) :
    ((d.insert key value).values.map g).Nodup := by
  rw [values_insert hkey, List.map_append, List.nodup_append]
  refine ⟨hd, List.nodup_singleton _, fun a ha b hb => ?_⟩
  obtain ⟨v, hv, rfl⟩ := List.mem_map.mp ha
  rw [List.mem_singleton.mp hb]
  exact hvalue v hv

/-- A value that is found is still found when another key gets a value that was not looked for. -/
theorem find?_values_insert_of_ne {p : ν → Bool} (hvalue : p value = false)
    (h : d.values.find? p = some v) (hne : d.find? key ≠ some v) :
    (d.insert key value).values.find? p = some v :=
  find?_putEntry_of_ne hvalue h hne

/-! ### Erasing -/

theorem sublist_entries_erase (d : Dictionary κ ν) (key : κ) :
    (d.erase key).entries.Sublist d.entries := List.filter_sublist

theorem mem_keys_erase : k ∈ (d.erase key).keys ↔ k ∈ d.keys ∧ k ≠ key := by
  simp only [keys, erase, List.mem_map, List.mem_filter, decide_eq_true_eq]
  constructor
  · rintro ⟨entry, ⟨hentry, hne⟩, rfl⟩
    exact ⟨⟨entry, hentry, rfl⟩, hne⟩
  · rintro ⟨⟨entry, hentry, rfl⟩, hne⟩
    exact ⟨entry, ⟨hentry, hne⟩, rfl⟩

theorem mem_values_erase (h : v ∈ (d.erase key).values) : v ∈ d.values :=
  ((sublist_entries_erase d key).map Prod.snd).subset h

theorem find?_erase : (d.erase key).find? k = if k = key then none else d.find? k := by
  split
  · next heq =>
    rw [find?_eq_none_iff, mem_keys_erase]
    exact fun h => h.2 heq
  · next hne =>
    refine Option.ext fun value => ?_
    rw [find?_eq_some_iff, find?_eq_some_iff, erase, List.mem_filter]
    exact and_iff_left (decide_eq_true hne)

/-! ### Changing a value -/

@[simp] theorem keys_modify (d : Dictionary κ ν) (key : κ) (f : ν → ν) :
    (d.modify key f).keys = d.keys := by
  rw [keys, keys, modify, List.map_map]
  refine List.map_congr_left fun entry _ => ?_
  rw [Function.comp_apply]
  split <;> rfl

theorem mem_entries_modify {f : ν → ν} {entry : κ × ν} (h : entry ∈ (d.modify key f).entries) :
    ∃ old, (entry.1, old) ∈ d.entries ∧ entry.2 = if entry.1 = key then f old else old := by
  obtain ⟨⟨k, old⟩, hold, rfl⟩ := List.mem_map.mp h
  by_cases hk : k = key
  · exact ⟨old, by simpa [hk] using hold, by simp [hk]⟩
  · exact ⟨old, by simpa [hk] using hold, by simp [hk]⟩

theorem forall_mem_modify {p : κ × ν → Prop} {f : ν → ν} (h : ∀ entry ∈ d.entries, p entry)
    (hf : ∀ old, p (key, old) → p (key, f old)) :
    ∀ entry ∈ (d.modify key f).entries, p entry := by
  rintro ⟨k, new⟩ hentry
  obtain ⟨old, hold, hnew⟩ := mem_entries_modify hentry
  dsimp only at hold hnew
  split at hnew
  · next hk =>
    rw [hnew, hk]
    exact hf old (hk ▸ h _ hold)
  · rw [hnew]
    exact h _ hold

theorem mem_values_modify {f : ν → ν} (h : v ∈ (d.modify key f).values) :
    ∃ old ∈ d.values, v = old ∨ v = f old := by
  obtain ⟨entry, hentry, rfl⟩ := List.mem_map.mp h
  obtain ⟨old, hold, hnew⟩ := mem_entries_modify hentry
  refine ⟨old, mem_values_of_mem_entries hold, ?_⟩
  split at hnew
  · exact Or.inr hnew
  · exact Or.inl hnew

theorem map_values_modify {α : Type} {f : ν → ν} {g : ν → α} (h : ∀ v, g (f v) = g v) :
    (d.modify key f).values.map g = d.values.map g := by
  rw [values, values, modify, List.map_map, List.map_map, List.map_map]
  refine List.map_congr_left fun entry _ => ?_
  simp only [Function.comp_apply]
  split
  · exact h entry.2
  · rfl

theorem find?_modify (f : ν → ν) :
    (d.modify key f).find? k = (d.find? k).map fun old => if k = key then f old else old := by
  cases hfind : d.find? k with
  | none =>
    rw [find?_eq_none_iff] at hfind
    rw [Option.map_none, find?_eq_none_iff, keys_modify]
    exact hfind
  | some old =>
    rw [Option.map_some, find?_eq_some_iff]
    refine List.mem_map.mpr ⟨(k, old), mem_entries_of_find? hfind, ?_⟩
    dsimp only
    split <;> rfl

/-- A change of one value that lets something hold where it did not hold before. -/
theorem exists_find?_modify_iff {f : ν → ν} {p : ν → Prop} {added : Prop}
    (h : ∀ v, p (f v) ↔ p v ∨ added) :
    (∃ v, (d.modify key f).find? k = some v ∧ p v) ↔
      (∃ v, d.find? k = some v ∧ p v) ∨ k = key ∧ k ∈ d.keys ∧ added := by
  rw [find?_modify]
  cases hfind : d.find? k with
  | none =>
    have hnone : k ∉ d.keys := find?_eq_none_iff.mp hfind
    rw [Option.map_none]
    exact (or_iff_left fun hadded => hnone hadded.2.1).symm
  | some old =>
    have hmem : k ∈ d.keys := mem_keys_of_find? hfind
    simp only [Option.map_some, Option.some.injEq, exists_eq_left']
    by_cases hk : k = key
    · rw [if_pos hk, h, and_iff_right hk, and_iff_right hmem]
    · rw [if_neg hk]
      exact (or_iff_left fun hadded => hk hadded.1).symm

omit [DecidableEq κ] in
theorem mem_entries_mapValues {f : ν → μ} {entry : κ × μ} :
    entry ∈ (d.mapValues f).entries ↔ ∃ old, (entry.1, old) ∈ d.entries ∧ f old = entry.2 := by
  constructor
  · intro h
    obtain ⟨⟨k, old⟩, hold, rfl⟩ := List.mem_map.mp h
    exact ⟨old, hold, rfl⟩
  · rintro ⟨old, hold, hvalue⟩
    exact List.mem_map.mpr ⟨_, hold, Prod.ext rfl hvalue⟩

theorem find?_mapValues (f : ν → μ) : (d.mapValues f).find? k = (d.find? k).map f := by
  refine Option.ext fun value => ?_
  rw [find?_eq_some_iff, mem_entries_mapValues, Option.map_eq_some_iff]
  simp only [find?_eq_some_iff]

/-- A change that a projection of the values does not see. -/
theorem mapValues_modify {f : ν → ν} {g : ν → μ} (h : ∀ v, g (f v) = g v) (key : κ) :
    (d.modify key f).mapValues g = d.mapValues g := by
  apply ext
  refine List.map_map.trans (List.map_congr_left fun entry _ => ?_)
  rw [Function.comp_apply]
  split
  · exact Prod.ext rfl (h entry.2)
  · rfl

/-! ### Dictionaries from lists -/

theorem foldl_insert_entries {entries : List (κ × ν)}
    (h : ((d.entries ++ entries).map Prod.fst).Nodup) :
    (entries.foldl (fun d entry => d.insert entry.1 entry.2) d).entries =
      d.entries ++ entries := by
  induction entries generalizing d with
  | nil => exact (List.append_nil _).symm
  | cons entry rest ih =>
    have hnew : entry.1 ∉ d.keys := by
      rw [List.map_append, List.map_cons, List.nodup_append] at h
      exact fun hmem => h.2.2 _ hmem _ List.mem_cons_self rfl
    have hsplit : (d.insert entry.1 entry.2).entries ++ rest = d.entries ++ entry :: rest := by
      rw [entries_insert hnew, List.append_assoc]
      rfl
    rw [List.foldl_cons, ih (by rwa [hsplit]), hsplit]

theorem ofEntries_entries (d : Dictionary κ ν) : ofEntries d.entries = d :=
  ext (foldl_insert_entries (d := empty) d.keys_nodup)

theorem ofValues_values {keyOf : ν → κ} (h : ∀ entry ∈ d.entries, entry.1 = keyOf entry.2) :
    ofValues keyOf d.values = d := by
  have hentries : (d.values.map fun value => (keyOf value, value)) = d.entries := by
    rw [values, List.map_map]
    exact (List.map_congr_left fun entry hentry => by simp [← h entry hentry]).trans
      (List.map_id _)
  rw [ofValues, hentries, ofEntries_entries]

/-- Where each value stands under its own key, a value is that of its key. -/
theorem find?_of_mem_values {keyOf : ν → κ} (h : ∀ entry ∈ d.entries, entry.1 = keyOf entry.2)
    (hvalue : value ∈ d.values) : d.find? (keyOf value) = some value := by
  obtain ⟨entry, hentry, rfl⟩ := List.mem_map.mp hvalue
  rw [← h entry hentry]
  exact find?_eq_some_iff.mpr hentry

theorem mem_keys_ofEntries {entries : List (κ × ν)} :
    k ∈ (ofEntries entries).keys ↔ k ∈ entries.map Prod.fst := by
  suffices hfold : ∀ d : Dictionary κ ν,
      k ∈ (entries.foldl (fun d entry => d.insert entry.1 entry.2) d).keys ↔
        k ∈ d.keys ∨ k ∈ entries.map Prod.fst by
    exact (hfold empty).trans (or_iff_right nofun)
  induction entries with
  | nil => exact fun d => (or_iff_left nofun).symm
  | cons head rest ih =>
    intro d
    rw [List.foldl_cons, ih, mem_keys_insert, List.map_cons, List.mem_cons]
    tauto

/-- What holds of all listed entries holds of all entries of their dictionary. -/
theorem forall_mem_ofEntries {p : κ × ν → Prop} {entries : List (κ × ν)}
    (h : ∀ entry ∈ entries, p entry) : ∀ entry ∈ (ofEntries entries).entries, p entry := by
  suffices hfold : ∀ d : Dictionary κ ν, (∀ entry ∈ d.entries, p entry) →
      ∀ entry ∈ (entries.foldl (fun d entry => d.insert entry.1 entry.2) d).entries, p entry from
    hfold empty nofun
  induction entries with
  | nil => exact fun d hd => hd
  | cons head rest ih =>
    intro d hd
    refine ih (fun entry hentry => h entry (List.mem_cons_of_mem _ hentry)) _ fun entry hentry => ?_
    rcases mem_entries_insert hentry with rfl | hold
    · exact h _ List.mem_cons_self
    · exact hd entry hold

end Dictionary

end Footprint
