import Footprint.Proofs.Storage.FileName

/-!
# Files are kept apart

A file of the storage is a segment of a fork of an object, and may belong to a backend. All of this
is put into one path, in one of three layouts: below the default directory, below the link of
another tablespace, or in the global directory. The layouts do not get in each other's way, since
their first directories begin differently (`databasePath_ne_global`,
`default_append_ne_link_append`), and within a layout the path is read from its end
(`segmentPath_fileName_inj`).

Only one thing is lost on the way. The global directory is not divided by database, so the database
of an object that lies there is not in its path (`databasePath_eq_iff`), and such an object is the
same whatever database is named (`Locator.SameObject`). Apart from this a path tells everything
(`Chain.path_eq_iff`), hence chains of segments of different objects, forks or backends have no path
in common (`Chain.paths_disjoint_iff`).
-/

namespace Footprint.Storage

/-! ### Objects and their chains -/

/-- Two places are those of one object. The global tablespace is not divided by database. -/
def Locator.SameObject (place other : Locator) : Prop :=
  place.tablespace = other.tablespace ∧ place.file = other.file ∧
    (place.tablespace = globalTablespace ∨ place.database = other.database)

/-- The segments of a fork of an object, which may belong to a backend. Objects of the global
tablespace belong to none. -/
structure Chain where
  locator : Locator
  fork : Fork
  backend : Int
  unowned : locator.tablespace = globalTablespace → backend = noBackend

namespace Chain

variable (version : String) (chain other : Chain)

/-- The path of a segment. -/
def path (segment : Int) : Except Error String :=
  (forkPath version chain.locator chain.backend chain.fork).map fun base =>
    segmentPath base segment

/-- The paths of all segments, however many there are. -/
def paths : Set String := {file | ∃ segment : ℕ, chain.path version segment = .ok file}

/-- Two chains are the same fork of one object, and belong to the same backend. -/
def Same : Prop :=
  chain.locator.SameObject other.locator ∧ chain.fork = other.fork ∧ chain.backend = other.backend

end Chain

/-! ### What a path tells -/

/-- **The directory of a database tells tablespace and database, unless it is the global one.** -/
theorem databasePath_eq_iff (version : String) {tablespace tablespace' database database' : Int} :
    databasePath version tablespace database = databasePath version tablespace' database' ↔
      tablespace = tablespace' ∧ (tablespace = globalTablespace ∨ database = database') := by
  -- The global directory is not that of another tablespace.
  have hapart : ∀ {t : Int} (d d' : Int), t ≠ globalTablespace →
      databasePath version t d ≠ databasePath version globalTablespace d' := by
    intro t d d' ht heq
    have hglobal : databasePath version globalTablespace d' = globalDirectory := if_pos rfl
    refine databasePath_ne_global version ht d "" "" ?_
    rw [heq, hglobal]
  by_cases hglobal : tablespace = globalTablespace <;>
    by_cases hglobal' : tablespace' = globalTablespace
  · rw [hglobal, hglobal']
    exact iff_of_true rfl ⟨rfl, Or.inl rfl⟩
  · rw [hglobal]
    refine iff_of_false (fun heq => hapart database' database hglobal' heq.symm) ?_
    exact fun h => hglobal' h.1.symm
  · rw [hglobal']
    exact iff_of_false (hapart database database' hglobal) fun h => hglobal h.1
  · constructor
    · intro heq
      exact (databasePath_inj hglobal hglobal' heq).imp_right Or.inr
    · rintro ⟨rfl, hdatabase⟩
      rw [hdatabase.resolve_left hglobal]

namespace Chain

variable (version : String) (chain other : Chain)

/-- Every segment has a path. -/
theorem path_eq (segment : Int) : chain.path version segment =
    .ok (segmentPath (databasePath version chain.locator.tablespace chain.locator.database ++ "/" ++
      fileName chain.backend chain.locator.file chain.fork) segment) := by
  rw [path, forkPath, if_neg fun h => h.2 (chain.unowned h.1)]
  rfl

/-- **Two paths are the same if and only if they are those of the same segment of the same
chain.** -/
theorem path_eq_iff (m n : Int) :
    chain.path version m = other.path version n ↔ chain.Same other ∧ m = n := by
  rw [path_eq, path_eq, Except.ok.injEq]
  constructor
  · intro heq
    obtain ⟨hdirectory, hbackend, hfile, hfork, hsegment⟩ := segmentPath_fileName_inj heq
    obtain ⟨htablespace, hdatabase⟩ := (databasePath_eq_iff version).mp hdirectory
    exact ⟨⟨⟨htablespace, hfile, hdatabase⟩, hfork, hbackend⟩, hsegment⟩
  · rintro ⟨⟨⟨htablespace, hfile, hdatabase⟩, hfork, hbackend⟩, rfl⟩
    rw [(databasePath_eq_iff version).mpr ⟨htablespace, hdatabase⟩, hfile, hfork, hbackend]

/-- **Chains have a path in common if and only if they are the same.** -/
theorem paths_disjoint_iff :
    Disjoint (chain.paths version) (other.paths version) ↔ ¬chain.Same other := by
  rw [Set.disjoint_left]
  constructor
  · intro hdisjoint hsame
    -- A chain has a first segment at least, whose path would be in both.
    have hfirst := chain.path_eq version (0 : ℕ)
    have hfirst' := ((chain.path_eq_iff version other (0 : ℕ) (0 : ℕ)).mpr ⟨hsame, rfl⟩).symm
    exact hdisjoint ⟨0, hfirst⟩ ⟨0, hfirst'.trans hfirst⟩
  · rintro hother file ⟨m, hm⟩ ⟨n, hn⟩
    exact hother ((chain.path_eq_iff version other m n).mp (hm.trans hn.symm)).1

/-- **No two files of the storage share a path.** Whatever the version directory is called, every
segment of every chain has a path, and two of these are the same if and only if tablespace, file
number, fork, backend and segment are, and the database unless the files lie in the global
tablespace. So chains of different objects, forks or backends never overlap. -/
theorem paths_tell_apart (version : String) (chain other : Chain) :
    (∀ segment, ∃ file, chain.path version segment = .ok file) ∧
    (∀ m n : Int, chain.path version m = other.path version n ↔
      (chain.locator.tablespace = other.locator.tablespace ∧
        chain.locator.file = other.locator.file ∧
        (chain.locator.tablespace = globalTablespace ∨
          chain.locator.database = other.locator.database)) ∧
      chain.fork = other.fork ∧ chain.backend = other.backend ∧ m = n) ∧
    (Disjoint (chain.paths version) (other.paths version) ↔ ¬chain.Same other) := by
  refine ⟨fun segment => ⟨_, chain.path_eq version segment⟩, fun m n => ?_,
    chain.paths_disjoint_iff version other⟩
  rw [path_eq_iff, Same, Locator.SameObject]
  simp only [and_assoc]

end Chain

end Footprint.Storage
