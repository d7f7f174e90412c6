import Footprint.Proofs.Inquiry.Directories

/-!
# Databases and tablespaces

A directory that belongs to a database in a tablespace is counted twice over: with the database, by
what it lists, and with the tablespace, by what it lists and by its own size. If the roots of the
tablespaces list directories of databases only (`Inquiry.Divided`), the sizes of all databases and
the sizes of all tablespaces differ by the own sizes of these directories
(`Inquiry.databases_add_own_eq_tablespaces`).

This is an exchange of two sums, over the databases that occur and over the roots. Not every
database has a directory in every tablespace: where it has none, walking its directory there finds
nothing, and that is how the sum over the names which a root lists becomes one over all databases
(`Divided.sum_names`).
-/

namespace Footprint.Inquiry

open Storage Storage.Scan

variable {inquiry : Inquiry} {view : View} {tablespaces : List Int} {databases : Finset Int}
  {root : String}

/-- The roots of tablespaces can be walked without a failure, and they list directories of databases
and nothing else. -/
structure Divided (inquiry : Inquiry) (view : View) (tablespaces : List Int)
    (databases : Finset Int) : Prop where
  faultless : view.tree.Faultless
  links_open : view.Opens linkDirectory
  roots_open : ∀ root ∈ inquiry.roots view, view.Opens root
  /-- The links are named by the numbers of tablespaces that have no root of their own. -/
  linked : view.names linkDirectory = tablespaces.map toString
  not_reserved : ∀ tablespace ∈ tablespaces,
    tablespace ≠ defaultTablespace ∧ tablespace ≠ globalTablespace
  /-- The roots list directories that are named by the numbers of databases. -/
  named : ∀ root ∈ inquiry.roots view, ∀ name ∈ view.names root,
    (∃ database : Int, name = toString database) ∧
      ∃ size, view.stat (root ++ "/" ++ name) = .ok ⟨size, true⟩
  /-- The storage tells of all that these directories list. -/
  told : ∀ root ∈ inquiry.roots view, ∀ name ∈ view.names root,
    ∀ file ∈ view.names (root ++ "/" ++ name),
      view.complaint (root ++ "/" ++ name ++ "/" ++ file) = none
  /-- The databases are those that occur in some root. -/
  occur : ∀ database : Int, database ∈ databases ↔
    ∃ root ∈ inquiry.roots view, toString database ∈ view.names root

/-- The own sizes of the directories of databases. -/
def ownSizesOfDirectories (inquiry : Inquiry) (view : View) : Nat :=
  ((inquiry.roots view).map fun root =>
    ((view.names root).map fun name => view.fileSize (root ++ "/" ++ name)).sum).sum

namespace Divided

variable (h : inquiry.Divided view tablespaces databases)

include h

theorem directorySize_listed (hroot : root ∈ inquiry.roots view) {name : String}
    (hname : name ∈ view.names root) : (directorySize (root ++ "/" ++ name)).Yields view
      (.ok (view.directoryTotal (root ++ "/" ++ name))) := by
  obtain ⟨⟨database, rfl⟩, size, hstat⟩ := h.named root hroot name hname
  have hopens := View.opens_entry h.faultless (pathParts_root hroot) (h.roots_open root hroot)
    (isName_toString database) fun found hfound => by
      rw [hstat] at hfound
      cases hfound
      rfl
  exact directorySize_yields h.faultless hopens (h.told root hroot _ hname)

/-- The directory of a database that a root does not list is empty. -/
theorem names_of_not_listed (hroot : root ∈ inquiry.roots view) {database : Int}
    (hnot : toString database ∉ view.names root) :
    view.names (root ++ "/" ++ toString database) = [] := by
  obtain ⟨reason, hlist⟩ := View.list_of_not_mem_names h.faultless (pathParts_root hroot)
    (h.roots_open root hroot) (isName_toString database) hnot
  exact View.names_of_list_error hlist

theorem directorySize_yields (hroot : root ∈ inquiry.roots view) (database : Int) :
    (directorySize (root ++ "/" ++ toString database)).Yields view
      (.ok (view.directoryTotal (root ++ "/" ++ toString database))) := by
  by_cases hlisted : toString database ∈ view.names root
  · exact h.directorySize_listed hroot hlisted
  · obtain ⟨reason, hlist⟩ := View.list_of_not_mem_names h.faultless (pathParts_root hroot)
      (h.roots_open root hroot) (isName_toString database) hlisted
    refine Storage.directorySize_yields h.faultless (fun fault hfault => ?_) fun name hname => ?_
    · rw [hlist] at hfault
      cases hfault
      rfl
    · rw [h.names_of_not_listed hroot hlisted] at hname
      cases hname

theorem databaseSizeOf_yields (database : Int) : (inquiry.databaseSizeOf database).Yields view
    (.ok ((inquiry.roots view).map fun root =>
      view.directoryTotal (root ++ "/" ++ toString database)).sum) := by
  have hdirectories : ∀ directory ∈ inquiry.directories view database,
      (directorySize directory).Yields view (.ok (view.directoryTotal directory)) :=
    List.forall_mem_map.mpr fun root hroot => h.directorySize_yields hroot database
  have hsize := Inquiry.databaseSizeOf_yields h.faultless h.links_open hdirectories
  rwa [directories, List.map_map] at hsize

theorem roots_eq : inquiry.roots view =
    (defaultTablespace :: tablespaces).map (tablespacePath inquiry.version) := by
  rw [roots, h.linked, List.map_map, List.map_cons]
  refine congrArg (_ :: ·) (List.map_congr_left fun tablespace htablespace => ?_)
  obtain ⟨hdefault, hglobal⟩ := h.not_reserved tablespace htablespace
  exact (tablespacePath_linked inquiry.version hdefault hglobal).symm

theorem tablespaceSizeOf_yields {tablespace : Int}
    (htablespace : tablespace ∈ defaultTablespace :: tablespaces) :
    ∃ total, (inquiry.tablespaceSizeOf tablespace).Yields view (.ok total) ∧
      total.getD 0 = view.rootTotal (tablespacePath inquiry.version tablespace) := by
  have hroot : tablespacePath inquiry.version tablespace ∈ inquiry.roots view :=
    h.roots_eq ▸ List.mem_map_of_mem htablespace
  exact tablespaceRootSize_yields h.faultless (h.roots_open _ hroot) fun name hname =>
    ⟨(h.named _ hroot name hname).2, h.directorySize_listed hroot hname⟩

/-- **The names that a root lists stand for all databases.** -/
theorem sum_names (hroot : root ∈ inquiry.roots view) :
    ((view.names root).map fun name => view.directoryTotal (root ++ "/" ++ name)).sum =
      ∑ database ∈ databases, view.directoryTotal (root ++ "/" ++ toString database) := by
  have hnodup : (view.names root).Nodup :=
    View.nodup_names h.faultless (pathParts_root hroot) (h.roots_open root hroot)
      fun name hname => by
        obtain ⟨⟨database, rfl⟩, size, hstat⟩ := h.named root hroot name hname
        exact ⟨isName_toString database, _, hstat⟩
  -- The names are the numbers of the databases that the root lists, each once.
  have hlisted : (databases.filter fun database => toString database ∈ view.names root).image
      toString = (view.names root).toFinset := by
    ext name
    simp only [Finset.mem_image, Finset.mem_filter, List.mem_toFinset]
    constructor
    · rintro ⟨database, ⟨-, hname⟩, rfl⟩
      exact hname
    · intro hname
      obtain ⟨⟨database, rfl⟩, -⟩ := h.named root hroot name hname
      exact ⟨database, ⟨(h.occur database).mpr ⟨root, hroot, hname⟩, hname⟩, rfl⟩
  rw [← List.sum_toFinset _ hnodup, ← hlisted,
    Finset.sum_image fun database _ other _ heq => toString_inj.mp heq]
  -- A database that is not listed adds nothing.
  refine Finset.sum_filter_of_ne fun database _ hne => ?_
  by_contra hnot
  rw [View.directoryTotal, h.names_of_not_listed hroot hnot] at hne
  exact hne rfl

end Divided

theorem sum_databases_comm (databases : Finset Int) (roots : List String)
    (size : String → Int → Nat) :
    ∑ database ∈ databases, (roots.map fun root => size root database).sum =
      (roots.map fun root => ∑ database ∈ databases, size root database).sum := by
  induction roots with
  | nil => exact Finset.sum_const_zero
  | cons root rest ih =>
    simp only [List.map_cons, List.sum_cons]
    rw [Finset.sum_add_distrib, ih]

/-- **Databases and tablespaces account for the same bytes.** -/
theorem databases_add_own_eq_tablespaces (inquiry : Inquiry) (view : View)
    (tablespaces : List Int) (databases : Finset Int)
    (h : inquiry.Divided view tablespaces databases) :
    ∃ (databaseSize : Int → Nat) (tablespaceSize : Int → Option Nat),
      (∀ database ∈ databases, ((inquiry.databaseSizeOf database).start view.quiet).1 =
        .ok (databaseSize database)) ∧
      (∀ tablespace ∈ defaultTablespace :: tablespaces,
        ((inquiry.tablespaceSizeOf tablespace).start view.quiet).1 =
          .ok (tablespaceSize tablespace)) ∧
      ∑ database ∈ databases, databaseSize database + inquiry.ownSizesOfDirectories view =
        (tablespaceSize defaultTablespace).getD 0 +
          (tablespaces.map fun tablespace => (tablespaceSize tablespace).getD 0).sum := by
  -- Only the roots of these tablespaces are known to be readable, so the choice is guarded.
  have htotal : ∀ tablespace, ∃ total, tablespace ∈ defaultTablespace :: tablespaces →
      (inquiry.tablespaceSizeOf tablespace).Yields view (.ok total) ∧
        total.getD 0 = view.rootTotal (tablespacePath inquiry.version tablespace) := by
    intro tablespace
    by_cases hmem : tablespace ∈ defaultTablespace :: tablespaces
    · obtain ⟨total, htotal⟩ := h.tablespaceSizeOf_yields hmem
      exact ⟨total, fun _ => htotal⟩
    · exact ⟨none, fun hin => absurd hin hmem⟩
  choose tablespaceSize htablespace using htotal
  refine ⟨_, tablespaceSize, fun database _ => (h.databaseSizeOf_yields database).start,
    fun tablespace hmem => (htablespace tablespace hmem).1.start, ?_⟩
  have hroots : ∀ root ∈ inquiry.roots view,
      ∑ database ∈ databases, view.directoryTotal (root ++ "/" ++ toString database) +
        ((view.names root).map fun name => view.fileSize (root ++ "/" ++ name)).sum =
      view.rootTotal root := fun root hroot => by
    rw [← h.sum_names hroot, View.rootTotal, List.sum_map_add]
  calc _ = ((inquiry.roots view).map fun root =>
        ∑ database ∈ databases, view.directoryTotal (root ++ "/" ++ toString database) +
          ((view.names root).map fun name => view.fileSize (root ++ "/" ++ name)).sum).sum := by
        rw [sum_databases_comm, ownSizesOfDirectories, List.sum_map_add]
    _ = ((inquiry.roots view).map view.rootTotal).sum :=
        congrArg List.sum (List.map_congr_left hroots)
    _ = ((defaultTablespace :: tablespaces).map fun tablespace =>
          (tablespaceSize tablespace).getD 0).sum := by
        rw [h.roots_eq, List.map_map]
        exact congrArg List.sum (List.map_congr_left fun tablespace hmem =>
          (htablespace tablespace hmem).2.symm)
    _ = _ := by rw [List.map_cons, List.sum_cons]

/-- Two databases, of which only the first has files in a linked tablespace. -/
def dividedFiles : View where
  tree := [(["base", "5", "20"], 1), (["base", "6", "20"], 2),
      (["pg_tblspc", "9", "V", "5", "21"], 4)].foldl
    (fun tree (path, size) => tree.place path { isDirectory := false, size }) .empty
  root := ""
  watch := none

/-- An inquiry about them. -/
def aboutDivided : Inquiry where
  catalog := .bootstrap
  viewer := { role := "postgres", database := 5 }
  version := "V"

theorem databases_add_own_divided :
    ((aboutDivided.databaseSizeOf 5).start dividedFiles.quiet).1 = .ok 5 ∧
    aboutDivided.ownSizesOfDirectories dividedFiles = 3 * plainDirectorySize ∧
    ∃ (databaseSize : Int → Nat) (tablespaceSize : Int → Option Nat),
      (∀ database ∈ ({5, 6} : Finset Int),
        ((aboutDivided.databaseSizeOf database).start dividedFiles.quiet).1 =
          .ok (databaseSize database)) ∧
      (∀ tablespace ∈ [defaultTablespace, 9],
        ((aboutDivided.tablespaceSizeOf tablespace).start dividedFiles.quiet).1 =
          .ok (tablespaceSize tablespace)) ∧
      ∑ database ∈ {5, 6}, databaseSize database + 3 * plainDirectorySize =
        (tablespaceSize defaultTablespace).getD 0 +
          ([9].map fun tablespace => (tablespaceSize tablespace).getD 0).sum := by
  have hown : aboutDivided.ownSizesOfDirectories dividedFiles = 3 * plainDirectorySize := by
    decide +kernel
  have hnamed : ∀ root ∈ aboutDivided.roots dividedFiles, ∀ name ∈ dividedFiles.names root,
      (∃ database ∈ ({5, 6} : Finset Int), name = toString database) ∧
        (dividedFiles.found? (root ++ "/" ++ name)).map FileStat.isDirectory = some true := by
    decide +kernel
  have hoccur : ∀ database ∈ ({5, 6} : Finset Int),
      ∃ root ∈ aboutDivided.roots dividedFiles, toString database ∈ dividedFiles.names root := by
    decide +kernel
  have hdivided : aboutDivided.Divided dividedFiles [9] {5, 6} :=
    { faultless := Tree.faultless_of_entries (by decide +kernel)
      links_open := by decide +kernel
      roots_open := by decide +kernel
      linked := by decide +kernel
      not_reserved := by decide
      named := fun root hroot name hname => by
        obtain ⟨⟨database, -, heq⟩, hdirectory⟩ := hnamed root hroot name hname
        obtain ⟨⟨size, _⟩, hfound, rfl⟩ := Option.map_eq_some_iff.mp hdirectory
        exact ⟨⟨database, heq⟩, size, View.found?_eq_some_iff.mp hfound⟩
      told := by decide +kernel
      occur := fun database => ⟨hoccur database, fun ⟨root, hroot, hname⟩ => by
        obtain ⟨⟨other, hother, heq⟩, -⟩ := hnamed root hroot _ hname
        exact toString_inj.mp heq ▸ hother⟩ }
  obtain ⟨databaseSize, tablespaceSize, hdatabases, htablespaces, hsum⟩ :=
    databases_add_own_eq_tablespaces aboutDivided dividedFiles [9] {5, 6} hdivided
  exact ⟨by decide +kernel, hown, databaseSize, tablespaceSize, hdatabases, htablespaces,
    hown ▸ hsum⟩

end Footprint.Inquiry
