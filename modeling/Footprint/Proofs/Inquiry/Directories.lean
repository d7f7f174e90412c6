import Footprint.Inquiry
import Footprint.Proofs.Storage.Directory

/-!
# The directories of a database

A database has a directory in the default tablespace and one in each linked tablespace, whether it
is there or not: below each root of a tablespace the one that bears the number of the database
(`Inquiry.directories`). The size of the database is the sum over them
(`Inquiry.databaseSizeOf_yields`).
-/

namespace Footprint.Inquiry

open Storage Storage.Scan

variable {inquiry : Inquiry} {view : View} {database : Int}

/-- The root of the linked tablespace of a name. -/
def linkedRoot (inquiry : Inquiry) (name : String) : String :=
  linkDirectory ++ "/" ++ name ++ "/" ++ inquiry.version

/-- The roots of the default tablespace and of all linked ones. -/
def roots (inquiry : Inquiry) (view : View) : List String :=
  defaultDirectory :: (view.names linkDirectory).map inquiry.linkedRoot

/-- The directories that a database may have. -/
def directories (inquiry : Inquiry) (view : View) (database : Int) : List String :=
  (inquiry.roots view).map fun root => root ++ "/" ++ toString database

theorem pathParts_linkDirectory : pathParts linkDirectory ≠ [] := by decide

theorem pathParts_root {root : String} (h : root ∈ inquiry.roots view) : pathParts root ≠ [] := by
  rcases List.mem_cons.mp h with rfl | hlinked
  · decide
  · obtain ⟨name, -, rfl⟩ := List.mem_map.mp hlinked
    exact pathParts_slash_ne_nil (pathParts_slash_ne_nil pathParts_linkDirectory name) _

theorem pathParts_directory {directory : String}
    (h : directory ∈ inquiry.directories view database) : pathParts directory ≠ [] := by
  obtain ⟨root, hroot, rfl⟩ := List.mem_map.mp h
  exact pathParts_slash_ne_nil (pathParts_root hroot) _

/-- The sum over the linked tablespaces. -/
theorem linkedSize_yields {names : List String} (h : ∀ name ∈ names,
      (directorySize (inquiry.linkedRoot name ++ "/" ++ toString database)).Yields view
        (.ok (view.directoryTotal (inquiry.linkedRoot name ++ "/" ++ toString database)))) :
    (inquiry.linkedSize database names).Yields view (.ok (names.map fun name =>
      view.directoryTotal (inquiry.linkedRoot name ++ "/" ++ toString database)).sum) := by
  induction names with
  | nil => exact yields_pure 0 view
  | cons name rest ih =>
    rw [List.forall_mem_cons] at h
    exact (yields_checkpoint view).bind (h.1.bind ((ih h.2).bind (yields_pure _ view)))

theorem sum_directories (inquiry : Inquiry) (view : View) (database : Int) :
    ((inquiry.directories view database).map view.directoryTotal).sum =
      view.directoryTotal (defaultDirectory ++ "/" ++ toString database) +
        ((view.names linkDirectory).map fun name =>
          view.directoryTotal (inquiry.linkedRoot name ++ "/" ++ toString database)).sum := by
  simp only [directories, roots, List.map_cons, List.sum_cons, List.map_map, Function.comp_def]

/-- **A database is the sum of its directories.** -/
theorem databaseSizeOf_yields (htree : view.tree.Faultless) (hlinks : view.Opens linkDirectory)
    (h : ∀ directory ∈ inquiry.directories view database,
      (directorySize directory).Yields view (.ok (view.directoryTotal directory))) :
    (inquiry.databaseSizeOf database).Yields view
      (.ok ((inquiry.directories view database).map view.directoryTotal).sum) := by
  rw [sum_directories]
  rw [directories, List.forall_mem_map, roots, List.forall_mem_cons, List.forall_mem_map] at h
  obtain ⟨hbase, hlinked⟩ := h
  have hlist := yields_list linkDirectory view
  refine Yields.bind hbase ?_
  rcases hlinks.cases htree with ⟨-, -, -, hnames, -⟩ | ⟨reason, -, habsent, hnone⟩
  · rw [hnames] at hlist
    refine Yields.bind hlist ?_
    refine (linkedSize_yields hlinked).bind ?_
    exact (yields_finish linkDirectory ⟨view.names linkDirectory, none⟩ view).bind
      (yields_pure _ view)
  · rw [habsent] at hlist
    rw [hnone, List.map_nil, List.sum_nil, Nat.add_zero]
    refine Yields.bind hlist ?_
    exact (yields_warn _ view).bind (yields_pure _ view)

end Footprint.Inquiry
