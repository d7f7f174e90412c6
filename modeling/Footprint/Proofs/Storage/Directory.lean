import Footprint.Proofs.Storage.Enumeration

/-!
# Sizes of directories

The size of a directory is a sum over the names that it lists (`View.directoryTotal`), and the size
of the root of a tablespace is one over the directories below it, each with what it lists
(`View.rootTotal`). In a tree without faults the measures yield these sums for every directory that
opens (`directorySize_yields`, `tablespaceRootSize_yields`); a directory that is not there lists
nothing, so that both sums are zero for it.
-/

namespace Footprint.Storage

open Scan

variable {view : View} {path root : String}

namespace View

/-- The sum of the sizes of what a directory lists. -/
def directoryTotal (view : View) (path : String) : Nat :=
  ((view.names path).map fun name => view.fileSize (path ++ "/" ++ name)).sum

/-- The sum over what the root of a tablespace lists, each entry with what it lists itself. -/
def rootTotal (view : View) (root : String) : Nat :=
  ((view.names root).map fun name =>
    view.directoryTotal (root ++ "/" ++ name) + view.fileSize (root ++ "/" ++ name)).sum

/-- The storage tells of every entry of a directory that opens. -/
theorem complaint_entry (htree : view.tree.Faultless) {directory name : String}
    (hparts : pathParts directory ≠ []) (hopens : view.Opens directory) (hname : IsName name) :
    view.complaint (directory ++ "/" ++ name) = none := by
  cases hstat : view.stat (directory ++ "/" ++ name) with
  | ok found => exact complaint_of_ok hstat
  | error fault =>
    exact complaint_of_isAbsence hstat (isAbsence_of_stat_entry htree hparts hopens hname hstat)

end View

/-! ### Directories -/

section Faultless

variable (htree : view.tree.Faultless)

include htree

theorem directorySize_yields (hopens : view.Opens path)
    (hclean : ∀ name ∈ view.names path, view.complaint (path ++ "/" ++ name) = none) :
    (directorySize path).Yields view (.ok (view.directoryTotal path)) := by
  rcases hopens.cases htree with ⟨-, -, -, hnames, -⟩ | ⟨reason, -, habsent, hnone⟩
  · exact directorySize_yields_of_enumerated (.summed hnames fun name hmem =>
      congrArg Prod.fst (View.entry_of_clean (hclean name hmem)))
  · rw [View.directoryTotal, hnone]
    exact directorySize_yields_of_enumerated (.absent habsent)

theorem tablespaceRootSize_yields (hopens : view.Opens root) (hentries : ∀ name ∈ view.names root,
      (∃ size, view.stat (root ++ "/" ++ name) = .ok ⟨size, true⟩) ∧
      (directorySize (root ++ "/" ++ name)).Yields view
        (.ok (view.directoryTotal (root ++ "/" ++ name)))) :
    ∃ total, (tablespaceRootSize root).Yields view (.ok total) ∧
      total.getD 0 = view.rootTotal root := by
  rcases hopens.cases htree with ⟨-, -, -, hnames, -⟩ | ⟨reason, -, habsent, hnone⟩
  · have hsize : ∀ name ∈ view.names root, (view.rootEntry (root ++ "/" ++ name)).1 =
        .ok (view.directoryTotal (root ++ "/" ++ name) + view.fileSize (root ++ "/" ++ name)) := by
      intro name hmem
      obtain ⟨⟨size, hstat⟩, hlisted⟩ := hentries name hmem
      rw [View.fileSize_of_ok hstat]
      exact View.rootEntry_of_directory hstat hlisted
    exact ⟨some (view.rootTotal root),
      tablespaceRootSize_yields_of_enumerated (.summed hnames hsize), rfl⟩
  · refine ⟨none, tablespaceRootSize_yields_of_enumerated (.absent habsent), ?_⟩
    rw [View.rootTotal, hnone]
    rfl

end Faultless

end Footprint.Storage
