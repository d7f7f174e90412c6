import Footprint.Inquiry
import Footprint.Proofs.Storage.Cancellation

/-!
# Calling off an inquiry

Every size that can be asked for is cancelable (`Inquiry.sizes_cancelable`): an inquiry that is
called off at whatever moment either fails with the reason given or ends as it would have ended
anyway, and it never yields part of a sum.

The sizes of relations are sums of chains of segments, with a checkpoint before each request. The
two late requests that the bound leaves room for are those of a database without files in the
default tablespace, whose directory is opened and then the directory of the other tablespaces,
with no entry and so no checkpoint in between.
-/

namespace Footprint.Inquiry

open Storage Storage.Scan

variable {watch : Watch}

/-! ### Relations -/

theorem heeds_forkSize (inquiry : Inquiry) (relation : Relation) (fork : Fork) :
    Heeds watch (inquiry.forkSize relation fork) 0 0 :=
  (Heeds.ofExcept _).andThen fun _ => Storage.heeds_forkSize _ _ _ _

theorem heeds_forksSize (inquiry : Inquiry) (relation : Relation) (forks : List Fork) :
    Heeds watch (inquiry.forksSize relation forks) 0 0 := by
  induction forks with
  | nil => exact Heeds.pure 0
  | cons fork rest ih =>
    exact (inquiry.heeds_forkSize relation fork).andThen fun size =>
      ih.andThen fun others => Heeds.pure _

theorem heeds_ownSize (inquiry : Inquiry) (relation : Relation) :
    Heeds watch (inquiry.ownSize relation) 0 0 := by
  unfold ownSize
  split
  · exact inquiry.heeds_forksSize relation _
  · exact Heeds.pure 0

theorem heeds_ownSizes (inquiry : Inquiry) (relations : List Relation) :
    Heeds watch (inquiry.ownSizes relations) 0 0 := by
  induction relations with
  | nil => exact Heeds.pure 0
  | cons relation rest ih =>
    exact (inquiry.heeds_ownSize relation).andThen fun size =>
      ih.andThen fun others => Heeds.pure _

theorem heeds_toastSize (inquiry : Inquiry) (oid : Int) :
    Heeds watch (inquiry.toastSize oid) 0 0 := by
  unfold toastSize
  split
  · exact (Heeds.warn _).andThen fun _ => Heeds.pure 0
  · exact inquiry.heeds_ownSizes _

theorem heeds_tableSize (inquiry : Inquiry) (relation : Relation) :
    Heeds watch (inquiry.tableSize relation) 0 0 := by
  refine (inquiry.heeds_ownSize relation).andThen fun size => ?_
  refine Heeds.andThen ?_ fun overflow => Heeds.pure _
  unfold overflowSize
  split
  · exact Heeds.pure 0
  · exact inquiry.heeds_toastSize _

theorem heeds_indexesSize (inquiry : Inquiry) (relation : Relation) :
    Heeds watch (inquiry.indexesSize relation) 0 0 :=
  inquiry.heeds_ownSizes _

theorem heeds_totalSize (inquiry : Inquiry) (relation : Relation) :
    Heeds watch (inquiry.totalSize relation) 0 0 :=
  (inquiry.heeds_tableSize relation).andThen fun _ =>
    (inquiry.heeds_indexesSize relation).andThen fun _ => Heeds.pure _

theorem heeds_measured (inquiry : Inquiry) {measure : Relation → Scan Nat}
    (h : ∀ relation, Heeds watch (measure relation) 0 0) (reference : Reference) :
    Heeds watch (inquiry.measured measure reference) 0 0 := by
  refine (Heeds.ofExcept _).andThen fun relation => ?_
  cases relation with
  | none => exact Heeds.pure none
  | some relation => exact (h relation).map some

theorem heeds_relationSize (inquiry : Inquiry) (forkName : String) (reference : Reference) :
    Heeds watch (inquiry.relationSize forkName reference) 0 0 := by
  refine (Heeds.ofExcept _).andThen fun fork =>
    inquiry.heeds_measured (fun relation => ?_) reference
  split
  · exact inquiry.heeds_forkSize relation fork
  · exact Heeds.pure 0

/-! ### Databases and tablespaces -/

theorem heeds_linkedSize (inquiry : Inquiry) (database : Int) (names : List String) :
    Heeds watch (inquiry.linkedSize database names) 0 1 := by
  induction names with
  | nil => exact (Heeds.pure 0).mono (Nat.le_refl 0) (Nat.zero_le 1)
  | cons name rest ih =>
    refine Heeds.inTime (Heeds.checkpoint.andLate fun _ => ?_)
    refine (heeds_directorySize _).andThen fun size => ih.andThen fun others => ?_
    exact (Heeds.pure _).mono (Nat.le_refl 0) (Nat.zero_le 1)

theorem heeds_databaseSizeOf (inquiry : Inquiry) (database : Int) :
    Heeds watch (inquiry.databaseSizeOf database) 2 2 := by
  refine ((heeds_directorySize _).bind fun base => (?_ : Heeds watch _ 1 1)).mono
    (Nat.le_refl 2) (Nat.le_refl 2)
  refine (Heeds.list linkDirectory).andThen fun listing => ?_
  cases listing with
  | none =>
    refine Heeds.mono ?_ (Nat.le_refl 0) (Nat.zero_le 1)
    exact (Heeds.warn _).andThen fun _ => Heeds.pure base
  | some listing =>
    refine (inquiry.heeds_linkedSize database listing.names).andThen fun linked => ?_
    refine Heeds.mono ?_ (Nat.le_refl 0) (Nat.zero_le 1)
    exact (Heeds.finish linkDirectory listing).andThen fun _ => Heeds.pure _

theorem heeds_authorized {α : Type} (verdict : Viewer.Verdict α) :
    Heeds watch (authorized verdict) 0 0 := by
  have hwarnings : ∀ warnings : List Warning,
      Heeds watch (warnings.forM Scan.warn) 0 0 := by
    intro warnings
    induction warnings with
    | nil => exact Heeds.pure _
    | cons warning rest ih => exact (Heeds.warn warning).andThen fun _ => ih
  exact (hwarnings verdict.2).andThen fun _ => Heeds.ofExcept verdict.1

theorem heeds_databaseSize (inquiry : Inquiry) (reference : Reference) :
    Heeds watch (inquiry.databaseSize reference) 2 2 :=
  (heeds_authorized _).andLate fun oid => inquiry.heeds_databaseSizeOf oid

theorem heeds_tablespaceSize (inquiry : Inquiry) (reference : Reference) :
    Heeds watch (inquiry.tablespaceSize reference) 1 1 :=
  (heeds_authorized _).andLate fun _ => heeds_tablespaceRootSize _

/-! ### All sizes -/

/-- **Calling off never changes a size, it only replaces it.** -/
theorem sizes_cancelable (inquiry : Inquiry) :
    (∀ forkName reference, (inquiry.relationSize forkName reference).Cancelable) ∧
    (∀ reference, (inquiry.measured inquiry.tableSize reference).Cancelable) ∧
    (∀ reference, (inquiry.measured inquiry.indexesSize reference).Cancelable) ∧
    (∀ reference, (inquiry.measured inquiry.totalSize reference).Cancelable) ∧
    (∀ oid, (inquiry.toastSize oid).Cancelable) ∧
    (∀ reference, (inquiry.databaseSize reference).Cancelable) ∧
    (∀ reference, (inquiry.tablespaceSize reference).Cancelable) ∧
    (∀ base, (segmentChainSize base).Cancelable) ∧
    (∀ path, (directorySize path).Cancelable) ∧
    (∀ root, (tablespaceRootSize root).Cancelable) := by
  refine ⟨fun forkName reference => ?_, fun reference => ?_, fun reference => ?_,
    fun reference => ?_, fun oid => ?_, fun reference => ?_, fun reference => ?_, fun base => ?_,
    fun path => ?_, fun root => ?_⟩
  · exact Heeds.cancelable (fun _ => inquiry.heeds_relationSize forkName reference) (by decide)
  · exact Heeds.cancelable (fun _ => inquiry.heeds_measured inquiry.heeds_tableSize reference)
      (by decide)
  · exact Heeds.cancelable (fun _ => inquiry.heeds_measured inquiry.heeds_indexesSize reference)
      (by decide)
  · exact Heeds.cancelable (fun _ => inquiry.heeds_measured inquiry.heeds_totalSize reference)
      (by decide)
  · exact Heeds.cancelable (fun _ => inquiry.heeds_toastSize oid) (by decide)
  · exact Heeds.cancelable (fun _ => inquiry.heeds_databaseSize reference) (by decide)
  · exact Heeds.cancelable (fun _ => inquiry.heeds_tablespaceSize reference) (by decide)
  · exact Heeds.cancelable (fun _ => heeds_segmentChainSize base) (by decide)
  · exact Heeds.cancelable (fun _ => heeds_directorySize path) (by decide)
  · exact Heeds.cancelable (fun _ => heeds_tablespaceRootSize root) (by decide)

end Footprint.Inquiry
