import Footprint.Inquiry
import Footprint.Proofs.Storage.Chain

/-!
# The total size of a relation

What the total of a relation takes in is a list of relations: the relation itself, its overflow
table with the indexes of that, and its own indexes (`Inquiry.parts`). Each of them stands for the
chains of its forks, and every one of the nested sums is a scan that adds up (`Scan.Adds`): the
files that it asks for are those of its parts, one part after the other, and what it yields is the
sum of the parts. From this it follows what the three sizes of a relation are, and that a storage
which refuses to tell of one of the files makes an error of the whole (`Inquiry.relation_totals`).
-/

namespace Footprint

open Storage Storage.Scan

theorem Storage.Fork.mem_all (fork : Fork) : fork ∈ Fork.all := by
  cases fork <;> decide

namespace Inquiry

variable {inquiry : Inquiry} {view : View} {relation : Relation}

/-! ### The parts of a total -/

/-- The path of the first segment of a fork of a relation. -/
def forkPath (inquiry : Inquiry) (relation : Relation) (fork : Fork) : Except Error String := do
  let locator ← inquiry.catalog.locator relation
  Storage.forkPath inquiry.version locator relation.fileBackend fork

/-- A relation whose forks have paths, if it has files at all. -/
def Placed (inquiry : Inquiry) (relation : Relation) : Prop :=
  relation.hasStorage = true → ∀ fork ∈ Fork.all, (inquiry.forkPath relation fork).isOk = true

instance (inquiry : Inquiry) (relation : Relation) : Decidable (inquiry.Placed relation) :=
  inferInstanceAs (Decidable (_ → _))

/-- The chains that a relation consists of, by the paths of their first segments. -/
def chains (inquiry : Inquiry) (relation : Relation) : List String :=
  if relation.hasStorage then
    Fork.all.filterMap fun fork => (inquiry.forkPath relation fork).toOption
  else []

/-- The sum of the chains of a relation. -/
def ownTotal (inquiry : Inquiry) (view : View) (relation : Relation) : Nat :=
  ((inquiry.chains relation).map view.chainTotal).sum

/-- The sum of the chains of some relations. -/
def ownTotals (inquiry : Inquiry) (view : View) (relations : List Relation) : Nat :=
  (relations.map (inquiry.ownTotal view)).sum

/-- The files that are asked for when the sizes of some relations are taken, in order. -/
def probes (inquiry : Inquiry) (view : View) (relations : List Relation) : List String :=
  relations.flatMap fun relation => (inquiry.chains relation).flatMap view.chainProbes

/-- The overflow table of a relation and the indexes of that, as far as they are in the catalog. -/
def overflowParts (inquiry : Inquiry) (relation : Relation) : List Relation :=
  match relation.toast.bind inquiry.catalog.relations.find? with
  | none => []
  | some toast => toast :: inquiry.catalog.indexesOf toast

/-- What the total of a relation takes in, in order. -/
def parts (inquiry : Inquiry) (relation : Relation) : List Relation :=
  relation :: inquiry.overflowParts relation ++ inquiry.catalog.indexesOf relation

theorem probes_append (inquiry : Inquiry) (view : View) (front rest : List Relation) :
    inquiry.probes view (front ++ rest) = inquiry.probes view front ++ inquiry.probes view rest :=
  List.flatMap_append

theorem ownTotals_cons (inquiry : Inquiry) (view : View) (relation : Relation)
    (rest : List Relation) : inquiry.ownTotals view (relation :: rest) =
      inquiry.ownTotal view relation + inquiry.ownTotals view rest :=
  List.sum_cons

/-! ### Adding up the parts -/

theorem forkSize_eq (inquiry : Inquiry) (relation : Relation) (fork : Fork) :
    inquiry.forkSize relation fork =
      Scan.ofExcept (inquiry.forkPath relation fork) >>= segmentChainSize := by
  unfold forkSize forkPath
  cases inquiry.catalog.locator relation <;> rfl

theorem forkSize_adds {fork : Fork} {path : String}
    (h : inquiry.forkPath relation fork = .ok path) :
    (inquiry.forkSize relation fork).Adds view (view.chainProbes path) (view.chainTotal path) := by
  rw [forkSize_eq, h]
  exact (yields_ofExcept (.ok path) view).bind (segmentChainSize_adds view path)

theorem forksSize_adds {forks : List Fork}
    (h : ∀ fork ∈ forks, (inquiry.forkPath relation fork).isOk = true) :
    (inquiry.forksSize relation forks).Adds view
      ((forks.filterMap fun fork => (inquiry.forkPath relation fork).toOption).flatMap
        view.chainProbes)
      ((forks.filterMap fun fork => (inquiry.forkPath relation fork).toOption).map
        view.chainTotal).sum := by
  induction forks with
  | nil => exact adds_pure 0 view
  | cons fork rest ih =>
    rw [List.forall_mem_cons] at h
    cases hpath : inquiry.forkPath relation fork with
    | error e =>
      rw [hpath] at h
      cases h.1
    | ok path =>
      rw [List.filterMap_cons, hpath]
      exact (forkSize_adds hpath).add (ih h.2)

theorem ownSize_adds (h : inquiry.Placed relation) :
    (inquiry.ownSize relation).Adds view ((inquiry.chains relation).flatMap view.chainProbes)
      (inquiry.ownTotal view relation) := by
  unfold ownSize ownTotal chains
  split
  · next hstorage => exact forksSize_adds (h hstorage)
  · exact adds_pure 0 view

theorem ownSizes_adds {relations : List Relation} (h : ∀ part ∈ relations, inquiry.Placed part) :
    (inquiry.ownSizes relations).Adds view (inquiry.probes view relations)
      (inquiry.ownTotals view relations) := by
  induction relations with
  | nil => exact adds_pure 0 view
  | cons relation rest ih =>
    rw [List.forall_mem_cons] at h
    exact (ownSize_adds h.1).add (ih h.2)

theorem overflowSize_adds (h : ∀ part ∈ inquiry.overflowParts relation, inquiry.Placed part) :
    (inquiry.overflowSize relation).Adds view
      (inquiry.probes view (inquiry.overflowParts relation))
      (inquiry.ownTotals view (inquiry.overflowParts relation)) := by
  cases htoast : relation.toast with
  | none =>
    have hparts : inquiry.overflowParts relation = [] := by rw [overflowParts, htoast]; rfl
    rw [hparts, overflowSize, htoast]
    exact adds_pure 0 view
  | some oid =>
    cases hfind : inquiry.catalog.relations.find? oid with
    | none =>
      have hparts : inquiry.overflowParts relation = [] := by
        rw [overflowParts, htoast, Option.bind_some, hfind]
      rw [hparts, overflowSize, htoast]
      simp only [toastSize, hfind]
      exact (adds_pure 0 view).after_warn _
    | some toast =>
      have hparts : inquiry.overflowParts relation =
          toast :: inquiry.catalog.indexesOf toast := by
        rw [overflowParts, htoast, Option.bind_some, hfind]
      rw [hparts] at h ⊢
      rw [overflowSize, htoast]
      simp only [toastSize, hfind]
      exact ownSizes_adds h

theorem tableSize_adds
    (h : ∀ part ∈ relation :: inquiry.overflowParts relation, inquiry.Placed part) :
    (inquiry.tableSize relation).Adds view
      (inquiry.probes view (relation :: inquiry.overflowParts relation))
      (inquiry.ownTotals view (relation :: inquiry.overflowParts relation)) := by
  rw [List.forall_mem_cons] at h
  exact (ownSize_adds h.1).add (overflowSize_adds h.2)

theorem totalSize_adds (h : ∀ part ∈ inquiry.parts relation, inquiry.Placed part) :
    (inquiry.totalSize relation).Adds view (inquiry.probes view (inquiry.parts relation))
      (inquiry.ownTotals view (relation :: inquiry.overflowParts relation) +
        inquiry.ownTotals view (inquiry.catalog.indexesOf relation)) := by
  rw [parts, List.forall_mem_append] at h
  rw [parts, probes_append]
  exact (tableSize_adds h.1).add (ownSizes_adds h.2)

/-! ### The sizes of a relation -/

/-- What a measure of the relation of a number says without a watch. -/
def answer (inquiry : Inquiry) (view : View) (measure : Relation → Scan Nat) (n : Int) :
    Except Error (Option Nat) :=
  ((inquiry.measured measure (.oid n)).start view.quiet).1

/-- A measure of the relation that is referred to. -/
theorem measured_yields {measure : Relation → Scan Nat} {reference : Reference}
    {probes : List String} {total : Nat}
    (hrelation : inquiry.relation? reference = .ok (some relation))
    (h : (measure relation).Adds view probes total) :
    (inquiry.measured measure reference).Yields view ((view.tally probes total).map some) := by
  rw [measured, hrelation]
  exact Yields.bind (yields_ofExcept (.ok (some relation)) view) (h.map some)

theorem answer_eq {measure : Relation → Scan Nat} {n : Int} {probes : List String} {total : Nat}
    (hfind : inquiry.catalog.relations.find? n = some relation)
    (h : (measure relation).Adds view probes total) :
    inquiry.answer view measure n = (view.tally probes total).map some := by
  have hrelation : inquiry.relation? (.oid n) = .ok (some relation) := congrArg Except.ok hfind
  exact (measured_yields hrelation h).start

theorem measured_of_unknown {n : Int} (hfind : inquiry.catalog.relations.find? n = none)
    (measure : Relation → Scan Nat) (view : View) :
    (inquiry.measured measure (.oid n)).start view = (.ok none, .none) := by
  have hrelation : inquiry.relation? (.oid n) = .ok none := congrArg Except.ok hfind
  rw [measured, hrelation]
  rfl

/-- What the sizes of the relation of a number are, by the parts of its total. -/
structure SumsUp (inquiry : Inquiry) (view : View) (n : Int) (relation : Relation) : Prop where
  /-- The total is the sum of all parts, if the storage tells of all files. -/
  total : (∀ path ∈ inquiry.probes view (inquiry.parts relation), view.complaint path = none) →
    inquiry.answer view inquiry.totalSize n = .ok (some (inquiry.ownTotal view relation +
      inquiry.ownTotals view (inquiry.overflowParts relation) +
      inquiry.ownTotals view (inquiry.catalog.indexesOf relation)))
  /-- The table is the sum of the parts that are no indexes of the relation itself. -/
  table : (∀ path ∈ inquiry.probes view (inquiry.parts relation), view.complaint path = none) →
    inquiry.answer view inquiry.tableSize n = .ok (some (inquiry.ownTotal view relation +
      inquiry.ownTotals view (inquiry.overflowParts relation)))
  /-- The indexes are the rest. -/
  indexes : (∀ path ∈ inquiry.probes view (inquiry.parts relation), view.complaint path = none) →
    inquiry.answer view inquiry.indexesSize n =
      .ok (some (inquiry.ownTotals view (inquiry.catalog.indexesOf relation)))
  /-- There is no total if the storage refuses to tell of a file, but the error of the first one. -/
  refused : ∀ before path after e,
    inquiry.probes view (inquiry.parts relation) = before ++ path :: after →
    (∀ earlier ∈ before, view.complaint earlier = none) → view.complaint path = some e →
    inquiry.answer view inquiry.totalSize n = .error e

/-- **The sizes of a relation are the sums of its parts.** There is none for the number of no
relation, and then the storage is not asked for anything. -/
theorem relation_totals (inquiry : Inquiry) (view : View) (n : Int) :
    (∀ relation, inquiry.catalog.relations.find? n = some relation →
      (∀ part ∈ inquiry.parts relation, inquiry.Placed part) → inquiry.SumsUp view n relation) ∧
    (inquiry.catalog.relations.find? n = none →
      ∀ measure ∈ [inquiry.totalSize, inquiry.tableSize, inquiry.indexesSize], ∀ anyView : View,
        (inquiry.measured measure (.oid n)).start anyView = (.ok none, .none)) := by
  refine ⟨fun relation hfind hplaced => ?_,
    fun hfind measure _ => measured_of_unknown hfind measure⟩
  have hsplit := hplaced
  rw [parts, List.forall_mem_append] at hsplit
  have htotal : inquiry.answer view inquiry.totalSize n = _ :=
    answer_eq hfind (totalSize_adds hplaced)
  have htable : inquiry.answer view inquiry.tableSize n = _ :=
    answer_eq hfind (tableSize_adds hsplit.1)
  have hindexes : inquiry.answer view inquiry.indexesSize n = _ :=
    answer_eq hfind (ownSizes_adds hsplit.2)
  constructor
  · intro hclean
    rw [htotal, View.tally_of_clean hclean, ownTotals_cons]
    rfl
  · intro hclean
    rw [parts, probes_append, List.forall_mem_append] at hclean
    rw [htable, View.tally_of_clean hclean.1, ownTotals_cons]
    rfl
  · intro hclean
    rw [parts, probes_append, List.forall_mem_append] at hclean
    rw [hindexes, View.tally_of_clean hclean.2]
    rfl
  · intro before path after e hprobes hbefore hpath
    rw [htotal, hprobes, View.tally_of_first hbefore hpath]
    rfl

/-- A table with an overflow table and two indexes. -/
def indexedTable : Relation where
  oid := 20
  name := "t"
  database := 5
  fileNumber := 20
  toast := some 21
  indexes := [22, 99]

/-- The table in a catalog in which its second index is missing. -/
def aboutIndexedTable : Inquiry where
  catalog := { Catalog.bootstrap with
    relations := .ofValues Relation.oid
      [indexedTable,
       { oid := 21, name := "o", database := 5, kind := "t", fileNumber := 21 },
       { oid := 22, name := "i", database := 5, kind := "i", fileNumber := 22 }] }
  viewer := { role := "postgres", database := 5 }
  version := Storage.defaultVersion

/-- Files of the table, one of them beyond a gap. For the overflow table the storage has a fault. -/
def indexedTableFiles (fault : Option Fault) : View where
  tree := [("20", 1), ("20.1", 2), ("20.3", 64), ("20_fsm", 4), ("22", 16)].foldl
    (fun tree (name, size) => tree.place ["base", "5", name] { isDirectory := false, size })
    (Tree.place .empty ["base", "5", "21"] { isDirectory := false, size := 8, statFault := fault })
  root := ""
  watch := none

theorem relation_totals_indexedTable :
    aboutIndexedTable.answer (indexedTableFiles none) aboutIndexedTable.totalSize 20 =
      .ok (some 31) ∧
    aboutIndexedTable.answer (indexedTableFiles none) aboutIndexedTable.tableSize 20 =
      .ok (some 15) ∧
    aboutIndexedTable.answer (indexedTableFiles none) aboutIndexedTable.indexesSize 20 =
      .ok (some 16) ∧
    aboutIndexedTable.answer (indexedTableFiles (some (.failure "Permission denied")))
      aboutIndexedTable.totalSize 20 = .error (.storage .stat "base/5/21" "Permission denied") ∧
    (aboutIndexedTable.measured aboutIndexedTable.totalSize (.oid 99)).start
      (indexedTableFiles none) = (.ok none, .none) := by
  let broken := indexedTableFiles (some (.failure "Permission denied"))
  let probes := aboutIndexedTable.probes broken (aboutIndexedTable.parts indexedTable)
  have hwhole := (relation_totals aboutIndexedTable (indexedTableFiles none) 20).1 indexedTable
    (by decide +kernel) (by decide +kernel)
  have hbroken := (relation_totals aboutIndexedTable broken 20).1 indexedTable
    (by decide +kernel) (by decide +kernel)
  have hunknown := (relation_totals aboutIndexedTable broken 99).2 (by decide +kernel)
  have hclean : ∀ path ∈ aboutIndexedTable.probes (indexedTableFiles none)
      (aboutIndexedTable.parts indexedTable), (indexedTableFiles none).complaint path = none := by
    decide +kernel
  have hown : aboutIndexedTable.ownTotal (indexedTableFiles none) indexedTable = 7 := by
    decide +kernel
  have hoverflow : aboutIndexedTable.ownTotals (indexedTableFiles none)
      (aboutIndexedTable.overflowParts indexedTable) = 8 := by decide +kernel
  have hindexes : aboutIndexedTable.ownTotals (indexedTableFiles none)
      (aboutIndexedTable.catalog.indexesOf indexedTable) = 16 := by decide +kernel
  refine ⟨?_, ?_, ?_, ?_, hunknown _ List.mem_cons_self _⟩
  · rw [hwhole.total hclean, hown, hoverflow, hindexes]
  · rw [hwhole.table hclean, hown, hoverflow]
  · rw [hwhole.indexes hclean, hindexes]
  · exact hbroken.refused (probes.take 7) "base/5/21" (probes.drop 8) _ (by decide +kernel)
      (by decide +kernel) (by decide +kernel)

end Inquiry

end Footprint
