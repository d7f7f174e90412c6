import Footprint.Proofs.Storage.FileName
import Footprint.Proofs.Storage.Scan
import Footprint.Storage.Measure
import Mathlib.Order.Bounds.Basic

/-!
# Chains of segments

A fork is measured by asking for its segments one after the other until one is not there. Segments
are different places (`View.place_segmentPath_inj`), of which a tree holds finitely many, so there
is a first gap (`View.holds_segmentCount`). The segments before it are asked for, then the one that
is missing, and no other (`segmentsFrom_does`). So the bound that the measure works under never
strikes (`segmentChainSize_stops_at_gap`).

What the measure of a chain yields is told by the files that it asks for, in order, and the sum of
the sizes that it finds: the sum, unless the storage refuses to tell of one of the files, and then
the error of the first such file (`View.tally`). A scan of that kind is one that adds up
(`Scan.Adds`), and so is the sum of two of them: the files of the first, then those of the second
(`Scan.Adds.add`).
-/

namespace Footprint.Storage

open Scan (Yields)

namespace View

variable {view : View} {base path : String}

/-! ### Files -/

/-- What is found at a path, if anything. -/
def found? (view : View) (path : String) : Option FileStat := (view.stat path).toOption

/-- Is a file found at a path? -/
def holds (view : View) (path : String) : Bool := (view.found? path).isSome

/-- The size of the file at a path; nothing if none is found. -/
def fileSize (view : View) (path : String) : Nat :=
  ((view.found? path).map FileStat.size).getD 0

/-- The error of a scan that asks for a file which the storage refuses to tell of. That there is no
such file is not an error. -/
def complaint (view : View) (path : String) : Option Error :=
  match view.stat path with
  | .ok _ => none
  | .error (.absent _) => none
  | .error (.failure reason) => some (.storage .stat path reason)
  | .error .interrupt => some .interrupted

theorem complaint_of_ok {found : FileStat} (h : view.stat path = .ok found) :
    view.complaint path = none := by
  unfold complaint
  rw [h]

theorem complaint_of_error {fault : Fault} (h : view.stat path = .error fault) :
    view.complaint path =
      if fault.isAbsence then none else some (Scan.failed .stat path fault) := by
  unfold complaint
  rw [h]
  cases fault <;> rfl

theorem complaint_of_isAbsence {fault : Fault} (h : view.stat path = .error fault)
    (habsence : fault.isAbsence = true) : view.complaint path = none := by
  rw [complaint_of_error h, if_pos habsence]

theorem answered_stat (view : View) (path : String) :
    Scan.answered .stat path (view.stat path) =
      match view.complaint path with
      | some e => .error e
      | none => .ok (view.found? path) := by
  unfold complaint found?
  cases view.stat path with
  | ok found => rfl
  | error fault => cases fault <;> rfl

theorem found?_eq_some_iff {found : FileStat} :
    view.found? path = some found ↔ view.stat path = .ok found := by
  unfold found?
  cases view.stat path <;> simp [Except.toOption]

theorem fileSize_of_ok {found : FileStat} (h : view.stat path = .ok found) :
    view.fileSize path = found.size := by
  rw [fileSize, found?_eq_some_iff.mpr h]
  rfl

theorem holds_iff : view.holds path = true ↔ ∃ found, view.stat path = .ok found := by
  simp only [holds, Option.isSome_iff_exists, found?_eq_some_iff]

/-! ### The first gap -/

/-- The number of a segment stands at the end of the last name. -/
theorem exists_place_segmentPath (view : View) (base : String) :
    ∃ (front : List String) (last : String), ∀ segment,
      view.place (segmentPath base segment) = front ++
        [last ++ segmentSuffix segment].filter fun part => part ≠ "" ∧ part ≠ "." := by
  have habsolute : ∀ segment, isAbsolute (base ++ segmentSuffix segment) = isAbsolute base := by
    intro segment
    by_cases hempty : base = ""
    · rw [hempty, String.empty_append]
      unfold segmentSuffix
      split
      · rfl
      · unfold isAbsolute
        rw [String.toList_append]
        rfl
    · exact isAbsolute_append hempty _
  obtain ⟨front, last, hparts⟩ := exists_pathParts_append (joinPath view.root base)
  refine ⟨front, last, fun segment => ?_⟩
  rw [place, segmentPath_eq, joinPath_append _ (habsolute segment)]
  exact hparts _ (slash_not_mem_segmentSuffix segment)

/-- Segments are different places. -/
theorem place_segmentPath_inj {m n : Int}
    (h : view.place (segmentPath base m) = view.place (segmentPath base n)) : m = n := by
  obtain ⟨front, last, hplace⟩ := view.exists_place_segmentPath base
  rw [hplace, hplace] at h
  have hlast := List.append_cancel_left h
  -- With a number behind it the last part counts, whatever it was.
  have hread : ∀ {m n : Int}, n ≠ 0 →
      [last ++ segmentSuffix m].filter (fun part => part ≠ "" ∧ part ≠ ".") =
        [last ++ segmentSuffix n].filter (fun part => part ≠ "" ∧ part ≠ ".") → m = n := by
    intro m n hne heq
    have hlong : 2 ≤ (last ++ segmentSuffix n).toList.length := by
      rw [String.toList_append, List.length_append]
      exact le_add_left (two_le_length_segmentSuffix hne)
    have hcounts : last ++ segmentSuffix n ≠ "" ∧ last ++ segmentSuffix n ≠ "." := by
      refine ⟨fun hempty => ?_, fun hpoint => ?_⟩
      · rw [hempty] at hlong
        exact absurd hlong (by decide)
      · rw [hpoint] at hlong
        exact absurd hlong (by decide)
    have hmem : last ++ segmentSuffix n ∈
        [last ++ segmentSuffix m].filter fun part => part ≠ "" ∧ part ≠ "." := by
      rw [heq, List.mem_filter]
      exact ⟨List.mem_singleton_self _, decide_eq_true hcounts⟩
    have hsuffix := (String.append_right_inj last).mp
      (List.mem_singleton.mp (List.mem_of_mem_filter hmem))
    exact (segmentSuffix_inj.mp hsuffix).symm
  by_cases hn : n = 0
  · by_cases hm : m = 0
    · rw [hm, hn]
    · exact (hread hm hlast.symm).symm
  · exact hread hn hlast

theorem place_mem_keys (h : view.holds path = true) : view.place path ∈ view.tree.keys := by
  obtain ⟨found, hstat⟩ := holds_iff.mp h
  cases hreached : view.reached path with
  | ok node =>
    have hfind := find?_of_reached hreached
    exact Dictionary.mem_keys_iff.mpr (Option.isSome_iff_exists.mpr ⟨node, hfind⟩)
  | error fault =>
    rw [View.stat, Tree.stat] at hstat
    change view.reached path >>= _ = _ at hstat
    rw [hreached] at hstat
    cases hstat

/-- There is a gap among so many segments as the tree has entries, and one. -/
theorem exists_gap (view : View) (base : String) :
    ∃ n ∈ List.range (view.tree.size + 1), (!view.holds (segmentPath base n)) = true := by
  by_contra hall
  have hholds : ∀ n ∈ List.range (view.tree.size + 1), view.holds (segmentPath base n) = true :=
    fun n hn => by
      by_contra hnot
      exact hall ⟨n, hn, by simpa using hnot⟩
  -- Then these places are all different and all among the entries, of which there are fewer.
  let places := (List.range (view.tree.size + 1)).map fun n : Nat => view.place (segmentPath base n)
  have hnodup : places.Nodup := List.nodup_range.map fun m n h =>
    Int.ofNat_inj.mp (place_segmentPath_inj h)
  have hsub : places ⊆ view.tree.keys := by
    intro place hplace
    obtain ⟨n, hn, rfl⟩ := List.mem_map.mp hplace
    exact place_mem_keys (hholds n hn)
  have hlength := (List.subperm_of_subset hnodup hsub).length_le
  rw [List.length_map, List.length_range, Dictionary.keys, List.length_map] at hlength
  exact absurd hlength (Nat.not_succ_le_self _)

/-- The number of the segments before the first gap. -/
def segmentCount (view : View) (base : String) : Nat :=
  (List.range (view.tree.size + 1)).findIdx fun n : Nat => !view.holds (segmentPath base n)

theorem segmentCount_lt (view : View) (base : String) :
    view.segmentCount base < view.tree.size + 1 := by
  have hlt := List.findIdx_lt_length_of_exists (view.exists_gap base)
  rw [List.length_range] at hlt
  exact hlt

/-- Before the gap every segment is there. -/
theorem holds_of_lt_segmentCount {n : Nat} (h : n < view.segmentCount base) :
    view.holds (segmentPath base n) = true := by
  have hnot := List.not_of_lt_findIdx h
  simpa using hnot

/-- The gap is one. -/
theorem holds_segmentCount (view : View) (base : String) :
    view.holds (segmentPath base (view.segmentCount base)) = false := by
  have hlt := List.findIdx_lt_length_of_exists (view.exists_gap base)
  have hgap := @List.findIdx_getElem _ _ _ hlt
  simpa [segmentCount] using hgap

/-- The segments of a chain before the first gap, and the one that is missing there. -/
def chainProbes (view : View) (base : String) : List String :=
  (List.range (view.segmentCount base + 1)).map fun n : Nat => segmentPath base n

/-- The segments of a chain before the first gap. -/
def chainSegments (view : View) (base : String) : List String :=
  (List.range (view.segmentCount base)).map fun n : Nat => segmentPath base n

theorem chainProbes_eq (view : View) (base : String) : view.chainProbes base =
    view.chainSegments base ++ [segmentPath base (view.segmentCount base)] := by
  rw [chainProbes, List.range_succ, List.map_append]
  rfl

/-- The size of a chain. -/
def chainTotal (view : View) (base : String) : Nat :=
  ((view.chainSegments base).map view.fileSize).sum

/-! ### Adding up -/

/-- A sum over files that are asked for in order, unless the storage refuses to tell of one. -/
def tally (view : View) (probes : List String) (total : Nat) : Except Error Nat :=
  match probes.findSome? view.complaint with
  | some e => .error e
  | none => .ok total

theorem tally_of_clean {probes : List String} (h : ∀ path ∈ probes, view.complaint path = none)
    (total : Nat) : view.tally probes total = .ok total := by
  rw [tally, List.findSome?_eq_none_iff.mpr h]

theorem tally_map (view : View) (probes : List String) (size total : Nat) :
    (view.tally probes total).map (size + ·) = view.tally probes (size + total) := by
  unfold tally
  split <;> rfl

theorem tally_of_first {before after : List String} {e : Error}
    (hbefore : ∀ path ∈ before, view.complaint path = none) (hpath : view.complaint path = some e)
    (total : Nat) : view.tally (before ++ path :: after) total = .error e := by
  rw [tally, List.findSome?_append, List.findSome?_eq_none_iff.mpr hbefore, Option.none_or,
    List.findSome?_cons, hpath]

end View

namespace Scan

/-- Without a watch, a scan asks for some files in order and yields a sum. -/
def Adds (scan : Scan Nat) (view : View) (probes : List String) (total : Nat) : Prop :=
  scan.Yields view (view.tally probes total)

variable {view : View} {scan : Scan Nat} {probes others : List String} {m n : Nat}

theorem adds_pure (n : Nat) (view : View) : (pure n : Scan Nat).Adds view [] n :=
  yields_pure n view

/-- **One sum after another.** -/
theorem Adds.add (h : scan.Adds view probes m) {next : Scan Nat} (hnext : next.Adds view others n) :
    (scan >>= fun size => next >>= fun rest => pure (size + rest)).Adds view (probes ++ others)
      (m + n) := by
  -- The first complaint among all files is that of the first scan, if it has one.
  unfold Adds View.tally at *
  rw [List.findSome?_append]
  cases hprobes : probes.findSome? view.complaint with
  | some e =>
    rw [hprobes] at h
    exact h.bind_error
  | none =>
    rw [hprobes] at h
    refine Yields.bind h ?_
    rw [Option.none_or]
    cases hothers : others.findSome? view.complaint with
    | some e =>
      rw [hothers] at hnext
      exact hnext.bind_error
    | none =>
      rw [hothers] at hnext
      exact hnext.bind (yields_pure _ view)

theorem Adds.after_warn (h : scan.Adds view probes n) (warning : Warning) :
    (warn warning >>= fun _ => scan).Adds view probes n :=
  (yields_warn warning view).bind h

end Scan

open Scan

variable {view : View} {base : String}

/-! ### Up to the first gap -/

/-- The requests for so many segments from a number on. -/
def segmentRequests (base : String) (segment count : Nat) : Activity :=
  ⟨(List.range' segment count).map fun n : Nat => .stat (segmentPath base n), []⟩

theorem segmentRequests_succ (base : String) (segment count : Nat) :
    segmentRequests base segment (count + 1) =
      .ofCall (.stat (segmentPath base segment)) ++ segmentRequests base (segment + 1) count := by
  rw [segmentRequests, @List.range'_succ segment count 1]
  rfl

/-- The size of so many segments from a number on. -/
def segmentSum (view : View) (base : String) (segment count : Nat) : Nat :=
  ((List.range' segment count).map fun n : Nat => view.fileSize (segmentPath base n)).sum

theorem segmentSum_succ (view : View) (base : String) (segment count : Nat) :
    segmentSum view base segment (count + 1) =
      view.fileSize (segmentPath base segment) + segmentSum view base (segment + 1) count := by
  rw [segmentSum, @List.range'_succ segment count 1, List.map_cons, List.sum_cons]
  rfl

/-- A segment that is missing ends the chain, and its error is that of the measure. -/
theorem segmentsFrom_gap {segment : Nat} (most : Nat)
    (hgap : view.holds (segmentPath base segment) = false) :
    (segmentsFrom base (most + 1) segment).Does view (view.tally [segmentPath base segment] 0)
      (.ofCall (.stat (segmentPath base segment))) := by
  have hnone : view.found? (segmentPath base segment) = none :=
    Option.not_isSome_iff_eq_none.mp (Bool.eq_false_iff.mp hgap)
  have hstat := does_stat (segmentPath base segment) view
  rw [View.answered_stat, hnone] at hstat
  rw [View.tally, List.findSome?_singleton]
  refine Does.after_checkpoint ?_
  cases hcomplaint : view.complaint (segmentPath base segment) with
  | some e =>
    rw [hcomplaint] at hstat
    exact hstat.bind_error
  | none =>
    rw [hcomplaint] at hstat
    exact Does.bind_pure hstat rfl

/-- A segment that is there is added to those behind it. -/
theorem segmentsFrom_found {most segment : Nat} {rest : Except Error Nat} {done : Activity}
    (hholds : view.holds (segmentPath base segment) = true)
    (hrest : (segmentsFrom base most (segment + 1)).Does view rest done) :
    (segmentsFrom base (most + 1) segment).Does view
      (rest.map (view.fileSize (segmentPath base segment) + ·))
      (.ofCall (.stat (segmentPath base segment)) ++ done) := by
  obtain ⟨found, hfound⟩ := View.holds_iff.mp hholds
  have hstat := does_stat (segmentPath base segment) view
  rw [hfound] at hstat
  have hsum := hrest.map (found.size + ·)
  rw [map_eq_pure_bind] at hsum
  rw [View.fileSize_of_ok hfound]
  exact Does.after_checkpoint (Does.bind hstat hsum)

/-- **One segment after the other.** The chain goes on for `count` segments, and the bound on the
number of requests leaves room for them and for the one that finds the gap. -/
theorem segmentsFrom_does {count most segment : Nat} (hmost : count < most)
    (hholds : ∀ n < count, view.holds (segmentPath base ↑(segment + n)) = true)
    (hgap : view.holds (segmentPath base ↑(segment + count)) = false) :
    (segmentsFrom base most segment).Does view
      (view.tally [segmentPath base ↑(segment + count)] (segmentSum view base segment count))
      (segmentRequests base segment (count + 1)) := by
  -- On the number of segments that are left: each uses up one request of the bound.
  induction count generalizing most segment with
  | zero =>
    obtain ⟨most, rfl⟩ := Nat.exists_eq_succ_of_ne_zero (Nat.pos_iff_ne_zero.mp hmost)
    exact segmentsFrom_gap most hgap
  | succ count ih =>
    obtain ⟨most, rfl⟩ := Nat.exists_eq_succ_of_ne_zero (Nat.ne_zero_of_lt hmost)
    -- The rest of the chain begins one segment further on and ends at the same gap.
    have hnext : ∀ n, segment + 1 + n = segment + (n + 1) := fun n => by
      rw [Nat.add_assoc, Nat.add_comm 1 n]
    have hrest := @ih most (segment + 1) (Nat.lt_of_succ_lt_succ hmost)
      (fun n hn => by rw [hnext]; exact hholds (n + 1) (Nat.succ_lt_succ hn))
      (by rw [hnext]; exact hgap)
    rw [hnext] at hrest
    rw [segmentRequests_succ, segmentSum_succ, ← View.tally_map]
    exact segmentsFrom_found (hholds 0 (Nat.succ_pos count)) hrest

/-- The bound on the number of requests makes no difference once it lets the gap be found. -/
theorem segmentsFrom_zero_does {most : Nat} (hmost : view.segmentCount base < most) :
    (segmentsFrom base most 0).Does view
      (view.tally [segmentPath base (view.segmentCount base)] (view.chainTotal base))
      (segmentRequests base 0 (view.segmentCount base + 1)) := by
  have hchain := segmentsFrom_does hmost
    (fun n hn => by rw [Nat.zero_add]; exact View.holds_of_lt_segmentCount hn)
    (by rw [Nat.zero_add]; exact view.holds_segmentCount base)
  rw [Nat.zero_add, segmentSum, ← List.range_eq_range'] at hchain
  rw [View.chainTotal, View.chainSegments, List.map_map]
  exact hchain

theorem segmentChainSize_does (view : View) (base : String) :
    (segmentChainSize base).Does view
      (view.tally [segmentPath base (view.segmentCount base)] (view.chainTotal base))
      (segmentRequests base 0 (view.segmentCount base + 1)) :=
  fun before => segmentsFrom_zero_does (view.segmentCount_lt base) before

theorem segmentChainSize_adds (view : View) (base : String) :
    (segmentChainSize base).Adds view (view.chainProbes base) (view.chainTotal base) := by
  -- Nothing is wrong with the segments that are there.
  have hclean : ∀ path ∈ view.chainSegments base, view.complaint path = none := by
    intro path hpath
    obtain ⟨n, hn, rfl⟩ := List.mem_map.mp hpath
    have hholds := View.holds_of_lt_segmentCount (List.mem_range.mp hn)
    obtain ⟨found, hfound⟩ := View.holds_iff.mp hholds
    exact View.complaint_of_ok hfound
  have hchain := (segmentChainSize_does view base).yields
  rw [Adds, View.chainProbes_eq, View.tally, List.findSome?_append,
    List.findSome?_eq_none_iff.mpr hclean, Option.none_or]
  exact hchain

/-- **A chain ends at its first gap, and there is one.** Let it be the first segment that is not
found, whether it is absent or the storage refuses to tell of it. It is no later than the tree has
entries. The segments up to it are asked for in order, each once, and nothing else is requested. If
it is absent, the size is the sum of those before it, whatever lies beyond, and if the request for
it fails, its error is the error of the measure. It makes no difference how large the bound is that
the measure works under, as long as the gap is within it. -/
theorem segmentChainSize_stops_at_gap (view : View) (base : String) :
    ∃ gap : ℕ, gap ≤ view.tree.size ∧
      IsLeast {n : ℕ | ∀ found, view.stat (segmentPath base n) ≠ .ok found} gap ∧
      (segmentChainSize base).Does view
        (match view.stat (segmentPath base gap) with
          | .error (.failure reason) => .error (.storage .stat (segmentPath base gap) reason)
          | .error .interrupt => .error .interrupted
          | _ => .ok ((List.range gap).map fun n : ℕ => view.fileSize (segmentPath base n)).sum)
        ⟨(List.range (gap + 1)).map fun n : ℕ => .stat (segmentPath base n), []⟩ ∧
      ∀ spare before, (segmentsFrom base (gap + 1 + spare) 0).runFrom view.quiet before =
        (segmentChainSize base).runFrom view.quiet before := by
  have hmissing : ∀ n : ℕ, (∀ found, view.stat (segmentPath base n) ≠ .ok found) ↔
      view.holds (segmentPath base n) = false := by
    intro n
    rw [← Bool.not_eq_true, View.holds_iff, not_exists]
  refine ⟨view.segmentCount base, Nat.le_of_lt_succ (view.segmentCount_lt base), ⟨?_, ?_⟩, ?_, ?_⟩
  · exact (hmissing _).mpr (view.holds_segmentCount base)
  · -- The segments before the gap are all there.
    intro n hn
    by_contra hlt
    have hholds := View.holds_of_lt_segmentCount (Nat.lt_of_not_le hlt)
    rw [(hmissing n).mp hn] at hholds
    cases hholds
  · have hdoes := segmentChainSize_does view base
    rw [segmentRequests, ← List.range_eq_range', View.chainTotal, View.chainSegments, List.map_map,
      View.tally, List.findSome?_singleton] at hdoes
    cases hstat : view.stat (segmentPath base (view.segmentCount base)) with
    | ok found =>
      rw [View.complaint_of_ok hstat] at hdoes
      exact hdoes
    | error fault =>
      rw [View.complaint_of_error hstat] at hdoes
      cases fault <;> exact hdoes
  · intro spare before
    have hmost : view.segmentCount base < view.segmentCount base + 1 + spare :=
      Nat.lt_add_right spare (Nat.lt_succ_self _)
    rw [segmentsFrom_zero_does hmost before, segmentChainSize_does view base before]

end Footprint.Storage
