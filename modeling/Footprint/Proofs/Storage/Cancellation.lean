import Footprint.Proofs.Storage.Scan
import Footprint.Storage.Measure

/-!
# Calling off a measurement

A scan that is called off ends at its next checkpoint. Whether that is soon enough is a matter of
where the checkpoints stand, which `Scan.Heeds watch scan late most` sums up: run under the watch,
the scan either ends with the reason of the watch or does exactly what it does without one
(`Heeds.coupled`), no file is asked for after the moment of the watch, and at most `most` requests
are made after it, `late` of them if the moment has passed when the scan begins.

The two numbers make a bound for loops possible. The first checkpoint of a loop that begins late
ends it, so a loop that checks first counts nothing for `late`, and a body that makes requests late
is followed by a loop that makes none. Hence `Heeds.bind` adds the second scan's `late` to the first
one's `most`, and takes the second one's `most` only for the case that the first makes no late
request at all. The bound of a loop is then that of its body, whatever the number of turns.

Asking for a file heeds no watch by itself. It does so behind a checkpoint (`Heeds.probe`), and it
never stands anywhere else.
-/

namespace Footprint.Storage

open Scan

variable {α β : Type}

/-! ### Requests after the moment -/

namespace Scan

/-- Of further requests after some activity, those that come after the moment of a watch. -/
def overdue (watch : Watch) (activity : Activity) (calls : List Call) : List Call :=
  calls.drop (watch.moment - activity.calls.length)

theorem overdue_nil (watch : Watch) (activity : Activity) : overdue watch activity [] = [] :=
  List.drop_nil

theorem overdue_of_late {watch : Watch} {activity : Activity} (calls : List Call)
    (h : watch.moment ≤ activity.calls.length) : overdue watch activity calls = calls := by
  rw [overdue, Nat.sub_eq_zero_of_le h, List.drop_zero]

/-- Requests one after the other: those that come second are judged after the first ones. -/
theorem overdue_append (watch : Watch) {activity after : Activity} {calls : List Call}
    (more : List Call) (h : after.calls = activity.calls ++ calls) :
    overdue watch activity (calls ++ more) =
      overdue watch activity calls ++ overdue watch after more := by
  rw [overdue, overdue, overdue, List.drop_append, h, List.length_append, Nat.sub_add_eq]

/-- After an overdue request the moment has passed. -/
theorem late_of_overdue {watch : Watch} {activity after : Activity} {calls : List Call}
    (h : after.calls = activity.calls ++ calls) (hne : overdue watch activity calls ≠ []) :
    watch.moment ≤ after.calls.length := by
  have hlt : watch.moment - activity.calls.length < calls.length := by
    by_contra hle
    exact hne (List.drop_eq_nil_of_le (Nat.le_of_not_lt hle))
  rw [h, List.length_append]
  omega

/-! ### Heeding a watch -/

/-- What a scan requests under a watch: no file after the moment, at most `most` requests after it,
and at most `late` of them when it has passed before. -/
structure Restrained (watch : Watch) (late most : Nat) (activity : Activity) (calls : List Call) :
    Prop where
  no_stat : ∀ path, .stat path ∉ overdue watch activity calls
  length_le : (overdue watch activity calls).length ≤ most
  length_le_of_late : watch.moment ≤ activity.calls.length → calls.length ≤ late

/-- A scan that heeds a watch. -/
structure Heeds (watch : Watch) (scan : Scan α) (late most : Nat) : Prop where
  /-- The scan ends with the reason of the watch, or the watch makes no difference. -/
  coupled : ∀ (view : View) (activity : Activity),
    (scan.runFrom (view.watched watch) activity).1 = .error (.canceled watch.reason) ∨
      scan.runFrom (view.watched watch) activity = scan.runFrom view.quiet activity
  /-- Requests are added at the end, within the bounds. -/
  restrained : ∀ (view : View) (activity : Activity), ∃ calls,
    (scan.runFrom (view.watched watch) activity).2.calls = activity.calls ++ calls ∧
      Restrained watch late most activity calls

namespace Restrained

variable {watch : Watch} {activity after : Activity} {calls more : List Call}
  {late late' most most' : Nat}

theorem nil (watch : Watch) (late most : Nat) (activity : Activity) :
    Restrained watch late most activity [] where
  no_stat := by simp [overdue_nil]
  length_le := by simp [overdue_nil]
  length_le_of_late := by simp

theorem mono (h : Restrained watch late most activity calls) (hlate : late ≤ late')
    (hmost : most ≤ most') : Restrained watch late' most' activity calls where
  no_stat := h.no_stat
  length_le := Nat.le_trans h.length_le hmost
  length_le_of_late hpassed := Nat.le_trans (h.length_le_of_late hpassed) hlate

/-- Bounds for requests one after the other. -/
theorem append (h : Restrained watch late most activity calls)
    (hafter : after.calls = activity.calls ++ calls)
    (hmore : Restrained watch late' most' after more) :
    Restrained watch (late + late') (max (most + late') most') activity (calls ++ more) where
  no_stat path := by
    rw [overdue_append watch more hafter, List.mem_append]
    exact fun hmem => hmem.elim (h.no_stat path) (hmore.no_stat path)
  length_le := by
    rw [overdue_append watch more hafter, List.length_append]
    have hfirst := h.length_le
    have hsecond := hmore.length_le
    -- Once a request was overdue, the second scan begins late.
    by_cases hnone : overdue watch activity calls = []
    · rw [hnone, List.length_nil]
      omega
    · have hpassed := late_of_overdue hafter hnone
      have hfew := hmore.length_le_of_late hpassed
      rw [overdue_of_late more hpassed]
      omega
  length_le_of_late hpassed := by
    have hfirst := h.length_le_of_late hpassed
    have hsecond := hmore.length_le_of_late (by rw [hafter, List.length_append]; omega)
    rw [List.length_append]
    omega

end Restrained

namespace Heeds

variable {watch : Watch} {scan : Scan α} {next : α → Scan β} {late late' most most' : Nat}

theorem mono (h : Heeds watch scan late most) (hlate : late ≤ late') (hmost : most ≤ most') :
    Heeds watch scan late' most' where
  coupled := h.coupled
  restrained view activity := by
    obtain ⟨calls, hcalls, hbounds⟩ := h.restrained view activity
    exact ⟨calls, hcalls, hbounds.mono hlate hmost⟩

/-- A scan that requests nothing and does not look at the watch. -/
theorem of_idle (hsame : ∀ (view : View) (activity : Activity),
      scan.runFrom (view.watched watch) activity = scan.runFrom view.quiet activity)
    (hidle : ∀ view activity, (scan.runFrom view activity).2.calls = activity.calls) :
    Heeds watch scan 0 0 where
  coupled view activity := Or.inr (hsame view activity)
  restrained view activity :=
    ⟨[], by rw [hidle, List.append_nil], Restrained.nil watch 0 0 activity⟩

theorem pure (a : α) : Heeds watch (Pure.pure a : Scan α) 0 0 :=
  of_idle (fun _ _ => rfl) fun _ _ => rfl

theorem ofExcept (result : Except Error α) : Heeds watch (Scan.ofExcept result) 0 0 :=
  of_idle (fun _ _ => by rw [runFrom_ofExcept, runFrom_ofExcept])
    fun _ _ => by rw [runFrom_ofExcept]

theorem warn (warning : Warning) : Heeds watch (Scan.warn warning) 0 0 :=
  of_idle (fun _ _ => rfl) fun _ _ => rfl

theorem finish (path : String) (listing : Listing) :
    Heeds watch (Scan.finish path listing) 0 0 :=
  of_idle (fun _ _ => by rw [runFrom_finish, runFrom_finish]) fun _ _ => by rw [runFrom_finish]

theorem checkpoint : Heeds watch Scan.checkpoint 0 0 where
  coupled view activity := by
    rw [runFrom_checkpoint_watched, runFrom_checkpoint_quiet]
    split
    · exact Or.inl rfl
    · exact Or.inr rfl
  restrained view activity :=
    ⟨[], by rw [runFrom_checkpoint_watched, List.append_nil], Restrained.nil watch 0 0 activity⟩

/-- Opening a directory is not checked for, and may come late. -/
theorem list (path : String) : Heeds watch (Scan.list path) 1 1 where
  coupled view activity := Or.inr (by rw [runFrom_list, runFrom_list]; rfl)
  restrained view activity := by
    refine ⟨[.list path], by rw [runFrom_list]; rfl, fun other hmem => ?_, ?_,
      fun _ => Nat.le_refl 1⟩
    · exact absurd (List.mem_of_mem_drop hmem) (by simp)
    · exact (List.drop_sublist _ _).length_le

/-- **A scan and one that depends on it.** -/
theorem bind (h : Heeds watch scan late most) (hnext : ∀ a, Heeds watch (next a) late' most') :
    Heeds watch (scan >>= next) (late + late') (max (most + late') most') where
  coupled view activity := by
    rw [runFrom_bind, runFrom_bind]
    rcases h.coupled view activity with hcanceled | hsame
    · left
      rcases hrun : scan.runFrom (view.watched watch) activity with ⟨found, after⟩
      rw [hrun] at hcanceled
      cases hcanceled
      rfl
    · rw [hsame]
      rcases scan.runFrom view.quiet activity with ⟨e | a, after⟩
      · exact Or.inr rfl
      · exact (hnext a).coupled view after
  restrained view activity := by
    obtain ⟨calls, hcalls, hbounds⟩ := h.restrained view activity
    rw [runFrom_bind]
    rcases hrun : scan.runFrom (view.watched watch) activity with ⟨e | a, after⟩
    all_goals rw [hrun] at hcalls
    · exact ⟨calls, hcalls, hbounds.mono (by omega) (by omega)⟩
    · obtain ⟨more, hmore, hbounds'⟩ := (hnext a).restrained view after
      refine ⟨calls ++ more, ?_, hbounds.append hcalls hbounds'⟩
      rw [hmore, hcalls, List.append_assoc]

/-- A scan and one that begins with a checkpoint, with one bound for the requests of both. -/
theorem andThen (h : Heeds watch scan late most) (hnext : ∀ a, Heeds watch (next a) 0 most) :
    Heeds watch (scan >>= next) late most :=
  (h.bind hnext).mono (by omega) (by omega)

/-- A scan that makes no late request and one that begins late. -/
theorem andLate (h : Heeds watch scan 0 0) (hnext : ∀ a, Heeds watch (next a) late late) :
    Heeds watch (scan >>= next) late late :=
  (h.bind hnext).mono (by omega) (by omega)

/-- A scan whose result is passed on. -/
theorem map (f : α → β) (h : Heeds watch scan late most) : Heeds watch (f <$> scan) late most := by
  rw [map_eq_pure_bind]
  exact h.andThen fun a => (pure (f a)).mono (Nat.le_refl 0) (Nat.zero_le most)

/-- A scan that begins with a checkpoint requests nothing when it begins late. -/
theorem inTime (h : Heeds watch (Scan.checkpoint >>= fun _ => scan) late most) :
    Heeds watch (Scan.checkpoint >>= fun _ => scan) 0 most where
  coupled := h.coupled
  restrained view activity := by
    obtain ⟨calls, hcalls, hbounds⟩ := h.restrained view activity
    refine ⟨calls, hcalls, hbounds.no_stat, hbounds.length_le, fun hpassed => ?_⟩
    have hoff : isCalledOff watch activity = true := decide_eq_true hpassed
    rw [runFrom_bind, runFrom_checkpoint_watched, if_pos hoff] at hcalls
    have hnone : activity.calls = activity.calls ++ calls := hcalls
    exact List.self_eq_append_right.mp hnone ▸ Nat.le_refl 0

/-- **A file is asked for behind a checkpoint.** -/
theorem probe (path : String) : Heeds watch (Scan.checkpoint >>= fun _ => Scan.stat path) 0 0 where
  coupled view activity := by
    rw [runFrom_bind, runFrom_bind, runFrom_checkpoint_watched, runFrom_checkpoint_quiet]
    by_cases hoff : isCalledOff watch activity
    · rw [if_pos hoff]
      exact Or.inl rfl
    · rw [if_neg hoff]
      exact Or.inr (by simp only [runFrom_stat]; rfl)
  restrained view activity := by
    rw [runFrom_bind, runFrom_checkpoint_watched]
    by_cases hoff : isCalledOff watch activity
    · rw [if_pos hoff]
      exact ⟨[], (List.append_nil _).symm, Restrained.nil watch 0 0 activity⟩
    · rw [if_neg hoff]
      have hearly : activity.calls.length < watch.moment :=
        Nat.lt_of_not_le fun hpassed => hoff (decide_eq_true hpassed)
      have hnone : overdue watch activity [.stat path] = [] :=
        List.drop_eq_nil_of_le (by rw [List.length_singleton]; omega)
      refine ⟨[.stat path], by simp only [runFrom_stat]; rfl, ?_, ?_, fun hpassed => ?_⟩
      · simp [hnone]
      · simp [hnone]
      · omega

end Heeds

/-! ### Cancelable scans -/

/-- What calling off does to a scan as a whole, run from the start under a watch and without one. -/
structure Cancelable (scan : Scan α) : Prop where
  /-- The scan ends with the reason of the watch, or with what it ends with anyway. -/
  replaced : ∀ (view : View) (watch : Watch),
    (scan.start (view.watched watch)).1 = .error (.canceled watch.reason) ∨
      (scan.start (view.watched watch)).1 = (scan.start view.quiet).1
  /-- No file is asked for after the moment of the watch. -/
  no_late_stat : ∀ (view : View) (watch : Watch) (path : String),
    .stat path ∉ (scan.start (view.watched watch)).2.calls.drop watch.moment
  /-- At most two directories are opened after it. -/
  late_le_two : ∀ (view : View) (watch : Watch),
    ((scan.start (view.watched watch)).2.calls.drop watch.moment).length ≤ 2
  /-- If a file would be asked for after it, the scan does end with the reason of the watch. -/
  canceled : ∀ (view : View) (watch : Watch) (path : String),
    .stat path ∈ (scan.start view.quiet).2.calls.drop watch.moment →
      (scan.start (view.watched watch)).1 = .error (.canceled watch.reason)

/-- A scan that heeds every watch, with at most two late requests, is cancelable. -/
theorem Heeds.cancelable {scan : Scan α} {late most : Nat}
    (h : ∀ watch, Heeds watch scan late most) (hmost : most ≤ 2) : scan.Cancelable := by
  have hcalls : ∀ (view : View) (watch : Watch), Restrained watch late most .none
      (scan.start (view.watched watch)).2.calls := by
    intro view watch
    obtain ⟨calls, hcalls, hbounds⟩ := (h watch).restrained view .none
    rw [start_eq, hcalls]
    exact hbounds
  refine ⟨fun view watch => ?_, fun view watch => (hcalls view watch).no_stat, fun view watch => ?_,
    fun view watch path hmem => ?_⟩
  · exact ((h watch).coupled view .none).imp id (congrArg Prod.fst)
  · exact Nat.le_trans (hcalls view watch).length_le hmost
  · refine ((h watch).coupled view .none).resolve_right fun hsame => ?_
    -- Both runs being one, the watched run would ask for that file.
    refine (hcalls view watch).no_stat path ?_
    rw [start_eq, hsame]
    exact hmem

end Scan

/-! ### Measurements -/

section Measurements

variable {watch : Watch}

theorem heeds_segmentsFrom (base : String) (most segment : Nat) :
    Heeds watch (segmentsFrom base most segment) 0 0 := by
  induction most generalizing segment with
  | zero => exact Heeds.pure 0
  | succ most ih =>
    rw [segmentsFrom, ← bind_assoc]
    refine (Heeds.probe _).andThen fun found => ?_
    cases found with
    | none => exact Heeds.pure 0
    | some found => exact (ih (segment + 1)).andThen fun rest => Heeds.pure _

theorem heeds_segmentChainSize (base : String) : Heeds watch (segmentChainSize base) 0 0 where
  coupled view := (heeds_segmentsFrom base (view.tree.size + 1) 0).coupled view
  restrained view := (heeds_segmentsFrom base (view.tree.size + 1) 0).restrained view

theorem heeds_forkSize (version : String) (locator : Locator) (backend : Int) (fork : Fork) :
    Heeds watch (forkSize version locator backend fork) 0 0 :=
  (Heeds.ofExcept _).andThen heeds_segmentChainSize

theorem heeds_entryStat (path : String) : Heeds watch (entryStat path) 0 0 := by
  rw [entryStat, ← bind_assoc]
  refine (Heeds.probe path).andThen fun found => ?_
  split
  · exact (Heeds.warn _).andThen fun _ => Heeds.pure found
  · exact Heeds.pure found

theorem heeds_entriesSize (directory : String) (names : List String) :
    Heeds watch (entriesSize directory names) 0 0 := by
  induction names with
  | nil => exact Heeds.pure 0
  | cons name rest ih =>
    exact (heeds_entryStat _).andThen fun found => ih.andThen fun others => Heeds.pure _

theorem heeds_directorySize (path : String) : Heeds watch (directorySize path) 1 1 := by
  refine (Heeds.list path).andThen fun listing => ?_
  refine Heeds.mono ?_ (Nat.le_refl 0) (Nat.zero_le 1)
  cases listing with
  | none => exact Heeds.pure 0
  | some listing =>
    exact (heeds_entriesSize path listing.names).andThen fun size =>
      (Heeds.finish path listing).andThen fun _ => Heeds.pure size

theorem heeds_rootEntrySize (path : String) : Heeds watch (rootEntrySize path) 0 1 := by
  have hlate : Heeds watch (rootEntrySize path) 1 1 := by
    refine (heeds_entryStat path).andLate fun found => ?_
    have hzero : ∀ size, Heeds watch (pure size : Scan Nat) 1 1 := fun size =>
      (Heeds.pure size).mono (Nat.zero_le 1) (Nat.zero_le 1)
    cases found with
    | none => exact hzero 0
    | some found =>
      by_cases hdirectory : found.isDirectory
      · simp only [hdirectory, if_true]
        exact (heeds_directorySize path).map _
      · simp only [hdirectory]
        exact hzero found.size
  rw [rootEntrySize, entryStat, bind_assoc] at hlate ⊢
  exact hlate.inTime

theorem heeds_rootEntriesSize (root : String) (names : List String) :
    Heeds watch (rootEntriesSize root names) 0 1 := by
  induction names with
  | nil => exact (Heeds.pure 0).mono (Nat.le_refl 0) (Nat.zero_le 1)
  | cons name rest ih =>
    refine (heeds_rootEntrySize _).andThen fun size => ih.andThen fun others => ?_
    exact (Heeds.pure _).mono (Nat.le_refl 0) (Nat.zero_le 1)

theorem heeds_tablespaceRootSize (root : String) :
    Heeds watch (tablespaceRootSize root) 1 1 := by
  refine (Heeds.list root).andThen fun listing => ?_
  cases listing with
  | none => exact (Heeds.pure none).mono (Nat.le_refl 0) (Nat.zero_le 1)
  | some listing =>
    refine (heeds_rootEntriesSize root listing.names).andThen fun size => ?_
    refine Heeds.mono ?_ (Nat.le_refl 0) (Nat.zero_le 1)
    exact (Heeds.finish root listing).andThen fun _ => Heeds.pure (some size)

end Measurements

end Footprint.Storage
