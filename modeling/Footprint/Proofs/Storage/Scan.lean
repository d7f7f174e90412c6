import Footprint.Storage.Scan
import Mathlib.Tactic.Common

/-!
# Running scans

A scan is run from some activity on, `Scan.runFrom`, so that what follows a step is a run again: one
equation for a sequence of two scans (`Scan.runFrom_bind`) and one for each step that a scan is made
of. Nothing here or below unfolds the layers of which a scan is a computation.

A view may be watched or not; the two sides of a comparison are `View.watched` and `View.quiet`.
Without a watch nothing depends on what was done before, and a scan has one result. That is
`Scan.Yields`, with a rule for a sequence of scans that succeed (`Yields.bind`) and one for a scan
that ends the sequence (`Yields.bind_error`). Where it matters which requests a scan makes and which
warnings it gives, `Scan.Does` tells of these as well and has the same rules: activities are
appended, those of a scan that fails included.
-/

namespace Footprint.Storage

variable {α β : Type}

namespace View

/-- The view under a watch. -/
def watched (view : View) (watch : Watch) : View := { view with watch := some watch }

/-- The view without a watch. -/
def quiet (view : View) : View := { view with watch := none }

@[simp] theorem watched_watch (view : View) (watch : Watch) :
    (view.watched watch).watch = some watch := rfl

@[simp] theorem watched_tree (view : View) (watch : Watch) :
    (view.watched watch).tree = view.tree := rfl

@[simp] theorem watched_root (view : View) (watch : Watch) :
    (view.watched watch).root = view.root := rfl

@[simp] theorem quiet_watch (view : View) : view.quiet.watch = none := rfl

@[simp] theorem quiet_tree (view : View) : view.quiet.tree = view.tree := rfl

@[simp] theorem quiet_root (view : View) : view.quiet.root = view.root := rfl

/-- What is known of the file at a path of the view. -/
def stat (view : View) (path : String) : Except Fault FileStat :=
  view.tree.stat (joinPath view.root path)

/-- What the directory at a path of the view lists. -/
def list (view : View) (path : String) : Except Fault Listing :=
  view.tree.list (joinPath view.root path)

end View

namespace Scan

/-! ### Steps -/

/-- A scan that goes on after some activity. -/
def runFrom (scan : Scan α) (view : View) (activity : Activity) : Except Error α × Activity :=
  (scan.run view).run.run activity

theorem start_eq (scan : Scan α) (view : View) : scan.start view = scan.runFrom view .none := rfl

/-- An activity with one more request. -/
def noted (call : Call) (activity : Activity) : Activity :=
  { activity with calls := activity.calls ++ [call] }

theorem runFrom_bind (scan : Scan α) (next : α → Scan β) (view : View) (activity : Activity) :
    (scan >>= next).runFrom view activity =
      match scan.runFrom view activity with
      | (.ok a, after) => (next a).runFrom view after
      | (.error e, after) => (.error e, after) := by
  simp only [runFrom, ReaderT.run_bind, ExceptT.run_bind, StateT.run_bind]
  rcases (scan.run view).run.run activity with ⟨_ | _, _⟩ <;> rfl

theorem runFrom_pure (a : α) (view : View) (activity : Activity) :
    (pure a : Scan α).runFrom view activity = (.ok a, activity) := rfl

theorem runFrom_ofExcept (result : Except Error α) (view : View) (activity : Activity) :
    (ofExcept result).runFrom view activity = (result, activity) := by
  cases result <;> rfl

theorem runFrom_warn (warning : Warning) (view : View) (activity : Activity) :
    (warn warning).runFrom view activity =
      (.ok (), { activity with warnings := activity.warnings ++ [warning] }) := rfl

theorem runFrom_stat (path : String) (view : View) (activity : Activity) :
    (stat path).runFrom view activity =
      (answered .stat path (view.stat path), noted (.stat path) activity) :=
  runFrom_ofExcept _ _ _

theorem runFrom_list (path : String) (view : View) (activity : Activity) :
    (list path).runFrom view activity =
      (answered .openDirectory path (view.list path), noted (.list path) activity) :=
  runFrom_ofExcept _ _ _

/-- How a listing ends. -/
def finished (path : String) (listing : Listing) : Except Error Unit :=
  match listing.fault with
  | some fault => .error (failed .readDirectory path fault)
  | none => .ok ()

theorem runFrom_finish (path : String) (listing : Listing) (view : View) (activity : Activity) :
    (finish path listing).runFrom view activity = (finished path listing, activity) := by
  unfold finish finished
  cases listing.fault <;> rfl

theorem runFrom_checkpoint_quiet (view : View) (activity : Activity) :
    checkpoint.runFrom view.quiet activity = (.ok (), activity) := rfl

theorem runFrom_checkpoint_watched (view : View) (watch : Watch) (activity : Activity) :
    checkpoint.runFrom (view.watched watch) activity =
      (if isCalledOff watch activity then .error (.canceled watch.reason) else .ok (),
        activity) := by
  change (if isCalledOff watch activity then throw (Error.canceled watch.reason)
    else pure () : Scan Unit).runFrom (view.watched watch) activity = _
  split <;> rfl

/-! ### Activities -/

end Scan

namespace Activity

/-- One activity after the other. -/
instance : Append Activity where
  append first second := ⟨first.calls ++ second.calls, first.warnings ++ second.warnings⟩

theorem append_def (first second : Activity) :
    first ++ second = ⟨first.calls ++ second.calls, first.warnings ++ second.warnings⟩ := rfl

@[simp] theorem append_none (activity : Activity) : activity ++ none = activity := by
  rw [append_def, none, List.append_nil, List.append_nil]

@[simp] theorem none_append (activity : Activity) : none ++ activity = activity := rfl

theorem append_assoc (first second third : Activity) :
    first ++ second ++ third = first ++ (second ++ third) := by
  simp only [append_def, List.append_assoc]

/-- A request and nothing else. -/
def ofCall (call : Call) : Activity := ⟨[call], []⟩

/-- A warning and nothing else. -/
def ofWarning (warning : Warning) : Activity := ⟨[], [warning]⟩

end Activity

namespace Scan

theorem append_ofCall (activity : Activity) (call : Call) :
    activity ++ .ofCall call = noted call activity := by
  rw [Activity.append_def, Activity.ofCall, List.append_nil, noted]

theorem append_ofWarning (activity : Activity) (warning : Warning) :
    activity ++ .ofWarning warning =
      { activity with warnings := activity.warnings ++ [warning] } := by
  rw [Activity.append_def, Activity.ofWarning, List.append_nil]

/-! ### Results without a watch -/

/-- Without a watch, and whatever was done before, a scan yields a result. -/
def Yields (scan : Scan α) (view : View) (result : Except Error α) : Prop :=
  ∀ activity, (scan.runFrom view.quiet activity).1 = result

variable {scan : Scan α} {next : α → Scan β} {view : View} {result : Except Error β} {a : α}
  {path : String}

theorem Yields.start {result : Except Error α} (h : scan.Yields view result) :
    (scan.start view.quiet).1 = result := h .none

theorem Yields.bind (h : scan.Yields view (.ok a)) (hnext : (next a).Yields view result) :
    (scan >>= next).Yields view result := by
  intro activity
  have hscan := h activity
  rw [runFrom_bind]
  rcases hrun : scan.runFrom view.quiet activity with ⟨found, after⟩
  rw [hrun] at hscan
  cases hscan
  exact hnext after

theorem Yields.bind_error {e : Error} (h : scan.Yields view (.error e)) :
    (scan >>= next).Yields view (.error e) := by
  intro activity
  have hscan := h activity
  rw [runFrom_bind]
  rcases hrun : scan.runFrom view.quiet activity with ⟨found, after⟩
  rw [hrun] at hscan
  cases hscan
  rfl

theorem Yields.map {result : Except Error α} (h : scan.Yields view result) (f : α → β) :
    (f <$> scan).Yields view (result.map f) := by
  rw [map_eq_pure_bind]
  cases result with
  | ok a => exact h.bind fun _ => rfl
  | error e => exact h.bind_error

theorem yields_pure (a : α) (view : View) : (pure a : Scan α).Yields view (.ok a) :=
  fun _ => by rw [runFrom_pure]

theorem yields_ofExcept (result : Except Error α) (view : View) :
    (ofExcept result).Yields view result :=
  fun _ => by rw [runFrom_ofExcept]

theorem yields_warn (warning : Warning) (view : View) : (warn warning).Yields view (.ok ()) :=
  fun _ => by rw [runFrom_warn]

theorem yields_checkpoint (view : View) : checkpoint.Yields view (.ok ()) :=
  fun _ => by rw [runFrom_checkpoint_quiet]

theorem yields_list (path : String) (view : View) :
    (list path).Yields view (answered .openDirectory path (view.list path)) :=
  fun _ => by rw [runFrom_list]; rfl

theorem yields_finish (path : String) (listing : Listing) (view : View) :
    (finish path listing).Yields view (finished path listing) :=
  fun _ => by rw [runFrom_finish]

/-! ### What is done for a result -/

/-- Without a watch, and whatever was done before, a scan yields a result and does something for
it. -/
def Does (scan : Scan α) (view : View) (result : Except Error α) (done : Activity) : Prop :=
  ∀ before, scan.runFrom view.quiet before = (result, before ++ done)

variable {done more : Activity}

theorem Does.yields {result : Except Error α} (h : scan.Does view result done) :
    scan.Yields view result := fun before => by rw [h before]

theorem Does.start {result : Except Error α} (h : scan.Does view result done) :
    scan.start view.quiet = (result, done) := by
  rw [start_eq, h, Activity.none_append]

theorem Does.bind (h : scan.Does view (.ok a) done) (hnext : (next a).Does view result more) :
    (scan >>= next).Does view result (done ++ more) := by
  intro before
  rw [runFrom_bind, h before]
  change (next a).runFrom view.quiet (before ++ done) = _
  rw [hnext, Activity.append_assoc]

theorem Does.bind_error {e : Error} (h : scan.Does view (.error e) done) :
    (scan >>= next).Does view (.error e) done := by
  intro before
  rw [runFrom_bind, h before]

theorem Does.map {result : Except Error α} (h : scan.Does view result done) (f : α → β) :
    (f <$> scan).Does view (result.map f) done := by
  rw [map_eq_pure_bind]
  intro before
  rw [runFrom_bind, h before]
  cases result <;> rfl

theorem does_pure (a : α) (view : View) : (pure a : Scan α).Does view (.ok a) .none :=
  fun before => by rw [runFrom_pure, Activity.append_none]

/-- A scan after which nothing more is done. -/
theorem Does.bind_idle (h : scan.Does view (.ok a) done)
    (hnext : (next a).Does view result .none) : (scan >>= next).Does view result done := by
  have hboth := h.bind hnext
  rw [Activity.append_none] at hboth
  exact hboth

theorem Does.bind_pure {b : β} (h : scan.Does view (.ok a) done) (hnext : next a = pure b) :
    (scan >>= next).Does view (.ok b) done :=
  h.bind_idle (hnext ▸ does_pure b view)

theorem does_warn (warning : Warning) (view : View) :
    (warn warning).Does view (.ok ()) (.ofWarning warning) :=
  fun before => by rw [runFrom_warn, append_ofWarning]

theorem does_checkpoint (view : View) : checkpoint.Does view (.ok ()) .none :=
  fun before => by rw [runFrom_checkpoint_quiet, Activity.append_none]

theorem Does.after_checkpoint {result : Except Error α} (h : scan.Does view result done) :
    (checkpoint >>= fun _ => scan).Does view result done :=
  (does_checkpoint view).bind h

theorem does_stat (path : String) (view : View) :
    (stat path).Does view (answered .stat path (view.stat path)) (.ofCall (.stat path)) :=
  fun before => by rw [runFrom_stat, append_ofCall]; rfl

theorem does_list (path : String) (view : View) :
    (list path).Does view (answered .openDirectory path (view.list path))
      (.ofCall (.list path)) :=
  fun before => by rw [runFrom_list, append_ofCall]; rfl

theorem does_finish (path : String) (listing : Listing) (view : View) :
    (finish path listing).Does view (finished path listing) .none :=
  fun before => by rw [runFrom_finish, Activity.append_none]

end Scan

end Footprint.Storage
