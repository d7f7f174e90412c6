import Footprint.Proofs.Dictionary
import Footprint.Proofs.Storage.Chain
import Mathlib.Algebra.BigOperators.Group.List.Basic

/-!
# Measuring what a directory lists

The names in a directory are read one by one, and what is found under a name is measured before the
next name is read. So much can fail at any place: the directory may not open, a name may be gone or
refused, a directory below may fail in the same ways, and reading may break off after some names.
`Enumerated` tells what comes of it, requests and warnings included, with one constructor for each
way that it ends. It takes an account of every single name, and is the same for a directory, whose
entries are asked for, and for the root of a tablespace, whose directories are measured themselves.

Whatever is derived in this way is what the measure does (`Enumerated.does`), and always something
can be derived, because there is a first name that fails or there is none (`exists_enumerated`).
Together this says that the relation is the measure (`enumerated_iff`).

Only which failure comes first depends on the order of the names. If nothing fails the outcome is a
sum, so two storages that differ in the order in which they list names agree on every size
(`View.Reordered`, `Enumerated.reordered`).
-/

namespace Footprint.Storage

open Scan

variable {α : Type} {view other : View} {directory path root : String}

/-! ### What a name counts -/

/-- What is made of the answer for an entry of a directory: its size, or nothing if it has vanished,
and what was done to find it. -/
def tellEntry (path : String) : Except Fault FileStat → Except Error Nat × Activity
  | .ok found => (.ok found.size, .ofCall (.stat path))
  | .error (.absent _) => (.ok 0, .ofCall (.stat path) ++ .ofWarning (.vanished path))
  | .error fault => (.error (failed .stat path fault), .ofCall (.stat path))

/-- What is made of the answer for an entry of the root of a tablespace, when `listed` is what is
known of the directory that it may be. -/
def tellRootEntry (path : String) (listed : Except Error Nat × Activity) :
    Except Fault FileStat → Except Error Nat × Activity
  | .ok ⟨size, true⟩ => (listed.1.map (· + size), .ofCall (.stat path) ++ listed.2)
  | answer => tellEntry path answer

namespace View

/-- The size of an entry of a directory, and what is done to find it. -/
def entry (view : View) (path : String) : Except Error Nat × Activity :=
  tellEntry path (view.stat path)

/-- The size of an entry of the root of a tablespace, and what is done to find it. -/
def rootEntry (view : View) (path : String) : Except Error Nat × Activity :=
  tellRootEntry path ((directorySize path).start view.quiet) (view.stat path)

end View

theorem entryStat_does (path : String) (view : View) :
    (entryStat path).Does view (answered .stat path (view.stat path)) (view.entry path).2 := by
  have hstat := does_stat path view
  refine Does.after_checkpoint ?_
  rw [View.entry]
  cases hanswer : view.stat path with
  | ok found =>
    rw [hanswer] at hstat
    exact Does.bind_pure hstat rfl
  | error fault =>
    rw [hanswer] at hstat
    cases fault with
    | absent reason => exact Does.bind hstat (Does.bind_pure (does_warn _ view) rfl)
    | failure reason => exact Does.bind_error hstat
    | interrupt => exact Does.bind_error hstat

/-- The size of an entry. -/
def entrySize (path : String) : Scan Nat :=
  (fun found => (found.map FileStat.size).getD 0) <$> entryStat path

theorem entrySize_does (path : String) (view : View) :
    (entrySize path).Does view (view.entry path).1 (view.entry path).2 := by
  have hsize := (entryStat_does path view).map fun found => (found.map FileStat.size).getD 0
  have hresult : (answered .stat path (view.stat path)).map
      (fun found => (found.map FileStat.size).getD 0) = (view.entry path).1 := by
    rw [View.entry]
    cases view.stat path with
    | ok found => rfl
    | error fault => cases fault <;> rfl
  rw [hresult] at hsize
  exact hsize

/-! ### Measuring what is listed -/

/-- The sum of what is measured under some names. -/
def sumOver (measure : String → Scan Nat) : List String → Scan Nat
  | [] => pure 0
  | name :: rest => do
    let size ← measure name
    let others ← sumOver measure rest
    pure (size + others)

/-- A directory that is measured by what it lists. -/
def measureListed (directory : String) (measure : String → Scan Nat) (nothing : α)
    (total : Nat → α) : Scan α := do
  match ← Scan.list directory with
  | none => pure nothing
  | some listing => do
    let size ← sumOver measure listing.names
    Scan.finish directory listing
    pure (total size)

theorem entriesSize_eq (directory : String) (names : List String) :
    entriesSize directory names =
      sumOver (fun name => entrySize (directory ++ "/" ++ name)) names := by
  induction names with
  | nil => rfl
  | cons name rest ih =>
    rw [entriesSize, sumOver, ih, entrySize, map_eq_pure_bind, bind_assoc]
    rfl

theorem directorySize_eq (path : String) : directorySize path =
    measureListed path (fun name => entrySize (path ++ "/" ++ name)) 0 id := by
  have hsum : sumOver (fun name => entrySize (path ++ "/" ++ name)) = entriesSize path :=
    funext fun names => (entriesSize_eq path names).symm
  rw [measureListed, hsum]
  rfl

theorem rootEntriesSize_eq (root : String) (names : List String) :
    rootEntriesSize root names =
      sumOver (fun name => rootEntrySize (root ++ "/" ++ name)) names := by
  induction names with
  | nil => rfl
  | cons name rest ih =>
    rw [rootEntriesSize, sumOver, ih]
    rfl

theorem tablespaceRootSize_eq (root : String) : tablespaceRootSize root =
    measureListed root (fun name => rootEntrySize (root ++ "/" ++ name)) none some := by
  have hsum : sumOver (fun name => rootEntrySize (root ++ "/" ++ name)) = rootEntriesSize root :=
    funext fun names => (rootEntriesSize_eq root names).symm
  rw [measureListed, hsum]
  rfl

/-- What is done for some names, in order. -/
def activities (account : String → Except Error Nat × Activity) : List String → Activity
  | [] => .none
  | name :: rest => (account name).2 ++ activities account rest

/-- **What comes of measuring a directory by what it lists**, where `account` tells the size of what
is found under a name and what is done to find it. -/
inductive Enumerated (view : View) (directory : String)
    (account : String → Except Error Nat × Activity) (nothing : α) (total : Nat → α) :
    Except Error α × Activity → Prop
  /-- There is no directory. -/
  | absent {reason : String} (hlist : view.list directory = .error (.absent reason)) :
      Enumerated view directory account nothing total (.ok nothing, .ofCall (.list directory))
  /-- There may be one, but it does not open. -/
  | unopened {fault : Fault} (hlist : view.list directory = .error fault)
      (hfault : fault.isAbsence = false) :
      Enumerated view directory account nothing total
        (.error (failed .openDirectory directory fault), .ofCall (.list directory))
  /-- All names are read and measured. -/
  | summed {names : List String} {size : String → Nat}
      (hlist : view.list directory = .ok ⟨names, none⟩)
      (hsize : ∀ name ∈ names, (account name).1 = .ok (size name)) :
      Enumerated view directory account nothing total
        (.ok (total (names.map size).sum), .ofCall (.list directory) ++ activities account names)
  /-- Reading breaks off, after all names before were measured. -/
  | unread {names : List String} {fault : Fault} {size : String → Nat}
      (hlist : view.list directory = .ok ⟨names, some fault⟩)
      (hsize : ∀ name ∈ names, (account name).1 = .ok (size name)) :
      Enumerated view directory account nothing total
        (.error (failed .readDirectory directory fault),
          .ofCall (.list directory) ++ activities account names)
  /-- A name cannot be measured, and those before it were. -/
  | refused {before after : List String} {name : String} {fault : Option Fault}
      {size : String → Nat} {e : Error}
      (hlist : view.list directory = .ok ⟨before ++ name :: after, fault⟩)
      (hsize : ∀ earlier ∈ before, (account earlier).1 = .ok (size earlier))
      (hname : (account name).1 = .error e) :
      Enumerated view directory account nothing total
        (.error e, .ofCall (.list directory) ++ activities account (before ++ [name]))

section Account

variable {measure : String → Scan Nat} {account : String → Except Error Nat × Activity}
  {nothing : α} {total : Nat → α} {names before after : List String} {name : String}
  {size : String → Nat} {outcome : Except Error α × Activity}

/-- There is a first name that cannot be measured, or there is none. -/
theorem measured_or_refused (account : String → Except Error Nat × Activity)
    (names : List String) : ∃ size : String → Nat,
      (∀ name ∈ names, (account name).1 = .ok (size name)) ∨
      ∃ before name after e, names = before ++ name :: after ∧
        (∀ earlier ∈ before, (account earlier).1 = .ok (size earlier)) ∧
        (account name).1 = .error e := by
  let size : String → Nat := fun name => ((account name).1.toOption).getD 0
  refine ⟨size, ?_⟩
  induction names with
  | nil => exact Or.inl fun _ hmem => absurd hmem List.not_mem_nil
  | cons name rest ih =>
    cases hname : (account name).1 with
    | error e =>
      exact Or.inr ⟨[], name, rest, e, rfl, fun _ hmem => absurd hmem List.not_mem_nil, hname⟩
    | ok n =>
      have hsize : (account name).1 = .ok (size name) := by
        simp only [size, hname]
        rfl
      rcases ih with hall | ⟨before, first, after, e, rfl, hbefore, hfirst⟩
      · exact Or.inl (List.forall_mem_cons.mpr ⟨hsize, hall⟩)
      · exact Or.inr ⟨name :: before, first, after, e, rfl,
          List.forall_mem_cons.mpr ⟨hsize, hbefore⟩, hfirst⟩

theorem exists_enumerated (view : View) (directory : String)
    (account : String → Except Error Nat × Activity) (nothing : α) (total : Nat → α) :
    ∃ outcome, Enumerated view directory account nothing total outcome := by
  cases hlist : view.list directory with
  | error fault =>
    cases fault with
    | absent reason => exact ⟨_, .absent hlist⟩
    | failure reason => exact ⟨_, .unopened hlist rfl⟩
    | interrupt => exact ⟨_, .unopened hlist rfl⟩
  | ok listing =>
    obtain ⟨names, fault⟩ := listing
    -- What happens before reading ends is decided by the first name that fails.
    obtain ⟨size, hsize | ⟨before, name, after, e, rfl, hsize, hname⟩⟩ :=
      measured_or_refused account names
    · cases fault with
      | none => exact ⟨_, .summed hlist hsize⟩
      | some fault => exact ⟨_, .unread hlist hsize⟩
    · exact ⟨_, .refused hlist hsize hname⟩

variable (hmeasure : ∀ name, (measure name).Does view (account name).1 (account name).2)

include hmeasure

theorem sumOver_does (hsize : ∀ name ∈ names, (account name).1 = .ok (size name)) :
    (sumOver measure names).Does view (.ok (names.map size).sum) (activities account names) := by
  induction names with
  | nil => exact does_pure 0 view
  | cons name rest ih =>
    rw [List.forall_mem_cons] at hsize
    have hname := hmeasure name
    rw [hsize.1] at hname
    exact hname.bind ((ih hsize.2).bind_pure rfl)

theorem sumOver_does_error {e : Error}
    (hsize : ∀ earlier ∈ before, (account earlier).1 = .ok (size earlier))
    (hname : (account name).1 = .error e) :
    (sumOver measure (before ++ name :: after)).Does view (.error e)
      (activities account (before ++ [name])) := by
  induction before with
  | nil =>
    have hfirst := hmeasure name
    rw [hname] at hfirst
    rw [List.nil_append, List.nil_append, activities, activities, Activity.append_none]
    exact hfirst.bind_error
  | cons earlier rest ih =>
    rw [List.forall_mem_cons] at hsize
    have hearlier := hmeasure earlier
    rw [hsize.1] at hearlier
    exact hearlier.bind (ih hsize.2).bind_error

/-- **What is derived is what the measure does.** -/
theorem Enumerated.does (h : Enumerated view directory account nothing total outcome) :
    (measureListed directory measure nothing total).Does view outcome.1 outcome.2 := by
  -- Each constructor fixes the answer to the request that opens the directory.
  have hopened := does_list directory view
  cases h with
  | absent hlist =>
    rw [hlist] at hopened
    exact Does.bind_pure hopened rfl
  | @unopened fault hlist hfault =>
    rw [hlist] at hopened
    cases fault with
    | absent reason => cases hfault
    | failure reason => exact Does.bind_error hopened
    | interrupt => exact Does.bind_error hopened
  | @summed names size hlist hsize =>
    rw [hlist] at hopened
    exact Does.bind hopened ((sumOver_does hmeasure hsize).bind_pure rfl)
  | @unread names fault size hlist hsize =>
    rw [hlist] at hopened
    have hfinish := does_finish directory ⟨names, some fault⟩ view
    exact Does.bind hopened ((sumOver_does hmeasure hsize).bind_idle (Does.bind_error hfinish))
  | refused hlist hsize hname =>
    rw [hlist] at hopened
    exact Does.bind hopened (sumOver_does_error hmeasure hsize hname).bind_error

/-- **The relation is the measure.** -/
theorem enumerated_iff : Enumerated view directory account nothing total outcome ↔
    (measureListed directory measure nothing total).start view.quiet = outcome := by
  have hstart : ∀ {outcome}, Enumerated view directory account nothing total outcome →
      (measureListed directory measure nothing total).start view.quiet = outcome :=
    fun h => (h.does hmeasure).start
  refine ⟨hstart, fun h => ?_⟩
  -- Something can be derived, and as it is what the measure does there is nothing else.
  obtain ⟨derived, hderived⟩ := exists_enumerated view directory account nothing total
  rw [← h, hstart hderived]
  exact hderived

end Account

/-! ### Directories and roots of tablespaces -/

theorem enumerated_directorySize {outcome : Except Error Nat × Activity} :
    Enumerated view path (fun name => view.entry (path ++ "/" ++ name)) 0 id outcome ↔
      (directorySize path).start view.quiet = outcome := by
  rw [directorySize_eq]
  exact enumerated_iff fun name => entrySize_does _ view

/-- What is done for a directory does not depend on what was done before. -/
theorem directorySize_does (path : String) (view : View) :
    (directorySize path).Does view ((directorySize path).start view.quiet).1
      ((directorySize path).start view.quiet).2 := by
  have hmeasure := (enumerated_directorySize.mpr rfl).does fun name =>
    entrySize_does (path ++ "/" ++ name) view
  rw [← directorySize_eq] at hmeasure
  exact hmeasure

theorem directorySize_yields_of_enumerated {outcome : Except Error Nat × Activity}
    (h : Enumerated view path (fun name => view.entry (path ++ "/" ++ name)) 0 id outcome) :
    (directorySize path).Yields view outcome.1 := by
  rw [← enumerated_directorySize.mp h]
  exact (directorySize_does path view).yields

theorem rootEntrySize_does (path : String) (view : View) :
    (rootEntrySize path).Does view (view.rootEntry path).1 (view.rootEntry path).2 := by
  have hentry := entryStat_does path view
  rw [View.entry] at hentry
  rw [View.rootEntry]
  cases hanswer : view.stat path with
  | ok found =>
    rw [hanswer] at hentry
    obtain ⟨size, isDirectory⟩ := found
    cases isDirectory with
    | true => exact Does.bind hentry ((directorySize_does path view).map (· + size))
    | false => exact Does.bind_pure hentry rfl
  | error fault =>
    rw [hanswer] at hentry
    cases fault with
    | absent reason => exact Does.bind_pure hentry rfl
    | failure reason => exact Does.bind_error hentry
    | interrupt => exact Does.bind_error hentry

theorem enumerated_tablespaceRootSize {outcome : Except Error (Option Nat) × Activity} :
    Enumerated view root (fun name => view.rootEntry (root ++ "/" ++ name)) none some outcome ↔
      (tablespaceRootSize root).start view.quiet = outcome := by
  rw [tablespaceRootSize_eq]
  exact enumerated_iff fun name => rootEntrySize_does _ view

theorem tablespaceRootSize_yields_of_enumerated {outcome : Except Error (Option Nat) × Activity}
    (h : Enumerated view root (fun name => view.rootEntry (root ++ "/" ++ name)) none some
      outcome) :
    (tablespaceRootSize root).Yields view outcome.1 := by
  have hmeasure := h.does fun name => rootEntrySize_does (root ++ "/" ++ name) view
  rw [← tablespaceRootSize_eq] at hmeasure
  exact hmeasure.yields

/-- A tablespace has no size exactly if its root is not there. -/
theorem tablespaceRootSize_eq_none_iff :
    ((tablespaceRootSize root).start view.quiet).1 = .ok none ↔
      ∃ reason, view.list root = .error (.absent reason) := by
  constructor
  · intro hnone
    have hroot := enumerated_tablespaceRootSize.mpr
      (rfl : (tablespaceRootSize root).start view.quiet = _)
    generalize (tablespaceRootSize root).start view.quiet = outcome at hnone hroot
    cases hroot with
    | absent hlist => exact ⟨_, hlist⟩
    | unopened hlist hfault => cases hnone
    | summed hlist hsize => cases hnone
    | unread hlist hsize => cases hnone
    | refused hlist hsize hname => cases hnone
  · rintro ⟨reason, hlist⟩
    rw [enumerated_tablespaceRootSize.mp (.absent hlist)]

theorem View.rootEntry_of_directory {size listed : Nat} (hstat : view.stat path = .ok ⟨size, true⟩)
    (hlisted : (directorySize path).Yields view (.ok listed)) :
    (view.rootEntry path).1 = .ok (listed + size) := by
  rw [rootEntry, hstat]
  change ((directorySize path).start view.quiet).1.map (· + size) = _
  rw [hlisted.start]
  rfl

/-! ### A directory that is read to its end -/

theorem View.entry_of_clean (h : view.complaint path = none) : view.entry path =
    (.ok (view.fileSize path),
      ⟨[.stat path], if view.holds path then [] else [.vanished path]⟩) := by
  rw [entry, fileSize, holds, found?]
  cases hanswer : view.stat path with
  | ok found => rfl
  | error fault =>
    cases fault with
    | absent reason => rfl
    | failure reason => rw [complaint_of_error hanswer] at h; cases h
    | interrupt => rw [complaint_of_error hanswer] at h; cases h

theorem activities_of_clean {names : List String}
    (hclean : ∀ name ∈ names, view.complaint (directory ++ "/" ++ name) = none) :
    activities (fun name => view.entry (directory ++ "/" ++ name)) names =
      ⟨names.map fun name => .stat (directory ++ "/" ++ name),
        (names.filter fun name => !view.holds (directory ++ "/" ++ name)).map fun name =>
          .vanished (directory ++ "/" ++ name)⟩ := by
  induction names with
  | nil => rfl
  | cons name rest ih =>
    rw [List.forall_mem_cons] at hclean
    rw [activities, ih hclean.2, View.entry_of_clean hclean.1, List.filter_cons]
    by_cases hholds : view.holds (directory ++ "/" ++ name) = true
    · simp [hholds, Activity.append_def]
    · simp [hholds, Activity.append_def]

/-- What is not there counts nothing. -/
theorem sum_fileSize (view : View) (directory : String) (names : List String) :
    (names.map fun name => view.fileSize (directory ++ "/" ++ name)).sum =
      ((names.filter fun name => view.holds (directory ++ "/" ++ name)).map fun name =>
        view.fileSize (directory ++ "/" ++ name)).sum := by
  induction names with
  | nil => rfl
  | cons name rest ih =>
    rw [List.map_cons, List.sum_cons, ih, List.filter_cons]
    by_cases hholds : view.holds (directory ++ "/" ++ name) = true
    · rw [if_pos hholds, List.map_cons, List.sum_cons]
    · have hnone : view.fileSize (directory ++ "/" ++ name) = 0 := by
        rw [View.holds, Bool.not_eq_true, Option.isSome_eq_false_iff, Option.isNone_iff_eq_none]
          at hholds
        rw [View.fileSize, hholds]
        rfl
      rw [if_neg hholds, hnone, Nat.zero_add]

/-- **A directory that is read to its end.** The sizes of the entries that are there are added up.
The directory is opened once, each name is asked for once, in order, and each one that has vanished
is warned of. -/
theorem directorySize_of_clean {names : List String} (hlist : view.list path = .ok ⟨names, none⟩)
    (hclean : ∀ name ∈ names, view.complaint (path ++ "/" ++ name) = none) :
    (directorySize path).start view.quiet =
      (.ok ((names.filter fun name => view.holds (path ++ "/" ++ name)).map fun name =>
          view.fileSize (path ++ "/" ++ name)).sum,
        ⟨.list path :: names.map fun name => .stat (path ++ "/" ++ name),
          (names.filter fun name => !view.holds (path ++ "/" ++ name)).map fun name =>
            .vanished (path ++ "/" ++ name)⟩) := by
  have hsize : ∀ name ∈ names, (view.entry (path ++ "/" ++ name)).1 =
      .ok (view.fileSize (path ++ "/" ++ name)) :=
    fun name hmem => congrArg Prod.fst (View.entry_of_clean (hclean name hmem))
  rw [enumerated_directorySize.mp (.summed hlist hsize), activities_of_clean hclean, id_eq,
    sum_fileSize]
  rfl

/-- What is read of a directory until it ends or breaks off, and is listed but for the names of the
directory itself and of the one above. -/
theorem Tree.listing_eq (node : Node) (children : List String) :
    ∃ read, (listing node children).names = read.filter (!isSelfReference ·) ∧
      ((listing node children).fault = none → read = children ++ node.ghosts) ∧
      ∀ fault, (listing node children).fault = some fault → ∃ count,
        node.readFault = some (count, fault) ∧ read = (children ++ node.ghosts).take count := by
  unfold listing
  dsimp only
  split
  · next count fault hfault =>
    split
    · exact ⟨_, rfl, nofun, fun other hother => ⟨count, Option.some.inj hother ▸ hfault, rfl⟩⟩
    · exact ⟨_, rfl, fun _ => rfl, nofun⟩
  · exact ⟨_, rfl, fun _ => rfl, nofun⟩

theorem View.list_eq_ok {listing : Listing} (h : view.list path = .ok listing) :
    ∃ node, view.reached path = .ok node ∧
      listing = Tree.listing node (view.tree.children (view.place path)) := by
  rw [View.list, Tree.list] at h
  change view.reached path >>= _ = _ at h
  cases hreached : view.reached path with
  | error fault =>
    rw [hreached] at h
    cases h
  | ok node =>
    rw [hreached] at h
    change (if node.isDirectory = true then _ else _) = _ at h
    split at h
    · split at h
      · cases h
      · exact ⟨node, rfl, (Except.ok.inj h).symm⟩
    · cases h

/-! ### The order of the names -/

/-- Do two answers list the same names, in whatever order? Reading that breaks off may have come to
any of them. -/
def SameNames : Except Fault Listing → Except Fault Listing → Prop
  | .ok first, .ok second =>
    first.fault = second.fault ∧ (first.fault = none → first.names.Perm second.names)
  | .error first, .error second => first = second
  | _, _ => False

namespace SameNames

variable {answer answer' : Except Fault Listing} {names : List String} {fault : Fault}

theorem symm (h : SameNames answer answer') : SameNames answer' answer := by
  cases answer with
  | ok first =>
    cases answer' with
    | ok second => exact ⟨h.1.symm, fun hnone => (h.2 (h.1.trans hnone)).symm⟩
    | error second => exact h
  | error first =>
    cases answer' with
    | ok second => exact h
    | error second => exact Eq.symm h

theorem of_error (h : SameNames (.error fault) answer) : answer = .error fault := by
  cases answer with
  | ok listing => cases h
  | error other => exact congrArg Except.error (Eq.symm h)

theorem of_ok (h : SameNames (.ok ⟨names, none⟩) answer) :
    ∃ others, answer = .ok ⟨others, none⟩ ∧ names.Perm others := by
  cases answer with
  | ok listing =>
    obtain ⟨others, fault⟩ := listing
    obtain ⟨hfault, hnames⟩ := h
    cases hfault
    exact ⟨others, rfl, hnames rfl⟩
  | error fault => cases h

end SameNames

/-- The same storage, but for the order in which it lists names. -/
structure View.Reordered (view other : View) : Prop where
  stat : ∀ path, view.stat path = other.stat path
  list : ∀ path, SameNames (view.list path) (other.list path)

theorem View.Reordered.symm (h : view.Reordered other) : other.Reordered view where
  stat path := (h.stat path).symm
  list path := (h.list path).symm

/-- A size is a sum, and a sum does not depend on the order. -/
theorem Enumerated.reordered {account account' : String → Except Error Nat × Activity}
    {nothing a : α} {total : Nat → α} {done : Activity}
    (hlist : SameNames (view.list directory) (other.list directory))
    (haccount : ∀ name size, (account name).1 = .ok size → (account' name).1 = .ok size)
    (h : Enumerated view directory account nothing total (.ok a, done)) :
    ∃ done', Enumerated other directory account' nothing total (.ok a, done') := by
  cases h with
  | absent habsent =>
    rw [habsent] at hlist
    exact ⟨_, .absent hlist.of_error⟩
  | @summed names size hnames hsize =>
    rw [hnames] at hlist
    obtain ⟨others, hothers, hperm⟩ := hlist.of_ok
    rw [(hperm.map size).sum_eq]
    exact ⟨_, .summed hothers fun name hmem =>
      haccount name _ (hsize name (hperm.mem_iff.mpr hmem))⟩

theorem tellRootEntry_of_ok {listed listed' : Except Error Nat × Activity}
    {answer : Except Fault FileStat} {size : Nat}
    (hlisted : ∀ n, listed.1 = .ok n → listed'.1 = .ok n)
    (h : (tellRootEntry path listed answer).1 = .ok size) :
    (tellRootEntry path listed' answer).1 = .ok size := by
  cases answer with
  | error fault => exact h
  | ok found =>
    obtain ⟨own, isDirectory⟩ := found
    -- Only the size of a directory depends on what it lists.
    cases isDirectory with
    | false => exact h
    | true =>
      change listed.1.map (· + own) = .ok size at h
      change listed'.1.map (· + own) = .ok size
      cases hsum : listed.1 with
      | error e =>
        rw [hsum] at h
        cases h
      | ok n =>
        rw [hsum] at h
        rw [hlisted n hsum]
        exact h

theorem View.Reordered.directorySize (h : view.Reordered other) {size : Nat}
    (hsize : ((Storage.directorySize path).start view.quiet).1 = .ok size) :
    ((Storage.directorySize path).start other.quiet).1 = .ok size := by
  obtain ⟨done, hstart⟩ : ∃ done, (Storage.directorySize path).start view.quiet =
      (.ok size, done) := ⟨_, Prod.ext hsize rfl⟩
  have hmeasure := enumerated_directorySize.mpr hstart
  obtain ⟨done, hother⟩ := hmeasure.reordered (h.list path) fun name entrySize hentry => by
    rw [View.entry, h.stat] at hentry
    exact hentry
  rw [enumerated_directorySize.mp hother]

theorem View.Reordered.tablespaceRootSize (h : view.Reordered other) {total : Option Nat}
    (htotal : ((Storage.tablespaceRootSize root).start view.quiet).1 = .ok total) :
    ((Storage.tablespaceRootSize root).start other.quiet).1 = .ok total := by
  obtain ⟨done, hstart⟩ : ∃ done, (Storage.tablespaceRootSize root).start view.quiet =
      (.ok total, done) := ⟨_, Prod.ext htotal rfl⟩
  have hmeasure := enumerated_tablespaceRootSize.mpr hstart
  obtain ⟨done, hother⟩ := hmeasure.reordered (h.list root) fun name entrySize hentry => by
    rw [View.rootEntry, h.stat] at hentry
    exact tellRootEntry_of_ok (fun _ => h.directorySize) hentry
  rw [enumerated_tablespaceRootSize.mp hother]

theorem Tree.sameNames_listing (node : Node) {children children' : List String}
    (h : children.Perm children') :
    SameNames (.ok (listing node children)) (.ok (listing node children')) := by
  have hread : (children ++ node.ghosts).Perm (children' ++ node.ghosts) := h.append_right _
  unfold listing
  dsimp only
  rw [← hread.length_eq]
  split
  · split
    · exact ⟨rfl, nofun⟩
    · exact ⟨rfl, fun _ => hread.filter _⟩
  · exact ⟨rfl, fun _ => hread.filter _⟩

/-- Two trees with the same entries, in whatever order. -/
theorem View.Reordered.of_perm (htree : view.tree.entries.Perm other.tree.entries)
    (hroot : view.root = other.root) : view.Reordered other := by
  -- A path is resolved by looking up places, and names are listed in the order of the entries.
  have hfind : view.tree.find? = other.tree.find? := funext fun _ => Dictionary.find?_of_perm htree
  have hresolve : ∀ path, view.tree.resolve path = other.tree.resolve path := fun path => by
    unfold Tree.resolve Tree.obstacle
    rw [hfind]
  have hchildren : ∀ place, (view.tree.children place).Perm (other.tree.children place) :=
    fun place => (htree.map Prod.fst).filterMap _
  refine ⟨fun path => ?_, fun path => ?_⟩
  · rw [View.stat, View.stat, Tree.stat, Tree.stat, hroot, hresolve]
  · rw [View.list, View.list, Tree.list, Tree.list, hroot, hresolve]
    cases other.tree.resolve (joinPath other.root path) with
    | error fault => exact rfl
    | ok node =>
      change SameNames (if node.isDirectory = true then _ else _)
        (if node.isDirectory = true then _ else _)
      split
      · split
        · exact rfl
        · exact Tree.sameNames_listing node (hchildren _)
      · exact rfl

/-! ### Sizes of directories -/

/-- **Directories are measured by what they list.** What comes of measuring a directory, or the root
of a tablespace, is told by `Enumerated`: nothing or no size if it is not there, the sum if all that
it lists is measured, and otherwise the first failure in the order of the names, after everything
that comes before it was done, where reading that breaks off fails after the names that were read.
Only a tablespace whose root is not there has no size. In a directory that is read to its end the
sizes of the entries that are there are added up, each name is asked for once and nothing deeper is,
and each one that has vanished is warned of. The names are those that the system reads, but for the
names of the directory itself and the one above. No size depends on the order of the names. -/
theorem directories_enumerated (view : View) (path : String) :
    (∀ outcome, Enumerated view path (fun name => view.entry (path ++ "/" ++ name)) 0 id outcome ↔
      (directorySize path).start view.quiet = outcome) ∧
    (∀ outcome, Enumerated view path (fun name => view.rootEntry (path ++ "/" ++ name)) none some
        outcome ↔
      (tablespaceRootSize path).start view.quiet = outcome) ∧
    (((tablespaceRootSize path).start view.quiet).1 = .ok none ↔
      ∃ reason, view.list path = .error (.absent reason)) ∧
    (∀ names, view.list path = .ok ⟨names, none⟩ →
      (∀ name ∈ names, view.complaint (path ++ "/" ++ name) = none) →
      (directorySize path).start view.quiet =
        (.ok ((names.filter fun name => view.holds (path ++ "/" ++ name)).map fun name =>
            view.fileSize (path ++ "/" ++ name)).sum,
          ⟨.list path :: names.map fun name => .stat (path ++ "/" ++ name),
            (names.filter fun name => !view.holds (path ++ "/" ++ name)).map fun name =>
              .vanished (path ++ "/" ++ name)⟩)) ∧
    (∀ names fault, view.list path = .ok ⟨names, fault⟩ → ∃ node read,
      view.reached path = .ok node ∧ names = read.filter (!Tree.isSelfReference ·) ∧
      (fault = none → read = view.tree.children (view.place path) ++ node.ghosts) ∧
      ∀ f, fault = some f → ∃ count, node.readFault = some (count, f) ∧
        read = (view.tree.children (view.place path) ++ node.ghosts).take count) ∧
    ∀ other, view.Reordered other →
      (∀ size, ((directorySize path).start view.quiet).1 = .ok size ↔
        ((directorySize path).start other.quiet).1 = .ok size) ∧
      ∀ total, ((tablespaceRootSize path).start view.quiet).1 = .ok total ↔
        ((tablespaceRootSize path).start other.quiet).1 = .ok total := by
  refine ⟨fun _ => enumerated_directorySize, fun _ => enumerated_tablespaceRootSize,
    tablespaceRootSize_eq_none_iff, fun _ => directorySize_of_clean, ?_, ?_⟩
  · intro names fault hlist
    obtain ⟨node, hreached, hlisting⟩ := View.list_eq_ok hlist
    obtain ⟨read, hnames, hall, hsome⟩ :=
      Tree.listing_eq node (view.tree.children (view.place path))
    rw [← hlisting] at hnames hall hsome
    exact ⟨node, read, hreached, hnames, hall, hsome⟩
  · intro other horder
    exact ⟨fun _ => ⟨horder.directorySize, horder.symm.directorySize⟩,
      fun _ => ⟨horder.tablespaceRootSize, horder.symm.tablespaceRootSize⟩⟩

/-- A directory with a file, a directory and a name under which nothing is found, whose entries are
listed in one order or in the other. -/
theorem directories_enumerated_vanished :
    let base : List String × Node := (["base"], { Node.plainDirectory with ghosts := ["gone"] })
    let inner : List String × Node := (["base", "5"], .plainDirectory)
    let deep : List String × Node := (["base", "5", "1"], { isDirectory := false, size := 100 })
    let file : List String × Node := (["base", "PG"], { isDirectory := false, size := 3 })
    let view : View := ⟨⟨[base, inner, deep, file], by decide⟩, "", none⟩
    let other : View := ⟨⟨[base, file, inner, deep], by decide⟩, "", none⟩
    (directorySize "base").start view.quiet = (.ok 4099,
        ⟨[.list "base", .stat "base/5", .stat "base/PG", .stat "base/gone"],
          [.vanished "base/gone"]⟩) ∧
      view.Reordered other ∧
      ((tablespaceRootSize "base").start other.quiet).1 = .ok (some 4199) := by
  intro base inner deep file view other
  obtain ⟨-, -, -, hclean, -, horder⟩ := directories_enumerated view "base"
  have hreordered : view.Reordered other := .of_perm (by decide) rfl
  have htotal : ((tablespaceRootSize "base").start view.quiet).1 = .ok (some 4199) := by decide
  refine ⟨?_, hreordered, ((horder other hreordered).2 _).mp htotal⟩
  rw [hclean ["5", "PG", "gone"] (by decide) (by decide)]
  decide

end Footprint.Storage
