import Footprint.Proofs.Storage.Scan
import Mathlib.Data.List.Induction
import Mathlib.Data.List.Nodup

/-!
# Walking down a tree

A path is a text, a place in a tree is a list of names, and a request for a path is answered by what
is reached at its place (`Tree.reach`), one name after the other. The place of a longer path is the
place of the shorter one with more names at the end (`pathParts_slash`, `joinPath_append`), so that
what is reached below a directory depends on what is reached at it (`View.reached_entry`), and an
error on the way stays an error (`View.reached_below_error`).

In a tree without faults (`Tree.Faultless`) this ties the two kinds of requests together. A
directory lists every name at which something is reached (`View.mem_names_of_stat`) and, if
something is reached at all of its names, none of them twice (`View.nodup_names`). Below a directory
that opens, or is not there, nothing fails but by being absent (`View.isAbsence_of_stat_entry`), and
what a directory does not list is absent (`View.reached_of_not_mem_names`).
-/

namespace Footprint.Storage

/-! ### Paths and places -/

theorem slashParts_ne_nil (text : List Char) : slashParts text ≠ [] := by
  cases text with
  | nil => exact List.cons_ne_nil _ _
  | cons c rest =>
    rw [slashParts]
    split
    · exact List.cons_ne_nil _ _
    · split <;> exact List.cons_ne_nil _ _

/-- A slash ends a part. -/
theorem slashParts_append (text rest : List Char) :
    slashParts (text ++ '/' :: rest) = slashParts text ++ slashParts rest := by
  induction text with
  | nil => rfl
  | cons c text ih =>
    rw [List.cons_append, slashParts, slashParts, ih]
    split
    · rfl
    · cases h : slashParts text with
      | nil => exact absurd h (slashParts_ne_nil text)
      | cons part others => rfl

theorem slashParts_of_not_mem {text : List Char} (h : '/' ∉ text) : slashParts text = [text] := by
  induction text with
  | nil => rfl
  | cons c text ih =>
    rw [List.mem_cons, not_or] at h
    rw [slashParts, if_neg (Ne.symm h.1), ih h.2]

/-- A text without a slash makes the last part longer. -/
theorem exists_slashParts_append (text : List Char) : ∃ front last, ∀ rest, '/' ∉ rest →
    slashParts (text ++ rest) = front ++ [last ++ rest] := by
  induction text with
  | nil => exact ⟨[], [], fun rest h => slashParts_of_not_mem h⟩
  | cons c text ih =>
    obtain ⟨front, last, hparts⟩ := ih
    by_cases hc : c = '/'
    · refine ⟨[] :: front, last, fun rest h => ?_⟩
      rw [List.cons_append, slashParts, if_pos hc, hparts rest h, List.cons_append]
    · cases front with
      | nil =>
        refine ⟨[], c :: last, fun rest h => ?_⟩
        rw [List.cons_append, slashParts, if_neg hc, hparts rest h]
        rfl
      | cons part front =>
        refine ⟨(c :: part) :: front, last, fun rest h => ?_⟩
        rw [List.cons_append, slashParts, if_neg hc, hparts rest h]
        rfl

theorem pathParts_slash (directory rest : String) :
    pathParts (directory ++ "/" ++ rest) = pathParts directory ++ pathParts rest := by
  have htext : (directory ++ "/" ++ rest).toList = directory.toList ++ '/' :: rest.toList := by
    rw [String.toList_append, String.toList_append, List.append_assoc]
    rfl
  rw [pathParts, htext, slashParts_append, List.map_append, List.filter_append]
  rfl

theorem exists_pathParts_append (path : String) : ∃ (front : List String) (last : String),
    ∀ rest : String, '/' ∉ rest.toList → pathParts (path ++ rest) =
      front ++ [last ++ rest].filter fun part => part ≠ "" ∧ part ≠ "." := by
  obtain ⟨front, last, hparts⟩ := exists_slashParts_append path.toList
  refine ⟨(front.map String.ofList).filter fun part => part ≠ "" ∧ part ≠ ".",
    String.ofList last, fun rest h => ?_⟩
  rw [pathParts, String.toList_append, hparts rest.toList h, List.map_append, List.map_singleton,
    String.ofList_append, String.ofList_toList]
  exact List.filter_append ..

theorem pathParts_slash_ne_nil {directory : String} (h : pathParts directory ≠ [])
    (rest : String) : pathParts (directory ++ "/" ++ rest) ≠ [] := by
  rw [pathParts_slash]
  exact List.append_ne_nil_of_left_ne_nil h _

/-- A text that names an entry of a directory. -/
structure IsName (name : String) : Prop where
  ne_empty : name ≠ ""
  ne_self : name ≠ "."
  ne_above : name ≠ ".."
  no_slash : '/' ∉ name.toList

theorem IsName.pathParts_eq {name : String} (h : IsName name) : pathParts name = [name] := by
  rw [pathParts, slashParts_of_not_mem h.no_slash, List.map_singleton, String.ofList_toList]
  exact List.filter_cons_of_pos (decide_eq_true ⟨h.ne_empty, h.ne_self⟩)

theorem pathParts_of_slash_last {directory : String}
    (h : directory.toList.getLast? = some '/') (rest : String) :
    pathParts (directory ++ rest) = pathParts directory ++ pathParts rest := by
  obtain ⟨front, hfront⟩ := List.getLast?_eq_some_iff.mp h
  have hdirectory : directory = String.ofList front ++ "/" := by
    rw [← String.toList_inj, hfront, String.toList_append, String.toList_ofList]
    rfl
  -- The slash that ends the directory is followed by nothing, which has no parts.
  have hparts : pathParts directory = pathParts (String.ofList front) ++ [] := by
    rw [hdirectory, ← String.append_empty (s := String.ofList front ++ "/"), pathParts_slash]
    rfl
  rw [hparts, hdirectory, pathParts_slash, List.append_nil]

theorem isAbsolute_append {path : String} (h : path ≠ "") (rest : String) :
    isAbsolute (path ++ rest) = isAbsolute path := by
  have hne : path.toList ≠ [] := fun hnil => h (String.toList_eq_nil_iff.mp hnil)
  rw [isAbsolute, isAbsolute, String.toList_append, List.head?_append_of_ne_nil _ hne]

theorem joinPath_append (root : String) {path rest : String}
    (h : isAbsolute (path ++ rest) = isAbsolute path) :
    joinPath root (path ++ rest) = joinPath root path ++ rest := by
  unfold joinPath
  rw [h]
  split
  · rfl
  · split
    · exact (String.append_assoc ..).symm
    · exact (String.append_assoc ..).symm

theorem pathParts_joinPath (root path : String) : pathParts (joinPath root path) =
    (if isAbsolute path then [] else pathParts root) ++ pathParts path := by
  unfold joinPath
  split
  · rfl
  · split
    · next h =>
      by_cases hlast : root.toList.getLast? = some '/'
      · exact pathParts_of_slash_last hlast path
      · rw [String.isEmpty_iff.mp (h.resolve_right hlast), String.empty_append]
        rfl
    · exact pathParts_slash root path

/-! ### Reaching a place -/

namespace Tree

/-- What is reached at a place, by way of directories only. -/
def reach (tree : Tree) (place : List String) : Except Fault Node :=
  match (ancestors place).findSome? tree.obstacle with
  | some fault => .error fault
  | none =>
    match tree.find? place with
    | none => .error .nothing
    | some node => .ok node

theorem resolve_eq (tree : Tree) (path : String) : tree.resolve path =
    if isAbsolute path then .error .nothing else tree.reach (pathParts path) := rfl

theorem ancestors_concat {above : List String} (h : above ≠ []) (name : String) :
    ancestors (above ++ [name]) = ancestors above ++ [above] := by
  have hlength : List.range above.length ≠ [] := by
    rw [Ne, List.range_eq_nil, List.length_eq_zero_iff]
    exact h
  unfold ancestors
  rw [List.length_append, List.length_singleton, List.range_succ,
    List.tail_append_of_ne_nil hlength, List.map_append, List.map_singleton,
    List.take_left' rfl]
  congr 1
  refine List.map_congr_left fun k hk => ?_
  have hlt : k < above.length := List.mem_range.mp (List.mem_of_mem_tail hk)
  exact List.take_append_of_le_length (Nat.le_of_lt hlt)

/-- **One name further.** -/
theorem reach_concat (tree : Tree) {above : List String} (h : above ≠ []) (name : String) :
    tree.reach (above ++ [name]) = tree.reach above >>= fun node =>
      if node.isDirectory then
        match tree.find? (above ++ [name]) with
        | none => .error .nothing
        | some entry => .ok entry
      else .error .notDirectory := by
  unfold reach
  rw [ancestors_concat h, List.findSome?_append, List.findSome?_singleton]
  cases (ancestors above).findSome? tree.obstacle with
  | some fault => rfl
  | none =>
    unfold obstacle
    cases tree.find? above with
    | none => rfl
    | some node => by_cases hdirectory : node.isDirectory <;> simp [hdirectory, bind, Except.bind]

theorem find?_of_reach {tree : Tree} {place : List String} {node : Node}
    (h : tree.reach place = .ok node) : tree.find? place = some node := by
  unfold reach at h
  split at h
  · cases h
  · split at h
    · cases h
    · cases h
      assumption

theorem reach_append_error {tree : Tree} {above : List String} (h : above ≠ []) {fault : Fault}
    (hfault : tree.reach above = .error fault) (rest : List String) :
    tree.reach (above ++ rest) = .error fault := by
  induction rest using List.reverseRecOn with
  | nil => rwa [List.append_nil]
  | append_singleton rest name ih =>
    rw [← List.append_assoc, reach_concat tree (List.append_ne_nil_of_left_ne_nil h rest), ih]
    rfl

/-- The name that a path bears in a directory. -/
theorem nameIn_eq_some_iff {place path : List String} {name : String} :
    (match path.getLast? with
      | none => none
      | some last => if path.dropLast = place then some last else none) = some name ↔
      path = place ++ [name] := by
  constructor
  · intro h
    split at h
    · cases h
    · next hlast =>
      obtain ⟨front, rfl⟩ := List.getLast?_eq_some_iff.mp hlast
      split at h
      · next hfront =>
        cases h
        rw [← hfront, List.dropLast_concat]
      · cases h
  · rintro rfl
    rw [List.getLast?_concat, List.dropLast_concat]
    exact if_pos rfl

theorem mem_children {tree : Tree} {place : List String} {name : String} :
    name ∈ tree.children place ↔ (tree.find? (place ++ [name])).isSome := by
  rw [← Dictionary.mem_keys_iff, children, List.mem_filterMap]
  constructor
  · rintro ⟨path, hpath, hname⟩
    rwa [← nameIn_eq_some_iff.mp hname]
  · exact fun hpath => ⟨_, hpath, nameIn_eq_some_iff.mpr rfl⟩

theorem nodup_children (tree : Tree) (place : List String) : (tree.children place).Nodup := by
  refine List.Nodup.filterMap (fun path other name hpath hother => ?_) tree.keys_nodup
  rw [nameIn_eq_some_iff.mp hpath, nameIn_eq_some_iff.mp hother]

/-! ### Trees without faults -/

/-- A tree in which nothing fails. Names may be listed under which nothing is found, but not the
name of an entry once more. -/
structure Faultless (tree : Tree) : Prop where
  stat : ∀ place node, tree.find? place = some node → node.statFault = none
  open_ : ∀ place node, tree.find? place = some node → node.openFault = none
  read : ∀ place node, tree.find? place = some node → node.readFault = none
  ghosts : ∀ place node, tree.find? place = some node →
    ∀ name ∈ node.ghosts, tree.find? (place ++ [name]) = none

/-- It is enough to look at the entries of a tree. -/
theorem faultless_of_entries {tree : Tree} (h : ∀ entry ∈ tree.entries,
      entry.2.statFault = none ∧ entry.2.openFault = none ∧ entry.2.readFault = none ∧
        ∀ name ∈ entry.2.ghosts, tree.find? (entry.1 ++ [name]) = none) : tree.Faultless := by
  have hentry : ∀ {place node}, tree.find? place = some node → _ := fun hfind =>
    h _ (Dictionary.mem_entries_of_find? hfind)
  exact ⟨fun _ _ hfind => (hentry hfind).1, fun _ _ hfind => (hentry hfind).2.1,
    fun _ _ hfind => (hentry hfind).2.2.1, fun _ _ hfind => (hentry hfind).2.2.2⟩

end Tree

/-- Does a fault say that there is nothing? -/
def Fault.isAbsence : Fault → Bool
  | absent _ => true
  | _ => false

namespace View

variable {view : View} {directory name path : String} {node : Node}

/-- The place of a path of the view. -/
def place (view : View) (path : String) : List String := pathParts (joinPath view.root path)

/-- What is reached at a path of the view. -/
def reached (view : View) (path : String) : Except Fault Node :=
  view.tree.resolve (joinPath view.root path)

/-- The names that are listed at a path of the view; none if it cannot be listed. -/
def names (view : View) (path : String) : List String :=
  ((view.list path).toOption.map Listing.names).getD []

theorem names_of_list_ok {listing : Listing} (h : view.list path = .ok listing) :
    view.names path = listing.names := by
  rw [names, h]
  rfl

theorem names_of_list_error {fault : Fault} (h : view.list path = .error fault) :
    view.names path = [] := by
  rw [names, h]
  rfl

/-- A path at which a directory can be opened, unless nothing is there. -/
def Opens (view : View) (path : String) : Prop :=
  ∀ fault, view.list path = .error fault → fault.isAbsence = true

instance (view : View) (path : String) : Decidable (view.Opens path) :=
  match h : view.list path with
  | .ok _ => isTrue fun _ hfault => nomatch h.symm.trans hfault
  | .error fault =>
    decidable_of_iff (fault.isAbsence = true)
      ⟨fun habsence _ hfault => Except.error.inj (h.symm.trans hfault) ▸ habsence,
        fun hopens => hopens fault h⟩

theorem place_ne_nil (view : View) (h : pathParts path ≠ []) : view.place path ≠ [] := by
  rw [place, pathParts_joinPath]
  exact List.append_ne_nil_of_right_ne_nil _ h

theorem joinPath_slash (h : pathParts directory ≠ []) (rest : String) :
    joinPath view.root (directory ++ "/" ++ rest) =
      joinPath view.root directory ++ "/" ++ rest := by
  have hne : directory ≠ "" := fun hempty => h (hempty ▸ rfl)
  rw [String.append_assoc, joinPath_append _ (isAbsolute_append hne _), String.append_assoc]

theorem place_slash (h : pathParts directory ≠ []) (rest : String) :
    view.place (directory ++ "/" ++ rest) = view.place directory ++ pathParts rest := by
  rw [place, joinPath_slash h, pathParts_slash, place]

theorem reached_slash (h : pathParts directory ≠ []) (rest : String) :
    view.reached (directory ++ "/" ++ rest) =
      if isAbsolute (joinPath view.root directory) then .error .nothing
      else view.tree.reach (view.place directory ++ pathParts rest) := by
  have hne : joinPath view.root directory ≠ "" :=
    fun hempty => view.place_ne_nil h (by rw [place, hempty]; rfl)
  rw [reached, joinPath_slash h, Tree.resolve_eq, String.append_assoc, isAbsolute_append hne,
    ← String.append_assoc, pathParts_slash, place]

/-- An error on the way is one at the end. -/
theorem reached_below_error (h : pathParts directory ≠ []) {fault : Fault}
    (hfault : view.reached directory = .error fault) (rest : String) :
    view.reached (directory ++ "/" ++ rest) = .error fault := by
  rw [reached_slash h]
  rw [reached, Tree.resolve_eq] at hfault
  split at hfault
  · next habsolute => rw [if_pos habsolute, hfault]
  · next hrelative =>
    rw [if_neg hrelative]
    exact Tree.reach_append_error (view.place_ne_nil h) hfault _

/-- **An entry of a directory.** -/
theorem reached_entry (h : pathParts directory ≠ []) (hname : IsName name) :
    view.reached (directory ++ "/" ++ name) = view.reached directory >>= fun node =>
      if node.isDirectory then
        match view.tree.find? (view.place directory ++ [name]) with
        | none => .error .nothing
        | some entry => .ok entry
      else .error .notDirectory := by
  rw [reached_slash h, hname.pathParts_eq, reached, Tree.resolve_eq]
  split
  · rfl
  · exact Tree.reach_concat view.tree (view.place_ne_nil h) name

theorem find?_of_reached (h : view.reached path = .ok node) :
    view.tree.find? (view.place path) = some node := by
  rw [reached, Tree.resolve_eq] at h
  split at h
  · cases h
  · exact Tree.find?_of_reach h

section Faultless

variable (htree : view.tree.Faultless)

include htree

theorem stat_eq (path : String) :
    view.stat path = (view.reached path).map fun node => ⟨node.size, node.isDirectory⟩ := by
  rw [View.stat, Tree.stat]
  change view.reached path >>= _ = _
  cases hreached : view.reached path with
  | error fault => rfl
  | ok node =>
    simp only [bind, Except.bind, htree.stat _ _ (find?_of_reached hreached)]
    rfl

theorem list_eq (path : String) : view.list path = view.reached path >>= fun node =>
    if node.isDirectory then
      .ok ⟨(view.tree.children (view.place path) ++ node.ghosts).filter (!Tree.isSelfReference ·),
        none⟩
    else .error .notDirectory := by
  rw [View.list, Tree.list]
  change view.reached path >>= _ = view.reached path >>= _
  cases hreached : view.reached path with
  | error fault => rfl
  | ok node =>
    have hfind := find?_of_reached hreached
    simp only [bind, Except.bind, htree.open_ _ _ hfind, Tree.listing, htree.read _ _ hfind]
    rfl

theorem stat_eq_ok_iff {found : FileStat} : view.stat path = .ok found ↔
    ∃ node, view.reached path = .ok node ∧ ⟨node.size, node.isDirectory⟩ = found := by
  rw [stat_eq htree]
  cases view.reached path <;> simp [Except.map]

theorem stat_eq_error_iff {fault : Fault} :
    view.stat path = .error fault ↔ view.reached path = .error fault := by
  rw [stat_eq htree]
  cases view.reached path <;> simp [Except.map]

/-- Where a directory opens there is one, and it lists its entries, or there is nothing. -/
theorem Opens.cases (hopens : view.Opens path) :
    (∃ node, view.reached path = .ok node ∧ node.isDirectory = true ∧
      view.list path = .ok ⟨view.names path, none⟩ ∧
      view.names path = (view.tree.children (view.place path) ++ node.ghosts).filter
        (!Tree.isSelfReference ·)) ∨
    (∃ reason, view.reached path = .error (.absent reason) ∧
      view.list path = .error (.absent reason) ∧ view.names path = []) := by
  have hlist := list_eq htree path
  cases hreached : view.reached path with
  | error fault =>
    have herror : view.list path = .error fault := by rw [hlist, hreached]; rfl
    have habsent := hopens fault herror
    cases fault with
    | absent reason => exact Or.inr ⟨reason, rfl, herror, names_of_list_error herror⟩
    | failure reason => cases habsent
    | interrupt => cases habsent
  | ok node =>
    rw [hreached] at hlist
    change view.list path = if node.isDirectory then _ else _ at hlist
    by_cases hdirectory : node.isDirectory = true
    · rw [if_pos hdirectory] at hlist
      have hnames := names_of_list_ok hlist
      exact Or.inl ⟨node, rfl, hdirectory, by rw [hnames, hlist], hnames⟩
    · rw [if_neg hdirectory] at hlist
      exact absurd (hopens _ hlist) (by decide)

section Entries

variable (hparts : pathParts directory ≠ []) (hopens : view.Opens directory)

include hparts hopens

/-- Below what opens nothing fails but by being absent. -/
theorem isAbsence_of_stat_entry (hname : IsName name) {fault : Fault}
    (hstat : view.stat (directory ++ "/" ++ name) = .error fault) : fault.isAbsence = true := by
  rw [stat_eq_error_iff htree] at hstat
  rcases hopens.cases htree with ⟨node, hreached, hdirectory, -⟩ | ⟨reason, hreached, -⟩
  · rw [reached_entry hparts hname, hreached] at hstat
    change (if node.isDirectory then _ else _) = _ at hstat
    rw [if_pos hdirectory] at hstat
    split at hstat
    · cases hstat
      rfl
    · cases hstat
  · rw [reached_below_error hparts hreached] at hstat
    cases hstat
    rfl

/-- **What is there is listed.** -/
theorem mem_names_of_stat (hname : IsName name) {found : FileStat}
    (hstat : view.stat (directory ++ "/" ++ name) = .ok found) : name ∈ view.names directory := by
  obtain ⟨entry, hentry, -⟩ := (stat_eq_ok_iff htree).mp hstat
  have hfind := find?_of_reached hentry
  rw [place_slash hparts, hname.pathParts_eq] at hfind
  rcases hopens.cases htree with ⟨node, -, -, -, hnames⟩ | ⟨reason, hreached, -⟩
  · have hchild := Tree.mem_children.mpr (Option.isSome_iff_exists.mpr ⟨entry, hfind⟩)
    have hself : Tree.isSelfReference name = false := by
      simp [Tree.isSelfReference, hname.ne_self, hname.ne_above]
    rw [hnames, List.mem_filter, List.mem_append]
    exact ⟨Or.inl hchild, by rw [hself]; rfl⟩
  · rw [reached_below_error hparts hreached] at hentry
    cases hentry

/-- A directory all of whose names are found lists none of them twice. -/
theorem nodup_names (hfound : ∀ name ∈ view.names directory,
      IsName name ∧ ∃ found, view.stat (directory ++ "/" ++ name) = .ok found) :
    (view.names directory).Nodup := by
  rcases hopens.cases htree with ⟨node, hreached, -, -, hnames⟩ | ⟨-, -, -, hnames⟩
  · have hghosts : node.ghosts.filter (!Tree.isSelfReference ·) = [] := by
      rw [List.filter_eq_nil_iff]
      intro name hghost hself
      have hlisted : name ∈ view.names directory := by
        rw [hnames, List.mem_filter]
        exact ⟨List.mem_append_right _ hghost, hself⟩
      obtain ⟨hname, found, hstat⟩ := hfound name hlisted
      obtain ⟨entry, hentry, -⟩ := (stat_eq_ok_iff htree).mp hstat
      have hfind := find?_of_reached hentry
      rw [place_slash hparts, hname.pathParts_eq,
        htree.ghosts _ node (find?_of_reached hreached) name hghost] at hfind
      cases hfind
    rw [hnames, List.filter_append, hghosts, List.append_nil]
    exact (view.tree.nodup_children _).filter _
  · rw [hnames]
    exact List.nodup_nil

/-- An entry that is not a plain file opens. -/
theorem opens_entry (hname : IsName name) (hdirectory : ∀ found,
      view.stat (directory ++ "/" ++ name) = .ok found → found.isDirectory = true) :
    view.Opens (directory ++ "/" ++ name) := by
  intro fault hlist
  rw [list_eq htree] at hlist
  cases hreached : view.reached (directory ++ "/" ++ name) with
  | error fault' =>
    rw [hreached] at hlist
    cases hlist
    exact isAbsence_of_stat_entry htree hparts hopens hname
      ((stat_eq_error_iff htree).mpr hreached)
  | ok node =>
    have hnode := hdirectory _ ((stat_eq_ok_iff htree).mpr ⟨node, hreached, rfl⟩)
    rw [hreached] at hlist
    change (if node.isDirectory then _ else _) = _ at hlist
    rw [if_pos hnode] at hlist
    cases hlist

/-- **What is not listed is not there.** -/
theorem reached_of_not_mem_names (hname : IsName name) (h : name ∉ view.names directory) :
    ∃ reason, view.reached (directory ++ "/" ++ name) = .error (.absent reason) := by
  cases hreached : view.reached (directory ++ "/" ++ name) with
  | ok node =>
    have hstat := (stat_eq_ok_iff htree).mpr ⟨node, hreached, rfl⟩
    exact absurd (mem_names_of_stat htree hparts hopens hname hstat) h
  | error fault =>
    have habsence := isAbsence_of_stat_entry htree hparts hopens hname
      ((stat_eq_error_iff htree).mpr hreached)
    cases fault with
    | absent reason => exact ⟨reason, rfl⟩
    | failure reason => cases habsence
    | interrupt => cases habsence

theorem list_of_not_mem_names (hname : IsName name) (h : name ∉ view.names directory) :
    ∃ reason, view.list (directory ++ "/" ++ name) = .error (.absent reason) := by
  obtain ⟨reason, hreached⟩ := reached_of_not_mem_names htree hparts hopens hname h
  refine ⟨reason, ?_⟩
  rw [list_eq htree, hreached]
  rfl

end Entries

end Faultless

end View

end Footprint.Storage
