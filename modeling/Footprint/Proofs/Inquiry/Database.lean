import Footprint.Proofs.Catalog.Placement
import Footprint.Proofs.Inquiry.Directories
import Footprint.Proofs.Inquiry.Total

/-!
# A database is the sum of its relations

The size of a database is found by walking its directories, those of its relations by asking for
segments at paths that the catalog gives. If the directories hold what the catalog says, and nothing
else (`Inquiry.Housed`), both add up the same files: the files that the directories list
(`Inquiry.files`) and the segments of the relations (`Inquiry.segments`) are the same paths, each of
them once. That no file is listed twice is a matter of the tree, and that no two segments share a
path one of the file names, which tell what they were made from.
-/

namespace Footprint

open Storage Storage.Scan

namespace Inquiry

variable {inquiry : Inquiry} {view : View} {database : Int} {relation : Relation}
  {locator : Locator}

/-! ### The relations of a database -/

/-- Has a relation files in the directories of a database? -/
def residesIn (inquiry : Inquiry) (database : Int) (relation : Relation) : Bool :=
  relation.hasStorage && relation.database == database &&
    match inquiry.catalog.locator relation with
    | .ok locator => locator.tablespace != globalTablespace
    | .error _ => false

/-- The relations with files in the directories of a database. -/
def residents (inquiry : Inquiry) (database : Int) : List Relation :=
  inquiry.catalog.relations.values.filter (inquiry.residesIn database)

/-- The place of a relation with files in the directories of a database. -/
structure Resides (inquiry : Inquiry) (database : Int) (relation : Relation) (locator : Locator) :
    Prop where
  hasStorage : relation.hasStorage = true
  locator_eq : inquiry.catalog.locator relation = .ok locator
  not_global : locator.tablespace ≠ globalTablespace
  database_eq : locator.database = database

theorem exists_resides (h : relation ∈ inquiry.residents database) :
    ∃ locator, inquiry.Resides database relation locator := by
  have hresides := (List.mem_filter.mp h).2
  unfold residesIn at hresides
  rw [Bool.and_eq_true, Bool.and_eq_true, beq_iff_eq] at hresides
  obtain ⟨⟨hstorage, hdatabase⟩, htablespace⟩ := hresides
  cases hlocator : inquiry.catalog.locator relation with
  | error e =>
    rw [hlocator] at htablespace
    cases htablespace
  | ok locator =>
    rw [hlocator] at htablespace
    have hglobal : locator.tablespace ≠ globalTablespace := bne_iff_ne.mp htablespace
    refine ⟨locator, hstorage, hlocator, hglobal, ?_⟩
    rw [(Catalog.locator_eq_ok_iff.mp hlocator).2.1, if_neg hglobal, hdatabase]

/-- Outside the global tablespace every fork has a path. -/
theorem forkPath_of_locator (hlocator : inquiry.catalog.locator relation = .ok locator)
    (hglobal : locator.tablespace ≠ globalTablespace) (fork : Fork) :
    inquiry.forkPath relation fork =
      .ok (databasePath inquiry.version locator.tablespace locator.database ++ "/" ++
        fileName relation.fileBackend locator.file fork) := by
  rw [Inquiry.forkPath, hlocator]
  change Storage.forkPath inquiry.version locator relation.fileBackend fork = _
  rw [Storage.forkPath, if_neg fun hshared => hglobal hshared.1]
  rfl

namespace Resides

variable (h : inquiry.Resides database relation locator)

include h

theorem forkPath_eq (fork : Fork) : inquiry.forkPath relation fork =
    .ok (databasePath inquiry.version locator.tablespace database ++ "/" ++
      fileName relation.fileBackend locator.file fork) := by
  rw [forkPath_of_locator h.locator_eq h.not_global, h.database_eq]

theorem chains_eq : inquiry.chains relation = Fork.all.map fun fork =>
    databasePath inquiry.version locator.tablespace database ++ "/" ++
      fileName relation.fileBackend locator.file fork := by
  rw [chains, if_pos h.hasStorage]
  simp only [h.forkPath_eq, Except.toOption, List.filterMap_eq_map']

/-- **A segment tells the place of its relation, the backend and the chain.** -/
theorem segmentPath_inj {other : Relation} {place : Locator}
    (h' : inquiry.Resides database other place) {base base' : String}
    (hbase : base ∈ inquiry.chains relation) (hbase' : base' ∈ inquiry.chains other) {m n : Int}
    (heq : segmentPath base m = segmentPath base' n) :
    locator = place ∧ relation.fileBackend = other.fileBackend ∧ base = base' ∧ m = n := by
  rw [h.chains_eq] at hbase
  rw [h'.chains_eq] at hbase'
  obtain ⟨fork, -, rfl⟩ := List.mem_map.mp hbase
  obtain ⟨fork', -, rfl⟩ := List.mem_map.mp hbase'
  obtain ⟨hdirectory, hbackend, hfile, rfl, rfl⟩ := segmentPath_fileName_inj heq
  have htablespace := (databasePath_inj h.not_global h'.not_global hdirectory).1
  have hdatabase := h.database_eq.trans h'.database_eq.symm
  refine ⟨?_, hbackend, by rw [htablespace, hbackend, hfile], rfl⟩
  cases locator
  cases place
  simp_all

theorem nodup_chains : (inquiry.chains relation).Nodup := by
  rw [h.chains_eq]
  refine List.Nodup.map (fun fork fork' heq => ?_) (by decide)
  exact (fileName_inj ((String.append_right_inj _).mp heq)).2.2

end Resides

/-! ### Files and segments -/

/-- The files that the directories of a database list. -/
def files (inquiry : Inquiry) (view : View) (database : Int) : List String :=
  (inquiry.directories view database).flatMap fun directory =>
    (view.names directory).map fun name => directory ++ "/" ++ name

theorem mem_files {directory name : String}
    (hdirectory : directory ∈ inquiry.directories view database)
    (hname : name ∈ view.names directory) :
    directory ++ "/" ++ name ∈ inquiry.files view database :=
  List.mem_flatMap.mpr ⟨directory, hdirectory, List.mem_map_of_mem hname⟩

/-- The segments of the relations of a database. -/
def segments (inquiry : Inquiry) (view : View) (database : Int) : List String :=
  ((inquiry.residents database).flatMap inquiry.chains).flatMap view.chainSegments

/-- The directories of a database can be walked without a failure. -/
structure Walkable (inquiry : Inquiry) (view : View) (database : Int) : Prop where
  faultless : view.tree.Faultless
  links_open : view.Opens linkDirectory
  directories_open : ∀ directory ∈ inquiry.directories view database, view.Opens directory

/-- The directories of a database hold what the catalog says and nothing else. -/
structure Housed (inquiry : Inquiry) (view : View) (database : Int) : Prop
    extends inquiry.Walkable view database where
  /-- The links are directories that are named by the numbers of tablespaces. -/
  linked : ∀ name ∈ view.names linkDirectory, (∃ tablespace : Int, name = toString tablespace) ∧
    ∃ size, view.stat (linkDirectory ++ "/" ++ name) = .ok ⟨size, true⟩
  /-- The directories of the database list plain files. -/
  plain : ∀ path ∈ inquiry.files view database, ∃ size, view.stat path = .ok ⟨size, false⟩
  /-- Every file is a segment of a relation of the database. -/
  owned : ∀ path ∈ inquiry.files view database, ∃ relation ∈ inquiry.residents database,
    ∃ base ∈ inquiry.chains relation, ∃ segment : Nat, path = segmentPath base segment
  /-- The segments that are there are numbered without a gap. -/
  gapless : ∀ relation ∈ inquiry.residents database, ∀ base ∈ inquiry.chains relation,
    ∃ count, ∀ segment : Nat, view.holds (segmentPath base segment) = true ↔ segment < count
  /-- The relations have different places or backends. -/
  distinct : (inquiry.residents database).Pairwise fun relation other =>
    inquiry.catalog.locator relation ≠ inquiry.catalog.locator other ∨
      relation.fileBackend ≠ other.fileBackend

namespace Walkable

variable (h : inquiry.Walkable view database)

include h

/-- The directory of a relation is one of the database, or nothing is below it. -/
theorem mem_directories_or_absent (hresides : inquiry.Resides database relation locator) :
    databasePath inquiry.version locator.tablespace database ∈ inquiry.directories view database ∨
      ∃ reason, ∀ name, view.reached (databasePath inquiry.version locator.tablespace database ++
        "/" ++ name) = .error (.absent reason) := by
  rw [databasePath_of_ne _ hresides.not_global]
  by_cases hdefault : locator.tablespace = defaultTablespace
  · rw [hdefault]
    exact Or.inl (List.mem_map.mpr ⟨_, List.mem_cons_self, rfl⟩)
  · rw [tablespacePath_linked _ hdefault hresides.not_global]
    by_cases hlink : toString locator.tablespace ∈ view.names linkDirectory
    · exact Or.inl (List.mem_map.mpr
        ⟨_, List.mem_cons_of_mem _ (List.mem_map.mpr ⟨_, hlink, rfl⟩), rfl⟩)
    · -- There is no link of that number, and so nothing on the way to the directory.
      obtain ⟨reason, habsent⟩ := View.reached_of_not_mem_names h.faultless pathParts_linkDirectory
        h.links_open (isName_toString _) hlink
      refine Or.inr ⟨reason, fun name => ?_⟩
      have hbelow := View.reached_below_error
        (pathParts_slash_ne_nil pathParts_linkDirectory (toString locator.tablespace)) habsent
        (inquiry.version ++ ("/" ++ (toString database ++ ("/" ++ name))))
      rw [← hbelow]
      simp only [String.append_assoc]

/-- What is asked for at a segment is found in a directory of the database or nowhere. -/
theorem segment_cases {base : String} (hrelation : relation ∈ inquiry.residents database)
    (hbase : base ∈ inquiry.chains relation) (segment : Int) :
    (view.complaint (segmentPath base segment) = none) ∧
      (view.holds (segmentPath base segment) = true →
        segmentPath base segment ∈ inquiry.files view database) := by
  obtain ⟨locator, hresides⟩ := exists_resides hrelation
  rw [hresides.chains_eq] at hbase
  obtain ⟨fork, -, rfl⟩ := List.mem_map.mp hbase
  rw [segmentPath_append]
  have hname := isName_segmentPath_fileName relation.fileBackend locator.file fork segment
  rcases h.mem_directories_or_absent hresides with hdirectory | ⟨reason, habsent⟩
  · have hparts := pathParts_directory hdirectory
    have hopens := h.directories_open _ hdirectory
    refine ⟨View.complaint_entry h.faultless hparts hopens hname, fun hholds => ?_⟩
    obtain ⟨found, hstat⟩ := View.holds_iff.mp hholds
    exact mem_files hdirectory (View.mem_names_of_stat h.faultless hparts hopens hname hstat)
  · have hstat := (View.stat_eq_error_iff h.faultless).mpr (habsent
      (segmentPath (fileName relation.fileBackend locator.file fork) segment))
    refine ⟨View.complaint_of_isAbsence hstat rfl, fun hholds => ?_⟩
    obtain ⟨found, hfound⟩ := View.holds_iff.mp hholds
    rw [hfound] at hstat
    cases hstat

/-- Whether the segments that are there have a gap shows in the files that are listed. -/
theorem gapless (hlisted : ∀ path ∈ inquiry.files view database,
      ∃ relation ∈ inquiry.residents database, ∃ base ∈ inquiry.chains relation,
        ∃ segment < view.segmentCount base, path = segmentPath base segment) :
    ∀ relation ∈ inquiry.residents database, ∀ base ∈ inquiry.chains relation,
      ∃ count, ∀ segment : Nat, view.holds (segmentPath base segment) = true ↔ segment < count := by
  refine fun relation hrelation base hbase => ⟨view.segmentCount base, fun segment => ?_⟩
  refine ⟨fun hholds => ?_, View.holds_of_lt_segmentCount⟩
  obtain ⟨relation', hrelation', base', hbase', segment', hlt, heq⟩ :=
    hlisted _ ((h.segment_cases hrelation hbase segment).2 hholds)
  obtain ⟨locator, hresides⟩ := exists_resides hrelation
  obtain ⟨place, hresides'⟩ := exists_resides hrelation'
  obtain ⟨-, -, rfl, hsegment⟩ := hresides.segmentPath_inj hresides' hbase hbase' heq
  rwa [Int.ofNat_inj.mp hsegment]

end Walkable

/-- A directory of the database is the one that a file in it says. -/
theorem directory_inj {directory name file : String} {tablespace : Int}
    (hlinked : ∀ name ∈ view.names linkDirectory, ∃ tablespace : Int, name = toString tablespace)
    (hdirectory : directory ∈ inquiry.directories view database)
    (hglobal : tablespace ≠ globalTablespace)
    (h : directory ++ "/" ++ name =
      databasePath inquiry.version tablespace database ++ "/" ++ file) :
    directory = databasePath inquiry.version tablespace database ∧ name = file := by
  obtain ⟨root, hroot, rfl⟩ := List.mem_map.mp hdirectory
  rw [databasePath_of_ne _ hglobal] at h ⊢
  -- Either side is below the default directory or below that of the links, and if they are not
  -- below the same one, the texts differ in their first letters.
  by_cases hdefault : tablespace = defaultTablespace
  · have hpath : tablespacePath inquiry.version tablespace = defaultDirectory := by
      rw [hdefault]
      rfl
    rw [hpath] at h ⊢
    rcases List.mem_cons.mp hroot with rfl | hlink
    · exact ⟨rfl, (String.append_right_inj _).mp h⟩
    · obtain ⟨link, -, rfl⟩ := List.mem_map.mp hlink
      simp only [linkedRoot, String.append_assoc] at h
      exact absurd h.symm (default_append_ne_link_append _ _)
  · rw [tablespacePath_linked _ hdefault hglobal] at h ⊢
    rcases List.mem_cons.mp hroot with rfl | hlink
    · simp only [String.append_assoc] at h
      exact absurd h (default_append_ne_link_append _ _)
    · obtain ⟨link, hname, rfl⟩ := List.mem_map.mp hlink
      obtain ⟨other, rfl⟩ := hlinked link hname
      -- Below links the number of the link is read off first, then the rest agrees as a text.
      have hsplit : ∀ (number : Int) (rest : String),
          linkDirectory ++ "/" ++ toString number ++ "/" ++ inquiry.version ++ "/" ++
            toString database ++ "/" ++ rest = linkDirectory ++ "/" ++ toString number ++ "/" ++
            (inquiry.version ++ ("/" ++ (toString database ++ ("/" ++ rest)))) := by
        intro number rest
        simp only [String.append_assoc]
      rw [linkedRoot, hsplit, hsplit] at h
      obtain ⟨rfl, hrest⟩ := link_inj h
      simp only [String.append_right_inj] at hrest
      exact ⟨rfl, hrest⟩

namespace Housed

variable (h : inquiry.Housed view database)

include h

/-- What a directory of the database lists is the file name of a segment. -/
theorem isName {directory name : String}
    (hdirectory : directory ∈ inquiry.directories view database)
    (hname : name ∈ view.names directory) : IsName name := by
  obtain ⟨relation, hrelation, base, hbase, segment, hpath⟩ :=
    h.owned _ (mem_files hdirectory hname)
  obtain ⟨locator, hresides⟩ := exists_resides hrelation
  rw [hresides.chains_eq] at hbase
  obtain ⟨fork, -, rfl⟩ := List.mem_map.mp hbase
  rw [segmentPath_append] at hpath
  obtain ⟨-, rfl⟩ := directory_inj (fun name hname => (h.linked name hname).1) hdirectory
    hresides.not_global hpath
  exact isName_segmentPath_fileName ..

/-- A directory lists no name twice. -/
theorem nodup_names {directory : String}
    (hdirectory : directory ∈ inquiry.directories view database) :
    (view.names directory).Nodup := by
  refine View.nodup_names h.faultless (pathParts_directory hdirectory)
    (h.directories_open directory hdirectory) fun name hname => ⟨h.isName hdirectory hname, ?_⟩
  obtain ⟨size, hstat⟩ := h.plain _ (mem_files hdirectory hname)
  exact ⟨_, hstat⟩

theorem nodup_directories : (inquiry.directories view database).Nodup := by
  have hlinks : (view.names linkDirectory).Nodup :=
    View.nodup_names h.faultless pathParts_linkDirectory h.links_open fun name hname => by
      obtain ⟨⟨tablespace, rfl⟩, size, hstat⟩ := h.linked name hname
      exact ⟨isName_toString tablespace, _, hstat⟩
  refine List.Nodup.map (fun root other heq => ?_) (List.nodup_cons.mpr ⟨?_, hlinks.map ?_⟩)
  · exact (String.append_left_inj _).mp ((String.append_left_inj _).mp heq)
  · intro hmem
    obtain ⟨name, -, heq⟩ := List.mem_map.mp hmem
    simp only [linkedRoot, String.append_assoc] at heq
    exact default_append_ne_link_append "" _ (String.append_empty.trans heq.symm)
  · intro name other heq
    simpa [linkedRoot, String.append_left_inj, String.append_right_inj] using heq

/-- **No file is listed twice.** -/
theorem nodup_files : (inquiry.files view database).Nodup := by
  refine List.nodup_flatMap.mpr ⟨fun directory hdirectory => ?_, ?_⟩
  · exact (h.nodup_names hdirectory).map fun _ _ heq => (String.append_right_inj _).mp heq
  · refine h.nodup_directories.pairwise_of_forall_ne fun directory hdirectory other hother hne => ?_
    refine List.disjoint_left.mpr fun path hpath hpath' => hne ?_
    obtain ⟨name, hname, rfl⟩ := List.mem_map.mp hpath
    obtain ⟨name', hname', heq⟩ := List.mem_map.mp hpath'
    exact (slash_inj (h.isName hdirectory hname).no_slash (h.isName hother hname').no_slash
      heq.symm).1

/-- **No two segments share a path.** -/
theorem nodup_segments : (inquiry.segments view database).Nodup := by
  have hchains : ((inquiry.residents database).flatMap inquiry.chains).Nodup := by
    refine List.nodup_flatMap.mpr ⟨fun relation hrelation => ?_, ?_⟩
    · obtain ⟨locator, hresides⟩ := exists_resides hrelation
      exact hresides.nodup_chains
    · refine h.distinct.imp_of_mem fun hrelation hother hne => ?_
      obtain ⟨locator, hresides⟩ := exists_resides hrelation
      obtain ⟨place, hresides'⟩ := exists_resides hother
      refine List.disjoint_left.mpr fun base hbase hbase' => ?_
      -- A chain of both would give them one place and one backend.
      obtain ⟨rfl, hbackend, -⟩ :=
        hresides.segmentPath_inj hresides' hbase hbase' (rfl : segmentPath base 0 = _)
      rw [hresides.locator_eq, hresides'.locator_eq] at hne
      exact hne.elim (· rfl) (· hbackend)
  refine List.nodup_flatMap.mpr ⟨fun base _ => ?_, ?_⟩
  · refine List.nodup_range.map fun m n heq => ?_
    rw [segmentPath_eq, segmentPath_eq] at heq
    exact Int.ofNat_inj.mp (segmentSuffix_inj.mp ((String.append_right_inj _).mp heq))
  · refine hchains.pairwise_of_forall_ne fun base hbase other hother hne => ?_
    refine List.disjoint_left.mpr fun path hpath hpath' => hne ?_
    obtain ⟨relation, hrelation, hbase⟩ := List.mem_flatMap.mp hbase
    obtain ⟨relation', hrelation', hother⟩ := List.mem_flatMap.mp hother
    obtain ⟨locator, hresides⟩ := exists_resides hrelation
    obtain ⟨place, hresides'⟩ := exists_resides hrelation'
    obtain ⟨m, -, rfl⟩ := List.mem_map.mp hpath
    obtain ⟨n, -, heq⟩ := List.mem_map.mp hpath'
    exact (hresides.segmentPath_inj hresides' hbase hother heq.symm).2.2.1

/-- **Files and segments are the same.** -/
theorem mem_files_iff (path : String) :
    path ∈ inquiry.files view database ↔ path ∈ inquiry.segments view database := by
  constructor
  · intro hfile
    obtain ⟨relation, hrelation, base, hbase, segment, rfl⟩ := h.owned path hfile
    obtain ⟨count, hcount⟩ := h.gapless relation hrelation base hbase
    obtain ⟨size, hstat⟩ := h.plain _ hfile
    -- The first gap is not before the count, and the segment is.
    have hgap : count ≤ view.segmentCount base := by
      by_contra hlt
      have hholds := (hcount (view.segmentCount base)).mpr (Nat.lt_of_not_le hlt)
      rw [View.holds_segmentCount] at hholds
      cases hholds
    have hsegment : segment < view.segmentCount base :=
      Nat.lt_of_lt_of_le ((hcount segment).mp (View.holds_iff.mpr ⟨_, hstat⟩)) hgap
    exact List.mem_flatMap.mpr ⟨base, List.mem_flatMap.mpr ⟨relation, hrelation, hbase⟩,
      List.mem_map.mpr ⟨segment, List.mem_range.mpr hsegment, rfl⟩⟩
  · intro hsegment
    obtain ⟨base, hbase, hpath⟩ := List.mem_flatMap.mp hsegment
    obtain ⟨relation, hrelation, hchain⟩ := List.mem_flatMap.mp hbase
    obtain ⟨segment, hlt, rfl⟩ := List.mem_map.mp hpath
    exact (h.segment_cases hrelation hchain segment).2
      (View.holds_of_lt_segmentCount (List.mem_range.mp hlt))

end Housed

/-! ### The sum -/

theorem sum_map_flatMap {α β : Type} (xs : List α) (f : α → List β) (g : β → Nat) :
    ((xs.flatMap f).map g).sum = (xs.map fun x => ((f x).map g).sum).sum := by
  rw [List.map_flatMap, List.flatMap_def, List.sum_flatten, List.map_map]
  rfl

/-- If the storage tells of all files that are listed, the size of a database is the sum over
them. -/
theorem Walkable.databaseSizeOf_yields_files (h : inquiry.Walkable view database)
    (htold : ∀ path ∈ inquiry.files view database, view.complaint path = none) :
    (inquiry.databaseSizeOf database).Yields view
      (.ok ((inquiry.files view database).map view.fileSize).sum) := by
  rw [files, sum_map_flatMap]
  simp only [List.map_map]
  refine databaseSizeOf_yields h.faultless h.links_open fun directory hdirectory => ?_
  refine directorySize_yields h.faultless (h.directories_open directory hdirectory) ?_
  exact fun name hname => htold _ (mem_files hdirectory hname)

namespace Housed

variable (h : inquiry.Housed view database)

include h

theorem databaseSizeOf_yields_files : (inquiry.databaseSizeOf database).Yields view
    (.ok ((inquiry.files view database).map view.fileSize).sum) := by
  refine h.toWalkable.databaseSizeOf_yields_files fun path hpath => ?_
  obtain ⟨size, hstat⟩ := h.plain path hpath
  exact View.complaint_of_ok hstat

theorem forkSize_yields (hrelation : relation ∈ inquiry.residents database) {fork : Fork}
    {base : String} (hbase : base ∈ inquiry.chains relation)
    (hpath : inquiry.forkPath relation fork = .ok base) :
    (inquiry.forkSize relation fork).Yields view (.ok (view.chainTotal base)) := by
  have hadds : (inquiry.forkSize relation fork).Adds view _ _ := forkSize_adds hpath
  rw [Adds, View.tally_of_clean] at hadds
  · exact hadds
  · intro path hprobe
    obtain ⟨segment, -, rfl⟩ := List.mem_map.mp hprobe
    exact (h.segment_cases hrelation hbase segment).1

theorem sum_files : ((inquiry.files view database).map view.fileSize).sum =
    ((inquiry.residents database).map (inquiry.ownTotal view)).sum := by
  have hsame : (inquiry.files view database).Perm (inquiry.segments view database) :=
    (List.perm_ext_iff_of_nodup h.nodup_files h.nodup_segments).mpr h.mem_files_iff
  rw [(hsame.map view.fileSize).sum_eq, segments, sum_map_flatMap, sum_map_flatMap]
  rfl

end Housed

/-- **A database is the sum of its relations.** -/
theorem databaseSizeOf_eq_relations (inquiry : Inquiry) (view : View) (database : Int)
    (h : inquiry.Housed view database) : ∃ size : Relation → Fork → Nat,
      (∀ relation ∈ inquiry.residents database, ∀ fork,
        ((inquiry.forkSize relation fork).start view.quiet).1 = .ok (size relation fork)) ∧
      ((inquiry.databaseSizeOf database).start view.quiet).1 =
        .ok ((inquiry.residents database).map fun relation =>
          (Fork.all.map (size relation)).sum).sum := by
  refine ⟨fun relation fork => view.chainTotal ((inquiry.forkPath relation fork).toOption.getD ""),
    fun relation hrelation fork => ?_, ?_⟩
  · obtain ⟨locator, hresides⟩ := exists_resides hrelation
    have hpath := hresides.forkPath_eq fork
    have hbase := hresides.chains_eq ▸ List.mem_map_of_mem (Fork.mem_all fork)
    rw [(h.forkSize_yields hrelation hbase hpath).start]
    simp only [hpath, Except.toOption, Option.getD_some]
  · rw [h.databaseSizeOf_yields_files.start, h.sum_files]
    congr 2
    refine List.map_congr_left fun relation hrelation => ?_
    obtain ⟨locator, hresides⟩ := exists_resides hrelation
    rw [ownTotal, hresides.chains_eq, List.map_map]
    simp only [hresides.forkPath_eq]
    rfl

/-- A relation in two segments, and a temporary one in a linked tablespace. -/
def aboutScattered : Inquiry where
  catalog := { Catalog.bootstrap with
    relations := .ofValues Relation.oid
      [{ oid := 20, name := "t", database := 5, fileNumber := 20 },
       { oid := 21, name := "s", database := 5, fileNumber := 21, tablespace := 9,
         persistence := .temporary, backend := some 3 }] }
  viewer := { role := "postgres", database := 5 }
  version := "V"

/-- The files of the two relations. -/
def scatteredFiles : View where
  tree := [(["base", "5", "20"], 1), (["base", "5", "20.1"], 2),
      (["pg_tblspc", "9", "V", "5", "t3_21_fsm"], 4)].foldl
    (fun tree (path, size) => tree.place path { isDirectory := false, size }) .empty
  root := ""
  watch := none

theorem databaseSizeOf_scattered :
    ((aboutScattered.databaseSizeOf 5).start scatteredFiles.quiet).1 = .ok 7 ∧
    ∃ size : Relation → Fork → Nat,
      (∀ relation ∈ aboutScattered.residents 5, ∀ fork,
        ((aboutScattered.forkSize relation fork).start scatteredFiles.quiet).1 =
          .ok (size relation fork)) ∧
      ((aboutScattered.residents 5).map fun relation =>
          (Fork.all.map (size relation)).sum).sum = 7 := by
  have hwalkable : aboutScattered.Walkable scatteredFiles 5 :=
    ⟨Tree.faultless_of_entries (by decide +kernel), by decide +kernel, by decide +kernel⟩
  have hlinks : scatteredFiles.names linkDirectory = ["9"] := by decide +kernel
  have hplain : ∀ path ∈ aboutScattered.files scatteredFiles 5,
      (scatteredFiles.found? path).map FileStat.isDirectory = some false := by decide +kernel
  have howned : ∀ path ∈ aboutScattered.files scatteredFiles 5,
      ∃ relation ∈ aboutScattered.residents 5, ∃ base ∈ aboutScattered.chains relation,
        ∃ segment < scatteredFiles.segmentCount base, path = segmentPath base segment := by
    decide +kernel
  have hhoused : aboutScattered.Housed scatteredFiles 5 :=
    { hwalkable with
      linked := by
        rw [hlinks]
        rintro name (_ | ⟨_, ⟨⟩⟩)
        exact ⟨⟨9, by decide⟩, plainDirectorySize, by decide +kernel⟩
      plain := fun path hpath => by
        obtain ⟨⟨size, isDirectory⟩, hfound, rfl⟩ := Option.map_eq_some_iff.mp (hplain path hpath)
        exact ⟨size, View.found?_eq_some_iff.mp hfound⟩
      owned := fun path hpath => by
        obtain ⟨relation, hrelation, base, hbase, segment, -, heq⟩ := howned path hpath
        exact ⟨relation, hrelation, base, hbase, segment, heq⟩
      gapless := hwalkable.gapless howned
      distinct := by decide +kernel }
  have hseven : ((aboutScattered.databaseSizeOf 5).start scatteredFiles.quiet).1 = .ok 7 := by
    decide +kernel
  obtain ⟨size, hsize, hsum⟩ := databaseSizeOf_eq_relations aboutScattered scatteredFiles 5 hhoused
  exact ⟨hseven, size, hsize, Except.ok.inj (hsum.symm.trans hseven)⟩

end Inquiry

end Footprint
