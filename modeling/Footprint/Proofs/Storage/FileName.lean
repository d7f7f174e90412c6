import Footprint.Proofs.Storage.Walk
import Footprint.Proofs.Text.Numbers
import Footprint.Storage.Path

/-!
# File names

The path of a segment of a fork tells all that it was made from. It ends with a file name, which is
what follows the last slash (`slash_inj`), and a file name is read from left to right: the number of
the backend, if it starts with a letter, the file number, the fork and, behind a point, the segment
(`fileName_inj`, `segmentPath_inj`). What precedes is the directory of a database in a tablespace,
which tells both of them (`databasePath_inj`).

All of this rests on what numbers are written with (`isNumeral`): neither a slash, a point, an
underscore nor a letter is among it, so that each of these ends a number.
-/

namespace Footprint.Storage

/-! ### Names -/

/-- A text without slashes that is not all points. -/
theorem isName_append {name : String} (hne : name ≠ "") (hpoint : '.' ∉ name.toList)
    (hslash : '/' ∉ name.toList) {rest : String} (hrest : '/' ∉ rest.toList) :
    IsName (name ++ rest) := by
  obtain ⟨c, chars, hchars⟩ := List.exists_cons_of_ne_nil
    fun hnil => hne (String.toList_eq_nil_iff.mp hnil)
  have hhead : (name ++ rest).toList = c :: (chars ++ rest.toList) := by
    rw [String.toList_append, hchars, List.cons_append]
  have hc : c ≠ '.' := by
    rintro rfl
    exact hpoint (hchars ▸ List.mem_cons_self)
  -- Each of the texts that are no names is empty or starts with a point.
  refine ⟨fun h => ?_, fun h => ?_, fun h => ?_, fun h => ?_⟩
  · rw [h] at hhead
    cases hhead
  · rw [h] at hhead
    exact hc (List.cons.inj hhead).1.symm
  · rw [h] at hhead
    exact hc (List.cons.inj hhead).1.symm
  · rw [String.toList_append, List.mem_append] at h
    exact h.elim hslash hrest

theorem isName_toString (n : Int) : IsName (toString n) := by
  rw [← String.append_empty (s := toString n)]
  exact isName_append (toString_ne_empty n) (not_mem_toString (by decide) n)
    (not_mem_toString (by decide) n) List.not_mem_nil

/-! ### Segments -/

/-- What the path of a segment has behind that of the first one. -/
def segmentSuffix (segment : Int) : String :=
  if segment = 0 then "" else "." ++ toString segment

theorem segmentPath_eq (base : String) (segment : Int) :
    segmentPath base segment = base ++ segmentSuffix segment := by
  unfold segmentPath segmentSuffix
  split
  · exact String.append_empty.symm
  · exact String.append_assoc ..

theorem segmentPath_append (front base : String) (segment : Int) :
    segmentPath (front ++ base) segment = front ++ segmentPath base segment := by
  rw [segmentPath_eq, segmentPath_eq, String.append_assoc]

theorem slash_not_mem_segmentSuffix (segment : Int) : '/' ∉ (segmentSuffix segment).toList := by
  unfold segmentSuffix
  split
  · exact List.not_mem_nil
  · rw [String.toList_append, List.mem_append, not_or]
    exact ⟨by decide, not_mem_toString (by decide) segment⟩

theorem two_le_length_segmentSuffix {segment : Int} (h : segment ≠ 0) :
    2 ≤ (segmentSuffix segment).toList.length := by
  have hpos : (toString segment).toList.length ≠ 0 := fun hzero =>
    toString_ne_empty segment (String.toList_eq_nil_iff.mp (List.length_eq_zero_iff.mp hzero))
  rw [segmentSuffix, if_neg h, String.toList_append, List.length_append]
  change 2 ≤ 1 + _
  omega

theorem segmentSuffix_inj {m n : Int} : segmentSuffix m = segmentSuffix n ↔ m = n := by
  refine ⟨fun h => ?_, fun h => congrArg segmentSuffix h⟩
  unfold segmentSuffix at h
  split at h <;> split at h
  · next hm hn => rw [hm, hn]
  · exact absurd (congrArg String.toList h) (by simp)
  · exact absurd (congrArg String.toList h) (by simp)
  · exact toString_inj.mp ((String.append_right_inj _).mp h)

/-- A path without a point is told from the number of the segment. -/
theorem segmentPath_inj {base base' : String} {m n : Int} (hbase : '.' ∉ base.toList)
    (hbase' : '.' ∉ base'.toList) (h : segmentPath base m = segmentPath base' n) :
    base = base' ∧ m = n := by
  have hrun : ∀ {text : String}, '.' ∉ text.toList → ∀ c ∈ text.toList, (c != '.') = true :=
    fun hpoint c hc => bne_iff_ne.mpr fun h => hpoint (h ▸ hc)
  have hstop : ∀ segment, ∀ c ∈ (segmentSuffix segment).toList.head?, (c != '.') = false := by
    intro segment c hc
    unfold segmentSuffix at hc
    split at hc
    · cases hc
    · rw [String.toList_append] at hc
      cases hc
      rfl
  have hchars := congrArg String.toList h
  rw [segmentPath_eq, segmentPath_eq, String.toList_append, String.toList_append] at hchars
  obtain ⟨hfront, hsuffix⟩ :=
    append_inj_of_stop (hrun hbase) (hstop m) (hrun hbase') (hstop n) hchars
  exact ⟨String.toList_inj.mp hfront, segmentSuffix_inj.mp (String.toList_inj.mp hsuffix)⟩

/-! ### Backends and forks -/

/-- What the file name of a temporary object starts with. -/
def ownerPrefix (backend : Int) : String :=
  if backend = noBackend then "" else "t" ++ (toString backend ++ "_")

/-- What a file name ends with. -/
def forkSuffix (fork : Fork) : String := if fork = .main then "" else "_" ++ fork.name

theorem fileName_eq (backend file : Int) (fork : Fork) :
    fileName backend file fork = ownerPrefix backend ++ (toString file ++ forkSuffix fork) := by
  unfold fileName ownerPrefix forkSuffix
  by_cases hbackend : backend = noBackend <;> by_cases hfork : fork = .main <;>
    simp [hbackend, hfork, String.append_assoc, toString]

theorem forkSuffix_inj {fork fork' : Fork} : forkSuffix fork = forkSuffix fork' ↔ fork = fork' := by
  cases fork <;> cases fork' <;> decide

/-- A number in front of an underscore ends there. -/
theorem underscore_stop (rest : String) :
    ∀ c ∈ ("_" ++ rest).toList.head?, isNumeral c = false := by
  intro c hc
  rw [String.toList_append] at hc
  cases hc
  rfl

theorem forkSuffix_stop (fork : Fork) :
    ∀ c ∈ (forkSuffix fork).toList.head?, isNumeral c = false := by
  unfold forkSuffix
  split
  · exact fun c hc => nomatch hc
  · exact underscore_stop _

theorem fileName_ne_empty (backend file : Int) (fork : Fork) : fileName backend file fork ≠ "" := by
  rw [fileName_eq, Ne, String.append_eq_empty_iff, String.append_eq_empty_iff]
  exact fun h => toString_ne_empty file h.2.1

/-- What a file name cannot have in it. -/
theorem not_mem_fileName {c : Char} (hc : isNumeral c = false) (hletter : c ≠ 't')
    (hunderscore : c ≠ '_') (hforks : ∀ fork, c ∉ (forkSuffix fork).toList) (backend file : Int)
    (fork : Fork) : c ∉ (fileName backend file fork).toList := by
  rw [fileName_eq, String.toList_append, String.toList_append, List.mem_append, List.mem_append]
  rintro (howner | hfile | hfork)
  · unfold ownerPrefix at howner
    split at howner
    · cases howner
    · rw [String.toList_append, String.toList_append, List.mem_append, List.mem_append] at howner
      rcases howner with hfirst | hbackend | hlast
      · exact hletter (List.mem_singleton.mp hfirst)
      · exact not_mem_toString hc backend hbackend
      · exact hunderscore (List.mem_singleton.mp hlast)
  · exact not_mem_toString hc file hfile
  · exact hforks fork hfork

theorem point_not_mem_fileName (backend file : Int) (fork : Fork) :
    '.' ∉ (fileName backend file fork).toList :=
  not_mem_fileName rfl (by decide) (by decide) (fun fork => by cases fork <;> decide) backend
    file fork

theorem slash_not_mem_fileName (backend file : Int) (fork : Fork) :
    '/' ∉ (fileName backend file fork).toList :=
  not_mem_fileName rfl (by decide) (by decide) (fun fork => by cases fork <;> decide) backend
    file fork

theorem isName_segmentPath_fileName (backend file : Int) (fork : Fork) (segment : Int) :
    IsName (segmentPath (fileName backend file fork) segment) := by
  rw [segmentPath_eq]
  exact isName_append (fileName_ne_empty backend file fork)
    (point_not_mem_fileName backend file fork) (slash_not_mem_fileName backend file fork)
    (slash_not_mem_segmentSuffix segment)

/-- **A file name tells backend, file number and fork.** -/
theorem fileName_inj {backend backend' file file' : Int} {fork fork' : Fork}
    (h : fileName backend file fork = fileName backend' file' fork') :
    backend = backend' ∧ file = file' ∧ fork = fork' := by
  have hbody : ∀ {m n : Int}, toString m ++ forkSuffix fork = toString n ++ forkSuffix fork' →
      m = n ∧ fork = fork' := fun heq =>
    (toString_append_inj (forkSuffix_stop fork) (forkSuffix_stop fork') heq).imp_right
      forkSuffix_inj.mp
  -- A number does not start with the letter that a name with a backend starts with.
  have hplain : ∀ {n : Int} {rest rest' : String}, toString n ++ rest ≠ "t" ++ rest' := by
    intro n rest rest' heq
    have hchars := congrArg String.toList heq
    obtain ⟨c, chars, hn⟩ := List.exists_cons_of_ne_nil
      fun hnil => toString_ne_empty n (String.toList_eq_nil_iff.mp hnil)
    rw [String.toList_append, String.toList_append, hn] at hchars
    have hc : c = 't' := (List.cons.inj hchars).1
    have hmem : c ∈ (toString n).toList := hn ▸ List.mem_cons_self
    exact not_mem_toString rfl n (hc ▸ hmem)
  rw [fileName_eq, fileName_eq] at h
  unfold ownerPrefix at h
  split at h <;> split at h
  · next hb hb' =>
    rw [String.empty_append, String.empty_append] at h
    exact ⟨hb.trans hb'.symm, hbody h⟩
  · rw [String.empty_append, String.append_assoc] at h
    exact absurd h hplain
  · rw [String.empty_append, String.append_assoc] at h
    exact absurd h.symm hplain
  · simp only [String.append_assoc] at h
    obtain ⟨hbackend, hrest⟩ := toString_append_inj (underscore_stop _)
      (underscore_stop _) ((String.append_right_inj _).mp h)
    exact ⟨hbackend, hbody ((String.append_right_inj _).mp hrest)⟩

/-! ### Directories -/

/-- A name is what follows the last slash. -/
theorem slash_inj {directory directory' name name' : String} (hname : '/' ∉ name.toList)
    (hname' : '/' ∉ name'.toList) (h : directory ++ "/" ++ name = directory' ++ "/" ++ name') :
    directory = directory' ∧ name = name' := by
  have hrun : ∀ {text : String}, '/' ∉ text.toList → ∀ c ∈ text.toList.reverse, (c != '/') = true :=
    fun hslash c hc => bne_iff_ne.mpr fun h => hslash (h ▸ List.mem_reverse.mp hc)
  have hstop : ∀ chars : List Char, ∀ c ∈ ('/' :: chars).head?, (c != '/') = false := by
    intro chars c hc
    cases hc
    rfl
  have hchars := congrArg (fun text => text.toList.reverse) h
  simp only [String.toList_append, List.reverse_append] at hchars
  obtain ⟨hlast, hfront⟩ :=
    append_inj_of_stop (hrun hname) (hstop _) (hrun hname') (hstop _) hchars
  refine ⟨String.toList_inj.mp (List.reverse_injective (List.cons.inj hfront).2), ?_⟩
  exact String.toList_inj.mp (List.reverse_injective hlast)

/-- The directory of a tablespace that is neither the default nor the global one. -/
theorem tablespacePath_linked (version : String) {tablespace : Int}
    (hdefault : tablespace ≠ defaultTablespace) (hglobal : tablespace ≠ globalTablespace) :
    tablespacePath version tablespace =
      linkDirectory ++ "/" ++ toString tablespace ++ "/" ++ version := by
  unfold tablespacePath
  rw [if_neg hdefault, if_neg hglobal]
  rfl

/-- Texts that begin differently differ, whatever follows. -/
theorem append_ne_of_head {front front' : String} (hne : front ≠ "") (hne' : front' ≠ "")
    (hhead : front.toList.head? ≠ front'.toList.head?) (rest rest' : String) :
    front ++ rest ≠ front' ++ rest' := by
  intro h
  have hchars := congrArg (fun text => text.toList.head?) h
  have hfront : front.toList ≠ [] := fun hnil => hne (String.toList_eq_nil_iff.mp hnil)
  have hfront' : front'.toList ≠ [] := fun hnil => hne' (String.toList_eq_nil_iff.mp hnil)
  simp only [String.toList_append] at hchars
  rw [List.head?_append_of_ne_nil _ hfront, List.head?_append_of_ne_nil _ hfront'] at hchars
  exact hhead hchars

theorem default_append_ne_link_append (rest rest' : String) :
    defaultDirectory ++ rest ≠ linkDirectory ++ rest' :=
  append_ne_of_head (by decide) (by decide) (by decide) rest rest'

/-- The link of a tablespace is told from what lies below it. -/
theorem link_inj {m n : Int} {rest rest' : String}
    (h : linkDirectory ++ "/" ++ toString m ++ "/" ++ rest =
      linkDirectory ++ "/" ++ toString n ++ "/" ++ rest') : m = n ∧ rest = rest' := by
  have hstop : ∀ text : String, ∀ c ∈ ("/" ++ text).toList.head?, isNumeral c = false := by
    intro text c hc
    rw [String.toList_append] at hc
    cases hc
    rfl
  simp only [String.append_assoc] at h
  obtain ⟨htablespace, hrest⟩ := toString_append_inj (hstop rest) (hstop rest')
    ((String.append_right_inj _).mp ((String.append_right_inj _).mp h))
  exact ⟨htablespace, (String.append_right_inj _).mp hrest⟩

theorem tablespacePath_inj {version : String} {m n : Int} (hm : m ≠ globalTablespace)
    (hn : n ≠ globalTablespace) (h : tablespacePath version m = tablespacePath version n) :
    m = n := by
  by_cases hm' : m = defaultTablespace <;> by_cases hn' : n = defaultTablespace
  · rw [hm', hn']
  · rw [hm', tablespacePath_linked version hn' hn, String.append_assoc, String.append_assoc,
      String.append_assoc] at h
    exact absurd (String.append_empty.trans h) (default_append_ne_link_append _ _)
  · rw [hn', tablespacePath_linked version hm' hm, String.append_assoc, String.append_assoc,
      String.append_assoc] at h
    exact absurd (String.append_empty.trans h.symm) (default_append_ne_link_append _ _)
  · rw [tablespacePath_linked version hm' hm, tablespacePath_linked version hn' hn] at h
    exact (link_inj h).1

theorem databasePath_of_ne (version : String) {tablespace : Int}
    (h : tablespace ≠ globalTablespace) (database : Int) :
    databasePath version tablespace database =
      tablespacePath version tablespace ++ "/" ++ toString database := by
  unfold databasePath
  rw [if_neg h]
  rfl

/-- A directory of another tablespace is not below the global one. -/
theorem databasePath_ne_global (version : String) {tablespace : Int}
    (h : tablespace ≠ globalTablespace) (database : Int) (rest rest' : String) :
    databasePath version tablespace database ++ rest ≠ globalDirectory ++ rest' := by
  rw [databasePath_of_ne version h]
  by_cases hdefault : tablespace = defaultTablespace
  · rw [tablespacePath, if_pos hdefault]
    simp only [String.append_assoc]
    exact append_ne_of_head (by decide) (by decide) (by decide) _ _
  · rw [tablespacePath_linked version hdefault h]
    simp only [String.append_assoc]
    exact append_ne_of_head (by decide) (by decide) (by decide) _ _

/-- **The directory of a database tells tablespace and database.** -/
theorem databasePath_inj {version : String} {m n d d' : Int} (hm : m ≠ globalTablespace)
    (hn : n ≠ globalTablespace) (h : databasePath version m d = databasePath version n d') :
    m = n ∧ d = d' := by
  rw [databasePath_of_ne version hm, databasePath_of_ne version hn] at h
  obtain ⟨htablespace, hdatabase⟩ :=
    slash_inj (not_mem_toString rfl d) (not_mem_toString rfl d') h
  exact ⟨tablespacePath_inj hm hn htablespace, toString_inj.mp hdatabase⟩

/-- **The path of a segment tells its directory and what its file name was made from.** -/
theorem segmentPath_fileName_inj {directory directory' : String}
    {backend backend' file file' m n : Int} {fork fork' : Fork}
    (h : segmentPath (directory ++ "/" ++ fileName backend file fork) m =
      segmentPath (directory' ++ "/" ++ fileName backend' file' fork') n) :
    directory = directory' ∧ backend = backend' ∧ file = file' ∧ fork = fork' ∧ m = n := by
  rw [segmentPath_append, segmentPath_append] at h
  obtain ⟨hdirectory, hname⟩ := slash_inj (isName_segmentPath_fileName ..).no_slash
    (isName_segmentPath_fileName ..).no_slash h
  obtain ⟨hfile, hsegment⟩ := segmentPath_inj (point_not_mem_fileName backend file fork)
    (point_not_mem_fileName backend' file' fork') hname
  obtain ⟨hbackend, hnumber, hfork⟩ := fileName_inj hfile
  exact ⟨hdirectory, hbackend, hnumber, hfork, hsegment⟩

end Footprint.Storage
