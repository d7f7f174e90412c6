import Footprint.Proofs.Access.Grants
import Mathlib.Algebra.BigOperators.Group.Finset.Basic
import Mathlib.Algebra.Order.BigOperators.Group.Finset

/-!
# Collecting the roles that a role belongs to

The roles that a role belongs to are collected from a list of pending roles. In one turn some role
is taken from the list. If it was visited before, nothing else happens, and otherwise it counts as
visited and the roles that it is listed as a member of are put in its place (`Catalog.Turn`). Here
any role of the list may be taken, so that what is shown holds whether the list is worked off from
its beginning or from its end.

The list may be longer after a turn than before, and a role may be put on it many times, so its
length alone does not tell when the collection ends. But a role has its memberships put on the list
only when it is visited, and that happens once. So the turns made and the roles pending are, taken
together, one more than the memberships of the visited roles (`Sound.count`), and there are no
more of these than memberships in the catalog (`listed_le`).

What has been collected when no turn is left follows from the two conditions under which the list is
worked off, `Frontier` and `Collected`. They do not depend on the order of the list either. A grant
adds one membership, hence the paths that lead through it (`belongsTo_grant`).
-/

namespace Footprint.Catalog

variable {c after : Catalog} {roles : Dictionary String Role} {visited pending others : List String}
  {name role member : String}

/-! ### Turns -/

/-- How far a collection has come. -/
structure Collection where
  visited : List String
  pending : List String

/-- A collection that begins with one role. -/
def Collection.ofRole (role : String) : Collection := ⟨[], [role]⟩

/-- One turn of a collection, with any of the pending roles. -/
inductive Turn (roles : Dictionary String Role) : Collection → Collection → Prop
  | skip {visited before after : List String} {name : String} (hname : name ∈ visited) :
      Turn roles ⟨visited, before ++ name :: after⟩ ⟨visited, before ++ after⟩
  | visit {visited before after : List String} {name : String} (hname : name ∉ visited) :
      Turn roles ⟨visited, before ++ name :: after⟩
        ⟨name :: visited, before ++ parents roles name ++ after⟩

theorem Turn.skip_first (hname : name ∈ visited) :
    Turn roles ⟨visited, name :: pending⟩ ⟨visited, pending⟩ :=
  @skip roles visited [] pending name hname

theorem Turn.visit_first (hname : name ∉ visited) :
    Turn roles ⟨visited, name :: pending⟩ ⟨name :: visited, parents roles name ++ pending⟩ :=
  @visit roles visited [] pending name hname

/-- So many turns, one after the other. -/
inductive Turns (roles : Dictionary String Role) (first : Collection) : Nat → Collection → Prop
  | none : Turns roles first 0 first
  | more {turns : Nat} {state next : Collection} (before : Turns roles first turns state)
      (turn : Turn roles state next) : Turns roles first (turns + 1) next

/-- While roles are pending there is a turn. -/
theorem exists_turn (roles : Dictionary String Role) {state : Collection}
    (hpending : state.pending ≠ []) : ∃ next, Turn roles state next := by
  obtain ⟨visited, pending⟩ := state
  obtain ⟨name, rest, rfl⟩ := List.exists_cons_of_ne_nil hpending
  by_cases hname : name ∈ visited
  · exact ⟨_, .skip_first hname⟩
  · exact ⟨_, .visit_first hname⟩

/-! ### What a turn keeps -/

theorem frontier_congr (h : ∀ name, name ∈ pending ↔ name ∈ others) :
    Frontier roles visited pending ↔ Frontier roles visited others := by
  simp only [Frontier, h]

theorem collected_congr (h : ∀ name, name ∈ pending ↔ name ∈ others) :
    Collected roles visited pending role ↔ Collected roles visited others role := by
  simp only [Collected, h]

/-- The number of memberships that some roles are listed with. -/
def listed (roles : Dictionary String Role) (names : List String) : Nat :=
  (names.map fun name => (parents roles name).length).sum

/-- What is true of a collection after some turns. -/
structure Sound (roles : Dictionary String Role) (start : String) (turns : Nat)
    (state : Collection) : Prop where
  /-- No role was visited twice. -/
  nodup : state.visited.Nodup
  frontier : Frontier roles state.visited state.pending
  /-- What has been and will be collected is what the first role belongs to. -/
  collected : ∀ role, Collected roles state.visited state.pending role ↔ BelongsTo roles start role
  /-- Every membership of a visited role takes a turn or is still pending. -/
  count : turns + state.pending.length = 1 + listed roles state.visited

namespace Sound

theorem ofRole (roles : Dictionary String Role) (role : String) :
    Sound roles role 0 (.ofRole role) where
  nodup := List.nodup_nil
  frontier := fun _ hmember => absurd hmember List.not_mem_nil
  collected := by simp [Collection.ofRole, Collected]
  count := rfl

/-- **A turn keeps what is true of a collection.** -/
theorem turn {start : String} {turns : Nat} {state next : Collection}
    (h : Sound roles start turns state) (hturn : Turn roles state next) :
    Sound roles start (turns + 1) next := by
  -- Whether a role is first in the list or further on makes no difference to the two conditions.
  cases hturn with
  | @skip visited before rest name hname =>
    have hfirst : ∀ other, other ∈ before ++ name :: rest ↔ other ∈ name :: (before ++ rest) :=
      fun _ => List.perm_middle.mem_iff
    have hfrontier := (frontier_congr hfirst).mp h.frontier
    refine ⟨h.nodup, hfrontier.skip hname, fun role => ?_, ?_⟩
    · calc Collected roles visited (before ++ rest) role
          ↔ Collected roles visited (name :: (before ++ rest)) role :=
            (collected_skip hfrontier hname).symm
        _ ↔ Collected roles visited (before ++ name :: rest) role := (collected_congr hfirst).symm
        _ ↔ BelongsTo roles start role := h.collected role
    · have hcount := h.count
      simp only [List.length_append, List.length_cons] at hcount ⊢
      omega
  | @visit visited before rest name hname =>
    have hfirst : ∀ other, other ∈ before ++ name :: rest ↔ other ∈ name :: (before ++ rest) :=
      fun _ => List.perm_middle.mem_iff
    -- The memberships stand in the place of the role and not in front.
    have hplace : ∀ other, other ∈ before ++ parents roles name ++ rest ↔
        other ∈ parents roles name ++ (before ++ rest) := by
      intro other
      simp only [List.mem_append]
      tauto
    have hfrontier := (frontier_congr hfirst).mp h.frontier
    refine ⟨List.nodup_cons.mpr ⟨hname, h.nodup⟩, (frontier_congr hplace).mpr hfrontier.visit,
      fun role => ?_, ?_⟩
    · calc Collected roles (name :: visited) (before ++ parents roles name ++ rest) role
          ↔ Collected roles (name :: visited) (parents roles name ++ (before ++ rest)) role :=
            collected_congr hplace
        _ ↔ Collected roles visited (name :: (before ++ rest)) role := collected_visit
        _ ↔ Collected roles visited (before ++ name :: rest) role := (collected_congr hfirst).symm
        _ ↔ BelongsTo roles start role := h.collected role
    · have hcount := h.count
      simp only [listed, List.length_append, List.length_cons, List.map_cons, List.sum_cons]
        at hcount ⊢
      omega

end Sound

theorem Turns.sound {start : String} {turns : Nat} {state : Collection}
    (h : Turns roles (.ofRole start) turns state) : Sound roles start turns state := by
  induction h with
  | none => exact Sound.ofRole roles start
  | more _ hturn ih => exact ih.turn hturn

/-! ### The end of a collection -/

/-- Every role is listed with its memberships once. -/
theorem listed_keys (roles : Dictionary String Role) :
    listed roles roles.keys = (roles.values.map fun r => r.memberOf.length).sum := by
  rw [listed, Dictionary.keys, Dictionary.values, List.map_map, List.map_map]
  congr 1
  refine List.map_congr_left fun entry hentry => ?_
  have hfound : roles.find? entry.1 = some entry.2 := Dictionary.find?_eq_some_iff.mpr hentry
  rw [Function.comp_apply, Function.comp_apply, parents, hfound]
  rfl

/-- Different roles are listed with no more memberships than there are. -/
theorem listed_le (roles : Dictionary String Role) (hnodup : visited.Nodup) :
    listed roles visited ≤ (roles.values.map fun r => r.memberOf.length).sum := by
  have hkeys : roles.keys.Nodup := roles.keys_nodup
  rw [← listed_keys, listed, listed, ← List.sum_toFinset _ hnodup, ← List.sum_toFinset _ hkeys]
  -- A role that is not in the catalog is listed with none.
  refine Finset.sum_le_sum_of_ne_zero fun name _ hne => List.mem_toFinset.mpr ?_
  by_contra hmissing
  refine hne ?_
  rw [parents, Dictionary.find?_eq_none_iff.mpr hmissing]
  rfl

/-- The collection of memberships is made of turns. -/
theorem exists_turns_membershipsFrom {first : Collection} {turns : Nat}
    (h : Turns roles first turns ⟨visited, pending⟩) :
    ∃ total, Turns roles first total ⟨membershipsFrom roles visited pending, []⟩ := by
  induction visited, pending using @membershipsFrom_induction roles generalizing turns with
  | done visited =>
    rw [membershipsFrom]
    exact ⟨turns, h⟩
  | skip visited name pending hname ih =>
    rw [membershipsFrom_skip hname]
    exact ih (h.more (.skip_first hname))
  | visit visited name pending hname ih =>
    rw [membershipsFrom_visit hname]
    exact ih (h.more (.visit_first hname))

/-! ### A further membership -/

/-- **What a role belongs to when one role was made a member of another**: what it belonged to and,
if that includes the new member, whatever the other role belongs to. -/
theorem belongsTo_grant {start : String} (h : (grantRole role member).on c = (.ok (), after)) :
    BelongsTo after.roles start name ↔ BelongsTo c.roles start name ∨
      BelongsTo c.roles start member ∧ BelongsTo c.roles role name := by
  have hgains : Gains [.grantRole role member] c after :=
    @Gains.of_grant _ _ (.grantRole role member) trivial h
  have hparents : ∀ below parent, parent ∈ parents after.roles below ↔
      parent ∈ parents c.roles below ∨ role = parent ∧ member = below := by
    intro below parent
    rw [hgains.parents, List.mem_singleton, Operation.grantRole.injEq, eq_comm (a := parent),
      eq_comm (a := below)]
  constructor
  · intro hpath
    -- Along the path: the new membership is on the way to its end or it is not.
    induction hpath with
    | refl => exact Or.inl .refl
    | tail _ hlast ih =>
      rcases (hparents _ _).mp hlast with hold | ⟨rfl, rfl⟩
      · exact ih.imp (fun hbefore => hbefore.tail hold) fun hthrough =>
          ⟨hthrough.1, hthrough.2.tail hold⟩
      · exact Or.inr ⟨ih.elim id And.left, .refl⟩
  · have hkept : ∀ {first last : String}, BelongsTo c.roles first last →
        BelongsTo after.roles first last := fun hpath =>
      hpath.mono fun below parent hparent => (hparents below parent).mpr (Or.inl hparent)
    rintro (hbefore | ⟨hmember, hrole⟩)
    · exact hkept hbefore
    · have hnew : role ∈ parents after.roles member := (hparents _ _).mpr (Or.inr ⟨rfl, rfl⟩)
      exact (hkept hmember).trans ((hkept hrole).head hnew)

/-! ### Memberships -/

/-- **The memberships of a role are the reflexive and transitive closure of what roles are listed as
members of, and collecting them comes to an end.** Circles, roles that are members of themselves,
memberships that are listed twice and roles that are not in the catalog are allowed. The memberships
are collected by turns, and whichever pending role is taken in each turn, there are no more turns
than memberships in the catalog and one, and when no turn is left exactly these roles were visited.
When a role is made a member of another one, whoever has it among its memberships gains those of
the other, and the memberships of everyone else are the same. -/
theorem memberships_closure (c : Catalog) (start : String) :
    (∃ turns, Turns c.roles (.ofRole start) turns ⟨c.memberships start, []⟩) ∧
    (∀ turns state, Turns c.roles (.ofRole start) turns state →
      turns ≤ 1 + (c.roles.values.map fun r => r.memberOf.length).sum ∧
      ((∀ next, ¬Turn c.roles state next) →
        ∀ role, role ∈ state.visited ↔ BelongsTo c.roles start role)) ∧
    (c.memberships start).Nodup ∧
    (∀ role, role ∈ c.memberships start ↔ BelongsTo c.roles start role) ∧
    ∀ role member after, (grantRole role member).on c = (.ok (), after) →
      ∀ name, name ∈ after.memberships start ↔ name ∈ c.memberships start ∨
        member ∈ c.memberships start ∧ name ∈ c.memberships role := by
  have hcollected := exists_turns_membershipsFrom (.none : Turns c.roles (.ofRole start) 0 _)
  refine ⟨hcollected, fun turns state hturns => ⟨?_, fun hstuck role => ?_⟩, ?_, ?_, ?_⟩
  · -- What is pending is not negative, so the turns are no more than what was put on the list.
    have hcount := hturns.sound.count
    have hlisted := listed_le c.roles hturns.sound.nodup
    omega
  · have hnone : state.pending = [] := by
      by_contra hpending
      obtain ⟨next, hnext⟩ := exists_turn c.roles hpending
      exact hstuck next hnext
    rw [← hturns.sound.collected role, hnone]
    simp [Collected]
  · obtain ⟨turns, hturns⟩ := hcollected
    exact hturns.sound.nodup
  · exact fun role => mem_memberships_iff
  · intro role member after hgrant name
    simp only [mem_memberships_iff]
    exact belongsTo_grant hgrant

/-- Two roles in a circle, one of them listed twice, a role that is a member of itself, and a
membership in a role that there is not. One of the circle becomes a member of the third. -/
theorem memberships_closure_circle :
    let roles : Dictionary String Role := ⟨[
      ("reader", { name := "reader", memberOf := ["writer", "writer", "gone"] }),
      ("writer", { name := "writer", memberOf := ["reader"] }),
      ("owner", { name := "owner", memberOf := ["owner"] })], by decide⟩
    let c : Catalog := { (default : Catalog) with roles }
    let after : Catalog := ((grantRole "owner" "writer").on c).2
    (∀ turns state, Turns roles (.ofRole "reader") turns state → turns ≤ 6) ∧
      "gone" ∈ c.memberships "reader" ∧ "owner" ∈ after.memberships "reader" := by
  intro roles c after
  obtain ⟨-, hturns, -, hreached, hgranted⟩ := memberships_closure c "reader"
  have hgrant : (grantRole "owner" "writer").on c = (.ok (), after) := Prod.ext (by decide) rfl
  have hwriter : "writer" ∈ c.memberships "reader" :=
    (hreached "writer").mpr (Relation.ReflTransGen.single (by decide))
  have howner : "owner" ∈ c.memberships "owner" := mem_memberships_iff.mpr .refl
  exact ⟨fun turns state h => (hturns turns state h).1,
    (hreached "gone").mpr (Relation.ReflTransGen.single (by decide)),
    (hgranted "owner" "writer" after hgrant "owner").mpr (Or.inr ⟨hwriter, howner⟩)⟩

end Footprint.Catalog
