import Footprint.Catalog.Membership
import Footprint.Proofs.Dictionary
import Mathlib.Logic.Relation

/-!
# Memberships and reachability

The roles that a role belongs to are those that can be reached along the memberships which the
catalog lists (`Catalog.BelongsTo`). They are collected by working off a list of pending roles, and
at every moment all that will be collected is what has been visited and what a pending role belongs
to (`Catalog.Collected`). Visiting a pending role for the first time puts its own memberships in its
place, which changes nothing about that (`collected_visit`). Passing over one that has been visited
changes nothing either, because what leads out of the visited roles leads to a visited or a pending
one (`Frontier`, `collected_skip`). So in the end exactly what can be reached has been collected
(`mem_memberships_iff`), in circles as well and through roles that are not in the catalog.

What a role belongs to depends only on the memberships of the roles that are reached
(`belongsTo_congr`).
-/

namespace Footprint.Catalog

variable {roles others : Dictionary String Role} {visited pending : List String}
  {name start role : String}

/-- The roles that a role is listed as a member of. A role that is not there is in no list. -/
def parents (roles : Dictionary String Role) (name : String) : List String :=
  ((roles.find? name).map Role.memberOf).getD []

/-- Is a role another one, or a member of it, directly or through others? -/
def BelongsTo (roles : Dictionary String Role) : String → String → Prop :=
  Relation.ReflTransGen fun member role => role ∈ parents roles member

theorem mem_parents_iff {member : String} : role ∈ parents roles member ↔
    ∃ info, roles.find? member = some info ∧ role ∈ info.memberOf := by
  unfold parents
  cases roles.find? member <;> simp

theorem belongsTo_cases : BelongsTo roles start role ↔
    role = start ∨ ∃ parent ∈ parents roles start, BelongsTo roles parent role :=
  Relation.ReflTransGen.cases_head_iff.trans (or_congr eq_comm Iff.rfl)

/-! ### Working off the pending roles -/

/-- What leads out of the visited roles leads to a visited or a pending one. -/
def Frontier (roles : Dictionary String Role) (visited pending : List String) : Prop :=
  ∀ member ∈ visited, ∀ role ∈ parents roles member, role ∈ visited ∨ role ∈ pending

/-- Has a role been visited, or does a pending one belong to it? -/
def Collected (roles : Dictionary String Role) (visited pending : List String) (name : String) :
    Prop :=
  name ∈ visited ∨ ∃ start ∈ pending, BelongsTo roles start name

theorem Frontier.skip (h : Frontier roles visited (name :: pending)) (hname : name ∈ visited) :
    Frontier roles visited pending := by
  intro member hmember role hrole
  rcases h member hmember role hrole with hvisited | hpending
  · exact Or.inl hvisited
  · rcases List.mem_cons.mp hpending with rfl | hrest
    · exact Or.inl hname
    · exact Or.inr hrest

theorem Frontier.visit (h : Frontier roles visited (name :: pending)) :
    Frontier roles (name :: visited) (parents roles name ++ pending) := by
  intro member hmember role hrole
  rw [List.mem_cons, List.mem_append]
  rcases List.mem_cons.mp hmember with rfl | hvisited
  · exact Or.inr (Or.inl hrole)
  · rcases h member hvisited role hrole with hknown | hpending
    · exact Or.inl (Or.inr hknown)
    · rcases List.mem_cons.mp hpending with rfl | hrest
      · exact Or.inl (Or.inl rfl)
      · exact Or.inr (Or.inr hrest)

/-- Whatever a visited role belongs to is collected. -/
theorem Frontier.collected (h : Frontier roles visited pending) (hstart : start ∈ visited)
    (hpath : BelongsTo roles start role) : Collected roles visited pending role := by
  -- Along the path, what is next was visited, is pending, or is behind a pending role.
  induction hpath with
  | refl => exact Or.inl hstart
  | @tail member role _ hmember ih =>
    rcases ih with hvisited | ⟨first, hfirst, hreached⟩
    · rcases h member hvisited role hmember with hknown | hpending
      · exact Or.inl hknown
      · exact Or.inr ⟨role, hpending, Relation.ReflTransGen.refl⟩
    · exact Or.inr ⟨first, hfirst, hreached.tail hmember⟩

theorem collected_skip (h : Frontier roles visited (name :: pending)) (hname : name ∈ visited) :
    Collected roles visited (name :: pending) role ↔ Collected roles visited pending role := by
  constructor
  · rintro (hvisited | ⟨start, hstart, hpath⟩)
    · exact Or.inl hvisited
    · rcases List.mem_cons.mp hstart with rfl | hrest
      · exact (h.skip hname).collected hname hpath
      · exact Or.inr ⟨start, hrest, hpath⟩
  · rintro (hvisited | ⟨start, hstart, hpath⟩)
    · exact Or.inl hvisited
    · exact Or.inr ⟨start, List.mem_cons_of_mem name hstart, hpath⟩

theorem collected_visit : Collected roles (name :: visited) (parents roles name ++ pending) role ↔
    Collected roles visited (name :: pending) role := by
  constructor
  · rintro (hvisited | ⟨start, hstart, hpath⟩)
    · rcases List.mem_cons.mp hvisited with rfl | hknown
      · exact Or.inr ⟨role, List.mem_cons_self, Relation.ReflTransGen.refl⟩
      · exact Or.inl hknown
    · rcases List.mem_append.mp hstart with hparent | hrest
      · exact Or.inr ⟨name, List.mem_cons_self, hpath.head hparent⟩
      · exact Or.inr ⟨start, List.mem_cons_of_mem name hrest, hpath⟩
  · rintro (hvisited | ⟨start, hstart, hpath⟩)
    · exact Or.inl (List.mem_cons_of_mem name hvisited)
    · rcases List.mem_cons.mp hstart with rfl | hrest
      · rcases belongsTo_cases.mp hpath with rfl | ⟨parent, hparent, hrest⟩
        · exact Or.inl List.mem_cons_self
        · exact Or.inr ⟨parent, List.mem_append_left pending hparent, hrest⟩
      · exact Or.inr ⟨start, List.mem_append_right _ hrest, hpath⟩

theorem membershipsFrom_skip (hname : name ∈ visited) :
    membershipsFrom roles visited (name :: pending) = membershipsFrom roles visited pending := by
  rw [membershipsFrom, if_pos hname]

theorem membershipsFrom_visit (hname : name ∉ visited) :
    membershipsFrom roles visited (name :: pending) =
      membershipsFrom roles (name :: visited) (parents roles name ++ pending) := by
  rw [membershipsFrom, if_neg hname, parents]
  split
  · next hnone =>
    rw [hnone]
    rfl
  · next info hfound =>
    rw [hfound]
    rfl

/-- Working off a list passes over its first role or visits it. A role that is not in the catalog is
visited as well, but nothing comes in its place. -/
@[elab_as_elim]
theorem membershipsFrom_induction {motive : List String → List String → Prop}
    (done : ∀ visited, motive visited [])
    (skip : ∀ visited name pending, name ∈ visited → motive visited pending →
      motive visited (name :: pending))
    (visit : ∀ visited name pending, name ∉ visited →
      motive (name :: visited) (parents roles name ++ pending) → motive visited (name :: pending))
    (visited pending : List String) : motive visited pending := by
  induction visited, pending using membershipsFrom.induct roles with
  | case1 visited => exact done visited
  | case2 visited name pending hname ih => exact skip visited name pending hname ih
  | case3 visited name pending hname hnone ih =>
    have hparents : parents roles name = [] := by rw [parents, hnone]; rfl
    exact visit visited name pending hname (by rw [hparents]; exact ih)
  | case4 visited name pending hname info hfound ih =>
    have hparents : parents roles name = info.memberOf := by rw [parents, hfound]; rfl
    exact visit visited name pending hname (by rw [hparents]; exact ih)

theorem mem_membershipsFrom_iff (h : Frontier roles visited pending) :
    role ∈ membershipsFrom roles visited pending ↔ Collected roles visited pending role := by
  induction visited, pending using @membershipsFrom_induction roles with
  | done visited =>
    rw [membershipsFrom]
    simp [Collected]
  | skip visited name pending hname ih =>
    rw [membershipsFrom_skip hname, ih (h.skip hname), collected_skip h hname]
  | visit visited name pending hname ih =>
    rw [membershipsFrom_visit hname, ih h.visit, collected_visit]

/-- **The memberships of a role are the roles that it belongs to.** -/
theorem mem_memberships_iff {c : Catalog} :
    role ∈ c.memberships start ↔ BelongsTo c.roles start role := by
  have hstart : Frontier c.roles [] [start] := fun member hmember => absurd hmember (by simp)
  rw [memberships, mem_membershipsFrom_iff hstart]
  simp [Collected]

/-- What a role belongs to is in every list that it is in and that no membership leads out of. -/
theorem BelongsTo.mem_of_closed {names : List String} (h : BelongsTo roles start role)
    (hstart : start ∈ names) (hclosed : ∀ member ∈ names, ∀ parent ∈ parents roles member,
      parent ∈ names) : role ∈ names := by
  induction h with
  | refl => exact hstart
  | tail _ hlisted ih => exact hclosed _ ih _ hlisted

/-! ### Changing the roles -/

theorem parents_modify (f : Role → Role) (member : String) :
    parents (roles.modify name f) member = ((roles.find? member).map fun info =>
      (if member = name then f info else info).memberOf).getD [] := by
  rw [parents, Dictionary.find?_modify, Option.map_map]
  rfl

theorem parents_modify_of_ne {f : Role → Role} {member : String} (h : member ≠ name) :
    parents (roles.modify name f) member = parents roles member := by
  rw [parents_modify, parents]
  simp only [if_neg h]

theorem parents_modify_of_memberOf {f : Role → Role} (h : ∀ info, (f info).memberOf = info.memberOf)
    (member : String) : parents (roles.modify name f) member = parents roles member := by
  rw [parents_modify, parents]
  congr 2
  funext info
  split
  · exact h info
  · rfl

/-! ### Two lists of memberships -/

theorem BelongsTo.mono (h : BelongsTo roles start role)
    (hlisted : ∀ member, ∀ parent ∈ parents roles member, parent ∈ parents others member) :
    BelongsTo others start role :=
  Relation.ReflTransGen.mono hlisted _ _ h

/-- What a role belongs to depends only on the memberships of the roles that it belongs to. -/
theorem belongsTo_congr (h : ∀ member, BelongsTo roles start member →
    ∀ parent, parent ∈ parents others member ↔ parent ∈ parents roles member) :
    BelongsTo others start role ↔ BelongsTo roles start role := by
  constructor
  · intro hpath
    induction hpath with
    | refl => exact Relation.ReflTransGen.refl
    | @tail member parent _ hlisted ih => exact ih.tail ((h member ih parent).mp hlisted)
  · intro hpath
    induction hpath with
    | refl => exact Relation.ReflTransGen.refl
    | @tail member parent hmember hlisted ih =>
      exact ih.tail ((h member hmember parent).mpr hlisted)

end Footprint.Catalog
