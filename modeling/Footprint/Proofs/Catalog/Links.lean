import Footprint.Proofs.Catalog.Operation

/-!
# Links between relations

A relation is linked to others when it is created, and links are taken away when relations are
dropped. Either way two things hold of the relations that there are afterwards.

* They are some of those before, in their order, and only links of them have changed (`Trimmed`).
  Everything that does not depend on links therefore carries over.
* Their links lead to relations that are there (`Held`).

Dropping works off a list of tasks, and breaks links on the way: taking away a relation leaves the
links to it, and puts just the task that mends this behind the tasks for its dependents. So what
each task keeps is weaker: a link leads to a relation that is there, or a task is left that takes
the link away. When no task is left the second case is over (`dropAll_held`).

So an operation does one of two things to the relations. It makes one, whether it succeeds or not
(`Operation.Makes`), or it takes some of them away, and besides that it changes only links
(`Effect.trimmed_of_makes`, `Effect.trimmed`). Whatever does not depend on links is shown of all
relations by looking at those that are made (`Effect.forall_values`).
-/

namespace Footprint

namespace Relation

/-- The relation without its links. -/
def bare (r : Relation) : Relation := { r with indexes := [], toast := none }

@[simp] theorem bare_addIndex (oid : Int) (r : Relation) : (r.addIndex oid).bare = r.bare := rfl

@[simp] theorem bare_setToast (oid : Int) (r : Relation) : (r.setToast oid).bare = r.bare := rfl

/-- Is the relation linked to that of a number? -/
def LinksTo (oid : Int) (r : Relation) : Prop := oid ∈ r.indexes ∨ r.toast = some oid

/-- Taking away the links to a relation leaves none of them, and adds no other. -/
theorem linksTo_unlink {oid other : Int} {r : Relation} (hnodup : r.indexes.Nodup)
    (h : (r.unlink oid).LinksTo other) : r.LinksTo other ∧ other ≠ oid := by
  rcases h with hindex | htoast
  · have hmem := hnodup.mem_erase_iff.mp hindex
    exact ⟨Or.inl hmem.2, hmem.1⟩
  · simp only [unlink] at htoast
    split at htoast
    · cases htoast
    · next hne => exact ⟨Or.inr htoast, fun heq => hne (heq ▸ htoast)⟩

theorem linksTo_unlink_of_ne {oid other : Int} {r : Relation} (hne : other ≠ oid)
    (h : r.LinksTo other) : (r.unlink oid).LinksTo other := by
  rcases h with hindex | htoast
  · exact Or.inl ((List.mem_erase_of_ne hne).mpr hindex)
  · have hkept : r.toast ≠ some oid := fun heq => hne (Option.some.inj (htoast.symm.trans heq))
    exact Or.inr ((if_neg hkept).trans htoast)

theorem linksTo_addIndex {oid other : Int} {r : Relation} (h : (r.addIndex oid).LinksTo other) :
    r.LinksTo other ∨ other = oid := by
  rcases h with hindex | htoast
  · rcases List.mem_append.mp hindex with hold | hnew
    · exact Or.inl (Or.inl hold)
    · exact Or.inr (List.mem_singleton.mp hnew)
  · exact Or.inl (Or.inr htoast)

theorem linksTo_setToast {oid other : Int} {r : Relation} (h : (r.setToast oid).LinksTo other) :
    r.LinksTo other ∨ other = oid := by
  rcases h with hindex | htoast
  · exact Or.inl (Or.inl hindex)
  · exact Or.inr (Option.some.inj htoast).symm

end Relation

namespace Catalog

/-! ### The same relations but for their links -/

/-- Some of the relations in their order, changed in nothing but their links. -/
def Trimmed (left rs : Dictionary Int Relation) : Prop :=
  (left.entries.map fun entry => (entry.1, entry.2.bare)).Sublist
    (rs.entries.map fun entry => (entry.1, entry.2.bare))

namespace Trimmed

variable {left middle rs : Dictionary Int Relation}

theorem refl (rs : Dictionary Int Relation) : Trimmed rs rs := List.Sublist.refl _

theorem trans (h : Trimmed left middle) (h' : Trimmed middle rs) : Trimmed left rs :=
  List.Sublist.trans h h'

theorem erase (rs : Dictionary Int Relation) (oid : Int) : Trimmed (rs.erase oid) rs :=
  (Dictionary.sublist_entries_erase rs oid).map _

theorem unlink (rs : Dictionary Int Relation) (oid : Int) :
    Trimmed (rs.mapValues (·.unlink oid)) rs := by
  unfold Trimmed
  rw [Dictionary.mapValues, List.map_map]
  exact List.Sublist.refl _

theorem modify (rs : Dictionary Int Relation) (oid : Int) {f : Relation → Relation}
    (hf : ∀ r, (f r).bare = r.bare) : Trimmed (rs.modify oid f) rs := by
  have hentries : ((rs.modify oid f).entries.map fun entry => (entry.1, entry.2.bare)) =
      rs.entries.map fun entry => (entry.1, entry.2.bare) := by
    rw [Dictionary.modify, List.map_map]
    refine List.map_congr_left fun entry _ => ?_
    rw [Function.comp_apply]
    split
    · rw [hf]
    · rfl
  unfold Trimmed
  rw [hentries]

theorem keys_sublist (h : Trimmed left rs) : left.keys.Sublist rs.keys := by
  have hkeys := h.map Prod.fst
  rwa [List.map_map, List.map_map] at hkeys

/-- What does not depend on links is the same of a relation that is left. -/
theorem values_sublist {α : Type} {g : Relation → α} (hg : ∀ r, g r.bare = g r)
    (h : Trimmed left rs) : (left.values.map g).Sublist (rs.values.map g) := by
  have hvalues := h.map fun entry => g entry.2
  have hentries (d : Dictionary Int Relation) :
      (d.entries.map fun entry => (entry.1, entry.2.bare)).map (fun entry => g entry.2) =
        d.values.map g := by
    rw [Dictionary.values, List.map_map, List.map_map]
    exact List.map_congr_left fun entry _ => hg entry.2
  rwa [hentries, hentries] at hvalues

theorem exists_entry (h : Trimmed left rs) {oid : Int} {r : Relation}
    (hr : (oid, r) ∈ left.entries) : ∃ old, (oid, old) ∈ rs.entries ∧ r.bare = old.bare := by
  have hmem := h.subset (List.mem_map_of_mem hr)
  obtain ⟨⟨_, old⟩, hold, heq⟩ := List.mem_map.mp hmem
  obtain ⟨rfl, hbare⟩ := Prod.mk.inj heq
  exact ⟨old, hold, hbare.symm⟩

/-- What holds of all relations and does not depend on links holds of those that are left. -/
theorem forall_values {p : Relation → Prop} (hp : ∀ r, p r.bare ↔ p r) (h : Trimmed left rs)
    (hrs : ∀ r ∈ rs.values, p r) : ∀ r ∈ left.values, p r := by
  intro r hr
  obtain ⟨⟨oid, _⟩, hentry, rfl⟩ := List.mem_map.mp hr
  obtain ⟨old, hold, hbare⟩ := h.exists_entry hentry
  rw [← hp, hbare, hp]
  exact hrs old (Dictionary.mem_values_of_mem_entries hold)

/-- A relation whose number is left is left, but for its links. -/
theorem exists_kept (h : Trimmed left rs) {oid : Int} {old : Relation}
    (hold : rs.find? oid = some old) (hkept : oid ∈ left.keys) :
    ∃ r, (oid, r) ∈ left.entries ∧ r.bare = old.bare := by
  obtain ⟨r, hr⟩ := Dictionary.exists_of_mem_keys hkept
  have hentry := Dictionary.mem_entries_of_find? hr
  obtain ⟨same, hsame, hbare⟩ := h.exists_entry hentry
  rw [Dictionary.find?_eq_some_iff.mpr hsame] at hold
  exact ⟨r, hentry, Option.some.inj hold ▸ hbare⟩

end Trimmed

/-! ### Links that lead to relations -/

/-- No index is listed twice, and a link leads to a relation that is there unless a task is left
that takes the link away. -/
structure Held (rs : Dictionary Int Relation) (tasks : List DropTask) : Prop where
  nodup : ∀ r ∈ rs.values, r.indexes.Nodup
  links : ∀ r ∈ rs.values, ∀ oid, r.LinksTo oid → oid ∈ rs.keys ∨ .unlink oid ∈ tasks

namespace Held

variable {rs : Dictionary Int Relation} {oid : Int} {tasks : List DropTask}

theorem unlink (h : Held rs (.unlink oid :: tasks)) :
    Held (rs.mapValues (·.unlink oid)) tasks := by
  constructor
  · intro r hr
    rw [Dictionary.values_mapValues] at hr
    obtain ⟨old, hold, rfl⟩ := List.mem_map.mp hr
    exact (h.nodup old hold).erase oid
  · intro r hr other hlink
    rw [Dictionary.values_mapValues] at hr
    obtain ⟨old, hold, rfl⟩ := List.mem_map.mp hr
    obtain ⟨hlink, hne⟩ := Relation.linksTo_unlink (h.nodup old hold) hlink
    rw [Dictionary.keys_mapValues]
    refine (h.links old hold other hlink).imp_right fun htask => ?_
    exact (List.mem_cons.mp htask).resolve_left fun heq => hne (DropTask.unlink.inj heq)

/-- A relation that is not there was not linked to either, but for links that a task takes away. -/
theorem missing (h : Held rs (.remove oid :: tasks)) : Held rs tasks := by
  refine ⟨h.nodup, fun r hr other hlink => ?_⟩
  refine (h.links r hr other hlink).imp_right fun htask => ?_
  exact (List.mem_cons.mp htask).resolve_left nofun

/-- The links to a relation that is taken away are those that a new task takes away. -/
theorem found (h : Held rs (.remove oid :: tasks)) (dependents : List Int) :
    Held (rs.erase oid) (dependents.map .remove ++ .unlink oid :: tasks) := by
  constructor
  · intro r hr
    exact h.nodup r (Dictionary.mem_values_erase hr)
  · intro r hr other hlink
    by_cases heq : other = oid
    · rw [heq]
      exact Or.inr (List.mem_append_right _ List.mem_cons_self)
    · refine (h.missing.links r (Dictionary.mem_values_erase hr) other hlink).imp ?_ ?_
      · intro hmem
        exact Dictionary.mem_keys_erase.mpr ⟨hmem, heq⟩
      · intro htask
        exact List.mem_append_right _ (List.mem_cons_of_mem _ htask)

/-! Linking needs no tasks. -/

theorem modify {f : Relation → Relation} (h : Held rs []) (parent : Int)
    (hnodup : ∀ r ∈ rs.values, (f r).indexes.Nodup)
    (hlinks : ∀ r ∈ rs.values, ∀ other, (f r).LinksTo other → other ∈ rs.keys) :
    Held (rs.modify parent f) [] := by
  constructor
  · intro r hr
    obtain ⟨old, hold, rfl | rfl⟩ := Dictionary.mem_values_modify hr
    · exact h.nodup r hold
    · exact hnodup old hold
  · intro r hr other hlink
    rw [Dictionary.keys_modify]
    obtain ⟨old, hold, rfl | rfl⟩ := Dictionary.mem_values_modify hr
    · exact h.links r hold other hlink
    · exact Or.inl (hlinks old hold other hlink)

/-- A relation that nothing was linked to becomes an index. -/
theorem addIndex (h : Held rs []) (parent : Int) (hmem : oid ∈ rs.keys)
    (hunlinked : ∀ r ∈ rs.values, ¬r.LinksTo oid) :
    Held (rs.modify parent (.addIndex oid)) [] := by
  refine h.modify parent (fun r hr => ?_) fun r hr other hlink => ?_
  · have hnew : oid ∉ r.indexes := fun hindex => hunlinked r hr (Or.inl hindex)
    exact List.nodup_append.mpr ⟨h.nodup r hr, List.nodup_singleton oid,
      fun old hold new hsingle heq => hnew (List.mem_singleton.mp hsingle ▸ heq ▸ hold)⟩
  · rcases Relation.linksTo_addIndex hlink with hold | rfl
    · exact (h.links r hr other hold).resolve_right nofun
    · exact hmem

/-- A relation becomes an overflow table. -/
theorem setToast (h : Held rs []) (parent : Int) (hmem : oid ∈ rs.keys) :
    Held (rs.modify parent (.setToast oid)) [] := by
  refine h.modify parent (fun r hr => h.nodup r hr) fun r hr other hlink => ?_
  rcases Relation.linksTo_setToast hlink with hold | rfl
  · exact (h.links r hr other hold).resolve_right nofun
  · exact hmem

end Held

/-! ### Linking -/

/-- A relation that is about to be added has no links. -/
theorem RelationRequest.not_linksTo {request : RelationRequest} {c : Catalog} {made : Relation}
    (h : request.prepare c = .ok made) (oid : Int) : ¬made.LinksTo oid := by
  obtain ⟨-, hindexes, htoast, -, -⟩ := RelationRequest.prepare_ok h
  rintro (hmem | heq)
  · rw [hindexes] at hmem
    cases hmem
  · rw [htoast] at heq
    cases heq

theorem linked_eq (c : Catalog) (parent : Option Int) (f : Relation → Relation) :
    c.linked parent f = { c with relations := (c.linked parent f).relations } := by
  cases parent <;> rfl

theorem linked_trimmed (c : Catalog) (parent : Option Int) {f : Relation → Relation}
    (hf : ∀ r, (f r).bare = r.bare) : Trimmed (c.linked parent f).relations c.relations := by
  cases parent with
  | none => exact .refl c.relations
  | some oid => exact .modify c.relations oid hf

section Linked

variable {c : Catalog} {oid : Int} (h : Held c.relations []) (hmem : oid ∈ c.relations.keys)

include h hmem

theorem linked_addIndex_held (parent : Option Int)
    (hunlinked : ∀ r ∈ c.relations.values, ¬r.LinksTo oid) :
    Held (c.linked parent (.addIndex oid)).relations [] := by
  cases parent with
  | none => exact h
  | some parent => exact h.addIndex parent hmem hunlinked

theorem linked_setToast_held (parent : Option Int) :
    Held (c.linked parent (.setToast oid)).relations [] := by
  cases parent with
  | none => exact h
  | some parent => exact h.setToast parent hmem

end Linked

/-! ### Dropping -/

section Steps

variable {rs : Dictionary Int Relation} {oid : Int} {r : Relation} {tasks : List DropTask}

theorem dropAll_unlink : dropAll rs (.unlink oid :: tasks) =
    dropAll (rs.mapValues (·.unlink oid)) tasks := by
  rw [dropAll]

theorem dropAll_missing (h : rs.find? oid = none) :
    dropAll rs (.remove oid :: tasks) = dropAll rs tasks := by
  rw [dropAll]
  split
  · rfl
  · next hfound =>
    rw [h] at hfound
    cases hfound

theorem dropAll_found (h : rs.find? oid = some r) : (dropAll rs (.remove oid :: tasks)).1 =
    (dropAll (rs.erase oid) (r.dependents.map .remove ++ .unlink oid :: tasks)).1 := by
  rw [dropAll]
  split
  · next hmissing =>
    rw [h] at hmissing
    cases hmissing
  · next found hfound =>
    rw [h] at hfound
    obtain rfl := Option.some.inj hfound
    rfl

end Steps

/-- **Dropping leaves some of the relations, and changes nothing but links.** -/
theorem dropAll_trimmed (rs : Dictionary Int Relation) (tasks : List DropTask) :
    Trimmed (dropAll rs tasks).1 rs := by
  induction rs, tasks using dropAll.induct with
  | case1 rs =>
    rw [dropAll]
    exact .refl rs
  | case2 rs oid tasks ih =>
    rw [dropAll_unlink]
    exact ih.trans (.unlink rs oid)
  | case3 rs oid tasks hmissing ih =>
    rw [dropAll_missing hmissing]
    exact ih
  | case4 rs oid tasks r hfound left dropped _ ih =>
    rw [dropAll_found hfound]
    exact ih.trans (.erase rs oid)

/-- **When everything is done, all links lead to relations.** -/
theorem dropAll_held {rs : Dictionary Int Relation} {tasks : List DropTask} (h : Held rs tasks) :
    Held (dropAll rs tasks).1 [] := by
  induction rs, tasks using dropAll.induct with
  | case1 rs =>
    rw [dropAll]
    exact h
  | case2 rs oid tasks ih =>
    rw [dropAll_unlink]
    exact ih h.unlink
  | case3 rs oid tasks hmissing ih =>
    rw [dropAll_missing hmissing]
    exact ih h.missing
  | case4 rs oid tasks r hfound left dropped _ ih =>
    rw [dropAll_found hfound]
    exact ih (h.found r.dependents)

/-! ### Operations -/

/-- Does an operation make a relation, whether it can be linked then or not? -/
def Operation.Makes (op : Operation) (c : Catalog) (made : Relation) : Prop :=
  ∃ request, op = .createRelation request ∧ request.prepare c = .ok made

section Effect

variable {c left : Catalog} {op : Operation} {result : Except Error Unit}

/-- A relation that is made is added, and apart from that only links change. -/
theorem Effect.trimmed_of_makes (h : Effect c op result left) {made : Relation}
    (hmakes : op.Makes c made) : Trimmed left.relations (c.addRelation made).relations ∧
      left.relations.keys = (c.addRelation made).relations.keys := by
  obtain ⟨request, rfl, hmade⟩ := hmakes
  have hindexed : Trimmed (request.addIndexed made c).relations (c.addRelation made).relations :=
    linked_trimmed _ request.indexOf (Relation.bare_addIndex made.oid)
  cases h with
  | refused hrefused =>
    rw [hrefused request rfl] at hmade
    cases hmade
  | relation hprepare hindex htoast =>
    obtain rfl := Except.ok.inj (hmade.symm.trans hprepare)
    have htoasted := linked_trimmed (request.addIndexed made c) request.toastOf
      (Relation.bare_setToast made.oid)
    exact ⟨htoasted.trans hindexed, request.keys_addLinked made c⟩
  | indexOfNothing hprepare hindex =>
    obtain rfl := Except.ok.inj (hmade.symm.trans hprepare)
    exact ⟨.refl _, rfl⟩
  | toastOfNothing hprepare hindex htoast =>
    obtain rfl := Except.ok.inj (hmade.symm.trans hprepare)
    exact ⟨hindexed, request.keys_addIndexed made c⟩

/-- Where no relation is made, some may go, and apart from that only links change. -/
theorem Effect.trimmed (h : Effect c op result left) (hnone : ∀ made, ¬op.Makes c made) :
    Trimmed left.relations c.relations := by
  cases h with
  | relation hprepare => exact absurd ⟨_, rfl, hprepare⟩ (hnone _)
  | indexOfNothing hprepare => exact absurd ⟨_, rfl, hprepare⟩ (hnone _)
  | toastOfNothing hprepare => exact absurd ⟨_, rfl, hprepare⟩ (hnone _)
  | dropped => exact dropAll_trimmed c.relations _
  | _ => exact .refl c.relations

/-- A relation that is made is there afterwards, but for its links. -/
theorem Effect.exists_made (h : Effect c op result left) {made : Relation}
    (hmakes : op.Makes c made) :
    ∃ r, (made.oid, r) ∈ left.relations.entries ∧ r.bare = made.bare := by
  obtain ⟨htrimmed, hkeys⟩ := h.trimmed_of_makes hmakes
  have hfound : (c.addRelation made).relations.find? made.oid = some made := by
    rw [addRelation, Dictionary.find?_insert, if_pos rfl]
  apply htrimmed.exists_kept hfound
  rw [hkeys]
  exact mem_keys_addRelation made c

/-- What does not depend on links holds of all relations that are left if it holds of those before
and of one that is made. -/
theorem Effect.forall_values {p : Relation → Prop} (hp : ∀ r, p r.bare ↔ p r)
    (h : Effect c op result left) (hold : ∀ r ∈ c.relations.values, p r)
    (hmade : ∀ made, op.Makes c made → p made) : ∀ r ∈ left.relations.values, p r := by
  by_cases hmakes : ∃ made, op.Makes c made
  · obtain ⟨made, hmakes⟩ := hmakes
    apply (h.trimmed_of_makes hmakes).1.forall_values hp
    intro r hr
    rcases Dictionary.mem_values_insert hr with rfl | hr
    · exact hmade r hmakes
    · exact hold r hr
  · exact (h.trimmed (not_exists.mp hmakes)).forall_values hp hold

end Effect

end Catalog

end Footprint
