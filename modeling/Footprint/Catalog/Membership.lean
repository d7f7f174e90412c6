import Footprint.Catalog.Basic

/-!
# Memberships

A role has the privileges of the roles it is a member of, and of theirs in turn. The roles that can
be reached are collected from a list of roles still to be visited; a role that is visited a second
time adds nothing, so that circles come to an end.
-/

namespace Footprint.Catalog

/-- The roles of a catalog that have not been visited. -/
def unvisited (roles : Dictionary String Role) (visited : List String) : List String :=
  roles.keys.filter fun name => !visited.contains name

theorem unvisited_cons_length_le (roles : Dictionary String Role) (name : String)
    (visited : List String) :
    (unvisited roles (name :: visited)).length ≤ (unvisited roles visited).length := by
  simp only [unvisited, ← List.countP_eq_length_filter]
  refine List.countP_mono_left fun other _ h => ?_
  simp only [List.contains_cons] at h
  grind

theorem unvisited_cons_length_lt {roles : Dictionary String Role} {name : String} {role : Role}
    {visited : List String} (hrole : roles.find? name = some role) (hnew : name ∉ visited) :
    (unvisited roles (name :: visited)).length < (unvisited roles visited).length := by
  have hmem : name ∈ roles.keys := by
    have := List.lookup_eq_some_iff.1 hrole
    simp only [Dictionary.keys]
    grind
  have h : unvisited roles (name :: visited) =
      (unvisited roles visited).filter fun other => other ≠ name := by
    simp only [unvisited, List.filter_filter]
    refine List.filter_congr fun other _ => ?_
    simp only [List.contains_cons]
    grind
  rw [h]
  refine List.length_filter_lt_length_iff_exists.2 ⟨name, ?_, by simp⟩
  simp [unvisited, hmem, hnew]

/-- The visited roles together with those that can be reached from the pending ones. A role that is
not in the catalog is reached but leads nowhere. -/
def membershipsFrom (roles : Dictionary String Role) (visited : List String) :
    List String → List String
  | [] => visited
  | name :: pending =>
    if name ∈ visited then membershipsFrom roles visited pending
    else
      match _found : roles.find? name with
      | none => membershipsFrom roles (name :: visited) pending
      | some role => membershipsFrom roles (name :: visited) (role.memberOf ++ pending)
termination_by pending => ((unvisited roles visited).length, pending.length)
decreasing_by
  · exact Prod.Lex.right _ (by simp)
  · rcases Nat.lt_or_eq_of_le (unvisited_cons_length_le roles name visited) with h' | h'
    · exact Prod.Lex.left _ _ h'
    · rw [h']
      exact Prod.Lex.right _ (by simp)
  · exact Prod.Lex.left _ _ (unvisited_cons_length_lt ‹_› ‹_›)

/-- A role and all the roles that it is a member of, directly or through others. -/
def memberships (catalog : Catalog) (role : String) : List String :=
  membershipsFrom catalog.roles [] [role]

end Footprint.Catalog
