import Mathlib.Data.List.TakeWhile

/-!
# Runs at the front

A run is the longest beginning of a list all of whose members pass a test. Put together from a run
and a rest whose first member fails the test, a list gives back both (`takeWhile_append_of_stop`,
`dropWhile_append_of_stop`), so that there is only one way to put it together
(`append_inj_of_stop`). Where no member passes the test, nothing is taken off (`trim_eq_self`).
-/

namespace Footprint

variable {α : Type} {p : α → Bool} {run rest : List α}

theorem takeWhile_append_of_stop (h : ∀ x ∈ run, p x = true)
    (hstop : ∀ x ∈ rest.head?, p x = false) : (run ++ rest).takeWhile p = run := by
  rw [List.takeWhile_append_of_pos h]
  cases rest with
  | nil => exact List.append_nil run
  | cons x xs =>
    rw [List.takeWhile_cons_of_neg (by rw [hstop x rfl]; exact Bool.false_ne_true),
      List.append_nil]

theorem dropWhile_append_of_stop (h : ∀ x ∈ run, p x = true)
    (hstop : ∀ x ∈ rest.head?, p x = false) : (run ++ rest).dropWhile p = rest := by
  rw [List.dropWhile_append_of_pos h]
  cases rest with
  | nil => rfl
  | cons x xs => exact List.dropWhile_cons_of_neg (by rw [hstop x rfl]; exact Bool.false_ne_true)

theorem head?_dropWhile_stop (xs : List α) : ∀ x ∈ (xs.dropWhile p).head?, p x = false := by
  intro x hx
  have hne : xs.dropWhile p ≠ [] := by
    intro h0
    rw [h0] at hx
    exact absurd hx (Option.not_mem_none x)
  have hnot := List.head_dropWhile_not p hne
  rw [List.head?_eq_some_head hne] at hx
  rwa [Option.mem_some_iff.mp hx] at hnot

theorem mem_takeWhile (xs : List α) : ∀ x ∈ xs.takeWhile p, p x = true :=
  fun _ hx => List.all_eq_true.mp List.all_takeWhile _ hx

/-- Nothing is taken off the two ends of a list none of whose members passes the test. -/
theorem trim_eq_self {xs : List α} (h : ∀ x ∈ xs, p x = false) :
    ((xs.dropWhile p).reverse.dropWhile p).reverse = xs := by
  have hfront : ∀ ys : List α, (∀ y ∈ ys, p y = false) → ys.dropWhile p = ys := by
    intro ys hys
    have hdrop : ([] ++ ys).dropWhile p = ys :=
      dropWhile_append_of_stop nofun fun y hy => hys y (List.mem_of_mem_head? hy)
    exact hdrop
  rw [hfront xs h, hfront xs.reverse fun x hx => h x (List.mem_reverse.mp hx),
    List.reverse_reverse]

/-- There is one way to put a list together from a run and a rest that stops it. -/
theorem append_inj_of_stop {run' rest' : List α} (h : ∀ x ∈ run, p x = true)
    (hstop : ∀ x ∈ rest.head?, p x = false) (h' : ∀ x ∈ run', p x = true)
    (hstop' : ∀ x ∈ rest'.head?, p x = false) (heq : run ++ rest = run' ++ rest') :
    run = run' ∧ rest = rest' := by
  have hrun := takeWhile_append_of_stop h hstop
  rw [heq, takeWhile_append_of_stop h' hstop'] at hrun
  subst hrun
  exact ⟨rfl, List.append_cancel_left heq⟩

end Footprint
