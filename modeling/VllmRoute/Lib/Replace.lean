import Mathlib.Algebra.BigOperators.Group.List.Basic
import Mathlib.Algebra.Ring.Nat
import Mathlib.Data.List.Basic

/-!
# Replacing one element of a list

A system of threads keeps them in a list, and a step replaces one of them. What
holds of all threads, of one of them or of their sum then follows from what the
step does to that one.
-/
namespace VllmRoute.Lib

variable {α β : Type*} {l : List α} {i : Nat} {a b : α}

theorem forall_mem_set {P : α → Prop} (all : ∀ x ∈ l, P x) (own : P b) : ∀ x ∈ l.set i b, P x := by
  intro x member
  rcases List.mem_or_eq_of_mem_set member with old | rfl
  · exact all x old
  · exact own

/-- What holds of one element holds of one after the replacement of another. -/
theorem exists_mem_set {P : α → Prop} (found : l[i]? = some a) (other : ¬ P a)
    (held : ∃ x ∈ l, P x) : ∃ x ∈ l.set i b, P x := by
  obtain ⟨x, member, holds⟩ := held
  obtain ⟨j, at_⟩ := List.mem_iff_getElem?.mp member
  have apart : i ≠ j := by
    rintro rfl
    rw [found] at at_
    cases at_
    exact other holds
  refine ⟨x, List.mem_iff_getElem?.mpr ⟨j, ?_⟩, holds⟩
  rw [List.getElem?_set_ne apart, at_]

theorem forall_getElem?_set {P Q : Nat → α → Prop} (all : ∀ k x, l[k]? = some x → P k x)
    (own : Q i a) (others : ∀ k x, k ≠ i → P k x → Q k x) :
    ∀ k x, (l.set i a)[k]? = some x → Q k x := by
  intro k x found
  by_cases same : k = i
  · subst same
    obtain ⟨bound, rfl⟩ := List.getElem?_eq_some_iff.mp found
    simpa using own
  · rw [List.getElem?_set_ne (Ne.symm same)] at found
    exact others k x same (all k x found)

/-- The new element contributes more. -/
theorem flatMap_set_perm (l : List α) (g : α → List β) (i : Nat) (a b : α) (extra : List β)
    (found : l[i]? = some a) (more : g b = extra ++ g a) :
    ((l.set i b).flatMap g).Perm (extra ++ l.flatMap g) := by
  -- on the list, down to the element that is replaced
  induction l generalizing i with
  | nil => simp at found
  | cons x l ih =>
    cases i with
    | zero =>
      simp only [List.getElem?_cons_zero, Option.some.injEq] at found
      subst found
      simp [more]
    | succ i =>
      have rest := ih i (by simpa using found)
      simp only [List.set_cons_succ, List.flatMap_cons]
      refine (rest.append_left (g x)).trans ?_
      simp only [← List.append_assoc]
      -- the new part moves in front of what `x` contributes
      exact (List.perm_append_comm).append_right _

theorem sum_map_set (found : l[i]? = some a) (f : α → Nat) (b : α) :
    ((l.set i b).map f).sum + f a = (l.map f).sum + f b := by
  -- on the list, down to the element that is replaced
  induction l generalizing i with
  | nil => simp at found
  | cons first l ih =>
    cases i with
    | zero =>
      simp only [List.getElem?_cons_zero, Option.some.injEq] at found
      simp only [List.set_cons_zero, List.map_cons, List.sum_cons, found]
      omega
    | succ i =>
      have rest := ih (by simpa using found)
      simp only [List.set_cons_succ, List.map_cons, List.sum_cons]
      omega

end VllmRoute.Lib
