import Mathlib.Data.List.Sort

/-!
# Windows

A list that is cut to its last `n` elements whenever one is added shows what the
whole list ends with. An order statistic of a window is characterised by how many
elements are below it, and how many are not above it.
-/
namespace VllmRoute.Lib

variable {α : Type*}

/-- The last `n` elements. -/
def recent (n : Nat) (xs : List α) : List α := xs.drop (xs.length - n)

@[simp] theorem recent_nil (n : Nat) : recent n ([] : List α) = [] := List.drop_nil

theorem reverse_recent (n : Nat) (xs : List α) : (recent n xs).reverse = xs.reverse.take n := by
  rw [recent, List.reverse_drop]
  by_cases short : xs.length ≤ n
  · rw [Nat.sub_eq_zero_of_le short, Nat.sub_zero, List.take_of_length_le (by simp),
      List.take_of_length_le (by simpa using short)]
  · congr 1
    omega

theorem recent_recent_append (n : Nat) (xs : List α) (x : α) :
    recent n (recent n xs ++ [x]) = recent n (xs ++ [x]) := by
  apply List.reverse_injective
  simp only [reverse_recent, List.reverse_append, List.reverse_singleton, List.singleton_append]
  cases n with
  | zero => rfl
  | succ n => simp [List.take_take]

section Order

variable [LinearOrder α]

theorem sorted_getElem_le {xs : List α} (sorted : xs.Pairwise (· ≤ ·)) {i k : Nat}
    (early : i ≤ k) (inside : k < xs.length) : xs[i] ≤ xs[k] := by
  rcases Nat.lt_or_eq_of_le early with before | rfl
  · exact List.pairwise_iff_getElem.mp sorted i k _ inside before
  · exact le_refl _

/-- At most `k` elements are below the one at position `k` of the sorted list, and more than `k`
are not above it. -/
theorem countP_sorted {xs : List α} (sorted : xs.Pairwise (· ≤ ·)) {k : Nat}
    (inside : k < xs.length) :
    xs.countP (· < xs[k]) ≤ k ∧ k < xs.countP (· ≤ xs[k]) := by
  constructor
  · have none : (xs.drop k).countP (· < xs[k]) = 0 := by
      rw [List.countP_eq_zero]
      intro x member
      obtain ⟨i, within, rfl⟩ := List.getElem_of_mem member
      rw [List.getElem_drop]
      simpa using sorted_getElem_le sorted (Nat.le_add_right k i) _
    calc xs.countP (· < xs[k])
        = (xs.take k).countP (· < xs[k]) + (xs.drop k).countP (· < xs[k]) := by
          rw [← List.countP_append, List.take_append_drop]
      _ ≤ k := by
          rw [none, Nat.add_zero]
          exact List.countP_le_length.trans (List.length_take_le k xs)
  · have all : (xs.take (k + 1)).countP (· ≤ xs[k]) = k + 1 := by
      rw [List.countP_eq_length.mpr, List.length_take, Nat.min_eq_left inside]
      intro x member
      obtain ⟨i, within, rfl⟩ := List.getElem_of_mem member
      rw [List.length_take] at within
      rw [List.getElem_take]
      simpa using sorted_getElem_le sorted (by omega) inside
    have more := (List.take_sublist (k + 1) xs).countP_le (p := (· ≤ xs[k]))
    omega

end Order

end VllmRoute.Lib
