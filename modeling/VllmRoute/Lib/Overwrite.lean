import Mathlib.Data.List.Basic

/-!
# Copying into a block of memory

`overwrite l i data` is the block `l` after `data` was copied to position `i`.
-/
namespace VllmRoute.Lib

variable {α : Type*}

def overwrite (l : List α) (i : Nat) (data : List α) : List α :=
  l.take i ++ data ++ l.drop (i + data.length)

@[simp] theorem length_overwrite (l data : List α) (i : Nat) (fits : i + data.length ≤ l.length) :
    (overwrite l i data).length = l.length := by
  simp only [overwrite, List.length_append, List.length_take, List.length_drop]
  omega

/-- What was before the copy, followed by the copy. -/
theorem take_overwrite (l data : List α) (i : Nat) (inside : i ≤ l.length) :
    (overwrite l i data).take (i + data.length) = l.take i ++ data := by
  have length : (l.take i ++ data).length = i + data.length := by
    simp only [List.length_append, List.length_take]
    omega
  rw [overwrite, ← length, List.take_left]

/-- The copy, followed by what was behind it. -/
theorem drop_overwrite (l data : List α) (i : Nat) (inside : i ≤ l.length) :
    (overwrite l i data).drop i = data ++ l.drop (i + data.length) := by
  have length : (l.take i).length = i := by
    rw [List.length_take, Nat.min_eq_left inside]
  rw [overwrite, List.append_assoc]
  nth_rewrite 1 [← length]
  rw [List.drop_left]

/-- A copy that is defined only inside the block. -/
def store (l : List α) (i : Nat) (data : List α) : Option (List α) :=
  if i + data.length ≤ l.length then some (overwrite l i data) else none

/-- A copy to the first of `k` equal elements. -/
theorem store_replicate (written data : List α) (k : Nat) (a : α) :
    store (written ++ List.replicate k a) written.length data =
      if data.length ≤ k then some (written ++ data ++ List.replicate (k - data.length) a)
      else none := by
  simp only [store, List.length_append, List.length_replicate, Nat.add_le_add_iff_left]
  split
  · rw [overwrite, List.take_left, ← List.drop_drop, List.drop_left, List.drop_replicate]
  · rfl

end VllmRoute.Lib
