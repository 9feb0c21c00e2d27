import Mathlib.Algebra.BigOperators.Group.List.Basic

/-!
# Keyed lists

A map with default values is a list of its entries: `alter` changes the value
of one key and makes the entry first when there is none. A total over the
entries moves by what the one entry gained.
-/
namespace VllmRoute.Lib

variable {κ ν μ : Type*}

/-- The sum of a weight over the entries. -/
def total [AddCommMonoid μ] (weight : κ → ν → μ) (entries : List (κ × ν)) : μ :=
  (entries.map fun entry => weight entry.1 entry.2).sum

variable [DecidableEq κ]

/-- The value of `key`, or `absent` when it has no entry. -/
def valueAt (key : κ) (absent : ν) : List (κ × ν) → ν
  | [] => absent
  | (k, v) :: entries => if k = key then v else valueAt key absent entries

/-- Changes the value of `key` with `f`, starting a new entry from `absent`. -/
def alter (key : κ) (absent : ν) (f : ν → ν) : List (κ × ν) → List (κ × ν)
  | [] => [(key, f absent)]
  | (k, v) :: entries =>
    if k = key then (k, f v) :: entries else (k, v) :: alter key absent f entries

theorem valueAt_cases (key : κ) (absent : ν) (entries : List (κ × ν)) :
    valueAt key absent entries = absent ∨ (key, valueAt key absent entries) ∈ entries := by
  induction entries with
  | nil => exact .inl rfl
  | cons entry entries ih =>
    obtain ⟨k, v⟩ := entry
    by_cases same : k = key
    · simp [valueAt, same]
    · simpa [valueAt, same, Ne.symm same] using ih

/-- What holds of the entries and of the changed one holds of all of them afterwards. -/
theorem forall_alter {inv : κ → ν → Prop} {key : κ} {absent : ν} {f : ν → ν}
    {entries : List (κ × ν)} (all : ∀ entry ∈ entries, inv entry.1 entry.2)
    (changed : inv key (f (valueAt key absent entries))) :
    ∀ entry ∈ alter key absent f entries, inv entry.1 entry.2 := by
  induction entries with
  | nil => simpa [alter, valueAt] using changed
  | cons entry entries ih =>
    obtain ⟨k, v⟩ := entry
    simp only [List.forall_mem_cons] at all
    by_cases same : k = key
    · subst same
      simp only [valueAt, if_true] at changed
      simpa [alter, List.forall_mem_cons] using ⟨changed, fun a b => all.2 (a, b)⟩
    · simp only [valueAt, if_neg same] at changed
      simp only [alter, if_neg same, List.forall_mem_cons]
      exact ⟨all.1, ih all.2 changed⟩

theorem total_alter [AddCommMonoid μ] {weight : κ → ν → μ} {key : κ} {absent : ν} {f : ν → ν}
    {entries : List (κ × ν)} {gained : μ} (nothing : weight key absent = 0)
    (gains : weight key (f (valueAt key absent entries)) =
      weight key (valueAt key absent entries) + gained) :
    total weight (alter key absent f entries) = total weight entries + gained := by
  induction entries with
  | nil => simpa [total, alter, valueAt, nothing] using gains
  | cons entry entries ih =>
    obtain ⟨k, v⟩ := entry
    by_cases same : k = key
    · subst same
      simp only [valueAt, if_true] at gains
      simp only [total, alter, if_true, List.map_cons, List.sum_cons, gains]
      exact add_right_comm _ _ _
    · simp only [valueAt, if_neg same] at gains
      have rest := ih gains
      simp only [total, alter, if_neg same, List.map_cons, List.sum_cons] at rest ⊢
      rw [rest, add_assoc]

/-- In a list with distinct keys, one element has a given key. -/
theorem filter_key_eq_singleton {α : Type*} {key : α → κ} {xs : List α}
    (distinct : (xs.map key).Nodup) {x : α} (member : x ∈ xs) :
    xs.filter (fun y => key y = key x) = [x] := by
  induction xs with
  | nil => cases member
  | cons y ys ih =>
    rw [List.map_cons, List.nodup_cons] at distinct
    rcases List.mem_cons.mp member with rfl | later
    · rw [List.filter_cons_of_pos (by simp), List.filter_eq_nil_iff.mpr]
      intro z among same
      exact distinct.1 (List.mem_map.mpr ⟨z, among, by simpa using same⟩)
    · rw [List.filter_cons_of_neg, ih distinct.2 later]
      intro same
      exact distinct.1 (List.mem_map.mpr ⟨x, later, (by simpa using same : key y = key x).symm⟩)

end VllmRoute.Lib
