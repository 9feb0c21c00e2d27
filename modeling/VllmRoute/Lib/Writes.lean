import Mathlib.Data.Int.CharZero
import Mathlib.Data.List.Induction
import Mathlib.Data.List.Nodup
import Mathlib.Data.List.Perm.Subperm
import VllmRoute.Lib.Keyed

/-!
# Writes to keys

`written` is what a list of writes leaves: one entry for each key, with the
value that was written last. The size of the entries can be kept up to date by
subtracting the old value and adding the new one.

A list of distinct non-negative keys is an initial segment of the integers if
none of the first keys is missing, as many as there are keys.
-/
namespace VllmRoute.Lib

variable {κ ν : Type*} [DecidableEq κ]

/-- The entries with the value of `key` replaced. -/
def assign (key : κ) (value : ν) (entries : List (κ × ν)) : List (κ × ν) :=
  (key, value) :: entries.filter fun entry => entry.1 != key

/-- No key has two entries. -/
def Distinct (entries : List (κ × ν)) : Prop := (entries.map Prod.fst).Nodup

theorem Distinct.assign {entries : List (κ × ν)} (distinct : Distinct entries) (key : κ)
    (value : ν) : Distinct (assign key value entries) := by
  apply List.nodup_cons.mpr
  constructor
  · simp
  · exact distinct.sublist (List.filter_sublist.map _)

theorem lookup_cons_eq (k key : κ) (v : ν) (entries : List (κ × ν)) :
    ((k, v) :: entries).lookup key = if key = k then some v else entries.lookup key := by
  rw [List.lookup_cons]
  by_cases same : key = k
  · simp [same]
  · have differs : (key == k) = false := by simpa using same
    rw [differs, if_neg same]

theorem lookup_filter_ne (entries : List (κ × ν)) {key other : κ} (ne : other ≠ key) :
    (entries.filter fun entry => entry.1 != key).lookup other = entries.lookup other := by
  induction entries with
  | nil => rfl
  | cons entry entries ih =>
    obtain ⟨k, v⟩ := entry
    by_cases same : k = key
    · subst same
      simp [lookup_cons_eq, ih, ne]
    · simp [lookup_cons_eq, ih, same]

theorem lookup_assign (entries : List (κ × ν)) (key other : κ) (value : ν) :
    (assign key value entries).lookup other =
      if other = key then some value else entries.lookup other := by
  rw [assign, lookup_cons_eq]
  by_cases same : other = key
  · rw [if_pos same, if_pos same]
  · rw [if_neg same, if_neg same, lookup_filter_ne entries same]

/-- A key without an entry. -/
theorem lookup_eq_none_of_notMem {entries : List (κ × ν)} {key : κ}
    (missing : key ∉ entries.map Prod.fst) : entries.lookup key = none := by
  rw [List.lookup_eq_none_iff]
  intro entry listed
  have : entry.1 ≠ key := fun same => missing (same ▸ List.mem_map_of_mem listed)
  simpa using this.symm

theorem lookup_isSome_iff {entries : List (κ × ν)} {key : κ} :
    (entries.lookup key).isSome = true ↔ key ∈ entries.map Prod.fst := by
  constructor
  · intro found
    by_contra missing
    rw [lookup_eq_none_of_notMem missing] at found
    cases found
  · intro listed
    rw [Option.isSome_iff_ne_none, ne_eq, List.lookup_eq_none_iff]
    obtain ⟨entry, member, rfl⟩ := List.mem_map.mp listed
    intro none
    simpa using none entry member

/-- What the entry of a key weighs. -/
def weightAt (weight : κ → ν → Nat) (key : κ) (entries : List (κ × ν)) : Nat :=
  ((entries.lookup key).map (weight key)).getD 0

/-- The entry of one key apart from the others. -/
theorem total_eq_filter (weight : κ → ν → Nat) (key : κ) {entries : List (κ × ν)}
    (distinct : Distinct entries) : total weight entries =
      total weight (entries.filter fun entry => entry.1 != key) + weightAt weight key entries := by
  induction entries with
  | nil => rfl
  | cons entry entries ih =>
    obtain ⟨k, v⟩ := entry
    obtain ⟨fresh, rest⟩ := List.nodup_cons.mp distinct
    have tail := ih rest
    by_cases same : k = key
    · subst same
      have missing := lookup_eq_none_of_notMem fresh
      simp only [weightAt, missing, Option.map_none, Option.getD_none] at tail
      simp only [total, List.map_cons, List.sum_cons] at tail ⊢
      simp [weightAt, tail, Nat.add_comm]
    · simp only [total, weightAt, List.map_cons, List.sum_cons] at tail ⊢
      simp [lookup_cons_eq, same, Ne.symm same, tail, Nat.add_assoc]

/-- The total moves by the difference of the two values. -/
theorem total_assign (weight : κ → ν → Nat) (key : κ) (value : ν) {entries : List (κ × ν)}
    (distinct : Distinct entries) : total weight (assign key value entries) =
      total weight entries - weightAt weight key entries + weight key value := by
  have apart := total_eq_filter weight key distinct
  have cons : total weight (assign key value entries) = weight key value +
      total weight (entries.filter fun entry => entry.1 != key) := by
    simp [total, assign]
  omega

theorem weightAt_le_total (weight : κ → ν → Nat) (key : κ) {entries : List (κ × ν)}
    (distinct : Distinct entries) : weightAt weight key entries ≤ total weight entries := by
  rw [total_eq_filter weight key distinct]
  exact Nat.le_add_left _ _

/-! ### A list of writes -/

/-- The entries after these writes. -/
def written (writes : List (κ × ν)) : List (κ × ν) :=
  writes.foldl (fun entries write => assign write.1 write.2 entries) []

/-- The value that was written last to `key`. -/
def latest (writes : List (κ × ν)) (key : κ) : Option ν := writes.reverse.lookup key

theorem written_snoc (writes : List (κ × ν)) (write : κ × ν) :
    written (writes ++ [write]) = assign write.1 write.2 (written writes) := by
  simp [written]

theorem distinct_written (writes : List (κ × ν)) : Distinct (written writes) := by
  induction writes using List.reverseRecOn with
  | nil => exact List.nodup_nil
  | append_singleton writes write ih =>
    rw [written_snoc]
    exact ih.assign _ _

theorem lookup_written (writes : List (κ × ν)) (key : κ) :
    (written writes).lookup key = latest writes key := by
  induction writes using List.reverseRecOn with
  | nil => rfl
  | append_singleton writes write ih =>
    obtain ⟨k, v⟩ := write
    rw [written_snoc, lookup_assign, ih, latest, latest, List.reverse_append,
      List.reverse_singleton, List.singleton_append, lookup_cons_eq]

/-- The keys of the entries are those that were written. -/
theorem mem_keys_written (writes : List (κ × ν)) (key : κ) :
    key ∈ (written writes).map Prod.fst ↔ key ∈ writes.map Prod.fst := by
  rw [← lookup_isSome_iff, lookup_written, latest, lookup_isSome_iff, List.map_reverse,
    List.mem_reverse]

/-! ### Initial segments -/

theorem mem_range_cast (n : Nat) (key : Int) :
    key ∈ (List.range n).map (Nat.cast : Nat → Int) ↔ 0 ≤ key ∧ key < n := by
  rw [List.mem_map]
  constructor
  · rintro ⟨i, below, rfl⟩
    exact ⟨Int.natCast_nonneg i, Int.ofNat_lt.mpr (List.mem_range.mp below)⟩
  · rintro ⟨low, high⟩
    exact ⟨key.toNat, List.mem_range.mpr (by omega), Int.toNat_of_nonneg low⟩

theorem nodup_range_cast (n : Nat) : ((List.range n).map (Nat.cast : Nat → Int)).Nodup :=
  List.Nodup.map Nat.cast_injective List.nodup_range

/-- Distinct keys that are exactly the numbers below `n` are `n` many. -/
theorem length_of_exact {keys : List Int} (nodup : keys.Nodup) {n : Nat}
    (all : ∀ key, key ∈ keys ↔ 0 ≤ key ∧ key < n) : keys.length = n := by
  have perm : keys.Perm ((List.range n).map Nat.cast) := by
    apply (List.perm_ext_iff_of_nodup nodup (nodup_range_cast n)).mpr
    intro key
    rw [all, mem_range_cast]
  simpa using perm.length_eq

/-- If none of the first keys is missing, as many as there are, there is no other key. -/
theorem exact_of_covered {keys : List Int}
    (covered : ∀ i : Nat, i < keys.length → (i : Int) ∈ keys) (key : Int) :
    key ∈ keys ↔ 0 ≤ key ∧ key < keys.length := by
  have first : ((List.range keys.length).map Nat.cast).Subperm keys := by
    apply (nodup_range_cast _).subperm
    intro key listed
    obtain ⟨i, below, rfl⟩ := List.mem_map.mp listed
    exact covered i (List.mem_range.mp below)
  have perm := first.perm_of_length_le (by simp)
  rw [← perm.mem_iff, mem_range_cast]

end VllmRoute.Lib
