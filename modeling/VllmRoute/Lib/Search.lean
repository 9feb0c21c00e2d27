import Mathlib.Data.List.Basic
import Mathlib.Data.List.Infix

/-!
# Text search

`find pat text` is the position of the first occurrence of a pattern, as
`std::string::find` returns it.
-/
namespace VllmRoute.Lib

variable {α : Type*} [DecidableEq α]

def find (pat text : List α) : Option Nat := text.tails.findIdx? fun rest => pat.isPrefixOf rest

/-- The pattern stands at this position of the text. -/
def OccursAt (pat text : List α) (i : Nat) : Prop := i ≤ text.length ∧ pat <+: text.drop i

theorem find_eq_some_iff (pat text : List α) (i : Nat) :
    find pat text = some i ↔ OccursAt pat text i ∧ ∀ j < i, ¬ OccursAt pat text j := by
  simp only [find, OccursAt, List.findIdx?_eq_some_iff_getElem, List.length_tails,
    List.getElem_tails, List.isPrefixOf_iff_prefix, Nat.lt_succ_iff]
  constructor
  · rintro ⟨inside, here, first⟩
    exact ⟨⟨inside, here⟩, fun j before occurs => first j before occurs.2⟩
  · rintro ⟨⟨inside, here⟩, first⟩
    exact ⟨inside, here, fun j before occurs => first j before ⟨by omega, occurs⟩⟩

theorem OccursAt.find {pat text : List α} {i : Nat} (occurs : OccursAt pat text i) :
    ∃ j ≤ i, find pat text = some j := by
  induction i using Nat.strong_induction_on with
  | _ i ih =>
    by_cases earlier : ∃ j < i, OccursAt pat text j
    · obtain ⟨j, before, there⟩ := earlier
      obtain ⟨k, below, found⟩ := ih j before there
      exact ⟨k, by omega, found⟩
    · exact ⟨i, Nat.le_refl i, (find_eq_some_iff pat text i).mpr
        ⟨occurs, fun j before there => earlier ⟨j, before, there⟩⟩⟩

omit [DecidableEq α] in
theorem occursAt_append (before pat after : List α) :
    OccursAt pat (before ++ (pat ++ after)) before.length :=
  ⟨by simp, by simp⟩

omit [DecidableEq α] in
/-- The characters of an occurrence. -/
theorem OccursAt.getElem? {pat text : List α} {i k : Nat} (occurs : OccursAt pat text i)
    (inside : k < pat.length) : text[i + k]? = pat[k]? := by
  obtain ⟨rest, split⟩ := occurs.2
  rw [← List.getElem?_drop, ← split, List.getElem?_append_left inside]

omit [DecidableEq α] in
theorem occursAt_drop {pat text : List α} {i start : Nat} (inside : start ≤ i)
    (occurs : OccursAt pat text i) : OccursAt pat (text.drop start) (i - start) := by
  obtain ⟨bound, here⟩ := occurs
  refine ⟨by simp only [List.length_drop]; omega, ?_⟩
  rwa [List.drop_drop, Nat.add_sub_cancel' inside]

omit [DecidableEq α] in
theorem occursAt_of_drop {pat text : List α} {i start : Nat} (nonempty : pat ≠ [])
    (occurs : OccursAt pat (text.drop start) i) : OccursAt pat text (start + i) := by
  obtain ⟨_, here⟩ := occurs
  rw [List.drop_drop] at here
  refine ⟨?_, here⟩
  -- behind the end of the text only the empty pattern occurs
  by_contra beyond
  rw [List.drop_eq_nil_of_le (by omega)] at here
  exact nonempty (List.prefix_nil.mp here)

end VllmRoute.Lib
