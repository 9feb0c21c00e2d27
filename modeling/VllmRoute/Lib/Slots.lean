import Mathlib.Data.List.Basic

/-!
# Tables of slots

A table marks the slots in use. `Slots` says that the marks cover what the
owners hold, and that no slot has two owners; `AllHeld` that nothing else is
marked. Taking a free slot and giving one back keep both.
-/
namespace VllmRoute.Lib

variable {Owner : Type*} {used : List Bool} {holds holds' : Owner → Nat → Prop} {x : Owner}
  {i j : Nat}

structure Slots (used : List Bool) (holds : Owner → Nat → Prop) : Prop where
  marked : ∀ {x i}, holds x i → used[i]? = some true
  distinct : ∀ {x y i}, holds x i → holds y i → x = y

/-- Every slot in use has an owner. -/
def AllHeld (used : List Bool) (holds : Owner → Nat → Prop) : Prop :=
  ∀ i, used[i]? = some true → ∃ x, holds x i

theorem Slots.mono (fewer : ∀ x i, holds' x i → holds x i) (slots : Slots used holds) :
    Slots used holds' where
  marked held := slots.marked (fewer _ _ held)
  distinct first second := slots.distinct (fewer _ _ first) (fewer _ _ second)

/-- Nobody holds a free slot. -/
theorem Slots.not_held (slots : Slots used holds) (free : used[i]? = some false) :
    ¬ holds x i := by
  intro held
  rw [slots.marked held] at free
  cases free

theorem Slots.take (slots : Slots used holds) (free : used[i]? = some false) (x : Owner) :
    Slots (used.set i true) fun y j => (y = x ∧ j = i) ∨ holds y j where
  marked := by
    rintro y j (⟨rfl, rfl⟩ | held)
    · simp [(List.getElem?_eq_some_iff.mp free).1]
    · have marked := slots.marked held
      by_cases same : i = j
      · simp [same, (List.getElem?_eq_some_iff.mp marked).1]
      · rw [List.getElem?_set_ne same, marked]
  distinct := by
    rintro y z j (⟨rfl, rfl⟩ | first) (⟨rfl, same⟩ | second)
    · rfl
    · exact absurd second (slots.not_held free)
    · exact absurd (same ▸ first) (slots.not_held free)
    · exact slots.distinct first second

theorem Slots.release (slots : Slots used holds) (i : Nat) :
    Slots (used.set i false) fun y j => holds y j ∧ j ≠ i where
  marked := by
    rintro y j ⟨held, other⟩
    rw [List.getElem?_set_ne (Ne.symm other), slots.marked held]
  distinct first second := slots.distinct first.1 second.1

theorem AllHeld.mono (more : ∀ x i, holds x i → holds' x i) (all : AllHeld used holds) :
    AllHeld used holds' := fun i marked => (all i marked).imp fun x => more x i

theorem AllHeld.take (all : AllHeld used holds) (x : Owner) (i : Nat) :
    AllHeld (used.set i true) fun y j => (y = x ∧ j = i) ∨ holds y j := by
  intro j marked
  by_cases same : i = j
  · exact ⟨x, Or.inl ⟨rfl, same.symm⟩⟩
  · rw [List.getElem?_set_ne same] at marked
    exact (all j marked).imp fun y => Or.inr

theorem AllHeld.release (all : AllHeld used holds) (i : Nat) :
    AllHeld (used.set i false) fun y j => holds y j ∧ j ≠ i := by
  intro j marked
  have other : i ≠ j := by
    rintro rfl
    simp [List.getElem?_set] at marked
  rw [List.getElem?_set_ne other] at marked
  obtain ⟨y, held⟩ := all j marked
  exact ⟨y, held, Ne.symm other⟩

end VllmRoute.Lib
