import Mathlib.Data.List.Infix

/-!
# Debounced signals

A signal with hysteresis over a history of outcomes: enough successes in a row
raise it, enough failures in a row lower it, and anything else leaves it where
it is. So the last stretch that was long enough decides.
-/
namespace VllmRoute.Lib

variable {b c : Bool} {n rise fall : Int} {h : List Bool}

/-- The number of outcomes `b` in a row at the end of the history. -/
def trailing (b : Bool) (h : List Bool) : Nat := (h.reverse.takeWhile (· == b)).length

@[simp] theorem trailing_nil : trailing b [] = 0 := rfl

theorem trailing_snoc : trailing b (h ++ [c]) = if c = b then trailing b h + 1 else 0 := by
  unfold trailing
  rw [List.reverse_concat, List.takeWhile_cons]
  by_cases same : c = b
  · simp [same]
  · simp [same]

/-- The history ends with at least `n` outcomes `b` in a row. -/
def Ends (b : Bool) (n : Int) (h : List Bool) : Prop := h.getLast? = some b ∧ n ≤ trailing b h

theorem not_ends_nil : ¬ Ends b n [] := fun ends => by cases ends.1

theorem ends_snoc : Ends b n (h ++ [c]) ↔ c = b ∧ n ≤ trailing b h + 1 := by
  unfold Ends
  rw [List.getLast?_concat, trailing_snoc, Option.some.injEq]
  constructor
  · rintro ⟨rfl, long⟩
    exact ⟨rfl, by simpa using long⟩
  · rintro ⟨rfl, long⟩
    exact ⟨rfl, by simpa using long⟩

/-- The signal is up: a long stretch of successes was followed by no long stretch of failures,
or it was up at first and there was no such stretch at all. -/
def Debounced (initial : Bool) (rise fall : Int) (h : List Bool) : Prop :=
  (∃ p, p <+: h ∧ Ends true rise p ∧
    ∀ q, q <+: h → p.length < q.length → ¬ Ends false fall q) ∨
  (initial = true ∧ ∀ q, q <+: h → ¬ Ends false fall q)

variable {initial : Bool}

theorem debounced_nil : Debounced initial rise fall [] ↔ initial = true := by
  constructor
  · rintro (⟨p, within, ends, _⟩ | ⟨up, _⟩)
    · rw [List.prefix_nil.mp within] at ends
      exact absurd ends not_ends_nil
    · exact up
  · intro up
    right
    constructor
    · exact up
    · intro q within
      rw [List.prefix_nil.mp within]
      exact not_ends_nil

/-- An outcome that ends no long stretch of failures takes nothing from the signal. -/
theorem Debounced.snoc (up : Debounced initial rise fall h)
    (short : ¬ Ends false fall (h ++ [c])) : Debounced initial rise fall (h ++ [c]) := by
  rcases up with ⟨p, within, ends, after⟩ | ⟨up, never⟩
  · left
    refine ⟨p, within.trans (List.prefix_append h [c]), ends, ?_⟩
    intro q within' longer
    rcases List.prefix_concat_iff.mp within' with rfl | within'
    · exact short
    · exact after q within' longer
  · right
    constructor
    · exact up
    · intro q within
      rcases List.prefix_concat_iff.mp within with rfl | within
      · exact short
      · exact never q within

/-- Where the signal is up and the last outcome has not raised it, it was up before. -/
theorem Debounced.of_snoc (up : Debounced initial rise fall (h ++ [c]))
    (unraised : ¬ Ends true rise (h ++ [c])) : Debounced initial rise fall h := by
  have earlier {q : List Bool} (within : q <+: h) : q <+: h ++ [c] :=
    within.trans (List.prefix_append h [c])
  rcases up with ⟨p, within, ends, after⟩ | ⟨up, never⟩
  · left
    rcases List.prefix_concat_iff.mp within with rfl | within
    · exact absurd ends unraised
    · exact ⟨p, within, ends, fun q within' => after q (earlier within')⟩
  · exact Or.inr ⟨up, fun q within => never q (earlier within)⟩

theorem debounced_success : Debounced initial rise fall (h ++ [true]) ↔
    rise ≤ trailing true h + 1 ∨ Debounced initial rise fall h := by
  have short : ¬ Ends false fall (h ++ [true]) := fun ends => by cases (ends_snoc.mp ends).1
  constructor
  · intro up
    by_cases raised : rise ≤ trailing true h + 1
    · exact Or.inl raised
    · exact Or.inr (up.of_snoc fun ends => raised (ends_snoc.mp ends).2)
  · rintro (raised | up)
    · left
      refine ⟨h ++ [true], List.prefix_rfl, ends_snoc.mpr ⟨rfl, raised⟩, ?_⟩
      intro q within longer
      exact absurd within.length_le (Nat.not_le.mpr longer)
    · exact up.snoc short

theorem debounced_failure : Debounced initial rise fall (h ++ [false]) ↔
    trailing false h + 1 < fall ∧ Debounced initial rise fall h := by
  have unraised : ¬ Ends true rise (h ++ [false]) := fun ends => by cases (ends_snoc.mp ends).1
  constructor
  · intro up
    constructor
    · by_contra long
      have ends : Ends false fall (h ++ [false]) := ends_snoc.mpr ⟨rfl, by omega⟩
      rcases up with ⟨p, within, raised, after⟩ | ⟨_, never⟩
      · -- a raise before the long stretch does not count any more
        rcases List.prefix_concat_iff.mp within with rfl | earlier
        · exact unraised raised
        · refine after _ List.prefix_rfl ?_ ends
          have bound := earlier.length_le
          rw [List.length_append, List.length_singleton]
          omega
      · exact never _ List.prefix_rfl ends
    · exact up.of_snoc unraised
  · rintro ⟨short, up⟩
    apply up.snoc
    intro ends
    have long := (ends_snoc.mp ends).2
    omega

end VllmRoute.Lib
