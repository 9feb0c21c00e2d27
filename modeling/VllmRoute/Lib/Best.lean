import Mathlib.Data.List.MinMax
import Mathlib.Data.Prod.Lex

/-!
# A running best under two keys

One pass over a list that keeps the best element so far: a lower rank wins, and
within a rank a higher score. An element of a better rank displaces the best
one before it is known to be usable itself. If every element is usable, the
pass finds the first optimum, and otherwise it depends on the order of the list
whether it finds anything.
-/
namespace VllmRoute.Lib

section FirstMinimum

variable {α β : Type*} [LinearOrder β] [DecidableEq α]

/-- The least element is the first one that no other is below. -/
theorem argmin_eq_find? (f : α → β) (l : List α) :
    l.argmin f = l.find? fun x => l.all fun y => f x ≤ f y := by
  cases least : l.argmin f with
  | none => simp [List.argmin_eq_none.mp least]
  | some m =>
    obtain ⟨member, below, first⟩ := List.argmin_eq_some_iff.mp least
    have inside : l.idxOf m < l.length := List.idxOf_lt_length_of_mem member
    symm
    apply List.find?_eq_some_iff_getElem.mpr
    constructor
    · simpa using below
    · refine ⟨l.idxOf m, inside, List.getElem_idxOf inside, ?_⟩
      intro j before
      -- an earlier minimum would have been returned
      by_contra minimal
      have lowest : ∀ y ∈ l, f l[j] ≤ f y := by simpa using minimal
      have among : l[j] ∈ l := List.getElem_mem _
      have earlier : l.idxOf l[j] < l.idxOf m := (List.mem_take_iff_idxOf_lt among).mp
        (List.mem_take_iff_getElem.mpr ⟨j, by omega, rfl⟩)
      have later : l.idxOf m ≤ l.idxOf l[j] := first l[j] among (lowest m member)
      omega

end FirstMinimum

section RunningBest

variable {α ρ σ : Type*} [LinearOrder ρ] [LinearOrder σ]
variable (usable : α → Bool) (rank : α → ρ) (score : α → σ)

/-- One element of the pass. -/
def bestStep (best : Option α) (x : α) : Option α :=
  match best with
  | none => if usable x then some x else none
  | some b =>
    if rank b < rank x then some b
    -- the old best is gone, whatever becomes of the new element
    else if rank x < rank b then (if usable x then some x else none)
    else if usable x && score b < score x then some x else some b

/-- The rank first, then the score the other way round. -/
def preference (x : α) : ρ ×ₗ σᵒᵈ := toLex (rank x, OrderDual.toDual (score x))

theorem preference_le_iff (x y : α) : preference rank score x ≤ preference rank score y ↔
    rank x < rank y ∨ (rank x = rank y ∧ score y ≤ score x) := by
  simp [preference, Prod.Lex.toLex_le_toLex]

/-- The first of the elements with the best rank and, within it, the best score. -/
def firstBest (l : List α) : Option α := l.argmin (preference rank score)

theorem firstBest_eq_none_iff (l : List α) : firstBest rank score l = none ↔ l = [] :=
  List.argmin_eq_none

theorem firstBest_eq_find? [DecidableEq α] (l : List α) : firstBest rank score l =
    l.find? fun x => l.all fun y =>
      rank x < rank y ∨ (rank x = rank y ∧ score y ≤ score x) := by
  rw [firstBest, argmin_eq_find?]
  simp only [preference_le_iff]

variable {usable rank}

/-- As long as everything is usable, the pass is the search for the first minimum. -/
theorem foldl_bestStep_usable (l : List α) (all : ∀ x ∈ l, usable x = true) :
    l.foldl (bestStep usable rank score) none = firstBest rank score l := by
  apply List.foldl_ext
  intro best x member
  have own := all x member
  cases best with
  | none => simp [bestStep, own, List.argAux]
  | some b =>
    have smaller : preference rank score x < preference rank score b ↔
        rank x < rank b ∨ (rank x = rank b ∧ score b < score x) := by
      simp [preference, Prod.Lex.toLex_lt_toLex]
    simp only [bestStep, own, List.argAux, smaller, Bool.true_and, if_true, decide_eq_true_eq]
    rcases lt_trichotomy (rank x) (rank b) with lower | same | higher
    · simp [lower, lower.not_gt]
    · simp [same]
    · simp [higher, higher.not_gt, higher.ne']

/-- An element that is usable or of no better rank leaves a best of the same rank or better. -/
theorem bestStep_keeps {b x : α} (fine : usable x = true ∨ rank b ≤ rank x) :
    ∃ b', bestStep usable rank score (some b) x = some b' ∧ rank b' ≤ rank b := by
  unfold bestStep
  dsimp only
  split
  · exact ⟨b, rfl, le_refl _⟩
  · split
    next lower =>
      rcases fine with own | notLower
      · rw [if_pos own]
        exact ⟨x, rfl, lower.le⟩
      · exact absurd lower notLower.not_gt
    next notLower notHigher =>
      split
      · exact ⟨x, rfl, not_lt.mp notLower⟩
      · exact ⟨b, rfl, le_refl _⟩

/-- A usable element leaves a best of its own rank or better. -/
theorem bestStep_usable (best : Option α) {x : α} (own : usable x = true) :
    ∃ b, bestStep usable rank score best x = some b ∧ rank b ≤ rank x := by
  cases best with
  | none => exact ⟨x, if_pos own, le_refl _⟩
  | some a =>
    rcases lt_trichotomy (rank a) (rank x) with higher | same | lower
    · exact ⟨a, if_pos higher, higher.le⟩
    · have fine : usable x = true ∨ rank a ≤ rank x := Or.inl own
      obtain ⟨b, found, better⟩ := bestStep_keeps score fine
      exact ⟨b, found, same ▸ better⟩
    · simp [bestStep, own, lower, lower.not_gt]

/-- Once there is a best, only an unusable element of a better rank takes it away. -/
theorem foldl_bestStep_keeps {b : α} (l : List α)
    (fine : ∀ x ∈ l, usable x = false → rank b ≤ rank x) :
    ∃ b', l.foldl (bestStep usable rank score) (some b) = some b' ∧ rank b' ≤ rank b := by
  induction l generalizing b with
  | nil => exact ⟨b, rfl, le_refl _⟩
  | cons x rest ih =>
    have here : usable x = true ∨ rank b ≤ rank x := by
      cases own : usable x with
      | true => exact Or.inl rfl
      | false => exact Or.inr (fine x List.mem_cons_self own)
    obtain ⟨c, stepped, better⟩ := bestStep_keeps score here
    obtain ⟨b', found, best⟩ := @ih c fun y member unusable =>
      better.trans (fine y (List.mem_cons_of_mem x member) unusable)
    exact ⟨b', by rw [List.foldl_cons, stepped, found], best.trans better⟩

/-- The best has its place in the list, and no unusable element behind it has a better rank. -/
theorem foldl_bestStep_some (l : List α) (b : α)
    (found : l.foldl (bestStep usable rank score) none = some b) :
    ∃ before after, l = before ++ b :: after ∧ usable b = true ∧
      ∀ x ∈ after, usable x = false → rank b ≤ rank x := by
  induction l using List.reverseRecOn generalizing b with
  | nil => cases found
  | append_singleton l x ih =>
    rw [List.foldl_append] at found
    have last (own : usable x = true) (same : x = b) : ∃ before after,
        l ++ [x] = before ++ b :: after ∧ usable b = true ∧
          ∀ y ∈ after, usable y = false → rank b ≤ rank y := by
      subst same
      exact ⟨l, [], rfl, own, by simp⟩
    cases best : l.foldl (bestStep usable rank score) none with
    | none =>
      simp only [best, List.foldl_cons, List.foldl_nil, bestStep, Option.ite_none_right_eq_some,
        Option.some.injEq] at found
      exact last found.1 found.2
    | some a =>
      -- the old best survives an unusable element of no better rank, which goes behind it
      have old (notLower : usable x = false → rank a ≤ rank x) (same : a = b) :
          ∃ before after, l ++ [x] = before ++ b :: after ∧ usable b = true ∧
            ∀ y ∈ after, usable y = false → rank b ≤ rank y := by
        subst same
        obtain ⟨before, after, split, own, behind⟩ := ih a best
        refine ⟨before, after ++ [x], by simp [split], own, fun y member unusable => ?_⟩
        rcases List.mem_append.mp member with earlier | new
        · exact behind y earlier unusable
        · cases List.mem_singleton.mp new
          exact notLower unusable
      simp only [best, List.foldl_cons, List.foldl_nil, bestStep] at found
      split at found
      next higher => exact old (fun _ => higher.le) (Option.some.inj found)
      next notHigher =>
        split at found
        next lower =>
          rw [Option.ite_none_right_eq_some, Option.some.injEq] at found
          exact last found.1 found.2
        next notLower =>
          split at found
          next better =>
            exact last (Bool.and_eq_true_iff.mp better).1 (Option.some.inj found)
          · exact old (fun _ => not_lt.mp notLower) (Option.some.inj found)

/-- The pass finds something exactly if some usable element has no unusable one of a better
rank behind it. -/
theorem foldl_bestStep_isSome_iff (l : List α) :
    (l.foldl (bestStep usable rank score) none).isSome = true ↔
      ∃ before x after, l = before ++ x :: after ∧ usable x = true ∧
        ∀ y ∈ after, usable y = false → rank x ≤ rank y := by
  rw [Option.isSome_iff_exists]
  constructor
  · rintro ⟨b, found⟩
    obtain ⟨before, after, found⟩ := foldl_bestStep_some score l b found
    exact ⟨before, b, after, found⟩
  · rintro ⟨before, x, after, rfl, own, behind⟩
    obtain ⟨b, stepped, better⟩ := @bestStep_usable _ _ _ _ _ usable rank score
      (before.foldl (bestStep usable rank score) none) x own
    have fine : ∀ y ∈ after, usable y = false → rank b ≤ rank y :=
      fun y member unusable => better.trans (behind y member unusable)
    obtain ⟨b', found, _⟩ := foldl_bestStep_keeps score after fine
    exact ⟨b', by rw [List.foldl_append, List.foldl_cons, stepped, found]⟩

variable (among : α → Bool)

/-- The same for a pass over some of the elements. -/
theorem filter_bestStep_isSome_iff (l : List α) :
    ((l.filter among).foldl (bestStep usable rank score) none).isSome = true ↔
      ∃ before x after, l = before ++ x :: after ∧ among x = true ∧ usable x = true ∧
        ∀ y ∈ after, among y = true → usable y = false → rank x ≤ rank y := by
  rw [foldl_bestStep_isSome_iff]
  constructor
  · rintro ⟨before, x, after, listed, own, behind⟩
    obtain ⟨front, rest, rfl, -, listed⟩ := List.filter_eq_append_iff.mp listed
    obtain ⟨skipped, tail, rfl, -, known, rfl⟩ := List.filter_eq_cons_iff.mp listed
    refine ⟨front ++ skipped, x, tail, by simp, known, own, fun y member concerned => ?_⟩
    exact behind y (List.mem_filter.mpr ⟨member, concerned⟩)
  · rintro ⟨before, x, after, rfl, known, own, behind⟩
    refine ⟨before.filter among, x, after.filter among, by simp [known], own, fun y member => ?_⟩
    obtain ⟨member, concerned⟩ := List.mem_filter.mp member
    exact behind y member concerned

/-- It finds something in every order exactly if some usable element has the best rank. -/
theorem filter_bestStep_perm_iff (l : List α) :
    (∀ l' : List α, l'.Perm l →
        ((l'.filter among).foldl (bestStep usable rank score) none).isSome = true) ↔
      ∃ x ∈ l, among x = true ∧ usable x = true ∧
        ∀ y ∈ l, among y = true → usable y = false → rank x ≤ rank y := by
  simp only [filter_bestStep_isSome_iff]
  constructor
  · intro always
    -- the worst order has all unusable elements at the end
    have perm := List.filter_append_perm usable l
    obtain ⟨before, x, after, split, known, own, behind⟩ := always _ perm
    have member : x ∈ l := perm.subset (split ▸ by simp)
    refine ⟨x, member, known, own, fun y listed concerned unusable =>
      behind y ?_ concerned unusable⟩
    have unused : y ∈ l.filter fun y => !usable y := by simp [listed, unusable]
    rcases List.append_eq_append_iff.mp split with ⟨_, _, tail⟩ | ⟨_, _, tail⟩
    · have wrong : x ∈ l.filter fun y => !usable y := by simp [tail]
      simp [own] at wrong
    · have later : y ∈ x :: after := by simp [tail, unused]
      rcases List.mem_cons.mp later with rfl | later
      · simp [own] at unusable
      · exact later
  · rintro ⟨x, member, known, own, least⟩ l' perm
    obtain ⟨before, after, rfl⟩ := List.append_of_mem (perm.symm.subset member)
    exact ⟨before, x, after, rfl, known, own,
      fun y later => least y (perm.subset (by simp [later]))⟩

end RunningBest

end VllmRoute.Lib
