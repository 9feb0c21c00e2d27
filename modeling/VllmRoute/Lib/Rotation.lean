import Mathlib.Algebra.Ring.Periodic
import Mathlib.Data.Nat.Count

/-!
# Fair rotations

A server walks the positions of a periodic schedule. A turn starts at some
position, passes over positions whose class has nothing waiting, and serves
the class at the last position it reaches. A class that is waiting at every
turn of a stretch is never passed over, so a stretch of one period's length
serves it at least as often as the schedule names it.
-/
namespace VllmRoute.Lib

variable {κ : Type*} (sched : ℕ → κ)

/-- A turn from position `a` that ends before position `b`. -/
structure Turn (waiting : κ → Prop) (a b : ℕ) : Prop where
  forward : a < b
  passed : ∀ i, a ≤ i → i + 1 < b → ¬ waiting (sched i)

/-- Consecutive turns from `a` to `b`, at each of which `c` is waiting, with the
classes they serve. -/
inductive Turns (c : κ) : ℕ → List κ → ℕ → Prop where
  | nil (a : ℕ) : Turns c a [] a
  | cons {waiting : κ → Prop} {a b d : ℕ} {served : List κ} (turn : Turn sched waiting a b)
      (ready : waiting c) (rest : Turns c b served d) : Turns c a (sched (b - 1) :: served) d

variable {sched} {c : κ} {a d : ℕ} {served : List κ}

theorem Turns.forward (turns : Turns sched c a served d) : a + served.length ≤ d := by
  induction turns with
  | nil a => simp
  | cons turn _ _ ih =>
    have := turn.forward
    simp only [List.length_cons]
    omega

variable [DecidableEq κ]

/-- A turn visits the positions of a waiting class only to serve it. -/
theorem Turn.count {waiting : κ → Prop} {b : ℕ} (turn : Turn sched waiting a b)
    (ready : waiting c) :
    Nat.count (sched · = c) b = Nat.count (sched · = c) a + if sched (b - 1) = c then 1 else 0 := by
  obtain ⟨k, rfl⟩ : ∃ k, b = a + (k + 1) := ⟨b - a - 1, by have := turn.forward; omega⟩
  -- the positions before the last were passed over, so none of them names `c`
  have quiet : Nat.count (fun i => sched (a + i) = c) k = 0 := by
    rw [Nat.count_eq_card_filter_range, Finset.card_eq_zero, Finset.filter_eq_empty_iff]
    intro i member named
    have below := Finset.mem_range.mp member
    exact turn.passed (a + i) (by omega) (by omega) (named ▸ ready)
  rw [Nat.count_add, Nat.count_succ, quiet, Nat.zero_add]
  rfl

theorem Turns.count (turns : Turns sched c a served d) :
    Nat.count (sched · = c) d = Nat.count (sched · = c) a + served.count c := by
  induction turns with
  | nil a => simp
  | cons turn ready _ ih =>
    rw [ih, turn.count ready, List.count_cons]
    simp only [beq_iff_eq]
    omega

/-- A window of one period holds each class equally often, wherever it starts. -/
theorem count_add_period {period : ℕ} (periodic : Function.Periodic sched period) (a : ℕ) :
    Nat.count (sched · = c) (a + period) =
      Nat.count (sched · = c) a + Nat.count (sched · = c) period := by
  induction a with
  | zero => simp
  | succ a ih =>
    have slid : a + 1 + period = a + period + 1 := by omega
    rw [slid, Nat.count_succ, Nat.count_succ, ih, periodic a]
    omega

/-- A stretch of turns as long as the period serves a waiting class its full share. -/
theorem Turns.share {period : ℕ} (periodic : Function.Periodic sched period)
    (turns : Turns sched c a served d) (long : period ≤ served.length) :
    Nat.count (sched · = c) period ≤ served.count c := by
  have forward := turns.forward
  have counted := turns.count
  -- the stretch covers at least the window of one period from `a`
  have window := count_add_period (c := c) periodic a
  have monotone := Nat.count_monotone (sched · = c) (show a + period ≤ d by omega)
  omega

end VllmRoute.Lib
