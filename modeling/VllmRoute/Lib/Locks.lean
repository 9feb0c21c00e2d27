import Mathlib.Logic.Relation
import VllmRoute.Lib.Run

/-!
# Mutexes in scopes

Code that locks mutexes by guards, each of which is released at the end of its
scope. The mutexes of a thread form a stack then, and what is left to do is a
stack of scopes. A thread that waits for the end of another one can be seen as
one that locks a mutex, which the other one holds as long as it runs.

If all guards lock mutexes of a higher rank than those that their thread holds,
the threads are never caught in waiting for each other: no chain of threads of
which each waits for a mutex of the next one comes back to where it began, and
at its end there is a thread that goes on.
-/
namespace VllmRoute.Lib

/-- What code does with mutexes. A choice stands for a branch, and a loop is left at any time. -/
inductive Locking (M : Type) where
  | skip
  | seq (first second : Locking M)
  | either (first second : Locking M)
  | loop (body : Locking M)
  | guard (mutexes : List M) (body : Locking M)

namespace Locking

variable {M : Type}

def block (codes : List (Locking M)) : Locking M := codes.foldr seq skip

/-- The ranks above those of the mutexes, and not below `low`. -/
def above (rank : M → Nat) (mutexes : List M) (low : Nat) : Nat :=
  mutexes.foldr (fun m high => max (rank m + 1) high) low

/-- All guards lock mutexes of rank `low` at least, and guards inside of them higher ones. -/
def ordered (rank : M → Nat) (low : Nat) : Locking M → Bool
  | skip => true
  | seq first second => first.ordered rank low && second.ordered rank low
  | either first second => first.ordered rank low && second.ordered rank low
  | loop body => body.ordered rank low
  | guard mutexes body =>
    mutexes.all (fun m => decide (low ≤ rank m)) && body.ordered rank (above rank mutexes low)

@[simp] theorem ordered_block_nil (rank : M → Nat) (low : Nat) :
    (block ([] : List (Locking M))).ordered rank low = true := rfl

@[simp] theorem ordered_block_cons (rank : M → Nat) (low : Nat) (code : Locking M)
    (codes : List (Locking M)) : (block (code :: codes)).ordered rank low =
      (code.ordered rank low && (block codes).ordered rank low) := rfl

theorem ordered_block_map {α : Type} {rank : M → Nat} {low : Nat} {f : α → Locking M}
    (each : ∀ x, (f x).ordered rank low = true) (xs : List α) :
    (block (xs.map f)).ordered rank low = true := by
  induction xs with
  | nil => rfl
  | cons x xs ih => rw [List.map_cons, ordered_block_cons, each, ih, Bool.and_self]

/-! ### Threads -/

/-- What a thread is to do next: some code, or the release of mutexes at the end of a scope. -/
inductive Frame (M : Type) where
  | code (c : Locking M)
  | release (mutexes : List M)

/-- The mutexes of a thread with these frames. -/
def held : List (Frame M) → List M
  | [] => []
  | .code _ :: frames => held frames
  | .release mutexes :: frames => mutexes ++ held frames

/-- The first step of a thread, at which `go` decides about branches and loops. -/
def advance (free : M → Bool) (go : Bool) : List (Frame M) → Option (List (Frame M))
  | [] => none
  | .release _ :: frames => some frames
  | .code skip :: frames => some frames
  | .code (seq first second) :: frames => some (.code first :: .code second :: frames)
  | .code (either first second) :: frames =>
    some (.code (if go then first else second) :: frames)
  | .code (loop body) :: frames =>
    some (if go then .code body :: .code (loop body) :: frames else frames)
  | .code (guard mutexes body) :: frames =>
    if mutexes.all free then some (.code body :: .release mutexes :: frames) else none

variable [DecidableEq M]

def isFree (threads : List (List (Frame M))) (m : M) : Bool :=
  threads.all fun frames => decide (m ∉ held frames)

/-- The step of one of the threads. -/
def step (threads : List (List (Frame M))) (event : Nat × Bool) :
    Option (List (List (Frame M))) :=
  threads[event.1]?.bind fun frames =>
    (advance (isFree threads) event.2 frames).map (threads.set event.1)

theorem step_some {threads threads' : List (List (Frame M))} {event : Nat × Bool}
    (taken : step threads event = some threads') :
    ∃ frames frames', threads[event.1]? = some frames ∧
      advance (isFree threads) event.2 frames = some frames' ∧
      threads' = threads.set event.1 frames' := by
  obtain ⟨frames, found, moved⟩ := Option.bind_eq_some_iff.mp taken
  obtain ⟨frames', advanced, rfl⟩ := Option.map_eq_some_iff.mp moved
  exact ⟨frames, frames', found, advanced, rfl⟩

/-! ### The order of the mutexes -/

omit [DecidableEq M]

variable {rank : M → Nat} {free : M → Bool} {frames frames' : List (Frame M)}

/-- The rank from which on a thread may lock. -/
def floor (rank : M → Nat) : List (Frame M) → Nat
  | [] => 0
  | .code _ :: frames => floor rank frames
  | .release mutexes :: frames => above rank mutexes (floor rank frames)

/-- The code of a thread is ordered, above the mutexes that are held while it runs. -/
def Fits (rank : M → Nat) : List (Frame M) → Prop
  | [] => True
  | .code c :: frames => c.ordered rank (floor rank frames) = true ∧ Fits rank frames
  | .release _ :: frames => Fits rank frames

theorem le_above (mutexes : List M) (low : Nat) : low ≤ above rank mutexes low := by
  induction mutexes with
  | nil => exact Nat.le_refl low
  | cons m mutexes ih => exact Nat.le_trans ih (Nat.le_max_right _ _)

theorem lt_above {mutexes : List M} {m : M} (member : m ∈ mutexes) (low : Nat) :
    rank m < above rank mutexes low := by
  induction mutexes with
  | nil => cases member
  | cons first mutexes ih =>
    rcases List.mem_cons.mp member with rfl | later
    · exact Nat.le_max_left _ _
    · exact Nat.lt_of_lt_of_le (ih later) (Nat.le_max_right _ _)

theorem lt_floor {m : M} (member : m ∈ held frames) : rank m < floor rank frames := by
  induction frames with
  | nil => cases member
  | cons frame frames ih =>
    cases frame with
    | code c => exact ih member
    | release mutexes =>
      rcases List.mem_append.mp member with own | outer
      · exact lt_above own _
      · exact Nat.lt_of_lt_of_le (ih outer) (le_above mutexes _)

theorem Fits.advance {go : Bool} (fits : Fits rank frames)
    (advanced : Locking.advance free go frames = some frames') : Fits rank frames' := by
  match frames with
  | [] => cases advanced
  | .release _ :: frames =>
    cases advanced
    exact fits
  | .code skip :: frames =>
    cases advanced
    exact fits.2
  | .code (seq first second) :: frames =>
    cases advanced
    obtain ⟨own, rest⟩ := fits
    obtain ⟨before, after⟩ := Bool.and_eq_true_iff.mp own
    exact ⟨before, after, rest⟩
  | .code (either first second) :: frames =>
    cases advanced
    obtain ⟨own, rest⟩ := fits
    obtain ⟨yes, no⟩ := Bool.and_eq_true_iff.mp own
    cases go with
    | true => exact ⟨yes, rest⟩
    | false => exact ⟨no, rest⟩
  | .code (loop body) :: frames =>
    cases advanced
    cases go with
    | true => exact ⟨fits.1, fits⟩
    | false => exact fits.2
  | .code (guard mutexes body) :: frames =>
    obtain ⟨_, same⟩ := Option.ite_none_right_eq_some.mp advanced
    cases same
    obtain ⟨own, rest⟩ := fits
    exact ⟨(Bool.and_eq_true_iff.mp own).2, rest⟩

/-! ### Waiting -/

/-- The thread `i` is about to lock a mutex that the thread `j` holds. -/
def Waits (threads : List (List (Frame M))) (i j : Nat) : Prop :=
  ∃ mutexes body frames holder m, threads[i]? = some (.code (guard mutexes body) :: frames) ∧
    threads[j]? = some holder ∧ m ∈ mutexes ∧ m ∈ held holder

/-- The rank from which on the thread `i` may lock. -/
def floorAt (rank : M → Nat) (threads : List (List (Frame M))) (i : Nat) : Nat :=
  (threads[i]?.map (floor rank)).getD 0

variable {threads threads' : List (List (Frame M))}

/-- Who waits has lower mutexes than who is waited for. -/
theorem Waits.floorAt_lt (fits : ∀ frames ∈ threads, Fits rank frames) {i j : Nat}
    (waits : Waits threads i j) : floorAt rank threads i < floorAt rank threads j := by
  obtain ⟨mutexes, body, frames, holder, m, found, found', wanted, holds⟩ := waits
  have own := (fits _ (List.mem_of_getElem? found)).1
  have high := List.all_eq_true.mp (Bool.and_eq_true_iff.mp own).1 m wanted
  have low : rank m < floor rank holder := lt_floor holds
  simp only [floorAt, found, found', Option.map_some, Option.getD_some, floor]
  exact Nat.lt_of_le_of_lt (of_decide_eq_true high) low

theorem transGen_floorAt_lt (fits : ∀ frames ∈ threads, Fits rank frames) {i j : Nat}
    (chain : Relation.TransGen (Waits threads) i j) :
    floorAt rank threads i < floorAt rank threads j := by
  induction chain with
  | single waits => exact waits.floorAt_lt fits
  | tail _ waits ih => exact Nat.lt_trans ih (waits.floorAt_lt fits)

theorem floorAt_le (rank : M → Nat) (threads : List (List (Frame M))) :
    ∃ bound, ∀ i, floorAt rank threads i ≤ bound := by
  induction threads with
  | nil => exact ⟨0, fun i => Nat.le_refl 0⟩
  | cons frames threads ih =>
    obtain ⟨bound, least⟩ := ih
    refine ⟨max (floor rank frames) bound, fun i => ?_⟩
    cases i with
    | zero => exact Nat.le_max_left _ _
    | succ i => exact Nat.le_trans (least i) (Nat.le_max_right _ _)

variable [DecidableEq M]

/-- A thread that cannot go on waits for one that is there. -/
theorem exists_waits {i : Nat} (found : threads[i]? = some frames) (unfinished : frames ≠ [])
    {go : Bool} (blocked : step threads (i, go) = none) :
    ∃ j holder, Waits threads i j ∧ threads[j]? = some holder ∧ holder ≠ [] := by
  rw [step, found, Option.bind_some, Option.map_eq_none_iff] at blocked
  match frames with
  | [] => exact absurd rfl unfinished
  | .release _ :: _ | .code skip :: _ | .code (seq _ _) :: _ | .code (either _ _) :: _
  | .code (loop _) :: _ => cases blocked
  | .code (guard mutexes body) :: frames =>
    have locked : ¬ mutexes.all (isFree threads) = true := by
      intro all
      rw [advance, if_pos all] at blocked
      cases blocked
    obtain ⟨m, wanted, taken⟩ : ∃ m ∈ mutexes, isFree threads m = false := by simpa using locked
    obtain ⟨holder, member, holds⟩ : ∃ holder ∈ threads, m ∈ held holder := by
      simpa [isFree] using taken
    obtain ⟨j, found'⟩ := List.getElem?_of_mem member
    refine ⟨j, holder, ⟨mutexes, body, frames, holder, m, found, found', wanted, holds⟩, found', ?_⟩
    rintro rfl
    cases holds

/-- At the end of the chain of those that a thread waits for, one can go on. -/
theorem exists_goes_on (fits : ∀ frames ∈ threads, Fits rank frames) {i : Nat}
    (found : threads[i]? = some frames) (unfinished : frames ≠ []) (go : Bool) :
    ∃ j, Relation.ReflTransGen (Waits threads) i j ∧ (step threads (j, go)).isSome = true := by
  obtain ⟨bound, least⟩ := floorAt_le rank threads
  -- the ranks go up along the chain, and they are bounded
  induction size : bound - floorAt rank threads i using Nat.strong_induction_on
    generalizing i frames with
  | _ n ih =>
    cases taken : step threads (i, go) with
    | some threads' => exact ⟨i, .refl, by rw [taken]; rfl⟩
    | none =>
      obtain ⟨j, holder, waits, found', busy⟩ := exists_waits found unfinished taken
      have higher := waits.floorAt_lt fits
      have bounded := least j
      obtain ⟨k, chain, goes⟩ := ih _ (by omega) found' busy rfl
      exact ⟨k, .head waits chain, goes⟩

/-! ### Runs -/

theorem step_fits {event : Nat × Bool} (taken : step threads event = some threads')
    (fits : ∀ frames ∈ threads, Fits rank frames) : ∀ frames ∈ threads', Fits rank frames := by
  obtain ⟨frames, frames', found, advanced, rfl⟩ := step_some taken
  intro other member
  rcases List.mem_or_eq_of_mem_set member with old | rfl
  · exact fits other old
  · exact (fits frames (List.mem_of_getElem? found)).advance advanced

/-- Threads whose guards are ordered never wait for each other in a circle, and whatever one of
them waits for, there is one that goes on. -/
theorem ordered_never_deadlocks (rank : M → Nat) {codes : List (Locking M)}
    (ordered : ∀ code ∈ codes, code.ordered rank 0 = true) {events : List (Nat × Bool)}
    (reached : run step (codes.map fun code => [.code code]) events = some threads) :
    (∀ i, ¬ Relation.TransGen (Waits threads) i i) ∧
      ∀ (i : Nat) (frames : List (Frame M)) (go : Bool), threads[i]? = some frames →
        frames ≠ [] → ∃ j, Relation.ReflTransGen (Waits threads) i j ∧
          (step threads (j, go)).isSome = true := by
  have initial : ∀ frames ∈ codes.map fun code => [.code code], Fits rank frames := by
    intro frames member
    obtain ⟨code, listed, rfl⟩ := List.mem_map.mp member
    exact ⟨ordered code listed, trivial⟩
  have fits := run_invariant step (fun threads => ∀ frames ∈ threads, Fits rank frames)
    (fun _ _ _ taken fits => step_fits taken fits) _ _ events reached initial
  constructor
  · intro i circle
    exact Nat.lt_irrefl _ (transGen_floorAt_lt fits circle)
  · intro i frames go found unfinished
    exact exists_goes_on fits found unfinished go

end Locking

end VllmRoute.Lib
