import Mathlib.Data.List.Chain
import VllmRoute.Lib.Run
import VllmRoute.Scheduler.Queue

/-!
# Draining the priority queue

Runs of admissions and pops, in any interleaving of producers and workers, with
the log of what was pushed and popped. Nothing is lost, invented or popped
twice, and each class gets its share of every stretch of nine pops.
-/
namespace VllmRoute.Scheduler

open Lib

/-- What a step does to the queue and its log. -/
theorem Drain.step_cases (highPriorityThreshold : Int) (s s' : Drain) (e : QueueEvent)
    (taken : s.step highPriorityThreshold e = some s') :
    s' = s ∨
      (∃ req, s' = { s with
        queue := { s.queue with pending := s.queue.pending ++ [req] }
        pushed := s.pushed ++ [req] }) ∨
      (∃ req queue, popNextRequest highPriorityThreshold s.queue = some (req, queue) ∧
        s' = { s with queue := queue, pops := s.pops ++ [⟨s.queue, req, queue⟩] }) := by
  cases e with
  | push limits req =>
    cases refused : rejection limits s.queue req with
    | some error =>
      simp [step, enqueue, refused] at taken
      exact Or.inl taken.symm
    | none =>
      simp [step, enqueue, refused] at taken
      exact Or.inr (Or.inl ⟨req, taken.symm⟩)
  | pop =>
    simp only [step, Option.map_eq_some_iff] at taken
    obtain ⟨⟨req, queue⟩, popped, rfl⟩ := taken
    exact Or.inr (Or.inr ⟨req, queue, popped, rfl⟩)

/-- The slot is one of the schedule, and the requests popped and pending are those
pushed. -/
structure Drain.Conserved (s : Drain) : Prop where
  slot : s.queue.scheduleSlot < kScheduleSize
  perm : (s.pops.map Pop.taken ++ s.queue.pending).Perm s.pushed

/-- The rotation stands where the last pop left it. -/
structure Drain.Rotating (highPriorityThreshold : Int) (s : Drain) : Prop where
  popped : ∀ p ∈ s.pops, popNextRequest highPriorityThreshold p.before = some (p.taken, p.after) ∧
    p.before.scheduleSlot < kScheduleSize
  chained : s.pops.IsChain fun p next => next.before.scheduleSlot = p.after.scheduleSlot
  current : ∀ p ∈ s.pops.getLast?, s.queue.scheduleSlot = p.after.scheduleSlot

theorem Drain.step_conserved (highPriorityThreshold : Int) (s s' : Drain) (e : QueueEvent)
    (taken : s.step highPriorityThreshold e = some s') (before : s.Conserved) : s'.Conserved := by
  obtain ⟨slot, perm⟩ := before
  rcases s.step_cases highPriorityThreshold s' e taken with
    rfl | ⟨req, rfl⟩ | ⟨req, queue, popped, rfl⟩
  · exact ⟨slot, perm⟩
  · refine ⟨slot, ?_⟩
    simpa [← List.append_assoc] using perm.append_right [req]
  · -- the popped request goes from the pending ones to the log
    obtain ⟨moved, slot'⟩ := popNextRequest_perm highPriorityThreshold _ _ _ slot popped
    refine ⟨slot', ?_⟩
    simp only [List.map_append, List.map_cons, List.map_nil, List.append_assoc,
      List.singleton_append]
    exact (moved.append_left _).trans perm

theorem Drain.step_rotating (highPriorityThreshold : Int) (s s' : Drain) (e : QueueEvent)
    (taken : s.step highPriorityThreshold e = some s') (slot : s.queue.scheduleSlot < kScheduleSize)
    (before : s.Rotating highPriorityThreshold) : s'.Rotating highPriorityThreshold := by
  obtain ⟨popped, chained, current⟩ := before
  rcases s.step_cases highPriorityThreshold s' e taken with
    rfl | ⟨req, rfl⟩ | ⟨req, queue, pop, rfl⟩
  · exact ⟨popped, chained, current⟩
  · -- a push does not move the slot
    exact ⟨popped, chained, current⟩
  · refine ⟨?_, ?_, by simp⟩
    · intro p member
      rcases List.mem_append.mp member with old | new
      · exact popped p old
      · exact List.mem_singleton.mp new ▸ ⟨pop, slot⟩
    · refine chained.append (List.isChain_singleton _) ?_
      intro p last next first
      simp only [List.head?_cons, Option.mem_def, Option.some.injEq] at first
      exact first ▸ current p last

/-- A stretch of pops before each of which the class is waiting is a stretch of
turns of the rotation. -/
theorem pops_turns (highPriorityThreshold : Int) (c : Nat) (w : List Pop)
    (popped : ∀ p ∈ w, popNextRequest highPriorityThreshold p.before = some (p.taken, p.after))
    (chained : w.IsChain fun p next => next.before.scheduleSlot = p.after.scheduleSlot)
    (waiting : ∀ p ∈ w, Waiting highPriorityThreshold p.before.pending c) (a : Nat)
    (start : ∀ p ∈ w.head?, p.before.scheduleSlot = a % kScheduleSize) :
    ∃ d, Turns scheduled c a
      (w.map fun p => priorityClass p.taken.priority highPriorityThreshold) d := by
  -- along the stretch, with the slot that each pop leaves to the next one
  induction w generalizing a with
  | nil => exact ⟨a, Turns.nil a⟩
  | cons p w ih =>
    have pop := popped p (by simp)
    obtain ⟨_, _, b, q', _, pop', _, _, slot', turn, best⟩ := popNextRequest_spec
      highPriorityThreshold p.before a (start p (by simp))
      (popNextRequest_nonempty highPriorityThreshold _ _ _ pop)
    cases pop.symm.trans pop'
    have ⟨first, rest⟩ := List.isChain_cons.mp chained
    obtain ⟨d, turns⟩ := ih (fun p member => popped p (by simp [member])) rest
      (fun p member => waiting p (by simp [member])) b
      (fun next member => (first next member).trans slot')
    -- the class that was served is the one of the popped request
    have step := Turns.cons turn (waiting p (by simp)) turns
    rw [← best.ofClass] at step
    exact ⟨d, step⟩

/-- The share of a class in nine pops. -/
def share : Nat → Nat
  | 0 => 5
  | 1 => 3
  | 2 => 1
  | _ => 0

theorem share_le_count (c : Nat) : share c ≤ Nat.count (scheduled · = c) kScheduleSize := by
  match c with
  | 0 | 1 | 2 => decide
  | c + 3 => exact Nat.zero_le _

theorem scheduled_periodic : Function.Periodic scheduled kScheduleSize := by
  intro i
  simp [scheduled]

theorem run_drained (highPriorityThreshold : Int) (events : List QueueEvent) (s : Drain)
    (ran : run (Drain.step highPriorityThreshold) {} events = some s) :
    s.Conserved ∧ s.Rotating highPriorityThreshold := by
  apply run_invariant (Drain.step highPriorityThreshold)
    (fun s => s.Conserved ∧ s.Rotating highPriorityThreshold) _ {} s events ran
  · exact ⟨⟨by decide, List.Perm.refl _⟩, by simp, List.isChain_nil, by simp⟩
  · rintro s e s' taken ⟨conserved, rotating⟩
    exact ⟨s.step_conserved highPriorityThreshold s' e taken conserved,
      s.step_rotating highPriorityThreshold s' e taken conserved.slot rotating⟩

/-- Over every run of pushes and pops: what was popped, together with what is
pending, is what was pushed; a pop of a non-empty queue returns the best
request of one class, found by the scan and not by the fallback; and in nine
consecutive pops before each of which a class was waiting, the class has its
share. -/
theorem weighted_fair_draining (highPriorityThreshold : Int) (events : List QueueEvent) (s : Drain)
    (ran : run (Drain.step highPriorityThreshold) {} events = some s) :
    (s.pops.map Pop.taken ++ s.queue.pending).Perm s.pushed ∧
      (s.queue.pending ≠ [] → ∃ req queue,
        popNextRequest highPriorityThreshold s.queue = some (req, queue) ∧
        (∃ i slot, scanSchedule highPriorityThreshold s.queue.pending kScheduleSize
          s.queue.scheduleSlot = (some (req, i), slot)) ∧
        ∃ c, IsBest c highPriorityThreshold s.queue.pending req) ∧
      ∀ c w, w <:+: s.pops → w.length = 9 →
        (∀ p ∈ w, Waiting highPriorityThreshold p.before.pending c) →
        share c ≤ w.countP fun p => priorityClass p.taken.priority highPriorityThreshold == c := by
  obtain ⟨conserved, rotating⟩ := run_drained highPriorityThreshold events s ran
  refine ⟨conserved.perm, fun nonempty => ?_, fun c w stretch nine waiting => ?_⟩
  · -- a pending request has a class, and the scan goes through all of them
    obtain ⟨req, i, b, q', scanned, popped, _, _, _, _, best⟩ := popNextRequest_spec
      highPriorityThreshold s.queue s.queue.scheduleSlot (Nat.mod_eq_of_lt conserved.slot).symm
      nonempty
    exact ⟨req, q', popped, ⟨i, _, scanned⟩, _, best⟩
  · have inside (p : Pop) (member : p ∈ w) : p ∈ s.pops := stretch.subset member
    -- the stretch starts at the slot its first pop found
    obtain ⟨a, start⟩ : ∃ a, ∀ p ∈ w.head?, p.before.scheduleSlot = a % kScheduleSize := by
      cases w with
      | nil => exact ⟨0, by simp⟩
      | cons p w =>
        refine ⟨p.before.scheduleSlot, ?_⟩
        simpa using (Nat.mod_eq_of_lt (rotating.popped p (inside p (by simp))).2).symm
    have chained := List.IsChain.infix rotating.chained stretch
    obtain ⟨d, turns⟩ := pops_turns highPriorityThreshold c w
      (fun p member => (rotating.popped p (inside p member)).1) chained waiting a start
    have shared := turns.share scheduled_periodic (by simp [nine, kScheduleSize])
    rw [List.count_eq_countP, List.countP_map] at shared
    exact Nat.le_trans (share_le_count c) shared

/-- Nine default requests, all of the middle class, pushed and popped. -/
def nineNormal : List QueueEvent := List.replicate 9 (.push {} {}) ++ List.replicate 9 .pop

theorem weighted_fair_draining_nineNormal : ∃ s, run (Drain.step 7) {} nineNormal = some s ∧
    s.pops.length = 9 ∧ (∀ p ∈ s.pops, Waiting 7 p.before.pending 1) ∧
    share 1 ≤ s.pops.countP fun p => priorityClass p.taken.priority 7 == 1 := by
  obtain ⟨s, ran, nine, waiting⟩ : ∃ s, run (Drain.step 7) {} nineNormal = some s ∧
      s.pops.length = 9 ∧ ∀ p ∈ s.pops, Waiting 7 p.before.pending 1 := by
    refine ⟨_, rfl, rfl, ?_⟩
    unfold Waiting
    decide
  exact ⟨s, ran, nine, waiting, (weighted_fair_draining 7 nineNormal s ran).2.2 1 s.pops
    (List.infix_refl _) nine waiting⟩

end VllmRoute.Scheduler
