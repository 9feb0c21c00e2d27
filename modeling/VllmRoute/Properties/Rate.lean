import Mathlib.Data.List.TakeWhile
import VllmRoute.Lib.Run
import VllmRoute.Scheduler.Snapshot

/-!
# The rate of the last minute

The metrics drop the times of old requests whenever a request is accepted, as
seen from the time of that request. Producers race, so the times come in any
order, and what is dropped depends on who comes last. A dropped time is out of
the window for good: the window of a later snapshot begins no earlier.
-/
namespace VllmRoute.Scheduler

open Lib

/-- `MetricsCollector` and the clock of its callers. -/
structure Collector where
  metrics : Metrics := {}
  nowMs : Int

inductive CollectorEvent where
  | onRequestAccepted (timeMs : Int)
  | onQueueReject
  | onRequestFinish (ok timeout degraded : Bool)
      (totalLatencyMs queueWaitMs firstTokenLatencyMs : Int)
  | advance (ms : Nat)

/-- The time of the request that the event accepts. -/
def CollectorEvent.accepts : CollectorEvent → Option Int
  | .onRequestAccepted timeMs => some timeMs
  | _ => none

namespace Collector

/-- One call, or the time that passes. A request was created at some time before. -/
def step (s : Collector) : CollectorEvent → Option Collector
  | .onRequestAccepted timeMs =>
    if timeMs ≤ s.nowMs then some { s with metrics := s.metrics.onRequestAccepted timeMs } else none
  | .onQueueReject => some { s with metrics := s.metrics.onQueueReject }
  | .onRequestFinish ok timeout degraded totalLatencyMs queueWaitMs firstTokenLatencyMs =>
    let metrics := s.metrics.onRequestFinish ok timeout degraded totalLatencyMs queueWaitMs
      firstTokenLatencyMs
    some { s with metrics := metrics }
  | .advance ms => some { s with nowMs := s.nowMs + ms }

/-- The requests of the last minute. -/
def inWindow (s : Collector) (t : Int) : Bool := s.nowMs - 60000 ≤ t && t ≤ s.nowMs

/-- All accepted times are those dropped, which have left the window, and those kept. -/
structure Trimmed (accepted : List Int) (s : Collector) : Prop where
  past : ∀ t ∈ accepted, t ≤ s.nowMs
  kept : ∃ dropped, accepted = dropped ++ s.metrics.requestTimes ∧
    ∀ t ∈ dropped, t < s.nowMs - 60000

variable {s s' : Collector} {accepted : List Int}

/-- A call that accepts nothing leaves the times alone, and the clock does not go back. -/
theorem Trimmed.silent (trimmed : s.Trimmed accepted) {e : CollectorEvent}
    (accepts : e.accepts = none) (times : s'.metrics.requestTimes = s.metrics.requestTimes)
    (later : s.nowMs ≤ s'.nowMs) : s'.Trimmed (accepted ++ e.accepts.toList) := by
  rw [accepts, Option.toList_none, List.append_nil]
  obtain ⟨past, dropped, split, gone⟩ := trimmed
  refine ⟨fun t member => (past t member).trans later, dropped, ?_, fun t member => ?_⟩
  · rw [times]
    exact split
  · have before := gone t member
    omega

theorem Trimmed.accept (trimmed : s.Trimmed accepted) {timeMs : Int} (before : timeMs ≤ s.nowMs) :
    Trimmed (accepted ++ [timeMs]) { s with metrics := s.metrics.onRequestAccepted timeMs } := by
  obtain ⟨past, dropped, split, gone⟩ := trimmed
  constructor
  · intro t member
    rcases List.mem_append.mp member with old | new
    · exact past t old
    · rw [List.mem_singleton.mp new]
      exact before
  · -- what is dropped now is a stretch at the front, old as seen from the new request
    let times := s.metrics.requestTimes ++ [timeMs]
    let old : Int → Bool := fun time => timeMs - time > 60000
    refine ⟨dropped ++ times.takeWhile old, ?_, ?_⟩
    · change _ = _ ++ times.dropWhile old
      rw [List.append_assoc, List.takeWhile_append_dropWhile, split, List.append_assoc]
    · intro t member
      rcases List.mem_append.mp member with earlier | now
      · exact gone t earlier
      · have far := List.mem_takeWhile_imp now
        simp only [old, decide_eq_true_eq] at far
        change t < s.nowMs - 60000
        omega

theorem step_trimmed {e : CollectorEvent} (taken : s.step e = some s')
    (trimmed : s.Trimmed accepted) : s'.Trimmed (accepted ++ e.accepts.toList) := by
  cases e with
  | onRequestAccepted timeMs =>
    simp only [step] at taken
    split at taken
    next before =>
      cases taken
      exact trimmed.accept before
    next => cases taken
  | advance ms =>
    cases taken
    exact trimmed.silent rfl rfl (Int.le_add_of_nonneg_right (Int.natCast_nonneg ms))
  | onQueueReject | onRequestFinish =>
    cases taken
    exact trimmed.silent rfl rfl (Int.le_refl s.nowMs)

theorem run_trimmed {events : List CollectorEvent} (ran : run step s events = some s')
    (trimmed : s.Trimmed accepted) :
    s'.Trimmed (accepted ++ events.filterMap CollectorEvent.accepts) := by
  induction events generalizing s accepted with
  | nil =>
    cases ran
    simpa using trimmed
  | cons e events ih =>
    obtain ⟨s₁, taken, rest⟩ := (run_cons_iff step s s' e events).mp ran
    have whole := ih rest (step_trimmed taken trimmed)
    rw [List.append_assoc] at whole
    cases accepts : e.accepts with
    | none => simpa [accepts, List.filterMap_cons] using whole
    | some t => simpa [accepts, List.filterMap_cons] using whole

/-- Of the times that were ever accepted, exactly those in the window are counted. -/
theorem Trimmed.recentCount (trimmed : s.Trimmed accepted) :
    Metrics.recentCount s.metrics.requestTimes s.nowMs = accepted.countP s.inWindow := by
  obtain ⟨past, dropped, split, gone⟩ := trimmed
  have outside : dropped.countP s.inWindow = 0 := by
    rw [List.countP_eq_zero]
    intro t member
    have old := gone t member
    simp only [inWindow, Bool.and_eq_true, decide_eq_true_eq, not_and]
    omega
  rw [Metrics.recentCount_eq_countP, split, List.countP_append, outside, Nat.zero_add]
  apply List.countP_congr
  intro t member
  have arrived : t ≤ s.nowMs := past t (by rw [split]; exact List.mem_append_right _ member)
  simp only [inWindow, Bool.and_eq_true, decide_eq_true_eq]
  omega

end Collector

/-- For every interleaving of requests, with times in any order, and of the other calls, on a
clock that does not go back: at every moment the rate that a snapshot reports is that
of all requests ever accepted whose time lies in the last minute. -/
theorem rate_unaffected_by_trimming (startMs : Int) (events : List CollectorEvent) (s : Collector)
    (ran : run Collector.step { nowMs := startMs } events = some s)
    (queueSize maxQueueSize : Int) :
    Metrics.recentCount s.metrics.requestTimes s.nowMs =
        (events.filterMap CollectorEvent.accepts).countP s.inWindow ∧
      (s.metrics.snapshot s.nowMs queueSize maxQueueSize).qps1m =
        (events.filterMap CollectorEvent.accepts).countP s.inWindow / 60 := by
  have initial : Collector.Trimmed [] { nowMs := startMs } := by
    refine ⟨?_, [], rfl, ?_⟩
    · simp
    · simp
  have counted := (Collector.run_trimmed ran initial).recentCount
  rw [List.nil_append] at counted
  refine ⟨counted, ?_⟩
  rw [Metrics.snapshot, counted]

/-- A request that is counted late: the one before it is newer, and drops an old one. -/
def lateProducer : List CollectorEvent :=
  [.onRequestAccepted 0, .advance 70000, .onRequestAccepted 69000, .onRequestAccepted 5000,
    .advance 1000]

theorem rate_unaffected_by_trimming_late : ∃ s,
    run Collector.step { nowMs := 0 } lateProducer = some s ∧
      s.metrics.requestTimes = [69000, 5000] ∧
      (s.metrics.snapshot s.nowMs 0 0).qps1m = 1 / 60 := by
  obtain ⟨s, ran, now, kept⟩ : ∃ s, run Collector.step { nowMs := 0 } lateProducer = some s ∧
      s.nowMs = 71000 ∧ s.metrics.requestTimes = [69000, 5000] := by
    refine ⟨_, rfl, rfl, ?_⟩
    decide
  refine ⟨s, ran, kept, ?_⟩
  have rate := (rate_unaffected_by_trimming 0 lateProducer s ran 0 0).2
  have one : (lateProducer.filterMap CollectorEvent.accepts).countP s.inWindow = 1 := by
    have window : s.inWindow = fun t => decide (71000 - 60000 ≤ t) && decide (t ≤ 71000) := by
      funext t
      rw [Collector.inWindow, now]
    rw [window]
    decide
  rw [rate, one]
  rfl

end VllmRoute.Scheduler
