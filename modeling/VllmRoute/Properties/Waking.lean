import VllmRoute.Lib.Monitor
import VllmRoute.Scheduler.System

/-!
# Waiting on the queue

`pop_next_request` waits on `queue_cv_` with `queue_mtx_`, `inference` calls
`notify_one` after it has left its critical section and has written its record,
and `stop` sets `stopping_` and calls `notify_all` without the mutex. The
critical sections are those of `Scheduler.Queue`; here the wait itself is cut
into its steps, where `exec` lets a worker in when there is something to do.
-/
namespace VllmRoute.Scheduler

open Lib

/-- The critical section of `inference`: a request that is not admitted leaves the queue. -/
def pushPending (call : QueueLimits × InferenceRequest) (q : Queue) : Option Queue :=
  match enqueue call.1 q call.2 with
  | (none, q) => some q
  | (some _, _) => none

/-- What `pop_next_request` does once its predicate holds. -/
def takeNext (highPriorityThreshold : Int) (q : Queue) : Option Queue :=
  (popNextRequest highPriorityThreshold q).map Prod.snd

/-- `queue_mtx_`, `queue_cv_` and `stopping_`, with the workers around them. A request whose
`notify_one` is still to come is counted in `signals`. -/
abbrev WaitingRoom := Monitor Queue

namespace WaitingRoom

abbrev Event := Monitor.Event (QueueLimits × InferenceRequest) Int

def step (m : WaitingRoom) (e : Event) : Option WaitingRoom := Monitor.step pushPending takeNext m e

/-- The workers that `start` made. -/
def start (workerCount : Nat) : WaitingRoom :=
  { state := {}, threads := List.replicate workerCount .entering }

variable {m m' : WaitingRoom}

/-- With the mutex, a worker does what `exec` lets it do: it leaves with a request, it leaves
the loop after a stop, or it has to wait. -/
theorem enter_eq_exec {choice : Choice} {s : Shared} {i : Nat} (free : m.locked = false)
    (entering : m.threads[i]? = some .entering) (queue : s.drain.queue = m.state)
    (stopping : s.stopping = m.closed) :
    step m (.enter i choice.limits.highPriorityThreshold) =
      match exec choice s .popNextRequest with
      | some (some _, s') =>
        some { m with state := s'.drain.queue, threads := m.threads.set i .away }
      | some (none, _) => some { m with threads := m.threads.set i .gone }
      | none => some { m with threads := m.threads.set i .parking } := by
  rw [step, Monitor.step, if_neg (by simp [free]), takeNext]
  cases popped : popNextRequest choice.limits.highPriorityThreshold m.state with
  | some taken => simp [exec, queue, popped, Drain.step, Monitor.move, entering]
  | none =>
    cases closed : m.closed <;>
      simp [exec, queue, popped, Monitor.move, entering, stopping, closed]

theorem stock : Monitor.Stock pushPending takeNext (fun q => q.scheduleSlot < kScheduleSize)
    (fun q => q.pending.length) := by
  constructor
  case put_size =>
    rintro ⟨limits, req⟩ q q' slot admitted
    simp only [pushPending, enqueue] at admitted
    cases decided : rejection limits q req <;> simp only [decided] at admitted <;> cases admitted
    exact ⟨slot, List.length_append⟩
  case take_size =>
    intro threshold q q' slot taken
    obtain ⟨⟨req, _⟩, popped, rfl⟩ := Option.map_eq_some_iff.mp taken
    obtain ⟨perm, slot'⟩ := popNextRequest_perm threshold q _ req slot popped
    exact ⟨slot', perm.length_eq.symm⟩
  case take_none =>
    intro threshold q nothing
    have popped := Option.map_eq_none_iff.mp nothing
    unfold popNextRequest at popped
    split at popped
    · rename_i empty
      simp [empty]
    · split at popped <;> cases popped

variable {workerCount : Nat} {es : List Event}

theorem conserving_of_run (reached : run step (start workerCount) es = some m) :
    m.Conserving (fun q => q.scheduleSlot < kScheduleSize) (fun q => q.pending.length) := by
  have initial : (start workerCount).Conserving (fun q => q.scheduleSlot < kScheduleSize)
      (fun q => q.pending.length) := by
    constructor
    case good => exact Nat.zero_lt_succ _
    case parked => simp [start]
    case served => simp [start]
  exact initial.run stock reached

/-- No request is left in the queue while a worker sleeps beside it: there are at least as
many workers on their way to the queue and calls about to notify one. -/
theorem no_request_beside_sleeper (reached : run step (start workerCount) es = some m)
    (sleeper : .asleep ∈ m.threads) :
    m.state.pending.length ≤ m.threads.count .entering + m.signals :=
  (conserving_of_run reached).served sleeper

/-- Two workers go to sleep, and two requests arrive. -/
def twoRequests : List Event :=
  [.enter 0 7, .park 0, .enter 1 7, .park 1, .put ({}, {}), .put ({}, {}), .signal (some 1)]

theorem no_request_beside_sleeper_two_requests : ∃ m, run step (start 2) twoRequests = some m ∧
    .asleep ∈ m.threads ∧ m.state.pending.length = 2 ∧
    m.state.pending.length ≤ m.threads.count .entering + m.signals := by
  have ran : (run step (start 2) twoRequests).map
      (fun m => (m.threads, m.state.pending.length)) = some ([.asleep, .entering], 2) := by
    decide +kernel
  obtain ⟨m, reached, ends⟩ := Option.map_eq_some_iff.mp ran
  obtain ⟨threads, two⟩ : m.threads = [.asleep, .entering] ∧ m.state.pending.length = 2 := by
    simpa using ends
  have sleeper : .asleep ∈ m.threads := by simp [threads]
  exact ⟨m, reached, sleeper, two, no_request_beside_sleeper reached sleeper⟩

theorem parking_alone (reached : run step (start workerCount) es = some m) :
    m.threads.count .parking ≤ 1 :=
  run_invariant step (fun m => m.threads.count .parking ≤ 1)
    (fun _ _ _ taken alone => Monitor.step_parking taken alone) _ m es reached
    (by simp [start, List.count_replicate])

/-- `stop` can come to its end after its `notify_all`, with every worker joined and without a
further request, exactly when at that moment no worker had found neither a request nor the flag
without being asleep yet, or a call of `notify_one` is still to come for a request that
was accepted before. -/
theorem stop_completes_iff (reached : run step (start workerCount) es = some m)
    (notified : step m .signalAll = some m') :
    (∃ rest t, (∀ e ∈ rest, e.Quiet) ∧ run step m' rest = some t ∧
        ∀ p ∈ t.threads, p = .gone) ↔ .parking ∉ m.threads ∨ 0 < m.signals := by
  constructor
  · rintro ⟨rest, t, quiet, after, joined⟩
    by_contra neither
    push Not at neither
    obtain ⟨i, found⟩ := List.mem_iff_getElem?.mp neither.1
    -- the worker goes to sleep behind the notification, and nothing wakes it
    rcases Monitor.waits_for_ever notified after quiet found (Nat.le_zero.mp neither.2) with
      waits | waits <;> cases joined _ (List.mem_of_getElem? waits)
  · intro awaited
    have fine := ((conserving_of_run reached).step stock notified).good
    exact Monitor.can_leave stock fine notified (parking_alone reached) awaited

/-- The flag is set after the only worker has looked at it. It is lost, unless the request that
it has served is still to be notified. -/
theorem stop_completes_iff_late :
    (∃ m m', run step (start 1) [.enter 0 7, .close] = some m ∧ step m .signalAll = some m' ∧
      ¬ ∃ rest t, (∀ e ∈ rest, e.Quiet) ∧ run step m' rest = some t ∧
        ∀ p ∈ t.threads, p = .gone) ∧
    ∃ m m', run step (start 1) [.put ({}, {}), .enter 0 7, .comeBack 0, .enter 0 7, .close] =
        some m ∧ step m .signalAll = some m' ∧ .parking ∈ m.threads ∧
      ∃ rest t, (∀ e ∈ rest, e.Quiet) ∧ run step m' rest = some t ∧
        ∀ p ∈ t.threads, p = .gone := by
  constructor
  · have ran : ((run step (start 1) [.enter 0 7, .close]).bind fun m =>
        (step m .signalAll).map fun _ => (m.threads, m.signals)) = some ([.parking], 0) := by
      decide +kernel
    obtain ⟨m, reached, rest⟩ := Option.bind_eq_some_iff.mp ran
    obtain ⟨m', notified, ends⟩ := Option.map_eq_some_iff.mp rest
    obtain ⟨threads, signals⟩ := Prod.mk.injEq .. ▸ ends
    refine ⟨m, m', reached, notified, ?_⟩
    rw [stop_completes_iff reached notified, threads, signals]
    decide
  · have ran : ((run step (start 1)
        [.put ({}, {}), .enter 0 7, .comeBack 0, .enter 0 7, .close]).bind fun m =>
        (step m .signalAll).map fun _ => (m.threads, m.signals)) = some ([.parking], 1) := by
      decide +kernel
    obtain ⟨m, reached, rest⟩ := Option.bind_eq_some_iff.mp ran
    obtain ⟨m', notified, ends⟩ := Option.map_eq_some_iff.mp rest
    obtain ⟨threads, signals⟩ := Prod.mk.injEq .. ▸ ends
    refine ⟨m, m', reached, notified, by simp [threads], ?_⟩
    rw [stop_completes_iff reached notified, signals]
    exact Or.inr Nat.one_pos

end WaitingRoom

end VllmRoute.Scheduler
