import Mathlib.Algebra.BigOperators.Group.Finset.Piecewise
import VllmRoute.Properties.Termination
import VllmRoute.Scheduler.Duties

/-!
# The counters of the scheduler

A thread that has begun something and not yet counted it owes it, so that in
every state the counters and the debts of the threads add up to what was
accepted, popped and dispatched. When nothing is pending and no thread is at
work, there are no debts, and the counters agree with each other.
-/
namespace VllmRoute.Scheduler

open Lib

/-! ### The counts of the endpoints -/

/-- The attempts that were made on an object. -/
def View.attempts (v : View) : Nat := v.ep.successCount + v.ep.failureCount + v.outstanding

/-- The attempts that an event adds. -/
def Act.dispatches : Act → Nat
  | .dispatch => 1
  | _ => 0

theorem countSuccess_counts (th : Thresholds) (close : CircuitState → CircuitState)
    (ep : VllmEndpoint) : (countSuccess th close ep).successCount = ep.successCount ∧
      (countSuccess th close ep).failureCount = ep.failureCount := by
  unfold countSuccess
  dsimp only
  split <;> exact ⟨rfl, rfl⟩

theorem countFailure_counts (th : Thresholds) (nowMs : Int) (ep : VllmEndpoint) :
    (countFailure th nowMs ep).successCount = ep.successCount ∧
      (countFailure th nowMs ep).failureCount = ep.failureCount := by
  unfold countFailure
  dsimp only
  split <;> split <;> exact ⟨rfl, rfl⟩

theorem updateEndpointResult_counts (th : Thresholds) (nowMs : Int) (ok : Bool) (latencyMs : Int)
    (ep : VllmEndpoint) :
    (updateEndpointResult th nowMs ok latencyMs ep).successCount +
        (updateEndpointResult th nowMs ok latencyMs ep).failureCount =
      ep.successCount + ep.failureCount + 1 := by
  unfold updateEndpointResult
  cases ok with
  | true =>
    obtain ⟨success, failure⟩ := countSuccess_counts th (fun _ => .closed) { releaseSlot ep with
      lastLatencyMs := latencyMs, avgLatencyMs := blendLatency 0.8 0.2 ep.avgLatencyMs latencyMs
      successCount := ep.successCount + 1 }
    simp only [releaseSlot] at success failure
    simp only [releaseSlot, if_true, success, failure]
    omega
  | false =>
    obtain ⟨success, failure⟩ := countFailure_counts th nowMs { releaseSlot ep with
      lastLatencyMs := latencyMs, avgLatencyMs := blendLatency 0.8 0.2 ep.avgLatencyMs latencyMs
      failureCount := ep.failureCount + 1 }
    simp only [releaseSlot] at success failure
    simp only [releaseSlot, Bool.false_eq_true, if_false, success, failure]
    omega

theorem updateEndpointHealth_counts (th : Thresholds) (nowMs : Int) (ok : Bool) (latencyMs : Int)
    (ep : VllmEndpoint) :
    (updateEndpointHealth th nowMs ok latencyMs ep).successCount = ep.successCount ∧
      (updateEndpointHealth th nowMs ok latencyMs ep).failureCount = ep.failureCount := by
  unfold updateEndpointHealth
  cases ok with
  | true => exact countSuccess_counts _ _ _
  | false => exact countFailure_counts _ _ _

theorem Effect.attempts {nowMs : Int} {v w : View} {act : Act} (effect : Effect nowMs v act w) :
    w.attempts = v.attempts + act.dispatches := by
  induction effect with
  | same v => rfl
  | reopened v opened due => rfl
  | dispatched v w before ready ih =>
    have same : w.attempts = v.attempts := ih
    simp only [View.attempts, dispatch, Act.dispatches] at same ⊢
    omega
  | reported ep n p probe th ok latencyMs =>
    have counts := updateEndpointResult_counts th nowMs ok latencyMs ep
    simp only [View.attempts, Act.dispatches, counts]
    omega
  | checked v th ok latencyMs =>
    obtain ⟨success, failure⟩ := updateEndpointHealth_counts th nowMs ok latencyMs v.ep
    simp only [View.attempts, Act.dispatches, success, failure]
    omega

namespace Dispatcher

/-- The attempts on all objects. -/
def attempts (d : Dispatcher) : Nat := ∑ id ∈ Finset.range d.pool.next, (d.view id).attempts

theorem sum_dispatches {d : Dispatcher} (wf : d.WellFormed) (req : InferenceRequest)
    (threshold : Int) :
    ∑ id ∈ Finset.range d.pool.next, (d.actOn id (.select req threshold)).dispatches =
      if (selectEndpoint req threshold d.nowMs d.pool.endpoints d.pool.heap).1.isSome
        then 1 else 0 := by
  cases selected : selectEndpoint req threshold d.nowMs d.pool.endpoints d.pool.heap with
  | mk chosen after =>
    have each (id : Nat) : (d.actOn id (.select req threshold)).dispatches =
        if chosen = some id then 1 else 0 := by
      simp only [actOn, selected]
      split <;> rfl
    simp only [each]
    obtain ⟨_, _, ⟨rfl, _⟩ | ⟨winner, listed, rfl, _, _⟩⟩ :=
      selectEndpoint_spec _ _ _ _ _ _ _ selected
    · simp
    · -- one of the objects is the winner
      have inside := wf.listed winner listed
      simp only [Option.some.injEq]
      rw [Finset.sum_ite_eq, if_pos (Finset.mem_range.mpr inside)]
      rfl

/-- What an event adds to the attempts. -/
theorem step_dispatches {d d' : Dispatcher} {e : Event} (wf : d.WellFormed)
    (taken : d.step e = some d') (reload : ∀ body, e ≠ .reload body) :
    d'.attempts =
      d.attempts + ∑ id ∈ Finset.range d.pool.next, (d.actOn id e).dispatches := by
  have next : d'.pool.next = d.pool.next := by
    rcases step_frame d d' e taken with ⟨next, _⟩ | ⟨body, _, event, _⟩
    · exact next
    · exact absurd event (reload body)
  unfold attempts
  rw [next, ← Finset.sum_add_distrib]
  exact Finset.sum_congr rfl fun id member =>
    (step_effect_of_lt d d' e wf taken (Finset.mem_range.mp member)).attempts

end Dispatcher

/-! ### One operation -/

/-- The counters, up to what the threads owe. -/
structure Counted (s : Shared) (uncounted unfinished unreported : Nat) : Prop where
  accepted : s.drain.pushed.length = s.metrics.totalRequests + uncounted
  popped : s.drain.pops.length + s.metrics.queueRejectCount =
    s.metrics.successRequests + s.metrics.failedRequests + unfinished
  timeouts : s.metrics.timeoutRequests + s.metrics.queueRejectCount ≤ s.metrics.failedRequests
  dispatched : s.dispatcher.outstanding.length = unreported

/-- The attempt that an operation dispatches. -/
def Op.dispatches : (o : Op) → o.Resp → Nat
  | .selectEndpoint _, some _ => 1
  | _, _ => 0

/-- What one operation of a thread does to the counters and to the thread's debt. The
other threads owe `a`, `b` and `c`. -/
structure Accounts (s s' : Shared) (a b c : Nat) (duty' : Duty) (dispatched : Nat) : Prop where
  live : duty' ≠ .stopped
  running : s'.stopping = false
  wellFormed : s'.dispatcher.WellFormed
  counted : Counted s' (a + duty'.uncounted) (b + duty'.unfinished) (c + duty'.unreported)
  attempts : s'.dispatcher.attempts = s.dispatcher.attempts + dispatched

section Operation

variable {choice : Choice} {s s' : Shared} {a b c : Nat} {duty : Duty}

variable (running : s.stopping = false) (wf : s.dispatcher.WellFormed) (live : duty ≠ .stopped)
  (counted : Counted s (a + duty.uncounted) (b + duty.unfinished) (c + duty.unreported))

include running wf live counted

theorem exec_pop_accounts {r : Op.popNextRequest.Resp}
    (executed : exec choice s .popNextRequest = some (r, s'))
    (sound : duty.next .popNextRequest r ≠ .broken) :
    Accounts s s' a b c (duty.next .popNextRequest r) 0 := by
  rcases exec_popNextRequest executed with
    ⟨req, queue, rfl, _, _, rfl⟩ | ⟨stopping, _⟩
  · obtain ⟨accepted, popped, timeouts, dispatched⟩ := counted
    cases duty with
    | stopped => exact absurd rfl live
    | idle =>
      refine ⟨Duty.noConfusion, running, wf, ⟨accepted, ?_, timeouts, dispatched⟩, rfl⟩
      simp only [Duty.next, Duty.unfinished, List.length_append, List.length_singleton] at popped ⊢
      omega
    | _ => exact absurd rfl sound
  · cases running.symm.trans stopping

theorem exec_select_accounts {req : InferenceRequest} {r : (Op.selectEndpoint req).Resp}
    (executed : exec choice s (.selectEndpoint req) = some (r, s'))
    (sound : duty.next (.selectEndpoint req) r ≠ .broken) :
    Accounts s s' a b c (duty.next (.selectEndpoint req) r)
      (Op.dispatches (.selectEndpoint req) r) := by
  simp only [exec, Option.map_eq_some_iff] at executed
  obtain ⟨d, taken, equal⟩ := executed
  have wf' := Dispatcher.step_wellFormed _ _ _ wf taken
  have attempts := Dispatcher.step_dispatches wf taken (by simp)
  rw [Dispatcher.sum_dispatches wf] at attempts
  cases equal
  obtain ⟨accepted, popped, timeouts, dispatched⟩ := counted
  cases selected : selectEndpoint req choice.limits.highPriorityThreshold s.dispatcher.nowMs
      s.dispatcher.pool.endpoints s.dispatcher.pool.heap with
  | mk chosen after =>
    simp only [Dispatcher.step, selected, Option.some.injEq] at taken
    simp only [selected] at attempts sound ⊢
    cases chosen with
    | none =>
      have same : duty.next (.selectEndpoint req) none = duty := by cases duty <;> rfl
      change Accounts s { s with dispatcher := d } a b c (duty.next (.selectEndpoint req) none) 0
      rw [same]
      have outstanding : d.outstanding = s.dispatcher.outstanding := by rw [← taken]
      exact ⟨live, running, wf', ⟨accepted, popped, timeouts, outstanding ▸ dispatched⟩, attempts⟩
    | some id =>
      have outstanding : d.outstanding.length = s.dispatcher.outstanding.length + 1 := by
        rw [← taken]
        rfl
      cases duty with
      | stopped => exact absurd rfl live
      | serving =>
        refine ⟨Duty.noConfusion, running, wf', ⟨accepted, popped, timeouts, ?_⟩,
          by simpa [Op.dispatches] using attempts⟩
        simp only [Duty.unreported] at dispatched
        simp only [outstanding, dispatched]
        rfl
      | _ => exact absurd rfl sound

theorem exec_result_accounts {attempt : Attempt} {ok : Bool} {latencyMs : Int}
    {r : (Op.updateEndpointResult attempt ok latencyMs).Resp}
    (executed : exec choice s (.updateEndpointResult attempt ok latencyMs) = some (r, s'))
    (sound : duty.next (.updateEndpointResult attempt ok latencyMs) r ≠ .broken) :
    Accounts s s' a b c (duty.next (.updateEndpointResult attempt ok latencyMs) r) 0 := by
  obtain ⟨slot, d, taken, rfl⟩ := exec_updateEndpointResult executed
  have wf' := Dispatcher.step_wellFormed _ _ _ wf taken
  have attempts := Dispatcher.step_dispatches wf taken (by simp)
  simp only [Dispatcher.step, Option.map_eq_some_iff] at taken
  obtain ⟨found, at_, rfl⟩ := taken
  -- a report is no dispatch, on whichever object
  have none (id : Nat) : (s.dispatcher.actOn id (.complete slot choice.thresholds ok
      latencyMs)).dispatches = 0 := by
    simp only [Dispatcher.actOn, at_]
    split <;> rfl
  simp only [none, Finset.sum_const_zero] at attempts
  obtain ⟨accepted, popped, timeouts, dispatched⟩ := counted
  cases duty with
  | stopped => exact absurd rfl live
  | calling =>
    refine ⟨Duty.noConfusion, running, wf', ⟨accepted, popped, timeouts, ?_⟩, attempts⟩
    obtain ⟨inside, _⟩ := List.getElem?_eq_some_iff.mp at_
    simp only [List.length_eraseIdx_of_lt inside, dispatched]
    rfl
  | _ => exact absurd rfl sound

theorem exec_enqueue_accounts {req : InferenceRequest} {r : (Op.enqueue req).Resp}
    (executed : exec choice s (.enqueue req) = some (r, s'))
    (sound : duty.next (.enqueue req) r ≠ .broken) :
    Accounts s s' a b c (duty.next (.enqueue req) r) 0 := by
  simp only [exec, Option.map_eq_some_iff] at executed
  obtain ⟨drain, stepped, equal⟩ := executed
  cases equal
  obtain ⟨accepted, popped, timeouts, dispatched⟩ := counted
  simp only [Drain.step, Option.some.injEq] at stepped
  subst stepped
  cases refused : rejection choice.limits s.drain.queue req with
  | some error =>
    simp only [enqueue, refused] at sound ⊢
    have same : duty.next (.enqueue req) (some error) = duty := by cases duty <;> rfl
    rw [same]
    exact ⟨live, running, wf, ⟨accepted, popped, timeouts, dispatched⟩, rfl⟩
  | none =>
    simp only [enqueue, refused] at sound ⊢
    cases duty with
    | stopped => exact absurd rfl live
    | idle =>
      refine ⟨Duty.noConfusion, running, wf, ⟨?_, popped, timeouts, dispatched⟩, rfl⟩
      simp only [Option.isNone_none, if_true, List.length_append, List.length_singleton, accepted]
      rfl
    | _ => exact absurd rfl sound

/-- An operation that leaves queue, dispatcher and counters alone. -/
theorem accounts_aside {o : Op} {r : o.Resp} (same : duty.next o r = duty)
    (drain : s'.drain = s.drain) (metrics : s'.metrics = s.metrics)
    (dispatcher : s'.dispatcher = s.dispatcher) (stopping : s'.stopping = s.stopping) :
    Accounts s s' a b c (duty.next o r) 0 := by
  obtain ⟨accepted, popped, timeouts, dispatched⟩ := counted
  rw [same]
  refine ⟨live, stopping.trans running, dispatcher ▸ wf, ⟨?_, ?_, ?_, ?_⟩, by rw [dispatcher]; rfl⟩
  · rw [drain, metrics, accepted]
  · rw [drain, metrics, popped]
  · rwa [metrics]
  · rw [dispatcher, dispatched]

theorem exec_accounts {o : Op} {r : o.Resp} (executed : exec choice s o = some (r, s'))
    (sound : duty.next o r ≠ .broken) :
    Accounts s s' a b c (duty.next o r) (o.dispatches r) := by
  cases o with
  | popNextRequest => exact exec_pop_accounts running wf live counted executed sound
  | selectEndpoint req => exact exec_select_accounts running wf live counted executed sound
  | updateEndpointResult attempt ok latencyMs =>
    exact exec_result_accounts running wf live counted executed sound
  | loadStopping =>
    cases executed
    have same : duty.next .loadStopping s.stopping = duty := by
      rw [running]
      cases duty <;> rfl
    exact accounts_aside running wf live counted same rfl rfl rfl rfl
  | onRequestFinish ok timeout degraded totalLatencyMs queueWaitMs firstTokenLatencyMs =>
    cases executed
    obtain ⟨accepted, popped, timeouts, dispatched⟩ := counted
    cases duty with
    | stopped => exact absurd rfl live
    | serving =>
      refine ⟨Duty.noConfusion, running, wf, ⟨accepted, ?_, ?_, dispatched⟩, rfl⟩
      · simp only [Metrics.onRequestFinish, Duty.next, Duty.unfinished] at popped ⊢
        cases ok <;> simp only [Bool.false_eq_true, if_true, if_false] <;> omega
      · simp only [Metrics.onRequestFinish] at timeouts ⊢
        cases ok <;> cases timeout <;> simp <;> omega
    | _ => exact absurd rfl sound
  | enqueue req => exact exec_enqueue_accounts running wf live counted executed sound
  | onRequestAccepted timeMs =>
    cases executed
    obtain ⟨accepted, popped, timeouts, dispatched⟩ := counted
    cases duty with
    | stopped => exact absurd rfl live
    | owing =>
      refine ⟨Duty.noConfusion, running, wf, ⟨?_, popped, timeouts, dispatched⟩, rfl⟩
      simp only [Metrics.onRequestAccepted, Duty.next, Duty.uncounted] at accepted ⊢
      omega
    | _ => exact absurd rfl sound
  | onQueueReject =>
    cases executed
    obtain ⟨accepted, popped, timeouts, dispatched⟩ := counted
    have same : duty.next .onQueueReject () = duty := by cases duty <;> rfl
    change Accounts s _ a b c (duty.next .onQueueReject ()) 0
    rw [same]
    refine ⟨live, running, wf, ⟨accepted, ?_, ?_, dispatched⟩, rfl⟩
    · simp only [Metrics.onQueueReject]
      omega
    · simp only [Metrics.onQueueReject]
      omega
  | _ =>
    cases executed
    exact accounts_aside running wf live counted (duty.next_neutral _ rfl _) rfl rfl rfl rfl

end Operation

/-! ### The debts of all threads -/

/-- What the threads of a list owe together, each with its duty. -/
def owed {τ : Type} (debt : Duty → Nat) (threads : List (τ × Duty)) : Nat :=
  (threads.map fun thread => debt thread.2).sum

/-- The debt of one thread, taken out of the sum. -/
theorem owed_set {τ : Type} {threads : List (τ × Duty)} {i : Nat} {t : τ} {duty : Duty}
    (found : threads[i]? = some (t, duty)) (debt : Duty → Nat) :
    ∃ rest, owed debt threads = rest + debt duty ∧
      ∀ t' duty', owed debt (threads.set i (t', duty')) = rest + debt duty' := by
  have part : debt duty ≤ owed debt threads :=
    List.le_sum_of_mem (List.mem_map_of_mem (List.mem_of_getElem? found))
  refine ⟨owed debt threads - debt duty, by omega, fun t' duty' => ?_⟩
  have replaced := sum_map_set found (fun thread => debt thread.2) (t', duty')
  simp only [owed] at part replaced ⊢
  omega

theorem exists_duty {τ : Type} {threads : List (τ × Duty)} {i : Nat} {t : τ}
    (found : (threads.map Prod.fst)[i]? = some t) : ∃ duty, threads[i]? = some (t, duty) := by
  rw [List.getElem?_map, Option.map_eq_some_iff] at found
  obtain ⟨⟨_, duty⟩, at_, rfl⟩ := found
  exact ⟨duty, at_⟩

/-- The attempts that a worker has begun. -/
def WorkerLog.attempts (log : WorkerLog) : Nat := (log.tallies.map fun t => t.source.attempts).sum

/-- The attempts that workers have begun. -/
def System.dispatched (s : System) : Nat := (s.tallies.map fun t => t.source.attempts).sum

theorem System.dispatched_eq (s : System) :
    s.dispatched = (s.workers.map fun w => w.log.attempts).sum := by
  unfold dispatched tallies
  induction s.workers with
  | nil => rfl
  | cons w ws ih => simp [WorkerLog.attempts, ih]

theorem Tally.note_attempts (t : Tally) (o : Op) (r : o.Resp) :
    (t.note o r).source.attempts = t.source.attempts + o.dispatches r := by
  cases o with
  | selectEndpoint req => cases r <;> rfl
  | loadStopping => cases r <;> rfl
  | updateRecord req status message =>
    simp only [note, Op.dispatches]
    split <;> rfl
  | _ => rfl

theorem logOp_attempts {o : Op} {r : o.Resp} {log : WorkerLog}
    (begun : 0 < o.dispatches r → log.tallies ≠ []) :
    (logOp o r log).attempts = log.attempts + o.dispatches r := by
  have noted : (logOp o r log).tallies = noteCurrent o r log.tallies →
      (logOp o r log).attempts = log.attempts + o.dispatches r := by
    intro tallies
    rw [WorkerLog.attempts, WorkerLog.attempts, tallies]
    cases current : log.tallies with
    | nil =>
      have none : o.dispatches r = 0 := by
        by_contra some
        exact begun (Nat.pos_of_ne_zero some) current
      simp [noteCurrent, none]
    | cons t done =>
      simp only [noteCurrent, List.map_cons, List.sum_cons, Tally.note_attempts]
      omega
  cases o with
  | popNextRequest =>
    cases r with
    | none => rfl
    | some req => simp [logOp, WorkerLog.attempts, Op.dispatches]
  | _ => exact noted rfl

/-- The books of the system: each thread with its duty, the counters up to the debts,
and the attempts on the endpoints. -/
structure Books (s : System) (cs : List (Call × Duty)) (ws : List (Worker × Duty)) : Prop where
  calls : s.calls = cs.map Prod.fst
  workers : s.workers = ws.map Prod.fst
  callDuty : ∀ c ∈ cs, Dutiful CallDuty c.1.prog c.2 ∧ c.2 ≠ .stopped ∧ c.2.unfinished = 0
  workerDuty : ∀ w ∈ ws, Dutiful DutyHead w.1.prog w.2 ∧ w.2 ≠ .stopped ∧
    (0 < w.2.unfinished → w.1.log.tallies ≠ [])
  running : s.shared.stopping = false
  wellFormed : s.shared.dispatcher.WellFormed
  counted : Counted s.shared (owed Duty.uncounted cs + owed Duty.uncounted ws)
    (owed Duty.unfinished cs + owed Duty.unfinished ws)
    (owed Duty.unreported cs + owed Duty.unreported ws)
  attempts : s.shared.dispatcher.attempts = s.dispatched

theorem dutyHead_sound (point : Point) (duty : Duty) (head : DutyHead point duty) :
    duty ≠ .broken := by
  rintro rfl
  cases point with
  | top | attempts | waiting | transfer => rcases head with head | head <;> cases head
  | exited => cases head
  | crashed => exact head rfl

theorem callDuty_sound (thrown : Bool) (duty : Duty) (settled : CallDuty thrown duty) :
    duty ≠ .broken := by
  rintro rfl
  cases settled

/-- Work begins with a pop. -/
theorem Duty.next_unfinished {o : Op} (other : o ≠ .popNextRequest) {r : o.Resp} {duty : Duty}
    (open_ : 0 < (duty.next o r).unfinished) : 0 < duty.unfinished := by
  cases o with
  | popNextRequest => exact absurd rfl other
  | selectEndpoint req | loadStopping | enqueue req =>
    cases r <;> cases duty <;> first | exact open_ | exact Nat.one_pos
  | _ => cases duty <;> first | exact open_ | exact Nat.one_pos

/-- What a worker's operation leaves of the tally it works on. -/
theorem logOp_tallies {o : Op} {r : o.Resp} {log : WorkerLog} {duty : Duty}
    (begun : 0 < duty.unfinished → log.tallies ≠ []) (open_ : 0 < (duty.next o r).unfinished) :
    (logOp o r log).tallies ≠ [] := by
  by_cases pop : o = .popNextRequest
  · subst pop
    cases r with
    | none => cases duty <;> cases open_
    | some req => simp [logOp]
  · rw [logOp_of_ne_pop pop]
    cases current : log.tallies with
    | nil => exact absurd current (begun (Duty.next_unfinished pop open_))
    | cons t done => simp [noteCurrent]

/-- A dispatch is made by a worker at work. -/
theorem dispatches_unfinished {o : Op} {r : o.Resp} {duty : Duty} (live : duty ≠ .stopped)
    (sound : duty.next o r ≠ .broken) (dispatches : 0 < o.dispatches r) : 0 < duty.unfinished := by
  cases o with
  | selectEndpoint req =>
    cases r with
    | none => cases dispatches
    | some chosen =>
      cases duty with
      | serving => exact Nat.one_pos
      | stopped => exact absurd rfl live
      | _ => exact absurd rfl sound
  | _ => cases dispatches

section Steps

variable {s : System} {cs : List (Call × Duty)} {ws : List (Worker × Duty)} {choice : Choice}
  {i : Nat} {o : Op} {r : o.Resp} {shared : Shared}

/-- An operation of one of several threads, beside the debts of others. -/
theorem accounts_set {τ : Type} {threads : List (τ × Duty)} {t : τ} {duty : Duty} {x y z : Nat}
    {before : Shared} (at_ : threads[i]? = some (t, duty)) (running : before.stopping = false)
    (wf : before.dispatcher.WellFormed) (live : duty ≠ .stopped)
    (counted : Counted before (x + owed Duty.uncounted threads)
      (y + owed Duty.unfinished threads) (z + owed Duty.unreported threads))
    (executed : exec choice before o = some (r, shared)) (sound : duty.next o r ≠ .broken)
    (t' : τ) :
    ∃ a b c, Accounts before shared a b c (duty.next o r) (o.dispatches r) ∧
      Counted shared (x + owed Duty.uncounted (threads.set i (t', duty.next o r)))
        (y + owed Duty.unfinished (threads.set i (t', duty.next o r)))
        (z + owed Duty.unreported (threads.set i (t', duty.next o r))) := by
  obtain ⟨a, old, new⟩ := owed_set at_ Duty.uncounted
  obtain ⟨b, old', new'⟩ := owed_set at_ Duty.unfinished
  obtain ⟨c, old'', new''⟩ := owed_set at_ Duty.unreported
  rw [old, old', old'', ← Nat.add_assoc, ← Nat.add_assoc, ← Nat.add_assoc] at counted
  have accounts := exec_accounts running wf live counted executed sound
  refine ⟨x + a, y + b, z + c, accounts, ?_⟩
  rw [new, new', new'', ← Nat.add_assoc, ← Nat.add_assoc, ← Nat.add_assoc]
  exact accounts.counted

theorem Books.call (books : Books s cs ws) {c : Call} {k : o.Resp → Code Bool}
    (found : s.calls[i]? = some c) (pushes : Pushes c) (prog : c.prog = .op o k)
    (executed : exec choice s.shared o = some (r, shared)) :
    ∃ cs', Books { s with shared := shared, calls := s.calls.set i ⟨k r, ()⟩ } cs' ws := by
  obtain ⟨duty, at_⟩ := exists_duty (books.calls ▸ found)
  obtain ⟨dutiful, live, outside⟩ := books.callDuty _ (List.mem_of_getElem? at_)
  simp only [prog] at dutiful
  simp only [Pushes, prog] at pushes
  have rest := dutiful.2 r
  have sound := Prog.Ensures.now rest callDuty_sound
  have counted := books.counted
  simp only [Nat.add_comm (owed _ cs)] at counted
  obtain ⟨_, _, _, ⟨live', running, wf, _, attempts⟩, counted'⟩ :=
    accounts_set at_ books.running books.wellFormed live counted executed sound ⟨k r, ()⟩
  refine ⟨cs.set i (⟨k r, ()⟩, duty.next o r), ?_, books.workers, ?_, books.workerDuty, running, wf,
    ?_, ?_⟩
  · rw [List.map_set, ← books.calls]
  · refine forall_mem_set books.callDuty ⟨rest, live', Nat.eq_zero_of_not_pos fun open_ => ?_⟩
    exact absurd (Duty.next_unfinished pushes.1 open_) (by simp [outside])
  · simpa only [Nat.add_comm (owed _ ws)] using counted'
  · -- a call does not serve, so it dispatches nothing
    have none : o.dispatches r = 0 := Nat.eq_zero_of_not_pos fun dispatches => by
      simpa [outside] using dispatches_unfinished live sound dispatches
    rw [attempts, none, books.attempts]
    rfl

theorem Books.work (books : Books s cs ws) {w : Worker} {k : o.Resp → Code Point}
    (found : s.workers[i]? = some w) (prog : w.prog = .op o k)
    (executed : exec choice s.shared o = some (r, shared)) :
    ∃ ws', Books { s with shared := shared, workers := s.workers.set i ⟨k r, logOp o r w.log⟩ }
      cs ws' := by
  obtain ⟨duty, at_⟩ := exists_duty (books.workers ▸ found)
  obtain ⟨dutiful, live, begun⟩ := books.workerDuty _ (List.mem_of_getElem? at_)
  simp only [prog] at dutiful
  have rest := dutiful.2 r
  have sound := Prog.Ensures.now rest dutyHead_sound
  obtain ⟨_, _, _, ⟨live', running, wf, _, attempts⟩, counted'⟩ :=
    accounts_set at_ books.running books.wellFormed live books.counted executed sound
      ⟨k r, logOp o r w.log⟩
  refine ⟨ws.set i (⟨k r, logOp o r w.log⟩, duty.next o r), books.calls, ?_, books.callDuty, ?_,
    running, wf, counted', ?_⟩
  · rw [List.map_set, ← books.workers]
  · exact forall_mem_set books.workerDuty ⟨rest, live', logOp_tallies begun⟩
  · have logged : (logOp o r w.log).attempts = w.log.attempts + o.dispatches r :=
      logOp_attempts fun dispatches => begun (dispatches_unfinished live sound dispatches)
    have replaced := sum_map_set found (fun w => w.log.attempts) ⟨k r, logOp o r w.log⟩
    rw [System.dispatched_eq]
    have total := books.attempts
    rw [System.dispatched_eq] at total
    simp only at replaced ⊢
    omega

theorem Books.arrive (books : Books s cs ws) (req : InferenceRequest) (taskId : Int) :
    Books { s with
      shared := { s.shared with taskIdCounter := taskId }
      calls := s.calls ++ [⟨inference req, ()⟩] } (cs ++ [(⟨inference req, ()⟩, .idle)]) ws := by
  have idle (debt : Duty → Nat) (call : Call) (none : debt .idle = 0) :
      owed debt (cs ++ [(call, .idle)]) = owed debt cs := by
    simp [owed, none]
  refine ⟨?_, books.workers, ?_, books.workerDuty, books.running, books.wellFormed, ?_,
    books.attempts⟩
  · rw [List.map_append, ← books.calls]
    rfl
  · intro c member
    rcases List.mem_append.mp member with old | new
    · exact books.callDuty c old
    · rw [List.mem_singleton.mp new]
      exact ⟨inference_dutiful req, Duty.noConfusion, rfl⟩
  · rw [idle _ _ rfl, idle _ _ rfl, idle _ _ rfl]
    obtain ⟨accepted, popped, timeouts, dispatched⟩ := books.counted
    exact ⟨accepted, popped, timeouts, dispatched⟩

/-- A worker goes on at a loop head. -/
theorem Books.enter {codec : Codec} {cfg : TaskConfig} (books : Books s cs ws) {w : Worker}
    {point : Point} {code : Code Point} (found : s.workers[i]? = some w)
    (prog : w.prog = .pure point) (entered : worker codec cfg point = some code) :
    ∃ ws', Books { s with workers := s.workers.set i ⟨code, w.log⟩ } cs ws' := by
  obtain ⟨duty, at_⟩ := exists_duty (books.workers ▸ found)
  obtain ⟨dutiful, live, begun⟩ := books.workerDuty _ (List.mem_of_getElem? at_)
  simp only [prog] at dutiful
  -- the debts stay what they are
  have same (debt : Duty → Nat) :
      owed debt (ws.set i ((⟨code, w.log⟩ : Worker), duty)) = owed debt ws := by
    obtain ⟨rest, before, after⟩ := owed_set at_ debt
    rw [before, after]
  refine ⟨ws.set i (⟨code, w.log⟩, duty), books.calls, ?_, books.callDuty, ?_, books.running,
    books.wellFormed, by simpa only [same] using books.counted, ?_⟩
  · rw [List.map_set, ← books.workers]
  · exact forall_mem_set books.workerDuty
      ⟨worker_dutiful codec cfg point code duty entered dutiful, live, begun⟩
  · have replaced := sum_map_set found (fun w => w.log.attempts) ⟨code, w.log⟩
    have total := books.attempts
    rw [System.dispatched_eq] at total ⊢
    simp only at replaced ⊢
    omega

/-- A check of an endpoint's health, or time. -/
theorem Books.dispatcher (books : Books s cs ws) {e : Event} {d : Dispatcher}
    (taken : s.shared.dispatcher.step e = some d) (reload : ∀ body, e ≠ .reload body)
    (outstanding : d.outstanding = s.shared.dispatcher.outstanding)
    (none : ∀ id, (s.shared.dispatcher.actOn id e).dispatches = 0) :
    Books (s.setDispatcher d) cs ws := by
  obtain ⟨accepted, popped, timeouts, dispatched⟩ := books.counted
  refine ⟨books.calls, books.workers, books.callDuty, books.workerDuty, books.running,
    Dispatcher.step_wellFormed _ _ _ books.wellFormed taken,
    ⟨accepted, popped, timeouts, outstanding ▸ dispatched⟩, ?_⟩
  have attempts := Dispatcher.step_dispatches books.wellFormed taken reload
  simp only [none, Finset.sum_const_zero, Nat.add_zero] at attempts
  exact attempts.trans books.attempts

end Steps

/-! ### Runs -/

/-- The event is no stop and no reload. -/
def SystemEvent.Undisturbing (e : SystemEvent) : Prop := e ≠ .stop ∧ ∀ body, e ≠ .reload body

theorem step_books {codec : Codec} {cfg : TaskConfig} {s s' : System} {e : SystemEvent}
    (taken : s.step codec cfg e = some s') (undisturbing : e.Undisturbing)
    (pushes : ∀ c ∈ s.calls, Pushes c) (before : ∃ cs ws, Books s cs ws) :
    ∃ cs ws, Books s' cs ws := by
  obtain ⟨cs, ws, books⟩ := before
  have live := System.stepLive_of_step taken
  cases e with
  | arrive req =>
    cases live
    exact ⟨_, ws, books.arrive _ _⟩
  | call i choice =>
    obtain ⟨c, o, k, r, shared, found, prog, executed, rfl⟩ := System.stepLive_call live
    obtain ⟨cs', after⟩ := books.call found (pushes c (List.mem_of_getElem? found)) prog executed
    exact ⟨cs', ws, after⟩
  | work i choice =>
    obtain ⟨w, w', shared, found, moved, rfl⟩ := System.stepLive_work live
    rcases Thread.step_cases moved with
      ⟨point, code, prog, entered, rfl, rfl⟩ | ⟨o, k, r, prog, executed, rfl⟩
    · obtain ⟨ws', after⟩ := books.enter found prog entered
      exact ⟨cs, ws', after⟩
    · obtain ⟨ws', after⟩ := books.work found prog executed
      exact ⟨cs, ws', after⟩
  | stop => exact absurd rfl undisturbing.1
  | reload body => exact absurd rfl (undisturbing.2 body)
  | health id th ok latencyMs =>
    simp only [System.stepLive, Option.map_eq_some_iff] at live
    obtain ⟨d, checked, rfl⟩ := live
    refine ⟨cs, ws, books.dispatcher checked (by simp) ?_ fun other => ?_⟩
    · simp only [Dispatcher.step] at checked
      split at checked <;> cases checked
      rfl
    · simp only [Dispatcher.actOn]
      split <;> rfl
  | advance ms =>
    simp only [System.stepLive, Option.map_eq_some_iff] at live
    obtain ⟨d, passed, rfl⟩ := live
    refine ⟨cs, ws, books.dispatcher passed (by simp) ?_ fun other => rfl⟩
    cases passed
    rfl

theorem start_books (env : Environment) (body : Json) (pool : Pool) (nowMs : Int) (n : Nat)
    (loaded : loadModel env body = .ok pool) :
    Books (System.start pool nowMs n) [] (List.replicate n (⟨.pure .top, {}⟩, .idle)) := by
  have none (debt : Duty → Nat) (idle : debt .idle = 0) :
      owed debt (List.replicate n ((⟨.pure .top, {}⟩ : Worker), Duty.idle)) = 0 := by
    simp [owed, idle]
  refine ⟨rfl, by simp [System.start], by simp, fun w member => ?_, rfl,
    Dispatcher.start_wellFormed env body pool nowMs loaded, ?_, ?_⟩
  · rw [(List.mem_replicate.mp member).2]
    exact ⟨Or.inl rfl, Duty.noConfusion, fun open_ => absurd open_ (by decide)⟩
  · rw [none _ rfl, none _ rfl, none _ rfl]
    exact ⟨rfl, rfl, Nat.le_refl _, rfl⟩
  · have fresh (id : Nat) : ((Dispatcher.start pool nowMs).view id).attempts = 0 := by
      have unworn := loadModel_unworn env body pool loaded id
      simp [View.attempts, unworn.successCount, unworn.failureCount, Dispatcher.view,
        Dispatcher.outstandingOn, Dispatcher.start]
    rw [System.dispatched_eq]
    simp [System.start, Dispatcher.attempts, fresh, WorkerLog.attempts]

/-- The worker waits for a request. -/
def Worker.Idle (cfg : TaskConfig) (w : Worker) : Prop :=
  w.prog = .pure .top ∨ w.prog = workerRound cfg

theorem idle_of_top {code : Code Point} {cfg : TaskConfig} {duty : Duty}
    (dutiful : Dutiful DutyHead code duty) (live : duty ≠ .stopped)
    (waits : code = .pure .top ∨ code = workerRound cfg) : duty = .idle := by
  rcases waits with rfl | rfl
  · exact dutiful.resolve_right live
  · -- any other duty would break at the pop
    have popped := Prog.Ensures.now (dutiful.2 (some {})) dutyHead_sound
    cases duty with
    | idle => rfl
    | stopped => exact absurd rfl live
    | _ => exact absurd rfl popped

/-- The counters are conserved. Over every interleaving of calls, workers, health
checks and time without a stop and without a reload: when nothing is pending,
every worker waits and every call has returned, the requests that were accepted
and those that were rejected are the successes and the failures, `total_requests_`
is the number accepted, timeouts and rejections are among the failures, and the
reports to the endpoints are the attempts that were dispatched. -/
theorem counters_conserved (env : Environment) (body : Json) (pool : Pool) (nowMs : Int) (n : Nat)
    (codec : Codec) (cfg : TaskConfig) (events : List SystemEvent) (s : System)
    (loaded : loadModel env body = .ok pool)
    (undisturbed : ∀ e ∈ events, e.Undisturbing)
    (ran : run (System.step codec cfg) (System.start pool nowMs n) events = some s)
    (empty : s.shared.drain.queue.pending = []) (idle : ∀ w ∈ s.workers, w.Idle cfg)
    (returned : ∀ c ∈ s.calls, ∃ thrown, c.prog = .pure thrown) :
    s.shared.metrics.totalRequests + s.shared.metrics.queueRejectCount =
        s.shared.metrics.successRequests + s.shared.metrics.failedRequests ∧
      s.shared.metrics.totalRequests = s.shared.drain.pushed.length ∧
      s.shared.metrics.timeoutRequests + s.shared.metrics.queueRejectCount ≤
        s.shared.metrics.failedRequests ∧
      ∑ id ∈ Finset.range s.shared.dispatcher.pool.next,
          ((s.shared.dispatcher.pool.heap id).successCount +
            (s.shared.dispatcher.pool.heap id).failureCount) = s.dispatched := by
  obtain ⟨orderly, cs, ws, books⟩ : Orderly s ∧ ∃ cs ws, Books s cs ws := by
    refine run_invariant_along (System.step codec cfg) (fun _ e _ => e.Undisturbing)
      (fun s => Orderly s ∧ ∃ cs ws, Books s cs ws) ?_ _ s events ran
      (along_of_forall _ _ _ _ undisturbed)
      ⟨start_orderly pool nowMs n, _, _, start_books env body pool nowMs n loaded⟩
    rintro s e s' taken undisturbing ⟨orderly, before⟩
    exact ⟨step_orderly codec cfg s e s' taken orderly,
      step_books taken undisturbing orderly.pushes before⟩
  -- nobody owes anything
  have settled (debt : Duty → Nat) (none : debt .idle = 0) : owed debt cs + owed debt ws = 0 := by
    have calls : owed debt cs = 0 := by
      refine List.sum_eq_zero fun x member => ?_
      obtain ⟨c, among, rfl⟩ := List.mem_map.mp member
      obtain ⟨thrown, ended⟩ := returned c.1 (books.calls ▸ List.mem_map_of_mem among)
      have duty := (books.callDuty c among).1
      rw [ended] at duty
      rw [show c.2 = .idle from duty, none]
    have workers : owed debt ws = 0 := by
      refine List.sum_eq_zero fun x member => ?_
      obtain ⟨w, among, rfl⟩ := List.mem_map.mp member
      obtain ⟨dutiful, live, _⟩ := books.workerDuty w among
      rw [idle_of_top dutiful live (idle w.1 (books.workers ▸ List.mem_map_of_mem among)), none]
    rw [calls, workers]
  obtain ⟨accepted, popped, timeouts, dispatched⟩ := books.counted
  rw [settled _ rfl] at accepted popped dispatched
  have moved := orderly.conserved.perm.length_eq
  rw [empty, List.append_nil, List.length_map] at moved
  refine ⟨by omega, accepted.symm, timeouts, ?_⟩
  rw [← books.attempts]
  refine Finset.sum_congr rfl fun id _ => ?_
  simp [View.attempts, Dispatcher.view, Dispatcher.outstandingOn,
    List.length_eq_zero_iff.mp dispatched]

/-- One request that goes to a backend and succeeds there. -/
def oneSuccess : List SystemEvent :=
  .arrive { logicalModel := "m" } :: List.replicate 4 (.call 0 smooth) ++
    List.replicate 17 (.work 0 smooth)

theorem counters_conserved_oneSuccess : ∃ pool s, loadModel {} oneBackend = .ok pool ∧
    run (System.step oneDelta { mockMode := false }) (System.start pool 0 1) oneSuccess = some s ∧
    s.shared.drain.queue.pending = [] ∧ (∀ w ∈ s.workers, w.Idle { mockMode := false }) ∧
    (∀ c ∈ s.calls, ∃ thrown, c.prog = .pure thrown) ∧ s.dispatched = 1 ∧
    ∑ id ∈ Finset.range s.shared.dispatcher.pool.next,
      ((s.shared.dispatcher.pool.heap id).successCount +
        (s.shared.dispatcher.pool.heap id).failureCount) = s.dispatched := by
  obtain ⟨pool, s, loaded, ran, empty, idle, returned, one⟩ : ∃ pool s,
      loadModel {} oneBackend = .ok pool ∧
      run (System.step oneDelta { mockMode := false }) (System.start pool 0 1) oneSuccess = some s ∧
      s.shared.drain.queue.pending = [] ∧ (∀ w ∈ s.workers, w.Idle { mockMode := false }) ∧
      (∀ c ∈ s.calls, ∃ thrown, c.prog = .pure thrown) ∧ s.dispatched = 1 := by
    refine ⟨_, _, rfl, rfl, ?_⟩
    exact ⟨rfl, List.forall_mem_singleton.mpr (Or.inl rfl),
      List.forall_mem_singleton.mpr ⟨false, rfl⟩, rfl⟩
  have undisturbed : ∀ e ∈ oneSuccess, e.Undisturbing := by
    simp [oneSuccess, SystemEvent.Undisturbing]
  exact ⟨pool, s, loaded, ran, empty, idle, returned, one,
    (counters_conserved {} oneBackend pool 0 1 oneDelta { mockMode := false } oneSuccess s loaded
      undisturbed ran empty idle returned).2.2.2⟩

end VllmRoute.Scheduler
