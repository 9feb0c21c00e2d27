import VllmRoute.Scheduler.Log
import VllmRoute.Scheduler.Records

/-!
# The scheduler as a system

A `vllm_task` with its workers, the calls of `inference` in progress, and the
events that reach it from outside. The threads interleave at their operations,
each of which is executed here on the shared state.
-/
namespace VllmRoute.Scheduler

open Lib

/-- What the threads of a `vllm_task` share. `sent` is what went out to clients. -/
structure Shared where
  dispatcher : Dispatcher
  drain : Drain := {}
  records : List RequestRecord := []
  metrics : Metrics := {}
  retryCount : Nat := 0
  stopping : Bool := false
  taskIdCounter : Int := 0
  sent : List ClientMessage := []

/-- What an operation finds outside the shared state: the limits and thresholds that it
read under `config_mtx_` before its critical section, which may be outdated by
then, and the behaviour of libcurl and of the backend. -/
structure Choice where
  limits : QueueLimits := {}
  thresholds : Thresholds
  curlReady : Bool := true
  transfer : Transfer := .done none 200

/-- One operation. `none`: it has to wait. -/
def exec (choice : Choice) (s : Shared) : (o : Op) → Option (o.Resp × Shared)
  | .popNextRequest =>
    match popNextRequest choice.limits.highPriorityThreshold s.drain.queue with
    | some (req, _) => (s.drain.step choice.limits.highPriorityThreshold .pop).map fun drain =>
        (some req, { s with drain := drain })
    -- `wait` holds the worker until a request arrives or the task stops
    | none => if s.stopping then some (none, s) else none
  | .loadStopping => some (s.stopping, s)
  | .nowMs => some (s.dispatcher.nowMs, s)
  | .endpointWaitMs => some (s.dispatcher.pool.cfg.endpointWaitMs, s)
  | .selectEndpoint req =>
    let d := s.dispatcher
    let threshold := choice.limits.highPriorityThreshold
    let chosen := (selectEndpoint req threshold d.nowMs d.pool.endpoints d.pool.heap).1
    (d.step (.select req threshold)).map fun d' =>
      (chosen.map fun id => (⟨id, d'.eras id⟩, d'.pool.heap id), { s with dispatcher := d' })
  | .updateEndpointResult attempt ok latencyMs =>
    let d := s.dispatcher
    -- the attempt that `select_endpoint` handed to this worker
    match d.outstanding.findIdx? (· = attempt) with
    | some slot => (d.step (.complete slot choice.thresholds ok latencyMs)).map fun d' =>
        ((), { s with dispatcher := d' })
    | none => none
  | .countRetry => some ((), { s with retryCount := s.retryCount + 1 })
  | .updateRecord req status errorMessage =>
    some ((), { s with records := updateRecord req status errorMessage s.records })
  | .onRequestFinish ok timeout degraded totalLatencyMs queueWaitMs firstTokenLatencyMs =>
    let metrics := s.metrics.onRequestFinish ok timeout degraded totalLatencyMs queueWaitMs
      firstTokenLatencyMs
    some ((), { s with metrics := metrics })
  | .sendRawForUrl message => some ((), { s with sent := s.sent ++ [message] })
  -- what libcurl and the backend do is not decided here
  | .curlEasyInit => some (choice.curlReady, s)
  | .curlEasyPerform => some (choice.transfer, s)
  | .enqueue req =>
    (s.drain.step choice.limits.highPriorityThreshold (.push choice.limits req)).map fun drain =>
      ((enqueue choice.limits s.drain.queue req).1, { s with drain := drain })
  | .onQueueReject => some ((), { s with metrics := s.metrics.onQueueReject })
  | .onRequestAccepted timeMs => some ((), { s with metrics := s.metrics.onRequestAccepted timeMs })
  | .recordPending req =>
    some ((), { s with
      records := recordPending s.dispatcher.pool.cfg.maxTaskRecords req s.records })

section Exec

variable {choice : Choice} {s s' : Shared}

/-- A worker leaves the queue with a request, or with nothing after a stop. -/
theorem exec_popNextRequest {r : Op.popNextRequest.Resp}
    (executed : exec choice s .popNextRequest = some (r, s')) :
    (∃ req queue, r = some req ∧
      popNextRequest choice.limits.highPriorityThreshold s.drain.queue = some (req, queue) ∧
      s.drain.step choice.limits.highPriorityThreshold .pop = some s'.drain ∧
      s' = { s with drain := { s.drain with
        queue := queue, pops := s.drain.pops ++ [⟨s.drain.queue, req, queue⟩] } }) ∨
    (s.stopping = true ∧ r = none ∧ s' = s ∧
      popNextRequest choice.limits.highPriorityThreshold s.drain.queue = none) := by
  simp only [exec] at executed
  split at executed
  next req queue pop =>
    have stepped : s.drain.step choice.limits.highPriorityThreshold .pop = some { s.drain with
        queue := queue, pops := s.drain.pops ++ [⟨s.drain.queue, req, queue⟩] } := by
      rw [Drain.step, pop, Option.map_some]
    rw [stepped] at executed
    cases executed
    exact Or.inl ⟨req, queue, rfl, pop, stepped, rfl⟩
  next blocked =>
    split at executed
    next stopping =>
      cases executed
      exact Or.inr ⟨stopping, rfl, rfl, blocked⟩
    next => cases executed

theorem exec_selectEndpoint {req : InferenceRequest} {r : (Op.selectEndpoint req).Resp}
    (executed : exec choice s (.selectEndpoint req) = some (r, s')) :
    ∃ d, s' = { s with dispatcher := d } := by
  simp only [exec, Option.map_eq_some_iff] at executed
  obtain ⟨d, _, equal⟩ := executed
  cases equal
  exact ⟨d, rfl⟩

/-- A result is that of an attempt in flight. -/
theorem exec_updateEndpointResult {attempt : Attempt} {ok : Bool} {latencyMs : Int}
    {r : (Op.updateEndpointResult attempt ok latencyMs).Resp}
    (executed : exec choice s (.updateEndpointResult attempt ok latencyMs) = some (r, s')) :
    ∃ slot d, s.dispatcher.step (.complete slot choice.thresholds ok latencyMs) = some d ∧
      s' = { s with dispatcher := d } := by
  simp only [exec] at executed
  split at executed
  next slot _ =>
    simp only [Option.map_eq_some_iff] at executed
    obtain ⟨d, taken, equal⟩ := executed
    cases equal
    exact ⟨slot, d, taken, rfl⟩
  next => cases executed

end Exec

abbrev Worker := Thread Op Op.Resp Point WorkerLog

/-- A call of `inference`. -/
abbrev Call := Thread Op Op.Resp Bool Unit

def Worker.exited (w : Worker) : Bool :=
  match w.prog with
  | .pure .exited => true
  | _ => false

structure System where
  shared : Shared
  calls : List Call := []
  workers : List Worker

inductive SystemEvent where
  /-- `inference` is called; the other fields of the request are filled in -/
  | arrive (req : InferenceRequest)
  | call (i : Nat) (choice : Choice)
  | work (i : Nat) (choice : Choice)
  | stop
  | health (id : Nat) (th : Thresholds) (ok : Bool) (latencyMs : Int)
  | reload (body : Json)
  | advance (ms : Nat)

namespace System

/-- A scheduler after `load_model` and `start` with `n` workers. -/
def start (pool : Pool) (nowMs : Int) (n : Nat) : System :=
  { shared := { dispatcher := .start pool nowMs }, workers := List.replicate n ⟨.pure .top, {}⟩ }

/-- An exception has left a thread, and the process is gone. -/
def terminated (s : System) : Bool :=
  (s.workers.any fun w => match w.prog with
    | .pure .crashed => true
    | _ => false) ||
  s.calls.any fun c => match c.prog with
    | .pure thrown => thrown
    | _ => false

def setDispatcher (s : System) (d : Dispatcher) : System :=
  { s with shared := { s.shared with dispatcher := d } }

/-- One step of a live system. -/
def stepLive (codec : Codec) (cfg : TaskConfig) (s : System) : SystemEvent → Option System
  | .arrive req =>
    let taskId := s.shared.taskIdCounter + 1
    some { s with
      shared := { s.shared with taskIdCounter := taskId }
      calls := s.calls ++ [⟨inference { req with taskId := taskId }, ()⟩] }
  | .call i choice => do
    let c ← s.calls[i]?
    let (c, shared) ← c.step (fun _ => none) (fun _ _ log => log) (exec choice) s.shared
    return { s with shared := shared, calls := s.calls.set i c }
  | .work i choice => do
    let w ← s.workers[i]?
    let (w, shared) ← w.step (worker codec cfg) logOp (exec choice) s.shared
    return { s with shared := shared, workers := s.workers.set i w }
  | .stop => some { s with shared := { s.shared with stopping := true } }
  | .health id th ok latencyMs =>
    (s.shared.dispatcher.step (.health id th ok latencyMs)).map s.setDispatcher
  | .reload body => (s.shared.dispatcher.step (.reload body)).map s.setDispatcher
  | .advance ms => (s.shared.dispatcher.step (.advance ms)).map s.setDispatcher

def step (codec : Codec) (cfg : TaskConfig) (s : System) (e : SystemEvent) : Option System :=
  if s.terminated then none else s.stepLive codec cfg e

section Inversion

variable {codec : Codec} {cfg : TaskConfig} {s s' : System} {i : Nat} {choice : Choice}

theorem stepLive_of_step {e : SystemEvent} (taken : s.step codec cfg e = some s') :
    s.stepLive codec cfg e = some s' := by
  unfold step at taken
  split at taken
  · cases taken
  · exact taken

/-- A call makes one operation, since its code has no loop. -/
theorem stepLive_call (taken : s.stepLive codec cfg (.call i choice) = some s') :
    ∃ c o k r shared, s.calls[i]? = some c ∧ c.prog = .op o k ∧
      exec choice s.shared o = some (r, shared) ∧
      s' = { s with shared := shared, calls := s.calls.set i ⟨k r, ()⟩ } := by
  simp only [stepLive, Option.bind_eq_bind, Option.bind_eq_some_iff] at taken
  obtain ⟨c, found, ⟨c', shared⟩, moved, equal⟩ := taken
  cases equal
  rcases Thread.step_cases moved with ⟨_, _, _, code, _⟩ | ⟨o, k, r, prog, executed, rfl⟩
  · cases code
  · exact ⟨c, o, k, r, shared, found, prog, executed, rfl⟩

theorem stepLive_work (taken : s.stepLive codec cfg (.work i choice) = some s') :
    ∃ w w' shared, s.workers[i]? = some w ∧
      w.step (worker codec cfg) logOp (exec choice) s.shared = some (w', shared) ∧
      s' = { s with shared := shared, workers := s.workers.set i w' } := by
  simp only [stepLive, Option.bind_eq_bind, Option.bind_eq_some_iff] at taken
  obtain ⟨w, found, ⟨w', shared⟩, moved, equal⟩ := taken
  cases equal
  exact ⟨w, w', shared, found, moved, rfl⟩

end Inversion

/-- The requests that workers took, with what they did for them. -/
def tallies (s : System) : List Tally := s.workers.flatMap fun w => w.log.tallies

end System

end VllmRoute.Scheduler
