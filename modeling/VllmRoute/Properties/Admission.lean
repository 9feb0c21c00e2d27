import VllmRoute.Lib.Replace
import VllmRoute.Properties.Draining
import VllmRoute.Scheduler.Lifecycle
import VllmRoute.Scheduler.Sharing
import VllmRoute.Scheduler.System

/-!
# Admission control

Each of the tests by which `inference` turns a request away is a rule with a
bound: a request that the rule covers is let in below the bound only. So the
bound holds for the pending requests it covers, whatever the others do and
however the calls of `inference` interleave with the pops.
-/
namespace VllmRoute.Scheduler

open Lib

/-! ### The rules -/

/-- A rule of admission, with the priorities it covers. A bound that is not positive
switches it off. -/
structure Rule where
  bound : Int
  covers : Int → Bool

/-- The tests of `inference`, in their order. -/
def QueueLimits.rules (limits : QueueLimits) : List Rule :=
  [{ bound := limits.maxQueueSize, covers := fun _ => true },
   { bound := 9 * limits.maxQueueSize / 10, covers := (· < limits.highPriorityThreshold) },
   { bound := limits.lowPriorityDropThreshold, covers := (· < 4) }]

namespace Rule

/-- The rule lets a request in, at this length of the queue. -/
def Admits (rule : Rule) (length : Nat) (priority : Int) : Prop :=
  0 < rule.bound → rule.covers priority = true → (length : Int) < rule.bound

/-- The rule's bound holds for what it covers. -/
def Bounds (rule : Rule) (pending : List InferenceRequest) : Prop :=
  0 < rule.bound → (pending.countP fun req => rule.covers req.priority : Int) ≤ rule.bound

variable {rule : Rule} {pending pending' : List InferenceRequest} {req : InferenceRequest}

theorem bounds_nil : rule.Bounds [] := by
  intro on
  simpa using Int.le_of_lt on

theorem Bounds.push (bounds : rule.Bounds pending)
    (admits : rule.Admits pending.length req.priority) : rule.Bounds (pending ++ [req]) := by
  intro on
  rw [List.countP_append, List.countP_singleton]
  split
  next covered =>
    -- below the bound even if the rule covers everything that is pending
    have room := admits on covered
    have few : pending.countP (fun req => rule.covers req.priority) ≤ pending.length :=
      List.countP_le_length
    omega
  next => simpa using bounds on

theorem Bounds.pop (bounds : rule.Bounds pending) (perm : (req :: pending').Perm pending) :
    rule.Bounds pending' := by
  intro on
  have before := bounds on
  rw [← perm.countP_eq, List.countP_cons] at before
  omega

end Rule

section Rules

variable {limits : QueueLimits} {q q' : Queue} {req req' : InferenceRequest}

theorem toInt32_length {pending : List InferenceRequest} (small : (pending.length : Int) ≤ intMax) :
    toInt32 pending.length = pending.length := by
  unfold intMax at small
  exact Int.bmod_eq_of_le (by omega) (by omega)

/-- The overload threshold is nine tenths, rounded down. -/
theorem overloadThreshold_eq (positive : 0 < limits.maxQueueSize) :
    (if limits.maxQueueSize > 0 then (limits.maxQueueSize * 9).tdiv 10 else 0) =
      9 * limits.maxQueueSize / 10 := by
  rw [if_pos positive, Int.tdiv_eq_ediv_of_nonneg (by omega), Int.mul_comm]

theorem rejection_none_iff (positive : 0 < limits.maxQueueSize)
    (small : (q.pending.length : Int) ≤ intMax) :
    rejection limits q req = none ↔
      ∀ rule ∈ limits.rules, rule.Admits q.pending.length req.priority := by
  simp only [rejection, overloadThreshold_eq positive, toInt32_length small, QueueLimits.rules,
    Rule.Admits, List.forall_mem_cons, List.not_mem_nil, false_imp_iff, implies_true, and_true,
    decide_eq_true_eq, forall_const]
  split
  · simp only [reduceCtorEq, false_iff]
    omega
  · split
    · simp only [reduceCtorEq, false_iff]
      omega
    · split
      · simp only [reduceCtorEq, false_iff]
        omega
      · simp only [true_iff]
        omega

theorem rejection_code (small : (q.pending.length : Int) ≤ intMax)
    (positive : 0 < limits.maxQueueSize) {code : Int} {message : String}
    (refused : rejection limits q req = some (code, message)) :
    code = if limits.maxQueueSize ≤ q.pending.length then -40 else -43 := by
  simp only [rejection, toInt32_length small] at refused
  split at refused
  next full =>
    cases refused
    exact (if_pos full.2).symm
  next room =>
    rw [if_neg fun full => room ⟨positive, full⟩]
    split at refused
    · cases refused
      rfl
    · split at refused
      · cases refused
        rfl
      · cases refused

/-- A rule covers the lower priorities. -/
theorem covers_antitone {rule : Rule} (member : rule ∈ limits.rules) {p p' : Int} (higher : p ≤ p')
    (covered : rule.covers p' = true) : rule.covers p = true := by
  simp only [QueueLimits.rules, List.mem_cons, List.not_mem_nil, or_false] at member
  rcases member with rfl | rfl | rfl
  · rfl
  · simp only [decide_eq_true_eq] at covered ⊢
    omega
  · simp only [decide_eq_true_eq] at covered ⊢
    omega

theorem rejection_monotone (positive : 0 < limits.maxQueueSize)
    (small : (q.pending.length : Int) ≤ intMax) (accepted : rejection limits q req = none)
    (shorter : q'.pending.length ≤ q.pending.length) (higher : req.priority ≤ req'.priority) :
    rejection limits q' req' = none := by
  rw [rejection_none_iff positive small] at accepted
  rw [rejection_none_iff positive (by omega)]
  intro rule member on covered
  have room := accepted rule member on (covers_antitone member higher covered)
  omega

theorem Drain.step_bounded {s s' : Drain} {e : QueueEvent} (positive : 0 < limits.maxQueueSize)
    (constant : ∀ limits' req, e = .push limits' req → limits' = limits)
    (taken : s.step limits.highPriorityThreshold e = some s') (conserved : s.Conserved)
    (small : (s.queue.pending.length : Int) ≤ intMax)
    (bounded : ∀ rule ∈ limits.rules, rule.Bounds s.queue.pending) :
    ∀ rule ∈ limits.rules, rule.Bounds s'.queue.pending := by
  intro rule member
  cases e with
  | push limits' req =>
    obtain rfl := constant limits' req rfl
    cases refused : rejection limits' s.queue req with
    | some error =>
      simp only [step, enqueue, refused, Option.some.injEq] at taken
      exact taken ▸ bounded rule member
    | none =>
      simp only [step, enqueue, refused, Option.some.injEq] at taken
      subst taken
      exact (bounded rule member).push ((rejection_none_iff positive small).mp refused rule member)
  | pop =>
    simp only [step, Option.map_eq_some_iff] at taken
    obtain ⟨⟨req, queue⟩, popped, rfl⟩ := taken
    exact (bounded rule member).pop
      (popNextRequest_perm limits.highPriorityThreshold _ _ _ conserved.slot popped).1

end Rules

/-! ### Calls of `inference` -/

/-- What a call did: the requests it asked the queue to take, with the answers, and
the messages it sent. -/
structure CallLog where
  req : InferenceRequest
  asked : List (InferenceRequest × Option (Int × String)) := []
  sent : List ClientMessage := []

def noteCall : (o : Op) → o.Resp → CallLog → CallLog
  | .enqueue req, (answer : Option (Int × String)), log =>
    { log with asked := log.asked ++ [(req, answer)] }
  | .sendRawForUrl m, _, log => { log with sent := log.sent ++ [m] }
  | _, _, log => log

/-- The request as its call enqueues it. -/
def InferenceRequest.created (req : InferenceRequest) (createdMs : Int) : InferenceRequest :=
  { req with createdMs := createdMs, deadlineAtMs := createdMs + req.deadlineMs }

/-- The message of `emit_error`. -/
def errorReply (req : InferenceRequest) (code : Int) (message : Bytes) : ClientMessage where
  requestId := req.requestId
  workId := req.workId
  outputUrl := req.outputUrl
  object := lit "None"
  data := .text (lit "None")
  errorCode := code
  errorMessage := message

/-- One call of `send_client_message`: whether it throws, and what it sends. There is
nobody to send to without a URL, and ids that are no UTF-8 cannot be dumped. -/
def sentOnce (m : ClientMessage) : Bool × List ClientMessage :=
  if m.outputUrl.isEmpty then (false, []) else if m.dumps then (false, [m]) else (true, [])

/-- The end of a call: it asked once, and emitted one error if it was refused. -/
def CallLog.Settled (thrown : Bool) (log : CallLog) : Prop :=
  ∃ createdMs answer, log.asked = [(log.req.created createdMs, answer)] ∧
    (thrown, log.sent) = match answer with
      | none => (false, [])
      | some (code, message) =>
        sentOnce (errorReply (log.req.created createdMs) code (lit message))

/-- The rest of a call leads to its end, and takes its turns. -/
structure CallRest (code : Code Bool) (log : CallLog) : Prop where
  settles : code.Ensures noteCall (fun _ => True) CallLog.Settled log
  turns : ∃ stage, Calling code stage

theorem sendClientMessage_once (m : ClientMessage) (log : CallLog) (unsent : log.sent = []) :
    (sendClientMessage m).Ensures noteCall (fun _ => True)
      (fun thrown log' => log'.req = log.req ∧ log'.asked = log.asked ∧
        (thrown, log'.sent) = sentOnce m) log := by
  unfold sendClientMessage sentOnce
  split
  · exact ⟨rfl, rfl, by rw [unsent]⟩
  · split
    · exact ⟨trivial, fun _ => ⟨rfl, rfl, by simp [noteCall, unsent]⟩⟩
    · exact ⟨rfl, rfl, by rw [unsent]⟩

theorem inference_rest (req : InferenceRequest) : CallRest (inference req) { req := req } := by
  refine ⟨⟨trivial, fun createdMs => ⟨trivial, fun answer => ?_⟩⟩, _, inference_calling req⟩
  cases answer with
  | none => exact ⟨trivial, fun _ => ⟨trivial, fun _ => ⟨createdMs, none, rfl, rfl⟩⟩⟩
  | some error =>
    refine ⟨trivial, fun _ => ?_⟩
    refine (sendClientMessage_once (errorReply (req.created createdMs) error.1 (lit error.2))
      { req := req, asked := [(req.created createdMs, some error)] } rfl).mono ?_
    rintro thrown log ⟨own, asked, emitted⟩
    exact ⟨createdMs, some error, by rw [asked, own], by rw [own]; exact emitted⟩

theorem CallRest.next {o : Op} {k : o.Resp → Code Bool} {log : CallLog}
    (rest : CallRest (.op o k) log) (r : o.Resp) : CallRest (k r) (noteCall o r log) := by
  obtain ⟨settles, stage, turns⟩ := rest
  exact ⟨settles.2 r, _, turns.2 r⟩

/-- Calls leave the pops to the workers. -/
theorem CallRest.not_pop {o : Op} {k : o.Resp → Code Bool} {log : CallLog}
    (rest : CallRest (.op o k) log) : o ≠ .popNextRequest := by
  rintro rfl
  obtain ⟨_, stage, turns⟩ := rest
  exact Calling.sound (turns.2 (none : Option InferenceRequest)) rfl

/-- What a step of a call does to the queue: it has one request admitted or refused, by
the length it finds, or leaves the queue alone. -/
def Decides (limits : QueueLimits) (q q' : Queue) (log log' : CallLog) : Prop :=
  (q' = q ∧ log'.asked = log.asked) ∨
    ∃ req, log'.asked = log.asked ++ [(req, rejection limits q req)] ∧
      q'.pending = if (rejection limits q req).isNone then q.pending ++ [req] else q.pending

section Executing

variable {choice : Choice} {s s' : Shared}

/-- The operations of a call on the queue. -/
theorem exec_drain {o : Op} {r : o.Resp} (executed : exec choice s o = some (r, s'))
    (other : o ≠ .popNextRequest) (log : CallLog) :
    (s'.drain = s.drain ∧ (noteCall o r log).asked = log.asked) ∨
      ∃ req, s.drain.step choice.limits.highPriorityThreshold (.push choice.limits req) =
          some s'.drain ∧
        (noteCall o r log).asked =
          log.asked ++ [(req, rejection choice.limits s.drain.queue req)] := by
  cases o with
  | popNextRequest => exact absurd rfl other
  | enqueue req =>
    simp only [exec, Option.map_eq_some_iff] at executed
    obtain ⟨drain, stepped, equal⟩ := executed
    cases equal
    refine Or.inr ⟨req, stepped, ?_⟩
    simp only [noteCall, enqueue]
    split <;> simp [*]
  | selectEndpoint req =>
    obtain ⟨d, rfl⟩ := exec_selectEndpoint executed
    exact Or.inl ⟨rfl, rfl⟩
  | updateEndpointResult attempt ok latencyMs =>
    obtain ⟨_, d, _, rfl⟩ := exec_updateEndpointResult executed
    exact Or.inl ⟨rfl, rfl⟩
  | _ =>
    cases executed
    exact Or.inl ⟨rfl, rfl⟩

theorem push_decides {limits : QueueLimits} {d d' : Drain} {req : InferenceRequest}
    {log log' : CallLog}
    (stepped : d.step limits.highPriorityThreshold (.push limits req) = some d')
    (asked : log'.asked = log.asked ++ [(req, rejection limits d.queue req)]) :
    Decides limits d.queue d'.queue log log' := by
  refine Or.inr ⟨req, asked, ?_⟩
  simp only [Drain.step, Option.some.injEq] at stepped
  subst stepped
  simp only [enqueue]
  split <;> simp [*]

end Executing

/-! ### Runs of calls and pops -/

abbrev LoggedCall := Thread Op Op.Resp Bool CallLog

/-- The task with the calls that were made. -/
structure Admission where
  shared : Shared
  calls : List LoggedCall := []

inductive AdmissionEvent where
  | arrive (req : InferenceRequest)
  | call (i : Nat)
  | pop
  | advance (ms : Nat)

namespace Admission

def start (d : Dispatcher) : Admission := { shared := { dispatcher := d } }

/-- A step of a call, which is over when its code is. -/
def callStep (choice : Choice) (c : LoggedCall) (shared : Shared) : Option (LoggedCall × Shared) :=
  c.step (fun _ => none) noteCall (exec choice) shared

/-- A step of the task. The limits are those of the choice, and constant. -/
def step (choice : Choice) (s : Admission) : AdmissionEvent → Option Admission
  | .arrive req => some { s with calls := s.calls ++ [⟨inference req, { req := req }⟩] }
  | .call i => do
    let c ← s.calls[i]?
    let (c, shared) ← callStep choice c s.shared
    return { shared := shared, calls := s.calls.set i c }
  | .pop => do
    let (_, shared) ← exec choice s.shared .popNextRequest
    return { s with shared := shared }
  | .advance ms => (s.shared.dispatcher.step (.advance ms)).map fun d =>
      { s with shared := { s.shared with dispatcher := d } }

def pending (s : Admission) : List InferenceRequest := s.shared.drain.queue.pending

structure Regular (limits : QueueLimits) (s : Admission) : Prop where
  conserved : s.shared.drain.Conserved
  bounded : ∀ rule ∈ limits.rules, rule.Bounds s.pending
  calls : ∀ c ∈ s.calls, CallRest c.prog c.log

variable {choice : Choice} {s s' : Admission}

theorem Regular.length_le {limits : QueueLimits} (regular : s.Regular limits)
    (positive : 0 < limits.maxQueueSize) : (s.pending.length : Int) ≤ limits.maxQueueSize := by
  -- the first rule covers every priority
  have bounded := regular.bounded ⟨limits.maxQueueSize, fun _ => true⟩ (by simp [QueueLimits.rules])
    positive
  simpa using bounded

/-- A step of a call, taken apart. -/
theorem Regular.call_step (regular : s.Regular choice.limits)
    {c c' : LoggedCall} {shared : Shared} (member : c ∈ s.calls)
    (stepped : callStep choice c s.shared = some (c', shared)) :
    CallRest c'.prog c'.log ∧
      ((shared.drain = s.shared.drain ∧ c'.log.asked = c.log.asked) ∨
        ∃ req, s.shared.drain.step choice.limits.highPriorityThreshold (.push choice.limits req) =
            some shared.drain ∧
          c'.log.asked =
            c.log.asked ++ [(req, rejection choice.limits s.shared.drain.queue req)]) := by
  have rest := regular.calls c member
  rcases Thread.step_cases stepped with ⟨_, _, _, code, _⟩ | ⟨o, k, r, prog, executed, rfl⟩
  · cases code
  · rw [prog] at rest
    exact ⟨rest.next r, exec_drain executed rest.not_pop c.log⟩

theorem step_regular (positive : 0 < choice.limits.maxQueueSize)
    (range : 9 * choice.limits.maxQueueSize ≤ intMax) (e : AdmissionEvent)
    (taken : s.step choice e = some s') (regular : s.Regular choice.limits) :
    s'.Regular choice.limits := by
  have small : (s.shared.drain.queue.pending.length : Int) ≤ intMax := by
    have := regular.length_le positive
    unfold pending at this
    omega
  -- an admission or a pop keeps the bounds
  have advance {drain : Drain} {e : QueueEvent}
      (constant : ∀ limits' req, e = .push limits' req → limits' = choice.limits)
      (stepped : s.shared.drain.step choice.limits.highPriorityThreshold e = some drain) :
      drain.Conserved ∧ ∀ rule ∈ choice.limits.rules, rule.Bounds drain.queue.pending :=
    ⟨Drain.step_conserved _ _ _ _ stepped regular.conserved,
      Drain.step_bounded positive constant stepped regular.conserved small regular.bounded⟩
  cases e with
  | arrive req =>
    cases taken
    refine ⟨regular.conserved, regular.bounded, fun c member => ?_⟩
    rcases List.mem_append.mp member with old | new
    · exact regular.calls c old
    · rw [List.mem_singleton.mp new]
      exact inference_rest req
  | call i =>
    simp only [step, bind, Option.bind_eq_some_iff] at taken
    obtain ⟨c, found, ⟨c', shared⟩, stepped, equal⟩ := taken
    cases equal
    obtain ⟨rest, moved⟩ := regular.call_step (List.mem_of_getElem? found) stepped
    have calls : ∀ c ∈ s.calls.set i c', CallRest c.prog c.log := forall_mem_set regular.calls rest
    rcases moved with ⟨same, _⟩ | ⟨req, pushed, _⟩
    · refine ⟨?_, ?_, calls⟩
      · rw [same]
        exact regular.conserved
      · simp only [pending, same]
        exact regular.bounded
    · obtain ⟨conserved, bounded⟩ := advance (by rintro _ _ ⟨⟩; rfl) pushed
      exact ⟨conserved, bounded, calls⟩
  | pop =>
    simp only [step, bind, Option.bind_eq_some_iff] at taken
    obtain ⟨⟨_, shared⟩, executed, equal⟩ := taken
    cases equal
    rcases exec_popNextRequest executed with ⟨_, _, _, _, popped, _⟩ | ⟨_, _, rfl, _⟩
    · obtain ⟨conserved, bounded⟩ := advance (fun _ _ push => by cases push) popped
      exact ⟨conserved, bounded, regular.calls⟩
    · -- only a stop wakes a worker without a request, and it changes nothing
      exact regular
  | advance ms =>
    simp only [step, Option.map_eq_some_iff] at taken
    obtain ⟨d, _, rfl⟩ := taken
    exact ⟨regular.conserved, regular.bounded, regular.calls⟩

theorem run_regular (positive : 0 < choice.limits.maxQueueSize)
    (range : 9 * choice.limits.maxQueueSize ≤ intMax) (d : Dispatcher)
    (events : List AdmissionEvent)
    (ran : run (step choice) (start d) events = some s) :
    s.Regular choice.limits := by
  apply run_invariant (step choice) (Regular choice.limits)
    (fun s e s' taken => step_regular positive range e taken) _ s events ran
  exact ⟨⟨Nat.succ_pos 8, List.Perm.refl _⟩, fun _ _ => Rule.bounds_nil, by simp [start]⟩

/-- Admission bounds the queue and is monotone. Over every interleaving of calls of
`inference` and pops, with constant limits: the queue keeps within its size, the
requests below the high priority within nine tenths of it and the background
requests within the drop threshold; what is accepted at some length is accepted
at a smaller one and with a higher priority; a step of a call admits or refuses
its request and leaves the rest of the queue alone, with -40 for a full queue
and -43 otherwise; and a call that has come to its end asked once, with one
error emitted if and only if it was refused. -/
theorem admission_bounded (choice : Choice) (positive : 0 < choice.limits.maxQueueSize)
    (range : 9 * choice.limits.maxQueueSize ≤ intMax) (d : Dispatcher)
    (events : List AdmissionEvent) (s : Admission)
    (ran : run (step choice) (start d) events = some s) :
    ((s.pending.length : Int) ≤ choice.limits.maxQueueSize ∧
      (0 < 9 * choice.limits.maxQueueSize / 10 →
        (s.pending.countP fun req => req.priority < choice.limits.highPriorityThreshold : Int) ≤
          9 * choice.limits.maxQueueSize / 10) ∧
      (0 < choice.limits.lowPriorityDropThreshold →
        (s.pending.countP fun req => req.priority < 4 : Int) ≤
          choice.limits.lowPriorityDropThreshold)) ∧
    (∀ q q' req req', (q.pending.length : Int) ≤ intMax →
      rejection choice.limits q req = none → q'.pending.length ≤ q.pending.length →
      req.priority ≤ req'.priority → rejection choice.limits q' req' = none) ∧
    (∀ c ∈ s.calls, ∀ c' shared,
      callStep choice c s.shared = some (c', shared) →
      Decides choice.limits s.shared.drain.queue shared.drain.queue c.log c'.log) ∧
    (∀ req code message, rejection choice.limits s.shared.drain.queue req = some (code, message) →
      code = if choice.limits.maxQueueSize ≤ s.pending.length then -40 else -43) ∧
    ∀ c ∈ s.calls, ∀ thrown, c.prog = .pure thrown → c.log.Settled thrown := by
  have regular := run_regular positive range d events ran
  have length := regular.length_le positive
  have small : (s.pending.length : Int) ≤ intMax := by omega
  refine ⟨⟨length, fun on => ?_, fun on => ?_⟩,
    fun q q' req req' fits accepted shorter higher => ?_,
    fun c member c' shared stepped => ?_, fun req code message refused => ?_,
    fun c member thrown ended => ?_⟩
  · exact regular.bounded ⟨_, (· < choice.limits.highPriorityThreshold)⟩
      (by simp [QueueLimits.rules]) on
  · exact regular.bounded ⟨_, (· < 4)⟩ (by simp [QueueLimits.rules]) on
  · exact rejection_monotone positive fits accepted shorter higher
  · obtain ⟨_, ⟨same, asked⟩ | ⟨req, pushed, asked⟩⟩ := regular.call_step member stepped
    · exact Or.inl ⟨by rw [same], asked⟩
    · exact push_decides pushed asked
  · exact rejection_code small positive refused
  · have rest := (regular.calls c member).settles
    rwa [ended] at rest

/-- A queue of one request. -/
def oneSlot : Choice where
  limits := { maxQueueSize := 1 }
  thresholds := ({} : TaskConfig).thresholds

/-- Two calls, of which the second finds the queue full. -/
theorem admission_bounded_oneSlot : ∃ s,
    run (step oneSlot) (start (.start (emptyPool {}) 0))
      [.arrive {}, .arrive {}, .call 0, .call 0, .call 1, .call 1] = some s ∧
    s.pending.length = 1 ∧ (s.pending.length : Int) ≤ oneSlot.limits.maxQueueSize := by
  obtain ⟨s, ran, full⟩ : ∃ s, run (step oneSlot) (start (.start (emptyPool {}) 0))
      [.arrive {}, .arrive {}, .call 0, .call 0, .call 1, .call 1] = some s ∧
      s.pending.length = 1 := ⟨_, rfl, rfl⟩
  exact ⟨s, ran, full, (admission_bounded oneSlot (by decide) (by decide) _ _ s ran).1.1⟩

end Admission

end VllmRoute.Scheduler
