import VllmRoute.Lib.Keyed
import VllmRoute.Lib.Replace
import VllmRoute.Properties.Accounting
import VllmRoute.Properties.Draining
import VllmRoute.Properties.Outcome
import VllmRoute.Scheduler.Lifecycle
import VllmRoute.Scheduler.System

/-!
# Termination of requests

Over whole runs of the scheduler: every request that was admitted while some
worker was alive is taken by one worker, and is over once all workers have
exited.
-/
namespace VllmRoute.Scheduler

open Lib

/-! ### One operation -/

theorem note_req (t : Tally) (o : Op) (r : o.Resp) : (t.note o r).req = t.req := by
  unfold Tally.note
  split <;> first | rfl | (split <;> rfl)

theorem noteCurrent_req (o : Op) (r : o.Resp) (tallies : List Tally) :
    (noteCurrent o r tallies).map Tally.req = tallies.map Tally.req := by
  cases tallies with
  | nil => rfl
  | cons t done => simp [noteCurrent, note_req]

/-- What an operation does to the queue, and to the log of the worker that makes it. -/
inductive Moves (s s' : Shared) (log log' : WorkerLog) : Prop where
  | aside (drain : s'.drain = s.drain)
      (tallies : log'.tallies.map Tally.req = log.tallies.map Tally.req)
      (drained : log'.drained = log.drained)
  | pushed (highPriorityThreshold : Int) (limits : QueueLimits) (req : InferenceRequest)
      (drain : s.drain.step highPriorityThreshold (.push limits req) = some s'.drain)
      (tallies : log'.tallies.map Tally.req = log.tallies.map Tally.req)
      (drained : log'.drained = log.drained)
  | popped (highPriorityThreshold : Int) (req : InferenceRequest)
      (drain : s.drain.step highPriorityThreshold .pop = some s'.drain)
      (taken : s'.drain.pops.map Pop.taken = s.drain.pops.map Pop.taken ++ [req])
      (tallies : log'.tallies.map Tally.req = req :: log.tallies.map Tally.req)
      (drained : log'.drained = log.drained)
  | drained (drain : s'.drain = s.drain) (empty : s.drain.queue.pending = [])
      (tallies : log'.tallies.map Tally.req = log.tallies.map Tally.req)

theorem popNextRequest_none (highPriorityThreshold : Int) (q : Queue)
    (blocked : popNextRequest highPriorityThreshold q = none) : q.pending = [] := by
  unfold popNextRequest at blocked
  split at blocked
  next empty => exact empty
  next => split at blocked <;> cases blocked

theorem exec_moves (choice : Choice) (s s' : Shared) (o : Op) (r : o.Resp)
    (executed : exec choice s o = some (r, s')) (log : WorkerLog) :
    Moves s s' log (logOp o r log) := by
  cases o with
  | popNextRequest =>
    rcases exec_popNextRequest executed with
      ⟨req, queue, rfl, _, stepped, rfl⟩ | ⟨_, rfl, rfl, blocked⟩
    · exact .popped choice.limits.highPriorityThreshold req stepped (by simp) rfl rfl
    · exact .drained rfl (popNextRequest_none _ _ blocked) rfl
  | enqueue req =>
    simp only [exec, Option.map_eq_some_iff] at executed
    obtain ⟨drain, pushed, equal⟩ := executed
    cases equal
    exact .pushed _ choice.limits req pushed (noteCurrent_req _ _ _) rfl
  | selectEndpoint req =>
    obtain ⟨d, rfl⟩ := exec_selectEndpoint executed
    exact .aside rfl (noteCurrent_req _ _ _) rfl
  | updateEndpointResult attempt ok latencyMs =>
    obtain ⟨_, d, _, rfl⟩ := exec_updateEndpointResult executed
    exact .aside rfl (noteCurrent_req _ _ _) rfl
  | _ =>
    cases executed
    exact .aside rfl (noteCurrent_req _ _ _) rfl

theorem logOp_of_ne_pop {o : Op} (other : o ≠ .popNextRequest) (r : o.Resp) (log : WorkerLog) :
    (logOp o r log).tallies = noteCurrent o r log.tallies := by
  cases o with
  | popNextRequest => exact absurd rfl other
  | _ => rfl

/-- The code of a call never pops. -/
def Pushes (c : Call) : Prop := c.prog.Only (· ≠ .popNextRequest)

theorem inference_pushes (req : InferenceRequest) : Pushes ⟨inference req, ()⟩ := by
  -- clock, enqueue, and then the one or the other answer
  refine Prog.only_bind ⟨by simp, fun _ => trivial⟩ fun createdMs => ?_
  refine Prog.only_bind ⟨by simp, fun _ => trivial⟩ fun error => ?_
  split
  · refine ⟨by simp, fun _ => (sendClientMessage_aside _).mono ?_⟩
    rintro _ aside rfl
    cases aside
  · exact ⟨by simp, fun _ => ⟨by simp, fun _ => trivial⟩⟩

/-! ### One step of the system -/

namespace System

/-- What a step does: it leaves the workers alone and at most pushes a request, or one
worker makes a step. -/
theorem step_cases (codec : Codec) (cfg : TaskConfig) (s s' : System) (e : SystemEvent)
    (taken : s.step codec cfg e = some s') (pushes : ∀ c ∈ s.calls, Pushes c) :
    (∀ c ∈ s'.calls, Pushes c) ∧
    ((s'.workers = s.workers ∧ (s'.shared.drain = s.shared.drain ∨
      ∃ highPriorityThreshold limits req,
        s.shared.drain.step highPriorityThreshold (.push limits req) = some s'.shared.drain)) ∨
      ∃ i w w', s.workers[i]? = some w ∧ s'.workers = s.workers.set i w' ∧
        (Working w.prog w.log → Working w'.prog w'.log) ∧
        Moves s.shared s'.shared w.log w'.log) := by
  have live := stepLive_of_step taken
  cases e with
  | arrive req =>
    cases live
    refine ⟨fun c member => ?_, Or.inl ⟨rfl, Or.inl rfl⟩⟩
    rcases List.mem_append.mp member with old | new
    · exact pushes c old
    · exact List.mem_singleton.mp new ▸ inference_pushes _
  | call i choice =>
    obtain ⟨c, o, k, r, shared, found, prog, executed, rfl⟩ := stepLive_call live
    have own : Pushes c := pushes c (List.mem_of_getElem? found)
    unfold Pushes at own
    rw [prog] at own
    refine ⟨forall_mem_set pushes (own.2 r), Or.inl ⟨rfl, ?_⟩⟩
    rcases exec_moves choice s.shared shared o r executed {} with
      ⟨drain, _, _⟩ | ⟨threshold, limits, req, drain, _, _⟩ | ⟨_, _, _, _, tallies, _⟩ |
      ⟨drain, _, _⟩
    · exact Or.inl drain
    · exact Or.inr ⟨threshold, limits, req, drain⟩
    -- a call does not pop, so no tally is begun
    · rw [logOp_of_ne_pop own.1] at tallies
      cases tallies
    · exact Or.inl drain
  | work i choice =>
    obtain ⟨w, w', shared, found, moved, rfl⟩ := stepLive_work live
    refine ⟨pushes, Or.inr ⟨i, w, w', found, rfl, ?_, ?_⟩⟩
    · exact fun working => Thread.step_ensures (worker_loops codec cfg) moved working
    · rcases Thread.step_cases moved with ⟨_, _, _, _, rfl, rfl⟩ | ⟨o, k, r, _, executed, rfl⟩
      · exact .aside rfl rfl rfl
      · exact exec_moves choice s.shared shared o r executed w.log
  | stop =>
    cases live
    exact ⟨pushes, Or.inl ⟨rfl, Or.inl rfl⟩⟩
  | health | reload | advance =>
    -- the dispatcher's own events
    simp only [stepLive, Option.map_eq_some_iff] at live
    obtain ⟨d, _, rfl⟩ := live
    exact ⟨pushes, Or.inl ⟨rfl, Or.inl rfl⟩⟩

end System

/-! ### Runs -/

/-- The requests that workers took. -/
def System.requests (s : System) : List InferenceRequest := s.tallies.map Tally.req

theorem System.requests_eq (s : System) :
    s.requests = s.workers.flatMap fun w => w.log.tallies.map Tally.req := by
  simp [requests, tallies, List.map_flatMap]

/-- The invariant of the system: nothing is lost between the queue and the workers. -/
structure Orderly (s : System) : Prop where
  pushes : ∀ c ∈ s.calls, Pushes c
  working : ∀ w ∈ s.workers, Working w.prog w.log
  conserved : s.shared.drain.Conserved
  taken : s.requests.Perm (s.shared.drain.pops.map Pop.taken)

theorem start_orderly (pool : Pool) (nowMs : Int) (n : Nat) :
    Orderly (System.start pool nowMs n) := by
  refine ⟨by simp [System.start], fun w member => ?_, ⟨Nat.zero_lt_succ _, List.Perm.refl _⟩, ?_⟩
  · rw [(List.mem_replicate.mp member).2]
    exact start_working
  · rw [System.requests_eq]
    simp [System.start]

theorem Drain.push_pops (highPriorityThreshold : Int) (s s' : Drain) (limits : QueueLimits)
    (req : InferenceRequest) (taken : s.step highPriorityThreshold (.push limits req) = some s') :
    s'.pops = s.pops := by
  simp only [step, Option.some.injEq] at taken
  rw [← taken]

/-- What a step does to the requests that workers took. -/
theorem step_requests (codec : Codec) (cfg : TaskConfig) (s s' : System) (e : SystemEvent)
    (moved : s.step codec cfg e = some s') (pushes : ∀ c ∈ s.calls, Pushes c) :
    (s'.requests.Perm s.requests ∧
        s'.shared.drain.pops.map Pop.taken = s.shared.drain.pops.map Pop.taken) ∨
      ∃ req, s'.requests.Perm (req :: s.requests) ∧
        s'.shared.drain.pops.map Pop.taken = s.shared.drain.pops.map Pop.taken ++ [req] := by
  obtain ⟨_, ⟨workers, drain⟩ | ⟨i, w, w', found, workers, _, moves⟩⟩ :=
    s.step_cases codec cfg s' e moved pushes
  · have requests : s'.requests = s.requests := by
      rw [System.requests_eq, System.requests_eq, workers]
    rw [requests]
    rcases drain with drain | ⟨_, _, _, drain⟩
    · exact Or.inl ⟨List.Perm.refl _, by rw [drain]⟩
    · exact Or.inl ⟨List.Perm.refl _, by rw [Drain.push_pops _ _ _ _ _ drain]⟩
  · rw [System.requests_eq, System.requests_eq, workers]
    have replaced := flatMap_set_perm s.workers (fun w => w.log.tallies.map Tally.req) i w w'
    cases moves with
    | aside drain tallies _ => exact Or.inl ⟨replaced [] found tallies, by rw [drain]⟩
    | pushed _ _ _ drain tallies _ =>
      exact Or.inl ⟨replaced [] found tallies, by rw [Drain.push_pops _ _ _ _ _ drain]⟩
    -- what leaves the queue is what the worker begins a tally for
    | popped _ req _ taken tallies _ => exact Or.inr ⟨req, replaced [req] found tallies, taken⟩
    | drained drain _ tallies => exact Or.inl ⟨replaced [] found tallies, by rw [drain]⟩

theorem step_drain (codec : Codec) (cfg : TaskConfig) (s s' : System) (e : SystemEvent)
    (moved : s.step codec cfg e = some s') (pushes : ∀ c ∈ s.calls, Pushes c) :
    s'.shared.drain = s.shared.drain ∨ ∃ highPriorityThreshold event,
      s.shared.drain.step highPriorityThreshold event = some s'.shared.drain := by
  obtain ⟨_, ⟨_, drain⟩ | ⟨_, _, _, _, _, _, moves⟩⟩ := s.step_cases codec cfg s' e moved pushes
  · rcases drain with drain | ⟨threshold, limits, req, drain⟩
    · exact Or.inl drain
    · exact Or.inr ⟨threshold, _, drain⟩
  · cases moves with
    | aside drain _ _ => exact Or.inl drain
    | pushed threshold _ _ drain _ _ => exact Or.inr ⟨threshold, _, drain⟩
    | popped threshold _ drain _ _ _ => exact Or.inr ⟨threshold, _, drain⟩
    | drained drain _ _ => exact Or.inl drain

theorem step_orderly (codec : Codec) (cfg : TaskConfig) (s : System) (e : SystemEvent) (s' : System)
    (moved : s.step codec cfg e = some s') (before : Orderly s) : Orderly s' := by
  obtain ⟨pushes, working, conserved, taken⟩ := before
  refine ⟨(s.step_cases codec cfg s' e moved pushes).1, ?_, ?_, ?_⟩
  · obtain ⟨_, ⟨workers, _⟩ | ⟨i, w, w', found, workers, keeps, _⟩⟩ :=
      s.step_cases codec cfg s' e moved pushes
    · exact workers ▸ working
    · rw [workers]
      exact forall_mem_set working (keeps (working w (List.mem_of_getElem? found)))
  · rcases step_drain codec cfg s s' e moved pushes with same | ⟨threshold, event, drain⟩
    · exact same ▸ conserved
    · exact Drain.step_conserved threshold _ _ event drain conserved
  · rcases step_requests codec cfg s s' e moved pushes with ⟨requests, pops⟩ | ⟨req, requests, pops⟩
    · exact pops ▸ requests.trans taken
    · rw [pops]
      exact (requests.trans (taken.cons req)).trans (List.perm_append_singleton _ _).symm

theorem run_orderly (codec : Codec) (cfg : TaskConfig) (pool : Pool) (nowMs : Int) (n : Nat)
    (events : List SystemEvent) (s : System)
    (ran : run (System.step codec cfg) (System.start pool nowMs n) events = some s) : Orderly s :=
  run_invariant (System.step codec cfg) Orderly (step_orderly codec cfg) _ s events ran
    (start_orderly pool nowMs n)

/-! ### Exits -/

theorem Worker.drained_eq_exited {w : Worker} (working : Working w.prog w.log) :
    w.log.drained = w.exited := by
  obtain ⟨prog, log⟩ := w
  cases prog with
  | op o k => exact working.1.1
  | pure point =>
    cases point with
    | exited => exact working.1
    | _ => exact working.1

theorem Worker.exited_settled {w : Worker} (working : Working w.prog w.log)
    (exited : w.exited = true) : ∀ t ∈ w.log.tallies, t.Settled := by
  obtain ⟨prog, log⟩ := w
  cases prog with
  | op o k => cases exited
  | pure point =>
    cases point with
    | exited => exact working.2
    | _ => cases exited

theorem Drain.step_pushed (highPriorityThreshold : Int) (s s' : Drain) (e : QueueEvent)
    (taken : s.step highPriorityThreshold e = some s') : s.pushed.Subperm s'.pushed := by
  rcases s.step_cases highPriorityThreshold s' e taken with
    rfl | ⟨req, rfl⟩ | ⟨req, queue, popped, rfl⟩
  · exact List.Subperm.refl _
  · exact (List.sublist_append_left _ _).subperm
  · exact List.Subperm.refl _

/-- The requests in `early` were pushed, and they were all taken unless a worker is
still there to take them. -/
structure Covered (early : List InferenceRequest) (s : System) : Prop where
  orderly : Orderly s
  pushed : early.Subperm s.shared.drain.pushed
  taken : (∃ w ∈ s.workers, w.log.drained = false) ∨ early.Subperm s.requests

theorem step_requests_subperm (codec : Codec) (cfg : TaskConfig) (s s' : System) (e : SystemEvent)
    (moved : s.step codec cfg e = some s') (pushes : ∀ c ∈ s.calls, Pushes c) :
    s.requests.Subperm s'.requests := by
  rcases step_requests codec cfg s s' e moved pushes with ⟨requests, _⟩ | ⟨req, requests, _⟩
  · exact requests.symm.subperm
  · exact (List.sublist_cons_self req s.requests).subperm.trans requests.symm.subperm

/-- A worker exits only when nothing is pending, and then everything pushed is taken. -/
theorem step_covered (codec : Codec) (cfg : TaskConfig) (early : List InferenceRequest) (s : System)
    (e : SystemEvent) (s' : System) (moved : s.step codec cfg e = some s')
    (before : Covered early s) : Covered early s' := by
  obtain ⟨orderly, pushed, taken⟩ := before
  have after := step_orderly codec cfg s e s' moved orderly
  refine ⟨after, ?_, ?_⟩
  · rcases step_drain codec cfg s s' e moved orderly.pushes with same | ⟨threshold, event, drain⟩
    · exact same ▸ pushed
    · exact pushed.trans (Drain.step_pushed threshold _ _ event drain)
  · rcases taken with ⟨v, member, alive⟩ | taken
    · obtain ⟨_, ⟨workers, _⟩ | ⟨i, w, w', found, workers, _, moves⟩⟩ :=
        s.step_cases codec cfg s' e moved orderly.pushes
      · exact Or.inl ⟨v, workers ▸ member, alive⟩
      -- the live worker is the one that moved, or another one
      · have stays (same : w'.log.drained = w.log.drained) :
            ∃ w ∈ s'.workers, w.log.drained = false := by
          obtain ⟨j, at_⟩ := List.getElem?_of_mem member
          have below := (List.getElem?_eq_some_iff.mp found).1
          rw [workers]
          by_cases here : i = j
          · subst here
            cases found.symm.trans at_
            exact ⟨w', List.mem_set below w', same.trans alive⟩
          · exact ⟨v, List.mem_of_getElem? (by rw [List.getElem?_set_ne here, at_]), alive⟩
        cases moves with
        | aside _ _ same => exact Or.inl (stays same)
        | pushed _ _ _ _ _ same => exact Or.inl (stays same)
        | popped _ _ _ _ _ same => exact Or.inl (stays same)
        | drained drain empty _ =>
          -- the queue is empty: all that was pushed was popped, and a worker has it
          have all := orderly.conserved.perm
          rw [empty, List.append_nil] at all
          have everything : s.requests.Perm s.shared.drain.pushed := orderly.taken.trans all
          exact Or.inr ((pushed.trans everything.symm.subperm).trans
            (step_requests_subperm codec cfg s s' e moved orderly.pushes))
    · exact Or.inr
        (taken.trans (step_requests_subperm codec cfg s s' e moved orderly.pushes))

/-! ### Task ids -/

/-- The tasks are numbered by the calls of `inference`, and a call that may still push has
pushed nothing. -/
structure Numbered (s : System) : Prop where
  counter : s.shared.taskIdCounter = s.calls.length
  calls : ∀ (i : Nat) (c : Call), s.calls[i]? = some c → ∃ stage, Calling c.prog stage ∧
    ∀ task, stage = .fresh task →
      task = i + 1 ∧ ∀ req ∈ s.shared.drain.pushed, req.taskId ≠ task
  turns : ∀ w ∈ s.workers, ∃ phase, InTurn PhaseHead w.prog phase
  known : ∀ req ∈ s.shared.drain.pushed, req.taskId ≤ s.calls.length
  distinct : (s.shared.drain.pushed.map InferenceRequest.taskId).Nodup

theorem start_numbered (pool : Pool) (nowMs : Int) (n : Nat) :
    Numbered (System.start pool nowMs n) := by
  constructor
  · rfl
  · intro i c found
    cases found
  · intro w member
    rw [(List.mem_replicate.mp member).2]
    exact ⟨.idle, Phase.noConfusion⟩
  · intro req member
    cases member
  · exact List.nodup_nil

/-- Only `enqueue` pushes, and it pushes the one request that it accepts. -/
theorem exec_pushed {choice : Choice} {s s' : Shared} {o : Op} {r : o.Resp}
    (executed : exec choice s o = some (r, s')) :
    s'.taskIdCounter = s.taskIdCounter ∧ (s'.drain.pushed = s.drain.pushed ∨
      ∃ req, o = .enqueue req ∧ r ≍ (none : Option (Int × String)) ∧
        s'.drain.pushed = s.drain.pushed ++ [req]) := by
  cases o with
  | popNextRequest =>
    rcases exec_popNextRequest executed with ⟨_, _, _, _, _, rfl⟩ | ⟨_, _, rfl, _⟩
    · exact ⟨rfl, Or.inl rfl⟩
    · exact ⟨rfl, Or.inl rfl⟩
  | enqueue req =>
    simp only [exec, Drain.step, Option.map_some, Option.some.injEq] at executed
    cases executed
    refine ⟨rfl, ?_⟩
    cases accepted : (enqueue choice.limits s.drain.queue req).1 with
    | none => exact Or.inr ⟨req, rfl, HEq.rfl, by simp⟩
    | some error => exact Or.inl (by simp)
  | selectEndpoint req =>
    obtain ⟨d, rfl⟩ := exec_selectEndpoint executed
    exact ⟨rfl, Or.inl rfl⟩
  | updateEndpointResult attempt ok latencyMs =>
    obtain ⟨_, d, _, rfl⟩ := exec_updateEndpointResult executed
    exact ⟨rfl, Or.inl rfl⟩
  | _ =>
    cases executed
    exact ⟨rfl, Or.inl rfl⟩

/-- A step that pushes nothing and takes no number. -/
theorem Numbered.frame {s s' : System} (numbered : Numbered s)
    (counter : s'.shared.taskIdCounter = s.shared.taskIdCounter)
    (pushed : s'.shared.drain.pushed = s.shared.drain.pushed) (calls : s'.calls = s.calls)
    (turns : ∀ w ∈ s'.workers, ∃ phase, InTurn PhaseHead w.prog phase) : Numbered s' := by
  constructor
  · rw [counter, calls, numbered.counter]
  · rw [calls, pushed]
    exact numbered.calls
  · exact turns
  · rw [calls, pushed]
    exact numbered.known
  · rw [pushed]
    exact numbered.distinct

theorem Numbered.arrive {s s' : System} (numbered : Numbered s) {req : InferenceRequest}
    (own : req.taskId = s.shared.taskIdCounter + 1)
    (counter : s'.shared.taskIdCounter = s.shared.taskIdCounter + 1)
    (drain : s'.shared.drain = s.shared.drain)
    (calls : s'.calls = s.calls ++ [⟨inference req, ()⟩]) (workers : s'.workers = s.workers) :
    Numbered s' := by
  have number : s'.calls.length = s.calls.length + 1 := by
    rw [calls, List.length_append, List.length_singleton]
  constructor
  · rw [counter, numbered.counter, number, Nat.cast_add, Nat.cast_one]
  · intro i c found
    rw [drain]
    rw [calls] at found
    by_cases old : i < s.calls.length
    · rw [List.getElem?_append_left old] at found
      exact numbered.calls i c found
    · rw [List.getElem?_append_right (by omega)] at found
      obtain ⟨here, rfl⟩ : i - s.calls.length = 0 ∧ ⟨inference req, ()⟩ = c := by
        simpa [List.getElem?_singleton] using found
      refine ⟨.fresh req.taskId, inference_calling req, fun task fresh => ?_⟩
      cases fresh
      rw [own, numbered.counter]
      -- the new number is above those that were pushed
      refine ⟨by omega, fun other member same => ?_⟩
      have := numbered.known other member
      omega
  · rw [workers]
    exact numbered.turns
  · rw [drain, number]
    intro other member
    have := numbered.known other member
    omega
  · rw [drain]
    exact numbered.distinct

/-- No operation makes a call fresh. -/
theorem Stage.eq_fresh_of_next {o : Op} {r : o.Resp} {stage : Stage} {task : Int}
    (next : stage.next o r = .fresh task) : stage = .fresh task := by
  cases o <;> cases stage <;> first
    | exact next
    | (simp only [Stage.next] at next; split at next <;> cases next)
    | (cases r <;> simp [Stage.next] at next <;> split at next <;> cases next)

/-- The call that was still to push has pushed its request, whose task is new. -/
theorem Numbered.push {s : System} (numbered : Numbered s) {i : Nat} {c c' : Call}
    (found : s.calls[i]? = some c) {req : InferenceRequest} {shared : Shared}
    (number : req.taskId = i + 1)
    (new : ∀ other ∈ s.shared.drain.pushed, other.taskId ≠ req.taskId)
    (counter : shared.taskIdCounter = s.shared.taskIdCounter)
    (added : shared.drain.pushed = s.shared.drain.pushed ++ [req])
    (calling : ∃ stage, Calling c'.prog stage ∧ ∀ task, stage ≠ .fresh task) :
    Numbered { s with shared := shared, calls := s.calls.set i c' } := by
  have inside := (List.getElem?_eq_some_iff.mp found).1
  have length : (s.calls.set i c').length = s.calls.length := List.length_set
  refine ⟨by rw [counter, length, numbered.counter], ?_, numbered.turns, ?_, ?_⟩
  · rw [added]
    obtain ⟨stage, calling, spent⟩ := calling
    refine forall_getElem?_set numbered.calls
      ⟨stage, calling, fun task fresh => absurd fresh (spent task)⟩ ?_
    -- the other calls have other numbers
    rintro j other different ⟨stage, calling, fresh⟩
    refine ⟨stage, calling, fun task own => ?_⟩
    obtain ⟨other_number, unpushed⟩ := fresh task own
    refine ⟨other_number, fun old member => ?_⟩
    rcases List.mem_append.mp member with earlier | now
    · exact unpushed old earlier
    · rw [List.mem_singleton.mp now, number, other_number]
      omega
  · rw [added, length]
    intro old member
    rcases List.mem_append.mp member with earlier | now
    · exact numbered.known old earlier
    · rw [List.mem_singleton.mp now, number]
      omega
  · rw [added, List.map_append, List.map_singleton, List.nodup_append]
    refine ⟨numbered.distinct, List.nodup_singleton _, ?_⟩
    intro task listed other now same
    obtain ⟨old, member, rfl⟩ := List.mem_map.mp listed
    rw [List.mem_singleton.mp now] at same
    exact new old member same

theorem Numbered.call {s : System} (numbered : Numbered s) {i : Nat} {c : Call}
    (found : s.calls[i]? = some c) {o : Op} {k : o.Resp → Code Bool} (prog : c.prog = .op o k)
    {choice : Choice} {r : o.Resp} {shared : Shared}
    (executed : exec choice s.shared o = some (r, shared)) :
    Numbered { s with shared := shared, calls := s.calls.set i ⟨k r, ()⟩ } := by
  obtain ⟨counter, pushed⟩ := exec_pushed executed
  obtain ⟨stage, calling, fresh⟩ := numbered.calls i c found
  rw [prog] at calling
  have rest := calling.2 r
  rcases pushed with same | ⟨req, rfl, none, added⟩
  · have length : (s.calls.set i ⟨k r, ()⟩).length = s.calls.length := List.length_set
    refine ⟨by rw [counter, length, numbered.counter], ?_, numbered.turns, ?_, ?_⟩
    · rw [same]
      refine forall_getElem?_set numbered.calls ⟨_, rest, fun task next => ?_⟩ fun _ _ _ own => own
      exact fresh task (Stage.eq_fresh_of_next next)
    · rw [same, length]
      exact numbered.known
    · rw [same]
      exact numbered.distinct
  · cases none
    -- only a call that was still to push gets here
    cases stage with
    | fresh task =>
      obtain rfl : req.taskId = task := by
        by_contra foreign
        exact Calling.sound rest (if_neg foreign)
      have accepted : Stage.next (.enqueue req) none (.fresh req.taskId) = .accepted req.taskId :=
        if_pos rfl
      obtain ⟨number, new⟩ := fresh req.taskId rfl
      rw [accepted] at rest
      exact numbered.push found number new counter added ⟨_, rest, fun task => Stage.noConfusion⟩
    | _ => exact absurd rfl (Calling.sound rest)

theorem step_numbered (codec : Codec) (cfg : TaskConfig) (s : System) (e : SystemEvent)
    (s' : System) (moved : s.step codec cfg e = some s') (before : Numbered s) : Numbered s' := by
  have live := System.stepLive_of_step moved
  cases e with
  | arrive req =>
    cases live
    have own : { req with taskId := s.shared.taskIdCounter + 1 }.taskId =
        s.shared.taskIdCounter + 1 := rfl
    exact before.arrive own rfl rfl rfl rfl
  | call i choice =>
    obtain ⟨c, o, k, r, shared, found, prog, executed, rfl⟩ := System.stepLive_call live
    exact before.call found prog executed
  | work i choice =>
    obtain ⟨w, w', shared, found, taken, rfl⟩ := System.stepLive_work live
    obtain ⟨phase, turn⟩ := before.turns w (List.mem_of_getElem? found)
    rcases Thread.step_cases taken with ⟨point, code, prog, entered, rfl, rfl⟩ |
      ⟨o, k, r, prog, executed, rfl⟩
    · rw [prog] at turn
      exact before.frame rfl rfl rfl
        (forall_mem_set before.turns ⟨phase, worker_inTurn codec cfg point code phase entered turn⟩)
    · rw [prog] at turn
      have turns := forall_mem_set before.turns (i := i)
        (b := ⟨k r, logOp o r w.log⟩) ⟨_, turn.2 r⟩
      obtain ⟨counter, same | ⟨req, rfl, _, _⟩⟩ := exec_pushed executed
      · exact before.frame counter same rfl turns
      -- no worker pushes
      · exact absurd rfl (InTurn.sound (turn.2 r))
  | stop =>
    cases live
    exact before.frame rfl rfl rfl before.turns
  | health | reload | advance =>
    simp only [System.stepLive, Option.map_eq_some_iff] at live
    obtain ⟨d, _, rfl⟩ := live
    exact before.frame rfl rfl rfl before.turns

theorem run_numbered (codec : Codec) (cfg : TaskConfig) (pool : Pool) (nowMs : Int) (n : Nat)
    (events : List SystemEvent) (s : System)
    (ran : run (System.step codec cfg) (System.start pool nowMs n) events = some s) : Numbered s :=
  run_invariant (System.step codec cfg) Numbered (step_numbered codec cfg) _ s events ran
    (start_numbered pool nowMs n)

/-- Every request that went into `pending_` while some worker was alive has been handled
by the time all workers have exited, and by one worker once: among all that the workers have
logged there is one tally for its task. It got one terminal status, one count and one
terminal message as far as it is to be answered, or it was given up because
the worker found `stopping_` set, and then it got none of them. Nothing else was handled: what
the workers took, with what is still pending, is what was pushed, each task once. -/
theorem exactly_once_unless_stopping (codec : Codec) (cfg : TaskConfig) (pool : Pool) (nowMs : Int)
    (n : Nat) (earlier later : List SystemEvent) (s₁ s : System)
    (ran : run (System.step codec cfg) (System.start pool nowMs n) earlier = some s₁)
    (alive : ∃ w ∈ s₁.workers, w.exited = false)
    (went_on : run (System.step codec cfg) s₁ later = some s)
    (all_exited : ∀ w ∈ s.workers, w.exited = true) :
    (∀ req ∈ s₁.shared.drain.pushed, ∃ t,
      s.tallies.filter (fun t => t.req.taskId = req.taskId) = [t] ∧ t.req = req) ∧
    (∀ t ∈ s.tallies, t.Settled) ∧
    (s.requests ++ s.shared.drain.queue.pending).Perm s.shared.drain.pushed ∧
    (s.shared.drain.pushed.map InferenceRequest.taskId).Nodup := by
  have orderly := run_orderly codec cfg pool nowMs n earlier s₁ ran
  have whole : run (System.step codec cfg) (System.start pool nowMs n) (earlier ++ later) =
      some s := by
    rw [run_append, ran]
    exact went_on
  have distinct := (run_numbered codec cfg pool nowMs n (earlier ++ later) s whole).distinct
  have start : Covered s₁.shared.drain.pushed s₁ := by
    obtain ⟨w, member, running⟩ := alive
    refine ⟨orderly, List.Subperm.refl _, Or.inl ⟨w, member, ?_⟩⟩
    rw [Worker.drained_eq_exited (orderly.working w member), running]
  -- the requests of the first part stay covered over the second
  have final : Covered s₁.shared.drain.pushed s :=
    run_invariant (System.step codec cfg) _ (step_covered codec cfg _) s₁ s later went_on start
  have all : (s.requests ++ s.shared.drain.queue.pending).Perm s.shared.drain.pushed :=
    (final.orderly.taken.append_right _).trans final.orderly.conserved.perm
  refine ⟨fun req member => ?_, fun t member => ?_, all, distinct⟩
  -- no worker is left to take the rest
  · have taken : req ∈ s.requests := by
      rcases final.taken with ⟨w, worker, running⟩ | taken
      · rw [Worker.drained_eq_exited (final.orderly.working w worker),
          all_exited w worker] at running
        cases running
      · exact taken.subset member
    obtain ⟨t, among, rfl⟩ := List.mem_map.mp taken
    have tasks : (s.tallies.map fun t => t.req.taskId).Nodup := by
      have sub : ((s.requests ++ s.shared.drain.queue.pending).map InferenceRequest.taskId).Nodup :=
        ((all.map _).nodup_iff).mpr distinct
      rw [List.map_append] at sub
      simpa [System.requests, Function.comp_def] using (List.nodup_append.mp sub).1
    exact ⟨t, filter_key_eq_singleton tasks among, rfl⟩
  · obtain ⟨w, worker, own⟩ := List.mem_flatMap.mp member
    exact Worker.exited_settled (final.orderly.working w worker) (all_exited w worker) t own

/-- What an operation finds when nothing goes wrong. -/
def smooth : Choice where
  thresholds := ({} : TaskConfig).thresholds

/-- One call of `inference`, up to its return. -/
def oneArrival : List SystemEvent :=
  .arrive { outputUrl := lit "tcp://c" } :: List.replicate 4 (.call 0 smooth)

/-- A stop, and then `k` steps of the first worker. -/
def stopAndDrain (k : Nat) : List SystemEvent := .stop :: List.replicate k (.work 0 smooth)

/-- Two calls of `inference`, up to their return. -/
def twoArrivals : List SystemEvent :=
  oneArrival ++ .arrive { outputUrl := lit "tcp://d" } :: List.replicate 4 (.call 1 smooth)

/-- A stop, after which the second worker takes a request while the first has one. -/
def stopAndShare : List SystemEvent :=
  .stop :: List.replicate 2 (.work 0 smooth) ++ List.replicate 12 (.work 1 smooth) ++
    List.replicate 10 (.work 0 smooth)

/-- In mock mode two requests are answered after the stop, by two workers. -/
theorem exactly_once_unless_stopping_mock : ∃ pool s₁ s, loadModel {} oneBackend = .ok pool ∧
    run (System.step oneDelta { mockMode := true }) (System.start pool 0 2) twoArrivals = some s₁ ∧
    (∃ w ∈ s₁.workers, w.exited = false) ∧
    s₁.shared.drain.pushed.map InferenceRequest.taskId = [1, 2] ∧
    run (System.step oneDelta { mockMode := true }) s₁ stopAndShare = some s ∧
    (∀ w ∈ s.workers, w.exited = true) ∧
    (∀ req ∈ s₁.shared.drain.pushed, ∃ t,
      s.tallies.filter (fun t => t.req.taskId = req.taskId) = [t] ∧ t.req = req) ∧
    (∀ t ∈ s.tallies, t.Settled) ∧
    (s.requests ++ s.shared.drain.queue.pending).Perm s.shared.drain.pushed ∧
    (s.shared.drain.pushed.map InferenceRequest.taskId).Nodup := by
  obtain ⟨pool, s₁, s, loaded, ran, alive, two, went_on, all_exited⟩ : ∃ pool s₁ s,
      loadModel {} oneBackend = .ok pool ∧
      run (System.step oneDelta { mockMode := true }) (System.start pool 0 2) twoArrivals =
        some s₁ ∧
      (∃ w ∈ s₁.workers, w.exited = false) ∧
      s₁.shared.drain.pushed.map InferenceRequest.taskId = [1, 2] ∧
      run (System.step oneDelta { mockMode := true }) s₁ stopAndShare = some s ∧
      ∀ w ∈ s.workers, w.exited = true :=
    ⟨_, _, _, rfl, rfl, ⟨_, List.mem_cons_self, rfl⟩, rfl, rfl,
      List.forall_mem_cons.mpr ⟨rfl, List.forall_mem_singleton.mpr rfl⟩⟩
  exact ⟨pool, s₁, s, loaded, ran, alive, two, went_on, all_exited,
    exactly_once_unless_stopping oneDelta { mockMode := true } pool 0 2 twoArrivals
      stopAndShare s₁ s ran alive went_on all_exited⟩

/-- A request that was accepted before the stop and gets no outcome at all. -/
theorem stop_drops_accepted_request : ∃ pool s₁ s, loadModel {} oneBackend = .ok pool ∧
    run (System.step oneDelta { mockMode := false }) (System.start pool 0 1) oneArrival = some s₁ ∧
    run (System.step oneDelta { mockMode := false }) s₁ (stopAndDrain 9) = some s ∧
    (∀ w ∈ s.workers, w.exited = true) ∧ s₁.shared.drain.pushed = s.requests ∧
    s.tallies.length = 1 ∧ (∀ t ∈ s.tallies, t.statuses = [] ∧ t.finishes = 0 ∧ t.terminals = 0) ∧
    s.shared.records.map (fun record => record.status) = [.running] ∧ s.shared.sent = [] :=
  ⟨_, _, _, rfl, rfl, rfl, List.forall_mem_singleton.mpr rfl, rfl, rfl,
    List.forall_mem_singleton.mpr ⟨rfl, rfl, rfl⟩, rfl, rfl⟩

end VllmRoute.Scheduler
