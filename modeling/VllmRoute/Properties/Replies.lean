import VllmRoute.Lib.Run
import VllmRoute.Node.Control

/-!
# Control replies and their requesters

The event loop and the RPC thread share `request_id_` and `out_zmq_url_`. A
reply carries what stands there when it is sent, so it goes to its requester as
long as no other thread writes there between a handler's own writes and its
reply.
-/
namespace VllmRoute.Node

open Lib Channel Scheduler

/-- What a control thread did: the address of the request it handles, the values it has
written and not yet used, and its replies, each with the address of the request
and the one it was sent with. -/
structure ControlLog where
  own : Address := {}
  requestId : Option Bytes := none
  url : Option Bytes := none
  replies : List (Address × Address) := []

def ControlLog.begin (log : ControlLog) (zmqUrl raw : Bytes) : ControlLog :=
  { log with
    own := ⟨sampleJsonStrGet raw (lit "request_id"), zmqUrl⟩
    requestId := none
    url := none }

def ControlLog.reply (log : ControlLog) (address : Address) : ControlLog :=
  { log with requestId := none, url := none, replies := log.replies ++ [(log.own, address)] }

/-- The text that the handler of an event takes for the request. -/
def Request.text (request : Request EventKind) : Bytes :=
  if request.kind = .pause then request.zmqUrl else request.raw

def noteControl : (o : ControlOp) → o.Resp → ControlLog → ControlLog
  | .nextEvent, request, log => log.begin request.zmqUrl request.text
  | .nextCall, request, log => log.begin request.zmqUrl request.raw
  | .setRequestId requestId, _, log => { log with requestId := some requestId }
  | .setOutZmqUrl zmqUrl, _, log => { log with url := some zmqUrl }
  | .send _, address, log => log.reply address
  | _, _, log => log

/-- A reply is sent with the values that the thread has written. -/
def SentAs (log : ControlLog) (address : Address) : Prop :=
  (∀ requestId ∈ log.requestId, address.requestId = requestId) ∧ ∀ url ∈ log.url, address.url = url

def Undisturbed : (o : ControlOp) → o.Resp → ControlLog → Prop
  | .send _, address, log => SentAs log address
  | _, _, _ => True

abbrev noteReplies := Prog.relying noteControl Undisturbed

namespace ControlLog

/-- Every reply went to the requester. -/
def Answered (log : ControlLog) : Prop := ∀ reply ∈ log.replies, reply.2 = reply.1

/-- The handler has written the address of its request, and has not replied yet. -/
structure Armed (log : ControlLog) : Prop where
  requestId : log.requestId = some log.own.requestId
  url : log.url = some log.own.url
  answered : log.Answered

end ControlLog

/-- The property of the log, as long as the thread was not disturbed. -/
def Done (log : ControlLog × Prop) : Prop := log.2 → log.1.Answered

def Ready (log : ControlLog × Prop) : Prop := log.2 → log.1.Armed

theorem Ready.done {log : ControlLog × Prop} (ready : Ready log) : Done log :=
  fun kept => (ready kept).answered

section Code

variable {α : Type} {log : ControlLog × Prop}

/-- The code keeps the property and ends with it. -/
def Replies (p : ControlCode α) (log : ControlLog × Prop) : Prop :=
  p.Ensures noteReplies Done (fun _ => Done) log

theorem replies_send (reply : Reply) (ready : Ready log) : Replies (send reply) log := by
  refine ⟨ready.done, fun address kept => ?_⟩
  obtain ⟨kept, requestId, url⟩ := kept
  obtain ⟨wroteId, wroteUrl, answered⟩ := ready kept
  intro sent member
  rcases List.mem_append.mp member with earlier | last
  · exact answered sent earlier
  · rw [List.mem_singleton] at last
    subst last
    have sameId := requestId _ wroteId
    have sameUrl := url _ wroteUrl
    cases address
    simp_all

theorem replies_pure (a : α) (done : Done log) : Replies (pure a) log := done

/-- What follows the reply. -/
theorem replies_bind {β : Type} {p : ControlCode α} {f : α → ControlCode β} (first : Replies p log)
    (next : ∀ a log, Done log → Replies (f a) log) : Replies (p >>= f) log := first.bind next

/-- The operations that neither write nor read the address. -/
def Quiet : ControlOp → Prop
  | .nextEvent | .nextCall | .setRequestId _ | .setOutZmqUrl _ | .send _ => False
  | _ => True

theorem noteReplies_quiet {o : ControlOp} (quiet : Quiet o) (r : o.Resp) :
    noteReplies o r log = log := by
  cases o <;> first
    | exact quiet.elim
    | simp [Prog.relying, noteControl, Undisturbed]

theorem replies_quiet {o : ControlOp} {f : o.Resp → ControlCode α} (quiet : Quiet o)
    (done : Done log) (next : ∀ r, Replies (f r) log) : Replies (ask o >>= f) log :=
  Prog.ensures_unnoted (fun r => noteReplies_quiet quiet r) done next

theorem replies_send_return (reply : Reply) (a : α) (ready : Ready log) :
    Replies (do send reply; return a) log :=
  replies_bind (replies_send reply ready) fun _ _ done => replies_pure a done

theorem replies_vllmSetup (codec : Codec) (workId data : Bytes) (ready : Ready log) :
    Replies (vllmSetup codec workId data) log := by
  unfold vllmSetup
  split
  · exact replies_pure _ ready.done
  · split
    · exact replies_send_return _ _ ready
    · refine replies_quiet trivial ready.done fun refused => ?_
      split
      · exact replies_send_return _ _ ready
      · refine replies_quiet trivial ready.done fun found => ?_
        split
        · exact replies_send_return _ _ ready
        · exact replies_pure _ ready.done

theorem replies_sysReleaseUnit (workIdNum : Int) (workId : Bytes) (done : Done log) :
    Replies (sysReleaseUnit workIdNum workId) log := by
  have both (workIdNum : Int) (workId : Bytes) : Replies (releaseBoth workIdNum workId) log :=
    replies_quiet trivial done fun _ => replies_quiet trivial done fun _ => replies_pure _ done
  unfold sysReleaseUnit
  split
  · exact both _ _
  · split
    · exact replies_pure _ done
    · exact both _ _

theorem replies_setup (codec : Codec) (zmqUrl raw : Bytes) (ready : Ready log) :
    Replies (setup codec zmqUrl raw) log := by
  refine replies_quiet trivial ready.done fun workidNum => ?_
  refine replies_quiet trivial ready.done fun _ => ?_
  refine replies_quiet trivial ready.done fun _ => ?_
  refine replies_quiet trivial ready.done fun _ => ?_
  refine replies_bind (replies_vllmSetup codec _ _ ready) fun ret log done => ?_
  split
  · exact replies_pure _ done
  · split
    · exact replies_sysReleaseUnit _ _ done
    · exact replies_pure _ done

theorem replies_vllmExit (workId : Bytes) (ready : Ready log) : Replies (vllmExit workId) log := by
  unfold vllmExit
  split
  · exact replies_pure _ ready.done
  · refine replies_quiet trivial ready.done fun erased => ?_
    split
    · refine replies_quiet trivial ready.done fun found => ?_
      split
      · exact replies_send_return _ _ ready
      · exact replies_pure _ ready.done
    · exact replies_send_return _ _ ready

/-- The `try` block leaves the log as it is. -/
theorem replies_tryPushUrl (zmqUrl workId : Bytes) {f : Unit → ControlCode α} (done : Done log)
    (next : Replies (f ()) log) : Replies (tryPushUrl zmqUrl workId >>= f) log := by
  unfold tryPushUrl
  split
  · exact next
  · exact replies_quiet trivial done fun _ => next

theorem replies_exit (zmqUrl raw : Bytes) (ready : Ready log) : Replies (exit zmqUrl raw) log := by
  refine replies_tryPushUrl _ _ ready.done ?_
  refine replies_bind (replies_vllmExit _ ready) fun ret log done => ?_
  split
  · exact replies_pure _ done
  · split
    · exact replies_sysReleaseUnit _ _ done
    · exact replies_pure _ done

theorem replies_taskinfo (zmqUrl raw : Bytes) (ready : Ready log) :
    Replies (taskinfo zmqUrl raw) log := by
  refine replies_tryPushUrl _ _ ready.done ?_
  split
  · exact replies_pure _ ready.done
  · refine replies_quiet trivial ready.done fun found => ?_
    split
    · exact replies_send_return _ _ ready
    · split <;> exact replies_send_return _ _ ready

/-- Writing the URL of the request once more changes nothing. -/
theorem ready_setOutZmqUrl (zmqUrl : Bytes) (own : log.1.own.url = zmqUrl) (ready : Ready log) :
    Ready (noteReplies (.setOutZmqUrl zmqUrl) () log) := by
  intro kept
  obtain ⟨requestId, _, answered⟩ := ready kept.1
  exact ⟨requestId, congrArg some own.symm, answered⟩

theorem replies_handleCall (codec : Codec) (kind : CallKind) (zmqUrl raw : Bytes)
    (own : log.1.own.url = zmqUrl) (ready : Ready log) :
    Replies (handleCall codec kind zmqUrl raw) log := by
  refine ⟨ready.done, fun | () => ?_⟩
  have ready := ready_setOutZmqUrl zmqUrl own ready
  show Replies _ _
  split
  · exact replies_send _ ready
  · split
    · exact replies_send _ ready
    · refine replies_quiet trivial ready.done fun found => ?_
      split
      · split
        · exact replies_send _ ready
        · refine replies_quiet trivial ready.done fun reloaded => ?_
          split <;> exact replies_send _ ready
      · exact replies_send _ ready

/-- The two writes with which a handler begins. -/
theorem replies_adoptAddress (requestId zmqUrl : Bytes) {f : Unit → ControlCode α}
    (own : log.1.own = ⟨requestId, zmqUrl⟩) (done : Done log)
    (next : ∀ log : ControlLog × Prop, log.1.own = ⟨requestId, zmqUrl⟩ → Ready log →
      Replies (f ()) log) :
    Replies (adoptAddress requestId zmqUrl >>= f) log := by
  refine ⟨done, fun | () => ⟨fun kept => done kept.1, fun | () => ?_⟩⟩
  refine next _ own fun kept => ⟨?_, ?_, done kept.1.1⟩
  · exact congrArg (some ·.requestId) own.symm
  · exact congrArg (some ·.url) own.symm

end Code

theorem eventLoop_replies (codec : Codec) :
    Loops (eventLoop codec) noteReplies Done (fun _ => Done) := by
  intro point p log code done
  cases point with
  | crashed => cases code
  | waiting =>
    cases code
    refine ⟨done, fun request => ?_⟩
    have begun : Done (noteReplies .nextEvent request log) := fun kept => done kept.1
    -- the handler replies at most once, and after that the address is of no use
    show Replies (handleEvent codec request >>= _) _
    refine replies_bind (replies_adoptAddress _ _ rfl begun ?_) ?_
    · intro log _ ready
      split
      · exact replies_setup codec _ _ ready
      · exact replies_exit _ _ ready
      · exact replies_tryPushUrl _ _ ready.done (replies_pure _ ready.done)
      · exact replies_taskinfo _ _ ready
    · intro thrown log done
      split <;> exact replies_pure _ done

theorem rpcLoop_replies (codec : Codec) :
    Loops (rpcLoop codec) noteReplies Done (fun _ => Done) := by
  intro point p log code done
  cases point with
  | crashed => cases code
  | waiting =>
    cases code
    refine ⟨done, fun request => ?_⟩
    have begun : Done (noteReplies .nextCall request log) := fun kept => done kept.1
    refine replies_adoptAddress _ _ rfl begun fun log own ready => ?_
    refine replies_bind (replies_handleCall codec _ _ _ (congrArg (·.url) own) ready) ?_
    exact fun _ log done => replies_pure _ done

/-! ### The two threads -/

abbrev ControlThread := Thread ControlOp ControlOp.Resp ControlPoint (ControlLog × Prop)

structure ControlPlane where
  node : VllmLlm
  events : ControlThread := ⟨.pure .waiting, ({}, True)⟩
  calls : ControlThread := ⟨.pure .waiting, ({}, True)⟩

/-- A step of the event loop, or of the RPC thread. -/
inductive ControlStep where
  | event (arrival : Arrival)
  | call (arrival : Arrival)

namespace ControlPlane

def step (codec : Codec) (env : Environment) (s : ControlPlane) : ControlStep → Option ControlPlane
  | .event arrival => do
    let (events, node) ←
      s.events.step (eventLoop codec) noteReplies (execControl env arrival) s.node
    return { s with node := node, events := events }
  | .call arrival => do
    let (calls, node) ← s.calls.step (rpcLoop codec) noteReplies (execControl env arrival) s.node
    return { s with node := node, calls := calls }

/-- The operation does not overwrite what another thread has written and not yet used. -/
def Yields (other : ControlLog) : ControlOp → Prop
  | .setRequestId requestId => ∀ written ∈ other.requestId, written = requestId
  | .setOutZmqUrl zmqUrl => ∀ written ∈ other.url, written = zmqUrl
  | _ => True

def YieldsNext (other : ControlLog) : ControlCode ControlPoint → Prop
  | .op o _ => Yields other o
  | .pure _ => True

/-- No thread writes another value between the writes of the other and its reply. -/
def Exclusive (s : ControlPlane) (e : ControlStep) (_ : ControlPlane) : Prop :=
  match e with
  | .event _ => YieldsNext s.calls.log.1 s.events.prog
  | .call _ => YieldsNext s.events.log.1 s.calls.prog

end ControlPlane

/-- Only the two assignments change the address. -/
theorem execControl_address {env : Environment} {arrival : Arrival} {s s' : VllmLlm}
    {o : ControlOp} {r : o.Resp} (executed : execControl env arrival s o = some (r, s'))
    (notId : ∀ requestId, o ≠ .setRequestId requestId)
    (notUrl : ∀ zmqUrl, o ≠ .setOutZmqUrl zmqUrl) : s'.address = s.address := by
  obtain rfl : _ = s' := congrArg Prod.snd (Option.some.inj executed)
  cases o with
  | setRequestId requestId => exact absurd rfl (notId requestId)
  | setOutZmqUrl zmqUrl => exact absurd rfl (notUrl zmqUrl)
  | _ => simp [performControl, VllmLlm.releaseUnit]

/-- A step of one thread: it stays undisturbed, and so does what the other has written. -/
theorem step_sentAs {body : ControlPoint → Option (ControlCode ControlPoint)} {env : Environment}
    {arrival : Arrival} {t t' : ControlThread} {s s' : VllmLlm} {other : ControlLog}
    (taken : t.step body noteReplies (execControl env arrival) s = some (t', s'))
    (yields : ControlPlane.YieldsNext other t.prog)
    (kept : t.log.2) (sent : SentAs t.log.1 s.address) (sent' : SentAs other s.address) :
    t'.log.2 ∧ SentAs t'.log.1 s'.address ∧ SentAs other s'.address := by
  rcases Thread.step_cases taken with ⟨_, _, _, _, rfl, rfl⟩ | ⟨o, k, r, prog, executed, rfl⟩
  · exact ⟨kept, sent, sent'⟩
  · have polite : ControlPlane.Yields other o := by rwa [prog] at yields
    obtain ⟨requestId, url⟩ := sent
    obtain ⟨requestId', url'⟩ := sent'
    cases o with
    | setRequestId written =>
      cases executed
      refine ⟨⟨kept, trivial⟩, ⟨?_, url⟩, ⟨fun id held => (polite id held).symm, url'⟩⟩
      rintro _ ⟨⟩
      rfl
    | setOutZmqUrl written =>
      cases executed
      refine ⟨⟨kept, trivial⟩, ⟨requestId, ?_⟩,
        ⟨requestId', fun url held => (polite url held).symm⟩⟩
      rintro _ ⟨⟩
      rfl
    | nextEvent | nextCall =>
      -- a new request: the thread has written nothing for it yet
      cases executed
      exact ⟨⟨kept, trivial⟩, ⟨nofun, nofun⟩, requestId', url'⟩
    | send reply =>
      -- the address that the reply takes is still the thread's own
      cases executed
      exact ⟨⟨kept, requestId, url⟩, ⟨nofun, nofun⟩, requestId', url'⟩
    | _ =>
      rw [execControl_address executed nofun nofun]
      exact ⟨⟨kept, trivial⟩, ⟨requestId, url⟩, requestId', url'⟩

namespace ControlPlane

/-- What the steps of the two threads keep. -/
structure Undivided (s : ControlPlane) : Prop where
  events : s.events.prog.Ensures noteReplies Done (fun _ => Done) s.events.log
  calls : s.calls.prog.Ensures noteReplies Done (fun _ => Done) s.calls.log
  kept : s.events.log.2 ∧ s.calls.log.2
  sent : SentAs s.events.log.1 s.node.address ∧ SentAs s.calls.log.1 s.node.address

theorem step_undivided (codec : Codec) (env : Environment) (s s' : ControlPlane) (e : ControlStep)
    (taken : s.step codec env e = some s') (exclusive : s.Exclusive e s')
    (undivided : s.Undivided) : s'.Undivided := by
  obtain ⟨events, calls, ⟨kept, kept'⟩, sent, sent'⟩ := undivided
  cases e with
  | event arrival =>
    simp only [step, bind, Option.bind_eq_some_iff, pure, Option.some.injEq] at taken
    obtain ⟨⟨t, node⟩, moved, rfl⟩ := taken
    obtain ⟨stays, own, other⟩ := step_sentAs moved exclusive kept sent sent'
    exact ⟨Thread.step_ensures (eventLoop_replies codec) moved events, calls, ⟨stays, kept'⟩,
      own, other⟩
  | call arrival =>
    simp only [step, bind, Option.bind_eq_some_iff, pure, Option.some.injEq] at taken
    obtain ⟨⟨t, node⟩, moved, rfl⟩ := taken
    obtain ⟨stays, own, other⟩ := step_sentAs moved exclusive kept' sent' sent
    exact ⟨events, Thread.step_ensures (rpcLoop_replies codec) moved calls, ⟨kept, stays⟩,
      other, own⟩

/-- For every interleaving of the event loop and the RPC thread in which no thread writes
`request_id_` or `out_zmq_url_` between the other's writes and its reply, unless
it writes the same: every reply carries the `request_id` of the request that was
handled, and goes to that request's URL. -/
theorem replies_reach_requesters (codec : Codec) (env : Environment) (node : VllmLlm)
    (steps : List ControlStep) (s : ControlPlane)
    (reached : run (step codec env) { node := node } steps = some s)
    (exclusive : Along (step codec env) Exclusive { node := node } steps) :
    ∀ reply ∈ s.events.log.1.replies ++ s.calls.log.1.replies, reply.2 = reply.1 := by
  -- no thread has a request yet, so nothing is written and nothing is sent
  have initial : Undivided { node := node } :=
    ⟨fun _ => nofun, fun _ => nofun, ⟨trivial, trivial⟩, ⟨nofun, nofun⟩, nofun, nofun⟩
  have undivided := run_invariant_along (step codec env) Exclusive Undivided
    (fun s e s' taken exclusive => step_undivided codec env s s' e taken exclusive)
    _ s steps reached exclusive initial
  obtain ⟨events, calls, ⟨kept, kept'⟩, _⟩ := undivided
  intro reply member
  rcases List.mem_append.mp member with ofEvent | ofCall
  · exact events.now (fun _ _ done => done) kept reply ofEvent
  · exact calls.now (fun _ _ done => done) kept' reply ofCall

/-- A `taskinfo` request for all units, from one client. -/
def taskinfoRequest : Request EventKind :=
  ⟨.taskinfo, lit "ipc:///tmp/llm/8000.sock",
    lit "\x7b\"request_id\": \"1\", \"work_id\": \"llm\", \"action\": \"taskinfo\"\x7d"⟩

/-- A `reload_config` request, from another client. -/
def reloadRequest : Request CallKind :=
  ⟨.reloadConfig, lit "ipc:///tmp/llm/8001.sock",
    lit "\x7b\"request_id\": \"2\", \"work_id\": \"llm\", \"action\": \"reload_config\"\x7d"⟩

def eventSteps (n : Nat) : List ControlStep :=
  List.replicate n (.event { event := taskinfoRequest })

def callSteps (n : Nat) : List ControlStep := List.replicate n (.call { call := reloadRequest })

/-- The two requests handled one after the other. -/
theorem replies_reach_requesters_turns : ∃ s,
    run (step rejectAll {}) { node := {} } (eventSteps 7 ++ callSteps 6) = some s ∧
      s.events.log.1.replies.length = 1 ∧ s.calls.log.1.replies.length = 1 ∧
      ∀ reply ∈ s.events.log.1.replies ++ s.calls.log.1.replies, reply.2 = reply.1 := by
  obtain ⟨s, reached, one, one'⟩ : ∃ s,
      run (step rejectAll {}) { node := {} } (eventSteps 7 ++ callSteps 6) = some s ∧
        s.events.log.1.replies.length = 1 ∧ s.calls.log.1.replies.length = 1 := ⟨_, rfl, rfl, rfl⟩
  refine ⟨s, reached, one, one', replies_reach_requesters rejectAll {} {} _ s reached ?_⟩
  iterate 13 refine along_cons rfl (by first | trivial | nofun) ?_
  trivial

/-- The RPC thread writes its address before the event loop has replied. -/
theorem interleaved_reply_misdirected : ∃ s,
    run (step rejectAll {}) { node := {} } (eventSteps 4 ++ callSteps 4 ++ eventSteps 3) = some s ∧
      s.events.log.1.replies =
        [(⟨lit "1", lit "ipc:///tmp/llm/8000.sock"⟩,
          ⟨lit "2", lit "ipc:///tmp/llm/8001.sock"⟩)] := by
  refine ⟨_, rfl, ?_⟩
  decide +kernel

end ControlPlane

end VllmRoute.Node
