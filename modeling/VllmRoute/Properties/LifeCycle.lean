import VllmRoute.Lib.Run
import VllmRoute.Network.Pending

/-!
# The life cycle of connections

Whatever the threads and the kernel do, the handlers of the server meet each
connection at the stage they are for. So the `assert`s hold, the pollers and the
kernel agree with the connections, and what a connection sends is made of whole
messages in their order.
-/
namespace VllmRoute.Network

open Lib

namespace TcpServer

/-! ### Messages -/

/-- The messages to a connection among these functors. -/
def messagesTo (n : Nat) (functors : List LoopFunctor) : List Bytes :=
  functors.filterMap fun
    | .sendInLoop m message => if m = n then some message else none
    | _ => none

/-- The output of a connection is made of whole messages in the order in which they were
queued. Short of an error, an opened connection has all that were. -/
def Streams (spared : Prop) (st : Stage) (c : Connection) (queued : List Bytes) : Prop :=
  ∃ done : List Bytes,
    c.tcp.written ++ c.tcp.outputBuffer.content = done.flatten ∧
    (done ++ queued).Sublist c.sends ∧
    (st = .opened → TcpConnection.Faithful done.flatten c.tcp ∧
      (spared → done ++ queued = c.sends)) ∧
    (st = .accepted → c.tcp = { writeCompleteCallback := false } ∧ c.sends = [])

/-! ### The invariant -/

structure Inv (ok : Nat → Prop) (stage : Nat → Stage) (s : TcpServer) : Prop where
  short : s.ipPort.length ≤ 51
  small : s.descriptors < 2147483647
  staged : Staged stage s
  queued : Queued s.ioLoop stage s.queue
  sending : ∀ n message, (n, message) ∈ s.sending → (stage n).callbacks ≠ []
  handling : Handling s.ioLoop stage fun i => (s.loops i).turn
  streams : ∀ n c, s.conns n = some c →
    Streams (ok n) (stage n) c (messagesTo n (s.queue (s.ioLoop n)))

variable {ok : Nat → Prop} {spared : Prop} {s : TcpServer} {stage : Nat → Stage} {n i : Nat}
  {c : Connection}

@[simp] theorem queue_put (s : TcpServer) (n : Nat) (c : Connection) (poller : Poller) :
    (s.put n c poller).queue = s.queue := by
  funext j
  by_cases own : j = c.loop <;> simp [queue, put, setConn, setLoop, own, Loop.functors]

@[simp] theorem turn_put (s : TcpServer) (n : Nat) (c : Connection) (poller : Poller) (j : Nat) :
    ((s.put n c poller).loops j).turn = (s.loops j).turn := by
  by_cases own : j = c.loop <;> simp [put, setConn, setLoop, own]

@[simp] theorem queue_queueInLoop (s : TcpServer) (i : Nat) (f : LoopFunctor) :
    (s.queueInLoop i f).queue = Function.update s.queue i (s.queue i ++ [f]) := by
  funext j
  by_cases own : j = i
  · subst own
    simp [queue, queueInLoop, setLoop, Loop.functors]
  · simp [queue, queueInLoop, setLoop, own]

@[simp] theorem turn_queueInLoop (s : TcpServer) (i : Nat) (f : LoopFunctor) (j : Nat) :
    ((s.queueInLoop i f).loops j).turn = (s.loops j).turn := by
  by_cases own : j = i
  · subst own
    simp [queueInLoop, setLoop]
  · simp [queueInLoop, setLoop, own]

theorem turn_setLoop (s : TcpServer) (i : Nat) (l : Loop) :
    (fun j => ((s.setLoop i l).loops j).turn) =
      Function.update (fun j => (s.loops j).turn) i l.turn := by
  funext j
  by_cases own : j = i
  · subst own
    simp [setLoop]
  · simp [setLoop, own]

theorem queue_setLoop (s : TcpServer) (i : Nat) (l : Loop) :
    (s.setLoop i l).queue = Function.update s.queue i l.functors := by
  funext j
  by_cases own : j = i
  · subst own
    simp [queue, setLoop]
  · simp [queue, setLoop, own]

/-- What the handlers of a connection leave alone. -/
def surroundings (s : TcpServer) : Bytes × Nat × Nat × List (Nat × Bytes) :=
  (s.ipPort, s.descriptors, s.numThreads, s.sending)

/-- One connection moves to another stage; what is queued for the others stays. -/
theorem Inv.move (inv : Inv ok stage s) {s' : TcpServer} {st : Stage} {c' : Connection}
    (staged : Staged (Function.update stage n st) s')
    (queued : Queued s.ioLoop (Function.update stage n st) s'.queue)
    (handling : Handling s.ioLoop (Function.update stage n st) fun i => (s'.loops i).turn)
    (conns : s'.conns = Function.update s.conns n (some c'))
    (messages : ∀ m ≠ n, messagesTo m (s'.queue (s.ioLoop m)) = messagesTo m (s.queue (s.ioLoop m)))
    (stream : Streams (ok n) st c' (messagesTo n (s'.queue (s.ioLoop n))))
    (up : (stage n).callbacks ≠ [] → st.callbacks ≠ [])
    (fixed : s'.surroundings = s.surroundings) :
    Inv ok (Function.update stage n st) s' := by
  obtain ⟨ipPort, descriptors, numThreads, sending⟩ : s'.ipPort = s.ipPort ∧
      s'.descriptors = s.descriptors ∧ s'.numThreads = s.numThreads ∧ s'.sending = s.sending := by
    simpa [surroundings] using fixed
  have loop : s'.ioLoop = s.ioLoop := by
    funext m
    rw [ioLoop, ioLoop, numThreads]
  constructor
  case short => rw [ipPort]; exact inv.short
  case small => rw [descriptors]; exact inv.small
  case staged => exact staged
  case queued => rw [loop]; exact queued
  case sending =>
    intro m message member
    rw [sending] at member
    have met := inv.sending m message member
    by_cases mine : m = n
    · subst mine
      rw [Function.update_self]
      exact up met
    · rwa [Function.update_of_ne mine]
  case handling => rw [loop]; exact handling
  case streams =>
    intro m b there
    rw [loop]
    rw [conns] at there
    by_cases mine : m = n
    · subst mine
      rw [Function.update_self] at there ⊢
      cases there
      exact stream
    · rw [Function.update_of_ne mine] at there ⊢
      rw [messages m mine]
      exact inv.streams m b there

theorem Inv.setLoop (inv : Inv ok stage s) {l : Loop} (poller : l.poller = (s.loops i).poller)
    (functors : l.functors = (s.loops i).functors)
    (fewer : (handled l.turn).Sublist (handled (s.loops i).turn)) :
    Inv ok stage (s.setLoop i l) := by
  have queue : (s.setLoop i l).queue = s.queue := by
    rw [queue_setLoop, functors]
    exact Function.update_eq_self _ _
  constructor
  case short => exact inv.short
  case small => exact inv.small
  case staged => exact inv.staged.setLoop poller
  case queued => rw [queue]; exact inv.queued
  case sending => exact inv.sending
  case handling =>
    rw [turn_setLoop]
    exact inv.handling.setTurn fewer
  case streams => rw [queue]; exact inv.streams

theorem Staged.present (staged : Staged stage s) (known : stage n ≠ .absent) :
    ∃ c, s.conns n = some c :=
  Option.ne_none_iff_exists'.mp fun none => known ((staged.absent n).mpr none)

/-- A functor that is not a message changes no messages. -/
theorem messagesTo_push {queue : Nat → List LoopFunctor} {f : LoopFunctor} {k : Nat}
    (holds : f.holds k = true) (n j : Nat) :
    messagesTo n (Function.update queue i (queue i ++ [f]) j) = messagesTo n (queue j) := by
  by_cases own : j = i
  · subst own
    cases f <;> simp_all [messagesTo, LoopFunctor.holds]
  · rw [Function.update_of_ne own]

theorem messagesTo_pop {queue : Nat → List LoopFunctor} {f : LoopFunctor} {k : Nat}
    {rest : List LoopFunctor} (front : queue i = f :: rest) (holds : f.holds k = true) (n j : Nat) :
    messagesTo n (Function.update queue i rest j) = messagesTo n (queue j) := by
  by_cases own : j = i
  · subst own
    rw [Function.update_self, front]
    cases f <;> simp_all [messagesTo, LoopFunctor.holds]
  · rw [Function.update_of_ne own]

theorem handleClose_output {conn conn' : TcpConnection} (closed : conn.handleClose = some conn') :
    conn'.written = conn.written ∧ conn'.outputBuffer = conn.outputBuffer := by
  unfold TcpConnection.handleClose at closed
  split at closed
  · cases closed
    exact ⟨rfl, rfl⟩
  · cases closed

/-- A closed connection has what it had. -/
theorem Streams.closed {st st' : Stage} {queued : List Bytes} {c' : Connection}
    (streams : Streams spared st c queued) (written : c'.tcp.written = c.tcp.written)
    (outputBuffer : c'.tcp.outputBuffer = c.tcp.outputBuffer) (sends : c'.sends = c.sends)
    (done : st' ≠ .accepted ∧ st' ≠ .opened) : Streams spared st' c' queued := by
  obtain ⟨messages, stream, whole, _, _⟩ := streams
  refine ⟨messages, ?_, ?_, fun opened => absurd opened done.2,
    fun accepted => absurd accepted done.1⟩
  · rw [written, outputBuffer]
    exact stream
  · rwa [sends]

theorem Staged.removeConnectionInLoop (staged : Staged stage s) (here : s.conns n = some c)
    (closed : stage n = .closed) :
    ∃ s', s.removeConnectionInLoop n = some s' ∧ Staged (Function.update stage n .removed) s' ∧
      s'.conns = s.conns ∧
      s'.queue = Function.update s.queue c.loop (s.queue c.loop ++ [.connectDestroyed n]) ∧
      (∀ j, (s'.loops j).turn = (s.loops j).turn) ∧ s'.surroundings = s.surroundings := by
  have mine : s.connections c.name = some n :=
    (staged.listed c.name n).mpr ⟨by rw [closed]; rfl, staged.name n c here⟩
  refine ⟨{ s with connections := Function.update s.connections c.name none }.queueInLoop c.loop
    (.connectDestroyed n), ?_, ?_, rfl, ?_, ?_, rfl⟩
  · simp [TcpServer.removeConnectionInLoop, here, mine]
  · exact (staged.erase here closed).setLoop rfl
  · rw [queue_queueInLoop]
    rfl
  · intro j
    rw [turn_queueInLoop]

theorem Inv.handleClose (inv : Inv ok stage s) (opened : stage n = .opened)
    (unhandled : ∀ j revents, (n, revents) ∉ handled (s.loops j).turn) :
    ∃ stage' s', s.handleClose i n = some s' ∧ Inv ok stage' s' ∧ ∃ c, s'.conns n = some c := by
  obtain ⟨c, here⟩ := inv.staged.present (n := n) (by simp [opened])
  obtain ⟨tcp, poller, c', closed, made, called, staged⟩ := inv.staged.handleClose here opened i
  obtain ⟨written, outputBuffer⟩ := handleClose_output closed
  have loop : c'.loop = s.ioLoop n := by rw [made, inv.staged.loop n c here]
  have idle : ∀ j, (stage n).duties n (s.ioLoop n) j = [] := fun j => by rw [opened]; rfl
  have here' : (s.put n c' poller).conns n = some c' := Function.update_self _ _ _
  have handling {st : Stage} : Handling s.ioLoop (Function.update stage n st)
      fun i => (s.loops i).turn := inv.handling.advance unhandled
  have stream {st : Stage} (done : st ≠ .accepted ∧ st ≠ .opened) :
      Streams (ok n) st c' (messagesTo n (s.queue (s.ioLoop n))) :=
    (inv.streams n c here).closed (by rw [made, written]) (by rw [made, outputBuffer])
      (by rw [made]) done
  rw [called, removeConnection]
  split
  · -- the loop of the server removes the connection at once
    obtain ⟨s', removed, staged', conns, queue, turn, fixed⟩ :=
      staged.removeConnectionInLoop here' (Function.update_self _ _ _)
    rw [Function.update_idem] at staged'
    rw [queue_put, loop] at queue
    refine ⟨_, s', removed, inv.move staged' ?_ ?_ conns ?_ ?_ (by simp [Stage.callbacks]) fixed,
      c', by rw [conns, here']⟩
    · rw [queue]
      exact inv.queued.push idle (by simp [LoopFunctor.holds]) (fun j => rfl)
        (by simp [Stage.callbacks])
    · simp only [turn, turn_put]
      exact handling
    · intro m _
      rw [queue, messagesTo_push (k := n) (by simp [LoopFunctor.holds])]
    · rw [queue, messagesTo_push (k := n) (by simp [LoopFunctor.holds])]
      exact stream (by simp)
  · refine ⟨_, _, rfl,
      inv.move (staged.setLoop rfl) ?_ ?_ rfl ?_ ?_ (by simp [Stage.callbacks]) rfl, c', here'⟩
    · rw [queue_queueInLoop, queue_put]
      exact inv.queued.push idle (by simp [LoopFunctor.holds]) (fun j => rfl)
        (by simp [Stage.callbacks])
    · simp only [turn_queueInLoop, turn_put]
      exact handling
    · intro m _
      rw [queue_queueInLoop, queue_put, messagesTo_push (k := n) (by simp [LoopFunctor.holds])]
    · rw [queue_queueInLoop, queue_put, messagesTo_push (k := n) (by simp [LoopFunctor.holds])]
      exact stream (by simp)

theorem Inv.replace (inv : Inv ok stage s) {s' : TcpServer} {c' : Connection}
    (staged : Staged stage s') (queued : Queued s.ioLoop stage s'.queue)
    (handling : Handling s.ioLoop stage fun i => (s'.loops i).turn)
    (conns : s'.conns = Function.update s.conns n (some c'))
    (messages : ∀ m ≠ n, messagesTo m (s'.queue (s.ioLoop m)) = messagesTo m (s.queue (s.ioLoop m)))
    (stream : Streams (ok n) (stage n) c' (messagesTo n (s'.queue (s.ioLoop n))))
    (fixed : s'.surroundings = s.surroundings) : Inv ok stage s' := by
  have same : Function.update stage n (stage n) = stage := Function.update_eq_self _ _
  rw [← same] at staged queued handling ⊢
  exact inv.move staged queued handling conns messages stream id fixed

theorem setConn_self (here : s.conns n = some c) : s.setConn n c = s := by
  rw [setConn, ← here, Function.update_eq_self]

/-- A connection that is not opened is not watched. -/
theorem Staged.silent (staged : Staged stage s) (here : s.conns n = some c)
    (other : stage n ≠ .opened) : c.tcp.channel.isWriting = false := by
  have watches := (staged.shows n c here).watches
  have none : c.tcp.channel.events = Channel.noneEvent := by
    cases at_ : stage n <;> rw [at_] at watches other <;>
      first | exact watches | exact absurd rfl other
  simp [Channel.isWriting, none, Channel.noneEvent]

theorem Inv.handleWrite (inv : Inv ok stage s) (here : s.conns n = some c) (write : WriteResult) :
    ∃ s', s.handleWrite n write = some s' ∧ Inv ok stage s' := by
  by_cases opened : stage n = .opened
  · obtain ⟨done, _, whole, live, new⟩ := inv.streams n c here
    obtain ⟨faithful, all⟩ := live opened
    obtain ⟨tcp, taken, faithful'⟩ := faithful.handleWrite write
    obtain ⟨_, taken', channel⟩ := c.tcp.handleWrite_spec write
    cases taken.symm.trans taken'
    have same := TcpConnection.state_handleWrite taken
    obtain ⟨poller, written, staged⟩ := inv.staged.written here opened same (by tauto)
    refine ⟨_, by simp [TcpServer.handleWrite, here, taken, written],
      inv.replace staged ?_ ?_ rfl ?_ ?_ rfl⟩
    · rw [queue_put]
      exact inv.queued
    · simp only [turn_put]
      exact inv.handling
    · intro m _
      rw [queue_put]
    · rw [queue_put]
      exact ⟨done, faithful'.stream, whole, fun _ => ⟨faithful', all⟩, by simp [opened]⟩
  · have idle := inv.staged.silent here opened
    have unchanged : c.tcp.handleWrite write = some c.tcp := by
      simp [TcpConnection.handleWrite, idle]
    refine ⟨s, ?_, inv⟩
    simp [TcpServer.handleWrite, here, unchanged, written, setConn_self here]

/-! ### The events of a channel -/

theorem Plain.readable {revents : BitVec 32} (plain : Plain revents)
    (none : revents &&& pollIn = 0) : revents &&& (pollIn ||| pollPri ||| pollRdhup) = 0 := by
  have split : pollIn ||| pollPri ||| pollRdhup =
      pollIn ||| (~~~(pollIn ||| pollOut ||| pollErr ||| pollHup) &&& (pollPri ||| pollRdhup)) := by
    decide
  rw [split, BitVec.and_or_distrib_left, none, ← BitVec.and_assoc, plain]
  simp

/-- A hang-up closes the connection only if there is nothing to read, and what is read can
close it only otherwise. -/
theorem Inv.handleEvent (inv : Inv ok stage s) (opened : stage n = .opened) {revents : BitVec 32}
    (plain : Plain revents) (unhandled : ∀ j revents, (n, revents) ∉ handled (s.loops j).turn)
    (read : ReadResult) (write : WriteResult) :
    ∃ stage' s', s.handleEvent i n revents read write = some s' ∧ Inv ok stage' s' := by
  obtain ⟨c, here⟩ := inv.staged.present (n := n) (by simp [opened])
  obtain ⟨stage₁, s₁, closed, inv₁, c₁, here₁⟩ := inv.handleClose (i := i) opened unhandled
  -- whatever happened before it, the last part is a `handleWrite`
  have finish {stage : Nat → Stage} {s : TcpServer} {c : Connection} (inv : Inv ok stage s)
      (here : s.conns n = some c) : ∃ stage' s',
      (if revents &&& pollOut != 0 then s.handleWrite n write else some s) = some s' ∧
        Inv ok stage' s' := by
    split
    · exact ⟨stage, inv.handleWrite here write⟩
    · exact ⟨stage, s, rfl, inv⟩
  unfold TcpServer.handleEvent
  by_cases hangup : (revents &&& pollHup != 0 && revents &&& pollIn == 0) = true
  · have nothing : revents &&& pollIn = 0 := by
      simpa using (Bool.and_eq_true_iff.mp hangup).2
    simp only [hangup, closed, plain.readable nothing, if_true, Option.bind_eq_bind,
      Option.bind_some, bne_self_eq_false, Bool.false_eq_true, if_false]
    exact finish inv₁ here₁
  · rw [Bool.not_eq_true] at hangup
    simp only [hangup, Bool.false_eq_true, if_false, Option.bind_eq_bind, Option.bind_some]
    split
    · cases read with
      | received | failed => exact finish inv here
      | endOfFile =>
        simp only [handleRead, closed, Option.bind_some]
        exact finish inv₁ here₁
    · exact finish inv here

/-! ### A new connection -/

theorem Queued.messagesTo_nil {loop : Nat → Nat} {queue : Nat → List LoopFunctor}
    (queued : Queued loop stage queue) (new : (stage n).callbacks = []) (j : Nat) :
    messagesTo n (queue j) = [] := by
  rw [messagesTo, List.filterMap_eq_nil_iff]
  intro f member
  cases f with
  | sendInLoop m message =>
    have other : m ≠ n := by
      rintro rfl
      exact (queued.sends j m message member).1 new
    simp [other]
  | _ => rfl

theorem Streams.established {tcp : TcpConnection}
    (fresh : c.tcp = { writeCompleteCallback := false } ∧ c.sends = [])
    (established : c.tcp.connectEstablished = some tcp) {c' : Connection} (tcp' : c'.tcp = tcp)
    (sends : c'.sends = c.sends) : Streams spared .opened c' [] := by
  obtain ⟨initial, none⟩ := fresh
  rw [initial] at established
  have faithful := TcpConnection.Faithful.established established
  rw [← tcp'] at faithful
  exact ⟨[], faithful.stream, by simp, fun _ => ⟨faithful, by simp [sends, none]⟩, by simp⟩

theorem Inv.newConnection (inv : Inv ok stage s) {sockfd : Int}
    (available : s.available sockfd = true) :
    ∃ stage' s', s.newConnection sockfd = some s' ∧ Inv ok stage' s' := by
  obtain ⟨next, picked, turn⟩ := inv.staged.getNextLoop
  have staged := inv.staged.addConnection inv.short inv.small available turn
  have absent : stage s.nextConnId = .absent := by
    rw [inv.staged.absent]
    by_contra present
    exact absurd ((inv.staged.made s.nextConnId).mp present).2 (Nat.lt_irrefl _)
  have idle : ∀ j, (stage s.nextConnId).duties s.nextConnId (s.ioLoop s.nextConnId) j = [] :=
    fun j => by rw [absent]; rfl
  have silent := inv.queued.messagesTo_nil (n := s.nextConnId) (by rw [absent]; rfl)
  have handling {st : Stage} : Handling s.ioLoop (Function.update stage s.nextConnId st)
      fun i => (s.loops i).turn := inv.handling.advance_of_ne (by simp [absent])
  simp only [TcpServer.newConnection, picked]
  split
  · -- without IO threads the loop of the server opens the connection at once
    obtain ⟨tcp, poller, c', established, made, opened, staged'⟩ :=
      staged.connectEstablished (Function.update_self _ _ _) (Function.update_self _ _ _)
    rw [Function.update_idem] at staged'
    have conns := Function.update_idem
      (some { loop := s.ioLoop s.nextConnId, fd := sockfd, name := s.connName s.nextConnId })
      (some c') s.conns (a := s.nextConnId)
    refine ⟨_, _, opened, inv.move staged' ?_ ?_ conns ?_ ?_ (by simp [Stage.callbacks]) rfl⟩
    · rw [queue_put]
      exact inv.queued.advance idle (fun j => rfl) (by simp [Stage.callbacks])
    · simp only [turn_put]
      exact handling
    · intro m _
      rw [queue_put]
      rfl
    · rw [queue_put]
      change Streams (ok s.nextConnId) .opened c' (messagesTo s.nextConnId (s.queue _))
      rw [silent]
      exact Streams.established ⟨rfl, rfl⟩ established (by rw [made]) (by rw [made])
  · have up : (stage s.nextConnId).callbacks ≠ [] → Stage.accepted.callbacks ≠ [] := by
      rw [absent]
      exact id
    refine ⟨_, _, rfl, inv.move (staged.setLoop rfl) ?_ ?_ rfl ?_ ?_ up rfl⟩
    · rw [queue_queueInLoop]
      exact inv.queued.push idle (by simp [LoopFunctor.holds]) (fun j => rfl) up
    · simp only [turn_queueInLoop]
      exact handling
    · intro m _
      rw [queue_queueInLoop, messagesTo_push (k := s.nextConnId) (by simp [LoopFunctor.holds])]
      rfl
    · rw [queue_queueInLoop, messagesTo_push (k := s.nextConnId) (by simp [LoopFunctor.holds])]
      change Streams (ok s.nextConnId) .accepted _ (messagesTo s.nextConnId (s.queue _))
      rw [silent]
      exact ⟨[], by simp, by simp, by simp, fun _ => ⟨rfl, rfl⟩⟩

/-! ### Functors that are called -/

section Calls

variable {f : LoopFunctor} {functors : List LoopFunctor}

/-- The functors that are left when the first of them is called. -/
def rest (s : TcpServer) (i : Nat) (functors : List LoopFunctor) : List LoopFunctor :=
  functors ++ (s.loops i).pendingFunctors

theorem queue_calling (turn : (s.loops i).turn = .calling (f :: functors)) :
    s.queue i = f :: s.rest i functors := by
  rw [queue, Loop.functors, turn]
  rfl

theorem queue_called (s : TcpServer) (i : Nat) (functors : List LoopFunctor) :
    (s.setTurn i (.calling functors)).queue = Function.update s.queue i (s.rest i functors) := by
  rw [setTurn, queue_setLoop]
  rfl

theorem Inv.handling_called (inv : Inv ok stage s) (i : Nat) (functors : List LoopFunctor) :
    Handling s.ioLoop stage fun j => ((s.setTurn i (.calling functors)).loops j).turn := by
  rw [setTurn, turn_setLoop]
  exact inv.handling.setTurn (List.nil_sublist _)

theorem Stage.of_duties {st : Stage} {loop : Nat} (duty : st.duties n loop i = [f]) :
    (st = .accepted ∧ f = .connectEstablished n) ∨
      (st = .closed ∧ f = .removeConnectionInLoop n) ∨
      (st = .removed ∧ f = .connectDestroyed n) := by
  cases st <;> simp only [Stage.duties] at duty <;>
    first | cases duty | (split at duty <;> simp_all)

theorem Inv.callEstablished (inv : Inv ok stage s)
    (turn : (s.loops i).turn = .calling (.connectEstablished n :: functors)) :
    ∃ stage' s', (s.setTurn i (.calling functors)).connectEstablished n = some s' ∧
      Inv ok stage' s' := by
  have front := queue_calling turn
  have holds : (LoopFunctor.connectEstablished n).holds n = true := by simp [LoopFunctor.holds]
  have duty := inv.queued.duty front holds
  obtain ⟨accepted, _⟩ | ⟨_, other⟩ | ⟨_, other⟩ := Stage.of_duties duty
  case inr.inl | inr.inr => cases other
  obtain ⟨c, here⟩ := inv.staged.present (n := n) (by simp [accepted])
  have staged : Staged stage (s.setTurn i (.calling functors)) := inv.staged.setLoop rfl
  obtain ⟨tcp, poller, c', established, made, opened, staged'⟩ :=
    staged.connectEstablished here accepted
  obtain ⟨_, _, _, _, fresh⟩ := inv.streams n c here
  have silent := inv.queued.messagesTo_nil (n := n) (by rw [accepted]; rfl)
  refine ⟨_, _, opened, inv.move staged' ?_ ?_ rfl ?_ ?_ (by simp [Stage.callbacks]) rfl⟩
  · rw [queue_put, queue_called]
    exact inv.queued.pop front holds (fun j => rfl) (by simp [Stage.callbacks])
  · simp only [turn_put]
    exact (inv.handling_called i functors).advance_of_ne (by simp [accepted])
  · intro m _
    rw [queue_put, queue_called, messagesTo_pop front holds]
  · rw [queue_put, queue_called, messagesTo_pop front holds, silent]
    exact Streams.established (fresh accepted) established (by rw [made]) (by rw [made])

theorem Inv.callRemoved (inv : Inv ok stage s)
    (turn : (s.loops i).turn = .calling (.removeConnectionInLoop n :: functors)) :
    ∃ stage' s', (s.setTurn i (.calling functors)).removeConnectionInLoop n = some s' ∧
      Inv ok stage' s' := by
  have front := queue_calling turn
  have holds : (LoopFunctor.removeConnectionInLoop n).holds n = true := by simp [LoopFunctor.holds]
  have holds' : (LoopFunctor.connectDestroyed n).holds n = true := by simp [LoopFunctor.holds]
  have duty := inv.queued.duty front holds
  obtain ⟨_, other⟩ | ⟨closed, _⟩ | ⟨_, other⟩ := Stage.of_duties duty
  case inl | inr.inr => cases other
  obtain ⟨c, here⟩ := inv.staged.present (n := n) (by simp [closed])
  have staged : Staged stage (s.setTurn i (.calling functors)) := inv.staged.setLoop rfl
  obtain ⟨s', removed, staged', conns, queue, turn', fixed⟩ :=
    staged.removeConnectionInLoop here closed
  rw [queue_called, inv.staged.loop n c here] at queue
  have conns' : s'.conns = Function.update s.conns n (some c) := by
    rw [conns, ← here]
    exact (Function.update_eq_self _ _).symm
  refine ⟨_, s', removed, inv.move staged' ?_ ?_ conns' ?_ ?_ (by simp [Stage.callbacks]) fixed⟩
  · -- between the two functors there is nothing queued for the connection
    have popped : Queued s.ioLoop (Function.update stage n .destroyed) _ :=
      inv.queued.pop front holds (fun j => rfl) (by simp [Stage.callbacks])
    have pushed : Queued s.ioLoop (Function.update (Function.update stage n .destroyed) n .removed)
        (Function.update _ (s.ioLoop n) (_ ++ [.connectDestroyed n])) :=
      popped.push (by simp [Stage.duties]) holds' (fun j => rfl) (by simp [Stage.callbacks])
    rw [Function.update_idem] at pushed
    rw [queue]
    exact pushed
  · simp only [turn']
    exact (inv.handling_called i functors).advance_of_ne (by simp [closed])
  · intro m _
    rw [queue, messagesTo_push holds', messagesTo_pop front holds]
  · rw [queue, messagesTo_push holds', messagesTo_pop front holds]
    exact (inv.streams n c here).closed rfl rfl rfl (by simp)

theorem Inv.callDestroyed (inv : Inv ok stage s)
    (turn : (s.loops i).turn = .calling (.connectDestroyed n :: functors)) :
    ∃ stage' s', (s.setTurn i (.calling functors)).connectDestroyed n = some s' ∧
      Inv ok stage' s' := by
  have front := queue_calling turn
  have holds : (LoopFunctor.connectDestroyed n).holds n = true := by simp [LoopFunctor.holds]
  have duty := inv.queued.duty front holds
  obtain ⟨_, other⟩ | ⟨_, other⟩ | ⟨removed, _⟩ := Stage.of_duties duty
  case inl | inr.inl => cases other
  obtain ⟨c, here⟩ := inv.staged.present (n := n) (by simp [removed])
  have staged : Staged stage (s.setTurn i (.calling functors)) := inv.staged.setLoop rfl
  obtain ⟨poller, destroyed, staged'⟩ := staged.connectDestroyed here removed
  refine ⟨_, _, destroyed, inv.move staged' ?_ ?_ rfl ?_ ?_ (by simp [Stage.callbacks]) rfl⟩
  · rw [queue_put, queue_called]
    exact inv.queued.pop front holds (fun j => rfl) (by simp [Stage.callbacks])
  · simp only [turn_put]
    exact (inv.handling_called i functors).advance_of_ne (by simp [removed])
  · intro m _
    rw [queue_put, queue_called, messagesTo_pop front holds]
  · rw [queue_put, queue_called, messagesTo_pop front holds]
    exact (inv.streams n c here).closed rfl rfl rfl (by simp)

/-- The error upon which a message is given up does not occur. -/
def Harmless (write : WriteResult) : Prop := write ≠ .failed .epipe ∧ write ≠ .failed .econnreset

theorem Harmless.event {write : WriteResult} (harmless : Harmless write) (message : Bytes) :
    (TcpConnection.Event.sendInLoop message write).Harmless := by
  cases write with
  | wrote n => trivial
  | failed errno =>
    obtain ⟨pipe, reset⟩ := harmless
    exact ⟨fun same => pipe (by rw [same]), fun same => reset (by rw [same])⟩

theorem messagesTo_popSend {queue : Nat → List LoopFunctor} {message : Bytes}
    {rest : List LoopFunctor} (front : queue i = .sendInLoop n message :: rest) {m : Nat}
    (other : m ≠ n) (j : Nat) :
    messagesTo m (Function.update queue i rest j) = messagesTo m (queue j) := by
  by_cases own : j = i
  · subst own
    simp [front, messagesTo, Ne.symm other]
  · rw [Function.update_of_ne own]

/-- On an opened connection a message goes into the stream behind the others, unless an error
makes it be given up; on a closed one it is dropped. -/
theorem Inv.callSend (inv : Inv ok stage s) {message : Bytes} {write : WriteResult}
    (turn : (s.loops i).turn = .calling (.sendInLoop n message :: functors))
    (harmless : ok n → Harmless write) :
    ∃ s', (s.setTurn i (.calling functors)).exec i (.call (.sendInLoop n message) write) = some s' ∧
      Inv ok stage s' := by
  have front := queue_calling turn
  obtain ⟨met, own⟩ := inv.queued.sends i n message (by rw [front]; exact List.mem_cons_self)
  obtain ⟨c, here⟩ := inv.staged.present (n := n) (by
    rintro absent
    simp [absent, Stage.callbacks] at met)
  have staged : Staged stage (s.setTurn i (.calling functors)) := inv.staged.setLoop rfl
  have queued := inv.queued.popSend front
  have left : messagesTo n (s.queue (s.ioLoop n)) =
      message :: messagesTo n (s.rest i functors) := by
    rw [← own, front]
    simp [messagesTo]
  obtain ⟨done, stream, whole, live, new⟩ := inv.streams n c here
  rw [left] at whole live
  have dropped : (done ++ messagesTo n (s.rest i functors)).Sublist
      (done ++ message :: messagesTo n (s.rest i functors)) :=
    (List.sublist_cons_self message _).append_left done
  have here' : (s.setTurn i (.calling functors)).conns n = some c := here
  simp only [exec, staged.alive here', if_true, TcpServer.sendInLoop, here', Option.bind_eq_bind,
    Option.bind_some]
  by_cases opened : stage n = .opened
  · obtain ⟨faithful, all⟩ := live opened
    obtain ⟨tcp, taken, outcome⟩ := faithful.sendInLoop_cases message write
    obtain ⟨_, taken', state, channel⟩ := c.tcp.sendInLoop_spec message write
    cases taken.symm.trans taken'
    obtain ⟨poller, written, staged'⟩ := staged.written here' opened state (by tauto)
    refine ⟨_, by simp [taken, written], inv.replace staged' ?_ ?_ rfl ?_ ?_ rfl⟩
    · rw [queue_put, queue_called]
      exact queued
    · simp only [turn_put]
      exact inv.handling_called i functors
    · intro m other
      rw [queue_put, queue_called, messagesTo_popSend front other]
    · rw [queue_put, queue_called, ← own, Function.update_self]
      have behind : (done ++ [message]) ++ messagesTo n (s.rest i functors) =
          done ++ message :: messagesTo n (s.rest i functors) := by simp
      rcases outcome with faithful' | ⟨harm, faithful'⟩
      · have sent : done.flatten ++ message = (done ++ [message]).flatten := by simp
        rw [sent] at faithful'
        rw [← behind] at whole all
        exact ⟨done ++ [message], faithful'.stream, whole, fun _ => ⟨faithful', all⟩,
          by simp [opened]⟩
      · refine ⟨done, faithful'.stream, dropped.trans whole, fun _ => ⟨faithful', fun given => ?_⟩,
          by simp [opened]⟩
        exact absurd ((harmless given).event message) harm
  · have gone : c.tcp.state = .kDisconnected := by
      have state := (inv.staged.shows n c here).state
      cases at_ : stage n <;> simp_all [Stage.callbacks, Stage.state]
    have unchanged : c.tcp.sendInLoop message write = some c.tcp := by
      rw [TcpConnection.sendInLoop, if_pos gone]
    have conns : (s.setTurn i (.calling functors)).conns = Function.update s.conns n (some c) := by
      rw [← here]
      exact (Function.update_eq_self _ _).symm
    refine ⟨s.setTurn i (.calling functors), by simp [unchanged, written, setConn_self here'],
      inv.replace staged ?_ (inv.handling_called i functors) conns ?_ ?_ rfl⟩
    · rw [queue_called]
      exact queued
    · intro m other
      rw [queue_called, messagesTo_popSend front other]
    · rw [queue_called, ← own, Function.update_self]
      exact ⟨done, stream, dropped.trans whole, fun now => absurd now opened, new⟩

end Calls

/-! ### Sessions that send -/

theorem Inv.setSending (inv : Inv ok stage s) {sending : List (Nat × Bytes)}
    (met : ∀ n message, (n, message) ∈ sending → (stage n).callbacks ≠ []) :
    Inv ok stage { s with sending := sending } := by
  constructor
  case short => exact inv.short
  case small => exact inv.small
  case staged => exact inv.staged.requeue sending fun _ => rfl
  case queued => exact inv.queued
  case sending => exact met
  case handling => exact inv.handling
  case streams => exact inv.streams

theorem Staged.setSends (staged : Staged stage s) (here : s.conns n = some c)
    (sends : List Bytes) : Staged stage (s.setConn n { c with sends := sends }) := by
  obtain ⟨state, index, callbacks, context, watches⟩ := staged.shows n c here
  have tracks := staged.tracks c.loop
  rw [← Function.update_eq_self n (s.watchedBy c.loop), watchedBy_own here] at tracks
  have present : stage n ≠ .absent := fun absent => by
    rw [(staged.absent n).mp absent] at here
    cases here
  have staged' := staged.put here (by rfl) (by rfl) (by rfl)
    (⟨state, index, callbacks, context, watches⟩ :
      Connection.At (stage n) { c with sends := sends }) present rfl tracks
  rw [Function.update_eq_self] at staged'
  rw [put_setConn]
  exact staged'

theorem Inv.queueSend (inv : Inv ok stage s) (here : s.conns n = some c) {message : Bytes}
    (met : (stage n).callbacks ≠ []) :
    Inv ok stage ((s.setConn n { c with sends := c.sends ++ [message] }).queueInLoop c.loop
      (.sendInLoop n message)) := by
  have loop := inv.staged.loop n c here
  have queue : ((s.setConn n { c with sends := c.sends ++ [message] }).queueInLoop c.loop
      (.sendInLoop n message)).queue =
      Function.update s.queue (s.ioLoop n) (s.queue (s.ioLoop n) ++ [.sendInLoop n message]) := by
    rw [queue_queueInLoop, loop]
    rfl
  refine inv.replace ((inv.staged.setSends here _).setLoop rfl) ?_ ?_ rfl ?_ ?_ rfl
  · rw [queue]
    exact inv.queued.pushSend met
  · simp only [turn_queueInLoop]
    exact inv.handling
  · intro m other
    rw [queue]
    by_cases same : s.ioLoop m = s.ioLoop n
    · rw [same, Function.update_self]
      simp [messagesTo, Ne.symm other]
    · rw [Function.update_of_ne same]
  · rw [queue, Function.update_self]
    have more : messagesTo n (s.queue (s.ioLoop n) ++ [.sendInLoop n message]) =
        messagesTo n (s.queue (s.ioLoop n)) ++ [message] := by simp [messagesTo]
    obtain ⟨done, stream, whole, live, new⟩ := inv.streams n c here
    rw [more]
    refine ⟨done, stream, ?_, fun opened => ⟨(live opened).1, fun given => ?_⟩, fun accepted => ?_⟩
    · rw [← List.append_assoc]
      exact whole.append_right [message]
    · rw [← List.append_assoc, (live opened).2 given]
    · rw [accepted] at met
      exact absurd rfl met

/-! ### Polling -/

theorem plain_of_watched {events revents : BitVec 32}
    (watches : events = Channel.readEvent ∨ events = Channel.readEvent ||| Channel.writeEvent)
    (within : revents &&& ~~~(events ||| pollErr ||| pollHup) = 0) : Plain revents := by
  have narrow : ~~~(pollIn ||| pollOut ||| pollErr ||| pollHup) =
      ~~~(Channel.readEvent ||| pollErr ||| pollHup) &&& ~~~pollOut := by decide
  have same : ~~~(pollIn ||| pollOut ||| pollErr ||| pollHup) =
      ~~~(Channel.readEvent ||| Channel.writeEvent ||| pollErr ||| pollHup) := by decide
  rcases watches with rfl | rfl
  · rw [Plain, narrow, ← BitVec.and_assoc, within]
    exact BitVec.zero_and
  · rw [Plain, same, within]

/-- What the kernel reports are opened connections of the loop. -/
theorem Inv.reported (inv : Inv ok stage s) {fd : Int} {revents : BitVec 32} {m : Nat}
    {revents' : BitVec 32}
    (active : s.activeChannel i (.socket fd revents) = some (.channel m revents')) :
    ∃ c, s.conns m = some c ∧ c.fd = fd ∧ (s.loops i).poller.channels fd = some m ∧
      stage m = .opened ∧ s.ioLoop m = i ∧ Plain revents' := by
  obtain ⟨event, found, rest⟩ := Option.bind_eq_some_iff.mp active
  split at rest
  case isFalse => cases rest
  case isTrue within =>
    cases rest
    obtain ⟨events, m⟩ := event
    obtain ⟨w, watched, rfl, added, same⟩ := ((inv.staged.tracks i).epoll fd events m).mp found
    obtain ⟨c, here, own⟩ := Option.bind_eq_some_iff.mp watched
    split at own
    case isFalse => cases own
    case isTrue loop =>
      cases own
      have shows := inv.staged.shows m c here
      have opened : stage m = .opened := shows.opened_of_added added
      refine ⟨c, here, rfl, ?_, opened, ?_, ?_⟩
      · exact ((inv.staged.tracks i).channels _ m).mpr ⟨_, watched, rfl, by simp [added]⟩
      · rw [← inv.staged.loop m c here, loop]
      · have watches := shows.watches
        rw [opened] at watches
        rw [← same] at within
        exact plain_of_watched watches (eq_of_beq within)

theorem mem_handled {activeChannels : List Active} {revents : BitVec 32} :
    (n, revents) ∈ handled (.handling activeChannels) ↔ .channel n revents ∈ activeChannels := by
  simp only [handled, List.mem_filterMap]
  constructor
  · rintro ⟨a, member, made⟩
    cases a with
    | acceptChannel => cases made
    | channel m r =>
      cases made
      exact member
  · intro member
    exact ⟨_, member, rfl⟩

/-- A descriptor is under one channel, so that none is reported twice. -/
theorem Inv.handled_nodup (inv : Inv ok stage s) {reported : List Reported}
    (nodup : (reported.map Reported.fd).Nodup)
    (watched : ∀ r ∈ reported, (s.activeChannel i r).isSome = true) :
    ((handled (.handling (reported.filterMap (s.activeChannel i)))).map Prod.fst).Nodup := by
  let ptr : Option Int → Option Nat := fun fd? =>
    fd?.bind fun fd => ((s.loops i).poller.epoll fd).map EpollEvent.ptr
  have pointers : (handled (.handling (reported.filterMap (s.activeChannel i)))).map Prod.fst =
      (reported.map Reported.fd).filterMap ptr := by
    rw [handled, List.filterMap_filterMap, List.map_filterMap, List.filterMap_map]
    apply List.filterMap_congr
    intro r member
    have some := watched r member
    cases r with
    | acceptSocket =>
      simp only [activeChannel]
      split <;> rfl
    | socket fd revents =>
      simp only [activeChannel, Option.bind_eq_bind] at some ⊢
      cases found : (s.loops i).poller.epoll fd with
      | none => simp [found] at some
      | some event =>
        simp only [found, Option.bind_some] at some ⊢
        split at some
        next within =>
          rw [if_pos within]
          simp [Reported.fd, ptr, found]
        next => cases some
  rw [pointers]
  apply nodup.filterMap
  intro fd fd' m first second
  obtain ⟨fd, rfl, mapped⟩ := Option.bind_eq_some_iff.mp first
  obtain ⟨fd', rfl, mapped'⟩ := Option.bind_eq_some_iff.mp second
  obtain ⟨⟨events, _⟩, found, rfl⟩ := Option.map_eq_some_iff.mp mapped
  obtain ⟨⟨events', m⟩, found', rfl⟩ := Option.map_eq_some_iff.mp mapped'
  obtain ⟨w, here, fd, _⟩ := ((inv.staged.tracks i).epoll fd events m).mp found
  obtain ⟨w', here', fd', _⟩ := ((inv.staged.tracks i).epoll fd' events' m).mp found'
  cases here.symm.trans here'
  rw [← fd, ← fd']

theorem Inv.poll (inv : Inv ok stage s) {reported : List Reported}
    (turn : (s.loops i).turn = .calling []) (nodup : (reported.map Reported.fd).Nodup)
    (watched : ∀ r ∈ reported, (s.activeChannel i r).isSome = true) :
    ∃ s', s.exec i (.fillActiveChannels (reported.filterMap (s.activeChannel i))) = some s' ∧
      Inv ok stage s' := by
  have active : ∀ m revents, .channel m revents ∈ reported.filterMap (s.activeChannel i) →
      ∃ c, s.conns m = some c ∧ (s.loops i).poller.channels c.fd = some m ∧
        stage m = .opened ∧ s.ioLoop m = i ∧ Plain revents := by
    intro m revents member
    obtain ⟨r, _, found⟩ := List.mem_filterMap.mp member
    cases r with
    | acceptSocket =>
      simp only [activeChannel] at found
      split at found <;> cases found
    | socket fd revents' =>
      obtain ⟨c, here, rfl, channels, rest⟩ := inv.reported found
      exact ⟨c, here, channels, rest⟩
  refine ⟨s.setTurn i (.handling (reported.filterMap (s.activeChannel i))), ?_, ?_⟩
  · rw [exec, if_pos]
    rw [List.all_eq_true]
    intro a member
    cases a with
    | acceptChannel => rfl
    | channel m revents =>
      obtain ⟨c, here, channels, _⟩ := active m revents member
      simp [inv.staged.alive here, here, channels]
  · have queue : (s.setTurn i (.handling (reported.filterMap (s.activeChannel i)))).queue =
        s.queue := by
      rw [setTurn, queue_setLoop]
      have functors : s.queue i = (s.loops i).pendingFunctors := by
        rw [TcpServer.queue, Loop.functors, turn]
        rfl
      rw [← Function.update_eq_self i s.queue, functors, Function.update_idem]
      rfl
    constructor
    case short => exact inv.short
    case small => exact inv.small
    case staged => exact inv.staged.setLoop rfl
    case queued => rw [queue]; exact inv.queued
    case sending => exact inv.sending
    case handling =>
      rw [setTurn, turn_setLoop]
      constructor
      case opened =>
        intro j m revents member
        by_cases own : j = i
        · subst own
          rw [Function.update_self] at member
          obtain ⟨_, _, _, rest⟩ := active m revents (mem_handled.mp member)
          exact rest
        · rw [Function.update_of_ne own] at member
          exact inv.handling.opened j m revents member
      case once =>
        intro j
        by_cases own : j = i
        · subst own
          rw [Function.update_self]
          exact inv.handled_nodup nodup watched
        · rw [Function.update_of_ne own]
          exact inv.handling.once j
    case streams => rw [queue]; exact inv.streams

/-! ### Every step -/

theorem available_of_queue {s' : TcpServer} (queue : s'.queue = s.queue)
    (same : (s'.conns, s'.connections, s'.numThreads, s'.nextConnId, s'.descriptors) =
      (s.conns, s.connections, s.numThreads, s.nextConnId, s.descriptors)) (fd : Int) :
    s'.available fd = s.available fd := by
  obtain ⟨conns, connections, numThreads, nextConnId, descriptors⟩ : s'.conns = s.conns ∧
      s'.connections = s.connections ∧ s'.numThreads = s.numThreads ∧
      s'.nextConnId = s.nextConnId ∧ s'.descriptors = s.descriptors := by
    simpa using same
  have functors : ∀ i, (s'.loops i).functors = (s.loops i).functors := congrFun queue
  simp only [available, alive, conns, connections, numThreads, nextConnId, descriptors, functors]

/-- The next channel is taken out of a turn. -/
theorem Inv.handleNext (inv : Inv ok stage s) {a : Active} {rest : List Active}
    (turn : (s.loops i).turn = .handling (a :: rest)) :
    Inv ok stage (s.setTurn i (.handling rest)) := by
  apply inv.setLoop (by rfl)
  · simp [Loop.functors, turn]
  · rw [turn]
    exact (List.sublist_cons_self a rest).filterMap _

theorem Inv.handleChannel (inv : Inv ok stage s) {revents : BitVec 32} {rest : List Active}
    (turn : (s.loops i).turn = .handling (.channel n revents :: rest)) (read : ReadResult)
    (write : WriteResult) :
    ∃ stage' s', (s.setTurn i (.handling rest)).exec i (.handleEvent n revents read write) =
        some s' ∧ Inv ok stage' s' := by
  have inv' := inv.handleNext turn
  have first : handled (s.loops i).turn = (n, revents) :: handled (.handling rest) := by
    rw [turn]
    rfl
  obtain ⟨opened, own, plain⟩ := inv.handling.opened i n revents
    (by rw [first]; exact List.mem_cons_self)
  have once := inv.handling.once i
  rw [first, List.map_cons, List.nodup_cons] at once
  have unhandled : ∀ j revents,
      (n, revents) ∉ handled ((s.setTurn i (.handling rest)).loops j).turn := by
    intro j revents' member
    by_cases here : j = i
    · subst here
      simp only [setTurn, TcpServer.setLoop, Function.update_self] at member
      exact once.1 (List.mem_map.mpr ⟨_, member, rfl⟩)
    · simp only [setTurn, TcpServer.setLoop, Function.update_of_ne here] at member
      exact here ((inv.handling.opened j n revents' member).2.1.symm.trans own)
  obtain ⟨c, here⟩ := inv'.staged.present (n := n) (by simp [opened])
  rw [TcpServer.exec, if_pos (inv'.staged.alive here)]
  exact inv'.handleEvent opened plain unhandled read write

/-- The next call does not give up a message to the connection: it is no `sendInLoop` for it, or
no error makes the message be given up. -/
def SparesNext (n : Nat) (write : WriteResult) : Turn → Prop
  | .calling (.sendInLoop m _ :: _) => m = n → Harmless write
  | _ => True

instance (n : Nat) (write : WriteResult) : DecidablePred (SparesNext n write) := fun turn => by
  unfold SparesNext Harmless
  split <;> infer_instance

def Spares (s : TcpServer) (n : Nat) : Event → Prop
  | .callFunctor i write => SparesNext n write (s.loops i).turn
  | _ => True

instance (s : TcpServer) (n : Nat) : DecidablePred (s.Spares n) := fun e => by
  cases e <;> unfold Spares <;> infer_instance

/-- What a thread fetches it can do, and it keeps the invariant. -/
theorem Inv.step (inv : Inv ok stage s) {e : Event} {s' : TcpServer} {work : Work}
    (spares : ∀ n, ok n → s.Spares n e) (fetched : s.fetch e = some (s', i, work)) :
    ∃ stage' s'', s'.exec i work = some s'' ∧ Inv ok stage' s'' := by
  cases e with
  | poll j reported =>
    simp only [fetch] at fetched
    split at fetched
    case isFalse => cases fetched
    case isTrue ready =>
      cases fetched
      obtain ⟨_, turn, nodup, watched⟩ := ready
      exact ⟨stage, inv.poll turn nodup (List.all_eq_true.mp watched)⟩
  | handleEvent j accepted read write =>
    simp only [fetch] at fetched
    split at fetched
    next rest turn =>
      have inv' := inv.handleNext turn
      cases accepted with
      | none =>
        cases fetched
        exact ⟨stage, _, rfl, inv'⟩
      | some sockfd =>
        dsimp only at fetched
        split at fetched
        case isFalse => cases fetched
        case isTrue available =>
          cases fetched
          have queue : (s.setTurn i (.handling rest)).queue = s.queue := by
            rw [setTurn, queue_setLoop, ← Function.update_eq_self i s.queue, Function.update_idem]
            simp [TcpServer.queue, Loop.functors, turn]
          apply inv'.newConnection
          rw [available_of_queue queue rfl]
          exact available
    next n revents rest turn =>
      cases fetched
      exact inv.handleChannel turn read write
    next => cases fetched
  | swapFunctors j =>
    simp only [fetch] at fetched
    split at fetched
    next turn =>
      cases fetched
      refine ⟨stage, _, rfl, inv.setLoop rfl ?_ ?_⟩
      · simp [Loop.functors, turn]
      · exact List.nil_sublist _
    next => cases fetched
  | callFunctor j write =>
    simp only [fetch] at fetched
    split at fetched
    next f functors turn =>
      cases fetched
      cases f with
      | connectEstablished n => exact inv.callEstablished turn
      | sendInLoop n message =>
        refine ⟨stage, inv.callSend turn fun given => ?_⟩
        have spared := spares n given
        rw [Spares, turn, SparesNext] at spared
        exact spared rfl
      | removeConnectionInLoop n => exact inv.callRemoved turn
      | connectDestroyed n => exact inv.callDestroyed turn
    next => cases fetched
  | testState n message =>
    obtain ⟨c, here, fetched⟩ := Option.bind_eq_some_iff.mp fetched
    split at fetched
    case isFalse => cases fetched
    case isTrue context =>
      split at fetched
      · cases fetched
        refine ⟨stage, _, rfl, inv.setSending ?_⟩
        intro m text member
        rcases List.mem_append.mp member with earlier | new
        · exact inv.sending m text earlier
        · cases List.mem_singleton.mp new
          have met := (inv.staged.shows n c here).context
          rw [context] at met
          rintro none
          rw [none] at met
          cases met
      · cases fetched
        exact ⟨stage, s, rfl, inv⟩
  | queueSend k =>
    obtain ⟨⟨n, message⟩, found, fetched⟩ := Option.bind_eq_some_iff.mp fetched
    obtain ⟨c, here, fetched⟩ := Option.bind_eq_some_iff.mp fetched
    cases fetched
    have inv' : Inv ok stage { s with sending := s.sending.eraseIdx k } :=
      inv.setSending fun m text member => inv.sending m text (List.mem_of_mem_eraseIdx member)
    exact ⟨stage, _, rfl, inv'.queueSend here
      (inv.sending n message (List.mem_of_getElem? found))⟩

theorem inv_start {name ipPort : Bytes} {numThreads descriptors : Nat}
    (short : ipPort.length ≤ 51) (small : descriptors < 2147483647) :
    Inv ok (fun _ => .absent) (start name ipPort numThreads descriptors) := by
  constructor
  case short => exact short
  case small => exact small
  case staged =>
    constructor
    case made =>
      intro n
      simp only [start, ne_eq, not_true_eq_false, false_iff]
      omega
    case absent => simp [start]
    case shows => simp [start]
    case loop => simp [start]
    case name => simp [start]
    case fd => simp [start]
    case distinct => simp [start]
    case next => simp [start]
    case listed => simp [start, Stage.listed]
    case tracks =>
      intro i
      constructor <;> simp [start, watchedBy]
  case queued =>
    constructor
    case held => simp [queue, start, Loop.functors, Stage.duties]
    case sends => simp [queue, start, Loop.functors]
  case sending => simp [start]
  case handling =>
    constructor
    case opened => simp [start, handled]
    case once => simp [start, handled]
  case streams => simp [start]

variable {name ipPort : Bytes} {numThreads descriptors : Nat} {es : List Event}

/-- `ok` is any condition on connections under which no step of the run gives up a message to
them. -/
theorem inv_of_run (short : ipPort.length ≤ 51) (small : descriptors < 2147483647)
    (reached : run step (start name ipPort numThreads descriptors) es = some s)
    (spares : ∀ n, ok n → Along step (fun s e _ => s.Spares n e)
      (start name ipPort numThreads descriptors) es) : ∃ stage, Inv ok stage s := by
  refine run_invariant_along step (fun s e _ => ∀ n, ok n → s.Spares n e)
    (fun s => ∃ stage, Inv ok stage s) ?_ _ s es reached (along_forall spares)
    ⟨_, inv_start short small⟩
  rintro s e s' taken spares ⟨stage, inv⟩
  obtain ⟨⟨s₁, i, work⟩, fetched, executed⟩ := Option.bind_eq_some_iff.mp taken
  obtain ⟨stage', s'', executed', inv'⟩ := inv.step spares fetched
  cases executed.symm.trans executed'
  exact ⟨stage', inv'⟩

end TcpServer

end VllmRoute.Network
