import Mathlib.Data.Int.CardIntervalMod
import VllmRoute.Properties.LifeCycle

/-!
# The server over whole runs

What holds in every state that the server can reach, whatever its loops, the
sessions and the kernel do and in whichever order.

An address such as `0.0.0.0:10001` is short enough for the names of the
connections to be told apart by their numbers.
-/
namespace VllmRoute.Network

open Lib

namespace TcpServer

variable {name ipPort : Bytes} {numThreads descriptors : Nat}
variable {es : List Event} {s : TcpServer}

/-! ### What no step changes -/

/-- What the server was started with. -/
def parameters (s : TcpServer) : Bytes × Bytes × Nat × Nat :=
  (s.name, s.ipPort, s.numThreads, s.descriptors)

/-- The handler leaves the parameters alone. -/
def Keeps (s : TcpServer) (result : Option TcpServer) : Prop :=
  ∀ s', result = some s' → s'.parameters = s.parameters

theorem Keeps.some {s s' : TcpServer} (same : s'.parameters = s.parameters) :
    s.Keeps (some s') := by
  rintro _ ⟨⟩
  exact same

theorem Keeps.none (s : TcpServer) : s.Keeps none := by
  rintro _ ⟨⟩

theorem Keeps.bind {α : Type} {result : Option α} {f : α → Option TcpServer}
    (kept : ∀ a, result = .some a → s.Keeps (f a)) : s.Keeps (result.bind f) := by
  intro s' returned
  obtain ⟨a, was, rest⟩ := Option.bind_eq_some_iff.mp returned
  exact kept a was s' rest

theorem Keeps.trans {result : Option TcpServer} {f : TcpServer → Option TcpServer}
    (first : s.Keeps result) (kept : ∀ a : TcpServer, a.Keeps (f a)) : s.Keeps (result.bind f) := by
  apply Keeps.bind
  intro a was s' returned
  exact (kept a s' returned).trans (first a was)

theorem Keeps.ite {p : Prop} [Decidable p] {a b : Option TcpServer} (yes : s.Keeps a)
    (no : s.Keeps b) : s.Keeps (if p then a else b) := by
  split
  · exact yes
  · exact no

theorem updateChannel_keeps (s : TcpServer) (n : Nat) (c : Connection) :
    s.Keeps (s.updateChannel n c) := by
  apply Keeps.bind
  intro _ _
  exact Keeps.some rfl

theorem onConnection_keeps (s : TcpServer) (n : Nat) : s.Keeps (s.onConnection n) := by
  apply Keeps.bind
  intro _ _
  exact Keeps.some rfl

theorem connectEstablished_keeps (s : TcpServer) (n : Nat) :
    s.Keeps (s.connectEstablished n) := by
  apply Keeps.bind
  intro c _
  apply Keeps.bind
  intro tcp _
  apply Keeps.trans
  · exact s.updateChannel_keeps n _
  · intro s
    exact s.onConnection_keeps n

theorem removeConnectionInLoop_keeps (s : TcpServer) (n : Nat) :
    s.Keeps (s.removeConnectionInLoop n) := by
  apply Keeps.bind
  intro c _
  apply Keeps.ite
  · exact Keeps.some rfl
  · exact Keeps.none s

theorem handleClose_keeps (s : TcpServer) (i n : Nat) : s.Keeps (s.handleClose i n) := by
  apply Keeps.bind
  intro c _
  apply Keeps.bind
  intro tcp _
  apply Keeps.trans
  · exact s.updateChannel_keeps n _
  · intro s
    apply Keeps.trans
    · exact s.onConnection_keeps n
    · intro s
      apply Keeps.ite
      · exact s.removeConnectionInLoop_keeps n
      · exact Keeps.some rfl

theorem removeChannel_keeps (s : TcpServer) (n : Nat) (c : Connection) :
    s.Keeps (s.removeChannel n c) := by
  apply Keeps.ite
  · apply Keeps.bind
    intro _ _
    exact Keeps.some rfl
  · exact Keeps.none s

theorem connectDestroyed_keeps (s : TcpServer) (n : Nat) : s.Keeps (s.connectDestroyed n) := by
  have rest (s : TcpServer) : s.Keeps ((s.conns n).bind (s.removeChannel n)) := by
    apply Keeps.bind
    intro c _
    exact s.removeChannel_keeps n c
  apply Keeps.bind
  intro c _
  apply Keeps.ite
  · apply Keeps.trans
    · exact s.updateChannel_keeps n _
    · intro s
      exact Keeps.trans (s.onConnection_keeps n) rest
  · exact Keeps.trans (Keeps.some rfl) rest

theorem written_keeps (s : TcpServer) (n : Nat) (c : Connection) (tcp : TcpConnection) :
    s.Keeps (s.written n c tcp) := by
  apply Keeps.ite
  · exact Keeps.some rfl
  · exact s.updateChannel_keeps n _

theorem handleWrite_keeps (s : TcpServer) (n : Nat) (write : WriteResult) :
    s.Keeps (s.handleWrite n write) := by
  apply Keeps.bind
  intro c _
  apply Keeps.bind
  intro tcp _
  exact s.written_keeps n c tcp

theorem handleRead_keeps (s : TcpServer) (i n : Nat) (read : ReadResult) :
    s.Keeps (s.handleRead i n read) := by
  cases read with
  | received | failed => exact Keeps.some rfl
  | endOfFile => exact s.handleClose_keeps i n

theorem handleEvent_keeps (s : TcpServer) (i n : Nat) (revents : BitVec 32) (read : ReadResult)
    (write : WriteResult) : s.Keeps (s.handleEvent i n revents read write) := by
  have writes (s : TcpServer) :
      s.Keeps (if revents &&& pollOut != 0 then s.handleWrite n write else some s) := by
    apply Keeps.ite
    · exact s.handleWrite_keeps n write
    · exact Keeps.some rfl
  have reads (s : TcpServer) :
      s.Keeps (if revents &&& (pollIn ||| pollPri ||| pollRdhup) != 0 then
        (s.handleRead i n read).bind fun s =>
          if revents &&& pollOut != 0 then s.handleWrite n write else some s
        else (some s).bind fun s =>
          if revents &&& pollOut != 0 then s.handleWrite n write else some s) := by
    apply Keeps.ite
    · exact Keeps.trans (s.handleRead_keeps i n read) writes
    · exact Keeps.trans (Keeps.some rfl) writes
  apply Keeps.ite
  · exact Keeps.trans (s.handleClose_keeps i n) reads
  · exact Keeps.trans (Keeps.some rfl) reads

theorem newConnection_keeps (s : TcpServer) (sockfd : Int) : s.Keeps (s.newConnection sockfd) := by
  have next : s.getNextLoop.2.parameters = s.parameters := by
    unfold getNextLoop
    split <;> rfl
  have rest : s.getNextLoop.2.Keeps (s.newConnection sockfd) := by
    apply Keeps.ite
    · exact connectEstablished_keeps _ _
    · exact Keeps.some rfl
  intro s' returned
  exact (rest s' returned).trans next

theorem exec_keeps (s : TcpServer) (i : Nat) (work : Work) : s.Keeps (s.exec i work) := by
  cases work with
  | fillActiveChannels activeChannels =>
    apply Keeps.ite
    · exact Keeps.some rfl
    · exact Keeps.none s
  | newConnection sockfd => exact s.newConnection_keeps sockfd
  | handleEvent n revents read write =>
    apply Keeps.ite
    · exact s.handleEvent_keeps i n revents read write
    · exact Keeps.none s
  | nothing => exact Keeps.some rfl
  | call f write =>
    cases f with
    | connectEstablished n => exact s.connectEstablished_keeps n
    | removeConnectionInLoop n => exact s.removeConnectionInLoop_keeps n
    | connectDestroyed n => exact s.connectDestroyed_keeps n
    | sendInLoop n message =>
      apply Keeps.ite
      · apply Keeps.bind
        intro c _
        apply Keeps.bind
        intro tcp _
        exact s.written_keeps n c tcp
      · exact Keeps.none s

theorem fetch_parameters {e : Event} {s' : TcpServer} {work : Work}
    {i : Nat} (fetched : s.fetch e = some (s', i, work)) : s'.parameters = s.parameters := by
  cases e with
  | poll j reported =>
    simp only [fetch] at fetched
    split at fetched <;> cases fetched
    rfl
  | handleEvent j accepted read write =>
    simp only [fetch] at fetched
    repeat' split at fetched
    all_goals cases fetched
    all_goals rfl
  | swapFunctors j =>
    simp only [fetch] at fetched
    split at fetched <;> cases fetched
    rfl
  | callFunctor j write =>
    simp only [fetch] at fetched
    split at fetched <;> cases fetched
    rfl
  | testState n message =>
    obtain ⟨c, _, rest⟩ := Option.bind_eq_some_iff.mp fetched
    repeat' split at rest
    all_goals cases rest
    all_goals rfl
  | queueSend k =>
    obtain ⟨⟨n, message⟩, _, rest⟩ := Option.bind_eq_some_iff.mp fetched
    obtain ⟨c, _, rest⟩ := Option.bind_eq_some_iff.mp rest
    cases rest
    rfl

theorem parameters_of_run
    (reached : run step (start name ipPort numThreads descriptors) es = some s) :
    s.parameters = (name, ipPort, numThreads, descriptors) := by
  refine run_invariant step (fun s => s.parameters = (name, ipPort, numThreads, descriptors))
    ?_ _ s es reached rfl
  intro s e s' taken same
  obtain ⟨⟨s₁, i, work⟩, fetched, executed⟩ := Option.bind_eq_some_iff.mp taken
  rw [exec_keeps s₁ i work s' executed, fetch_parameters fetched, same]

/-! ### Two runs -/

/-- A client connects and is sent two bytes, one of which is buffered; then it hangs up. -/
def oneClient : List Event :=
  [.poll 0 [.acceptSocket], .handleEvent 0 (some 7) .received (.wrote 0), .swapFunctors 0,
    .poll 1 [], .swapFunctors 1, .callFunctor 1 (.wrote 0),
    .testState 1 [1, 2], .queueSend 0, .poll 1 [], .swapFunctors 1, .callFunctor 1 (.wrote 1),
    .poll 1 [.socket 7 pollIn]]

/-- The loop handles the hang-up, and the two loops take the connection down. -/
def hangUp : List Event :=
  [.handleEvent 1 none .endOfFile (.wrote 0), .swapFunctors 1,
    .poll 0 [], .swapFunctors 0, .callFunctor 0 (.wrote 0),
    .poll 1 [], .swapFunctors 1, .callFunctor 1 (.wrote 0)]

/-! ### Failures -/

/-- What a loop thread or a session is about to do, it can do: no `assert` fails, no
`epoll_ctl` is fatal, and no connection that was freed is used. -/
theorem server_work_never_fails (short : ipPort.length ≤ 51) (small : descriptors < 2147483647)
    (reached : run step (start name ipPort numThreads descriptors) es = some s)
    {e : Event} {s' : TcpServer} {i : Nat} {work : Work}
    (fetched : s.fetch e = some (s', i, work)) : ∃ s'', s'.exec i work = some s'' := by
  obtain ⟨stage, inv⟩ := inv_of_run short small reached fun _ => False.elim
  obtain ⟨_, s'', executed, _⟩ := inv.step (fun _ => False.elim) fetched
  exact ⟨s'', executed⟩

theorem server_work_never_fails_hang_up : ∃ s s' i work s'',
    run step (start (lit "ZMQBridge") (lit "0.0.0.0:10001") 2 8) oneClient = some s ∧
      s.fetch (.handleEvent 1 none .endOfFile (.wrote 0)) = some (s', i, work) ∧
      s'.exec i work = some s'' := by
  have ran : ((run step (start (lit "ZMQBridge") (lit "0.0.0.0:10001") 2 8) oneClient).bind
      fun s => s.fetch (.handleEvent 1 none .endOfFile (.wrote 0))).isSome = true := by
    decide +kernel
  obtain ⟨⟨s', i, work⟩, both⟩ := Option.isSome_iff_exists.mp ran
  obtain ⟨s, reached, fetched⟩ := Option.bind_eq_some_iff.mp both
  obtain ⟨s'', executed⟩ := server_work_never_fails (by decide) (by decide) reached fetched
  exact ⟨s, s', i, work, s'', reached, fetched, executed⟩

/-! ### The life cycle -/

theorem Inv.queue_holds {ok : Nat → Prop} {stage : Nat → Stage} (inv : Inv ok stage s) {n i : Nat}
    {f : LoopFunctor} (duty : (stage n).duties n (s.ioLoop n) i = [f]) : f ∈ s.queue i := by
  have held := inv.queued.held i n
  rw [duty] at held
  have member : f ∈ (s.queue i).filter (·.holds n) := by simp [held]
  exact (List.mem_filter.mp member).1

theorem Inv.unlisted {ok : Nat → Prop} {stage : Nat → Stage} (inv : Inv ok stage s) {n : Nat}
    {c : Connection} (here : s.conns n = some c) (gone : (stage n).listed = false) :
    s.connections c.name = none := by
  cases found : s.connections c.name with
  | none => rfl
  | some m =>
    obtain ⟨listed, named⟩ := (inv.staged.listed c.name m).mp found
    have known : stage m ≠ .absent := by
      intro absent
      simp [absent, Stage.listed] at listed
    have there := (inv.staged.made m).mp (mt (inv.staged.absent m).mpr known)
    have made := (inv.staged.made n).mp (by simp [here])
    have bounded := inv.staged.bounded
    have small := inv.small
    rw [inv.staged.name n c here] at named
    have same : n = m := connName_injective inv.short (by omega) (by omega) named
    rw [← same, gone] at listed
    cases listed

/-- A connection is announced once when it is established and once when it is closed.
Until it is established, and after it was closed, a loop has the functor that takes the next
step, so that no connection is stuck on its way; `connections_` has it up to the step that
takes it out, and after the last step its loop does not know its channel. -/
theorem connection_follows_life_cycle (short : ipPort.length ≤ 51)
    (small : descriptors < 2147483647)
    (reached : run step (start name ipPort numThreads descriptors) es = some s)
    {n : Nat} {c : Connection} (here : s.conns n = some c) :
    (c.callbacks = [] ∧ c.tcp.state = .kConnecting ∧ s.connections c.name = some n ∧
      .connectEstablished n ∈ s.queue c.loop) ∨
    (c.callbacks = [true] ∧ c.tcp.state = .kConnected ∧ s.connections c.name = some n) ∨
    (c.callbacks = [true, false] ∧ c.tcp.state = .kDisconnected ∧
      (s.connections c.name = some n ∧ .removeConnectionInLoop n ∈ s.queue 0 ∨
        s.connections c.name = none ∧
          (.connectDestroyed n ∈ s.queue c.loop ∨
            ∀ i fd, (s.loops i).poller.channels fd ≠ some n))) := by
  obtain ⟨stage, inv⟩ := inv_of_run short small reached fun _ => False.elim
  obtain ⟨state, index, callbacks, _, _⟩ := inv.staged.shows n c here
  have named := inv.staged.name n c here
  have listed (still : (stage n).listed = true) : s.connections c.name = some n :=
    (inv.staged.listed c.name n).mpr ⟨still, named⟩
  have duty (i : Nat) (f : LoopFunctor) := inv.queue_holds (n := n) (i := i) (f := f)
  rw [← inv.staged.loop n c here] at duty
  cases at_ : stage n with
  | absent =>
    rw [(inv.staged.absent n).mp at_] at here
    cases here
  | accepted =>
    simp only [at_, Stage.state, Stage.callbacks] at state callbacks
    refine .inl ⟨callbacks, state, listed (by simp [at_, Stage.listed]), ?_⟩
    exact duty c.loop _ (by simp [at_, Stage.duties])
  | opened =>
    simp only [at_, Stage.state, Stage.callbacks] at state callbacks
    exact .inr (.inl ⟨callbacks, state, listed (by simp [at_, Stage.listed])⟩)
  | closed =>
    simp only [at_, Stage.state, Stage.callbacks] at state callbacks
    refine .inr (.inr ⟨callbacks, state, .inl ⟨listed (by simp [at_, Stage.listed]), ?_⟩⟩)
    exact duty 0 _ (by simp [at_, Stage.duties])
  | removed =>
    simp only [at_, Stage.state, Stage.callbacks] at state callbacks
    have gone := inv.unlisted here (by simp [at_, Stage.listed])
    refine .inr (.inr ⟨callbacks, state, .inr ⟨gone, .inl ?_⟩⟩)
    exact duty c.loop _ (by simp [at_, Stage.duties])
  | destroyed =>
    simp only [at_, Stage.state, Stage.callbacks, Stage.index] at state callbacks index
    have gone := inv.unlisted here (by simp [at_, Stage.listed])
    refine .inr (.inr ⟨callbacks, state, .inr ⟨gone, .inr ?_⟩⟩)
    intro i fd known
    obtain ⟨w, watched, _, registered⟩ := ((inv.staged.tracks i).channels fd n).mp known
    rw [watchedBy, here, Option.bind_some] at watched
    split at watched
    · cases watched
      exact registered index
    · cases watched

theorem connection_follows_life_cycle_hang_up : ∃ s c,
    run step (start (lit "ZMQBridge") (lit "0.0.0.0:10001") 2 8) (oneClient ++ hangUp) = some s ∧
      s.conns 1 = some c ∧ c.callbacks = [true, false] ∧
      (s.connections c.name = some 1 ∧ .removeConnectionInLoop 1 ∈ s.queue 0 ∨
        s.connections c.name = none ∧
          (.connectDestroyed 1 ∈ s.queue c.loop ∨
            ∀ i fd, (s.loops i).poller.channels fd ≠ some 1)) := by
  have ran : ((run step (start (lit "ZMQBridge") (lit "0.0.0.0:10001") 2 8)
      (oneClient ++ hangUp)).bind fun s => (s.conns 1).map Connection.callbacks) =
        some [true, false] := by
    decide +kernel
  obtain ⟨s, reached, rest⟩ := Option.bind_eq_some_iff.mp ran
  obtain ⟨c, here, callbacks⟩ := Option.map_eq_some_iff.mp rest
  rcases connection_follows_life_cycle (by decide) (by decide) reached here with
    ⟨new, _⟩ | ⟨up, _⟩ | ⟨_, _, down⟩
  · simp [callbacks] at new
  · simp [callbacks] at up
  · exact ⟨s, c, reached, here, callbacks, down⟩

/-! ### The kernel -/

/-- The kernel watches the connected connections of a loop and nothing else: for reading, and
for writing exactly while something is buffered. -/
theorem epoll_watches_connected (short : ipPort.length ≤ 51) (small : descriptors < 2147483647)
    (reached : run step (start name ipPort numThreads descriptors) es = some s)
    (i n : Nat) (fd : Int) (events : BitVec 32) :
    (s.loops i).poller.epoll fd = some ⟨events, n⟩ ↔
      ∃ c, s.conns n = some c ∧ c.loop = i ∧ c.fd = fd ∧ c.tcp.state = .kConnected ∧
        events = if c.tcp.outputBuffer.content = [] then Channel.readEvent
          else Channel.readEvent ||| Channel.writeEvent := by
  obtain ⟨stage, inv⟩ := inv_of_run short small reached fun _ => False.elim
  rw [(inv.staged.tracks i).epoll]
  have watching {c : Connection} (here : s.conns n = some c) (opened : stage n = .opened) :
      c.tcp.channel.events = if c.tcp.outputBuffer.content = [] then Channel.readEvent
          else Channel.readEvent ||| Channel.writeEvent := by
    obtain ⟨done, _, _, faithful, _⟩ := inv.streams n c here
    have writing := (faithful opened).1.watching
    have watches := (inv.staged.shows n c here).watches
    rw [opened] at watches
    rcases watches with read | both
    · have idle : c.tcp.channel.isWriting = false := by
        rw [Channel.isWriting, read]
        decide
      simp [idle] at writing
      simp [writing, read]
    · have busy : c.tcp.channel.isWriting = true := by
        rw [Channel.isWriting, both]
        decide
      simp [busy] at writing
      simp [writing, both]
  constructor
  · rintro ⟨w, watched, rfl, added, rfl⟩
    obtain ⟨c, here, own⟩ := Option.bind_eq_some_iff.mp watched
    split at own
    · rename_i loop
      cases own
      have shows := inv.staged.shows n c here
      have opened : stage n = .opened := shows.opened_of_added added
      refine ⟨c, here, loop, rfl, ?_, watching here opened⟩
      rw [shows.state, opened]
      rfl
    · cases own
  · rintro ⟨c, here, rfl, rfl, connected, rfl⟩
    have shows := inv.staged.shows n c here
    have opened : stage n = .opened := shows.opened_of_connected connected
    refine ⟨c.watched, watchedBy_own here, rfl, ?_, watching here opened⟩
    have index := shows.index
    rwa [opened] at index

theorem epoll_watches_connected_one_client : ∃ s c,
    run step (start (lit "ZMQBridge") (lit "0.0.0.0:10001") 2 8) oneClient = some s ∧
      s.conns 1 = some c ∧ c.fd = 7 ∧ c.tcp.state = .kConnected ∧
      c.tcp.outputBuffer.content ≠ [] := by
  have ran : ((run step (start (lit "ZMQBridge") (lit "0.0.0.0:10001") 2 8) oneClient).map
      fun s => (s.loops 1).poller.epoll 7) =
        some (some ⟨Channel.readEvent ||| Channel.writeEvent, 1⟩) := by
    decide +kernel
  obtain ⟨s, reached, watched⟩ := Option.map_eq_some_iff.mp ran
  obtain ⟨c, here, _, fd, connected, events⟩ :=
    (epoll_watches_connected (by decide) (by decide) reached 1 1 7 _).mp watched
  refine ⟨s, c, reached, here, fd, connected, ?_⟩
  intro empty
  rw [if_pos empty] at events
  exact absurd events (by decide)

/-! ### Replies -/

/-- What was written to the socket of a connection and what is buffered for it are, one after
the other, messages that were queued for it, each as a whole and in the order of the queue.
While the connection is open no message is missing, unless a write of one to this connection
found the peer's end broken. -/
theorem replies_are_whole_and_in_order (short : ipPort.length ≤ 51)
    (small : descriptors < 2147483647)
    (reached : run step (start name ipPort numThreads descriptors) es = some s)
    {n : Nat} {c : Connection} (here : s.conns n = some c) :
    ∃ done : List Bytes, c.tcp.written ++ c.tcp.outputBuffer.content = done.flatten ∧
      (done ++ messagesTo n (s.queue c.loop)).Sublist c.sends ∧
      (Along step (fun s e _ => s.Spares n e) (start name ipPort numThreads descriptors) es →
        c.tcp.state = .kConnected → done ++ messagesTo n (s.queue c.loop) = c.sends) := by
  obtain ⟨stage, inv⟩ := inv_of_run short small reached fun _ => id
  obtain ⟨done, output, sub, faithful, _⟩ := inv.streams n c here
  rw [← inv.staged.loop n c here] at sub faithful
  refine ⟨done, output, sub, ?_⟩
  intro spared connected
  have opened := (inv.staged.shows n c here).opened_of_connected connected
  exact (faithful opened).2 spared

/-- Two more messages to the first client, the second of which its loop has not written yet.
The write to a second client in between finds that one's end broken. -/
def twoMore : List Event :=
  [.poll 0 [.acceptSocket], .handleEvent 0 (some 6) .received (.wrote 0), .swapFunctors 0,
    .poll 2 [], .swapFunctors 2, .callFunctor 2 (.wrote 0),
    .testState 1 [3], .testState 2 [4], .testState 1 [5, 6], .queueSend 1, .queueSend 0,
    .poll 2 [], .swapFunctors 2, .callFunctor 2 (.failed .epipe),
    .handleEvent 1 none .received (.wrote 1), .swapFunctors 1, .callFunctor 1 (.wrote 0),
    .queueSend 0]

theorem replies_are_whole_and_in_order_one_client : ∃ s c, ∃ done : List Bytes,
    run step (start (lit "ZMQBridge") (lit "0.0.0.0:10001") 2 8) (oneClient ++ twoMore) = some s ∧
      s.conns 1 = some c ∧ c.tcp.written ++ c.tcp.outputBuffer.content = done.flatten ∧
      messagesTo 1 (s.queue c.loop) = [[5, 6]] ∧ done ++ [[5, 6]] = [[1, 2], [3], [5, 6]] := by
  have ran : ((run step (start (lit "ZMQBridge") (lit "0.0.0.0:10001") 2 8)
      (oneClient ++ twoMore)).bind fun s => (s.conns 1).map fun c =>
        (c.tcp.state, messagesTo 1 (s.queue c.loop), c.sends)) =
      some (.kConnected, [[5, 6]], [[1, 2], [3], [5, 6]]) := by
    decide +kernel
  obtain ⟨s, reached, rest⟩ := Option.bind_eq_some_iff.mp ran
  obtain ⟨c, here, shows⟩ := Option.map_eq_some_iff.mp rest
  obtain ⟨connected, queued, sends⟩ : c.tcp.state = .kConnected ∧
      messagesTo 1 (s.queue c.loop) = [[5, 6]] ∧ c.sends = [[1, 2], [3], [5, 6]] := by
    simpa using shows
  obtain ⟨done, output, _, all⟩ :=
    replies_are_whole_and_in_order (by decide) (by decide) reached here
  have whole := all (by decide +kernel) connected
  rw [queued, sends] at whole
  exact ⟨s, c, done, reached, here, output, queued, whole⟩

/-! ### The pool of loops -/

/-- How many connections were given to a loop. -/
def load (s : TcpServer) (i : Nat) : Nat :=
  s.nextConnId.count fun n => (s.conns n).any fun c => c.loop == i

theorem Inv.load_eq {ok : Nat → Prop} {stage : Nat → Stage} (inv : Inv ok stage s) {i : Nat}
    (first : 1 ≤ i) (last : i ≤ s.numThreads) :
    s.load i = (s.nextConnId - 1) / s.numThreads +
      if i - 1 < (s.nextConnId - 1) % s.numThreads then 1 else 0 := by
  obtain ⟨some_, _⟩ := inv.staged.next
  have unused : s.conns 0 = none := by
    by_contra used
    have made := (inv.staged.made 0).mp used
    omega
  have counted := Nat.count_modEq_card (s.nextConnId - 1) (r := s.numThreads) (by omega) (i - 1)
  rw [Nat.mod_eq_of_lt (by omega : i - 1 < s.numThreads)] at counted
  rw [← counted, load, show s.nextConnId = s.nextConnId - 1 + 1 by omega, Nat.count_succ']
  simp only [unused, Option.any_none, Bool.false_eq_true, if_false, Nat.add_zero,
    Nat.add_sub_cancel]
  rw [Nat.count_eq_card_filter_range, Nat.count_eq_card_filter_range]
  congr 1
  apply Finset.filter_congr
  intro n member
  rw [Finset.mem_range] at member
  obtain ⟨c, here⟩ := Option.ne_none_iff_exists'.mp
    ((inv.staged.made (n + 1)).mpr ⟨by omega, by omega⟩)
  have loop := inv.staged.loop (n + 1) c here
  rw [ioLoop, if_neg (by omega), Nat.add_sub_cancel] at loop
  rw [here, Option.any_some, beq_iff_eq, loop, Nat.ModEq, Nat.mod_eq_of_lt (by omega : i - 1 < _)]
  omega

/-- The IO loops take turns: no loop was given two connections more than another. -/
theorem io_loops_are_balanced (short : ipPort.length ≤ 51) (small : descriptors < 2147483647)
    (reached : run step (start name ipPort numThreads descriptors) es = some s)
    {i j : Nat} (here : 1 ≤ i ∧ i ≤ numThreads) (there : 1 ≤ j ∧ j ≤ numThreads) :
    s.load i ≤ s.load j + 1 := by
  obtain ⟨stage, inv⟩ := inv_of_run short small reached fun _ => False.elim
  obtain ⟨_, _, threads, _⟩ : s.name = name ∧ s.ipPort = ipPort ∧ s.numThreads = numThreads ∧
      s.descriptors = descriptors := by
    simpa [parameters] using parameters_of_run reached
  rw [inv.load_eq here.1 (by omega), inv.load_eq there.1 (by omega)]
  split <;> split <;> omega

theorem io_loops_are_balanced_one_client : ∃ s,
    run step (start (lit "ZMQBridge") (lit "0.0.0.0:10001") 2 8) oneClient = some s ∧
      s.load 1 ≤ s.load 2 + 1 := by
  have ran : (run step (start (lit "ZMQBridge") (lit "0.0.0.0:10001") 2 8)
      oneClient).isSome = true := by
    decide +kernel
  obtain ⟨s, reached⟩ := Option.isSome_iff_exists.mp ran
  exact ⟨s, reached,
    io_loops_are_balanced (by decide) (by decide) reached (by decide) (by decide)⟩

/-! ### Descriptors -/

/-- No connection is ever freed: it holds its session, and the session holds it. So each keeps
its descriptor for good, and no more connections can be accepted in the whole life of the
server than there are descriptors. -/
theorem connections_are_never_freed (short : ipPort.length ≤ 51)
    (small : descriptors < 2147483647)
    (reached : run step (start name ipPort numThreads descriptors) es = some s) :
    (∀ n c, s.conns n = some c → s.alive n = true) ∧ s.nextConnId - 1 ≤ descriptors ∧
      (s.nextConnId - 1 = descriptors → ∀ fd, s.available fd = false) := by
  obtain ⟨stage, inv⟩ := inv_of_run short small reached fun _ => False.elim
  obtain ⟨_, _, _, limit⟩ : s.name = name ∧ s.ipPort = ipPort ∧ s.numThreads = numThreads ∧
      s.descriptors = descriptors := by
    simpa [parameters] using parameters_of_run reached
  have bounded := inv.staged.bounded
  refine ⟨fun n c => inv.staged.alive, by omega, ?_⟩
  intro full fd
  rw [← Bool.not_eq_true]
  -- one more connection would be one more than there can be
  intro available
  have more : s.nextConnId + 1 ≤ s.descriptors + 1 :=
    (inv.staged.addConnection inv.short inv.small available fun _ => rfl).bounded
  obtain ⟨some_, _⟩ := inv.staged.next
  omega

/-- A client connects to a server with one descriptor for it, and hangs up. -/
def lastDescriptor : List Event :=
  [.poll 0 [.acceptSocket], .handleEvent 0 (some 0) .received (.wrote 0), .swapFunctors 0,
    .poll 1 [], .swapFunctors 1, .callFunctor 1 (.wrote 0), .poll 1 [.socket 0 pollHup],
    .handleEvent 1 none .received (.wrote 0), .swapFunctors 1, .poll 0 [], .swapFunctors 0,
    .callFunctor 0 (.wrote 0), .poll 1 [], .swapFunctors 1, .callFunctor 1 (.wrote 0)]

theorem connections_are_never_freed_last_descriptor : ∃ s,
    run step (start (lit "ZMQBridge") (lit "0.0.0.0:10001") 2 1) lastDescriptor = some s ∧
      ∀ fd, s.available fd = false := by
  have ran : (run step (start (lit "ZMQBridge") (lit "0.0.0.0:10001") 2 1)
      lastDescriptor).map (·.nextConnId) = some 2 := by
    decide +kernel
  obtain ⟨s, reached, made⟩ := Option.map_eq_some_iff.mp ran
  refine ⟨s, reached, ?_⟩
  exact (connections_are_never_freed (by decide) (by decide) reached).2.2 (by omega)

end TcpServer

end VllmRoute.Network
