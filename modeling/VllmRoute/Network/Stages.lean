import Mathlib.Data.Nat.Digits.Defs
import Mathlib.Order.Interval.Finset.Nat
import VllmRoute.Network.TcpServer
import VllmRoute.Properties.Output

/-!
# The stages of a connection

A connection is accepted, opened by its loop, closed by its loop, removed from
`connections_` by the loop of the server, and destroyed by its loop again. Each
handler of the server takes a connection from one stage to the next, and the
`assert`s on its way hold because of the stage it is at.
-/
namespace VllmRoute.Network

/-! ### The handlers of one connection -/

namespace TcpConnection

@[simp] theorem channel_queueWriteComplete (conn : TcpConnection) :
    conn.queueWriteComplete.channel = conn.channel := by
  unfold queueWriteComplete
  split <;> rfl

@[simp] theorem channel_shutdownInLoop (conn : TcpConnection) :
    conn.shutdownInLoop.channel = conn.channel := by
  unfold shutdownInLoop
  split <;> rfl

@[simp] theorem channel_finishWriting (conn : TcpConnection) :
    conn.finishWriting.channel = conn.channel.disableWriting := by
  unfold finishWriting
  dsimp only
  split <;> simp

theorem writeDirectly_frame (conn : TcpConnection) (data : Bytes) (result : WriteResult) :
    (conn.writeDirectly data result).1.state = conn.state ∧
      (conn.writeDirectly data result).1.channel = conn.channel := by
  cases result with
  | failed errno => exact ⟨rfl, rfl⟩
  | wrote n =>
    simp only [writeDirectly]
    split <;> simp

theorem bufferRest_spec (conn : TcpConnection) (rest : Bytes) :
    ∃ conn', conn.bufferRest rest = some conn' ∧ conn'.state = conn.state ∧
      (conn'.channel = conn.channel ∨ conn'.channel = conn.channel.enableWriting) := by
  obtain ⟨outputBuffer, appended, _⟩ := conn.outputBuffer.append_spec rest
  rw [bufferRest, appended]
  refine ⟨_, rfl, ?_⟩
  split
  · exact ⟨rfl, .inl rfl⟩
  · exact ⟨rfl, .inr rfl⟩

/-- A message is sent, given up or buffered, in any case without failure. -/
theorem sendInLoop_spec (conn : TcpConnection) (data : Bytes) (result : WriteResult) :
    ∃ conn', conn.sendInLoop data result = some conn' ∧ conn'.state = conn.state ∧
      (conn'.channel = conn.channel ∨ conn'.channel = conn.channel.enableWriting) := by
  obtain ⟨attempt, nwrote, faultError, attempted, state, channel⟩ : ∃ attempt nwrote faultError,
      (if !conn.channel.isWriting && conn.outputBuffer.readableBytes == 0 then
        conn.writeDirectly data result else (conn, 0, false)) = (attempt, nwrote, faultError) ∧
      attempt.state = conn.state ∧ attempt.channel = conn.channel := by
    split
    · exact ⟨_, _, _, rfl, conn.writeDirectly_frame data result⟩
    · exact ⟨_, _, _, rfl, rfl, rfl⟩
  unfold sendInLoop
  rw [attempted]
  dsimp only
  split
  · exact ⟨conn, rfl, rfl, .inl rfl⟩
  · split
    · rw [← state, ← channel]
      exact attempt.bufferRest_spec _
    · exact ⟨attempt, rfl, state, .inl channel⟩

theorem handleWrite_spec (conn : TcpConnection) (result : WriteResult) :
    ∃ conn', conn.handleWrite result = some conn' ∧
      (conn'.channel = conn.channel ∨ conn'.channel = conn.channel.disableWriting) := by
  unfold handleWrite
  split
  case isFalse => exact ⟨conn, rfl, .inl rfl⟩
  case isTrue =>
    cases result with
    | failed errno => exact ⟨conn, rfl, .inl rfl⟩
    | wrote n =>
      dsimp only
      split
      case isFalse => exact ⟨conn, rfl, .inl rfl⟩
      case isTrue =>
        obtain ⟨outputBuffer, retrieved, _⟩ := conn.outputBuffer.retrieve_spec
          (Nat.min_le_right n conn.outputBuffer.readableBytes)
        rw [retrieved]
        refine ⟨_, rfl, ?_⟩
        split
        · exact .inr (by simp)
        · exact .inl rfl

/-- With an error that makes it give the message up, nothing else has happened. -/
theorem sendInLoop_givenUp (conn : TcpConnection) (data : Bytes) {errno : Errno}
    (fault : errno = .epipe ∨ errno = .econnreset)
    (direct : conn.channel.isWriting = false ∧ conn.outputBuffer.content = []) :
    conn.sendInLoop data (.failed errno) = some conn := by
  obtain ⟨idle, empty⟩ := direct
  have nothing : conn.outputBuffer.readableBytes = 0 := by
    rw [← Buffer.length_content, empty, List.length_nil]
  unfold sendInLoop
  split
  · rfl
  · rcases fault with rfl | rfl <;> simp [idle, nothing, writeDirectly]

/-- While the buffer holds something, the result of a `write` is not asked for. -/
theorem sendInLoop_buffered (conn : TcpConnection) (data : Bytes) (result result' : WriteResult)
    (waiting : ¬(conn.channel.isWriting = false ∧ conn.outputBuffer.content = [])) :
    conn.sendInLoop data result = conn.sendInLoop data result' := by
  have indirect : (!conn.channel.isWriting && conn.outputBuffer.readableBytes == 0) = false := by
    by_contra direct
    obtain ⟨idle, empty⟩ : conn.channel.isWriting = false ∧
        conn.outputBuffer.readableBytes = 0 := by
      simpa using direct
    rw [← Buffer.length_content] at empty
    exact waiting ⟨idle, List.eq_nil_of_length_eq_zero empty⟩
  unfold sendInLoop
  simp only [indirect, Bool.false_eq_true, if_false]

theorem Faithful.established {writeCompleteCallback : Bool} {conn : TcpConnection}
    (established : connectEstablished { writeCompleteCallback := writeCompleteCallback } =
      some conn) : Faithful [] conn := by
  cases established
  constructor
  case connected => exact .inl rfl
  case stream => simp
  case watching =>
    have idle : ({} : Channel).isWriting = false := rfl
    simp [idle]
  case flushed => simp

/-- A message goes into the stream as a whole, or not at all after an error. -/
theorem Faithful.sendInLoop_cases {sent : Bytes} {conn : TcpConnection}
    (faithful : Faithful sent conn) (data : Bytes) (result : WriteResult) :
    ∃ conn', conn.sendInLoop data result = some conn' ∧
      (Faithful (sent ++ data) conn' ∨
        ¬(Event.sendInLoop data result).Harmless ∧ Faithful sent conn') := by
  by_cases harmless : (Event.sendInLoop data result).Harmless
  · obtain ⟨conn', taken, faithful'⟩ := faithful.sendInLoop data result harmless
    exact ⟨conn', taken, .inl faithful'⟩
  · obtain ⟨errno, rfl, fault⟩ : ∃ errno, result = .failed errno ∧
        (errno = .epipe ∨ errno = .econnreset) := by
      cases result with
      | wrote n => exact absurd trivial harmless
      | failed errno =>
        refine ⟨errno, rfl, ?_⟩
        rw [Event.Harmless] at harmless
        tauto
    by_cases direct : conn.channel.isWriting = false ∧ conn.outputBuffer.content = []
    · exact ⟨conn, conn.sendInLoop_givenUp data fault direct, .inr ⟨harmless, faithful⟩⟩
    · rw [conn.sendInLoop_buffered data _ (.wrote 0) direct]
      obtain ⟨conn', taken, faithful'⟩ := faithful.sendInLoop data (.wrote 0) trivial
      exact ⟨conn', taken, .inl faithful'⟩

end TcpConnection

/-! ### Stages -/

/-- How far a connection is. -/
inductive Stage where
  | absent
  | accepted
  | opened
  | closed
  | removed
  | destroyed
  deriving DecidableEq

namespace Stage

def state : Stage → StateE
  | .absent | .accepted => .kConnecting
  | .opened => .kConnected
  | .closed | .removed | .destroyed => .kDisconnected

def index : Stage → Index
  | .absent | .accepted | .destroyed => .kNew
  | .opened => .kAdded
  | .closed | .removed => .kDeleted

def callbacks : Stage → List Bool
  | .absent | .accepted => []
  | .opened => [true]
  | .closed | .removed | .destroyed => [true, false]

/-- The connection is in `connections_`. -/
def listed : Stage → Bool
  | .accepted | .opened | .closed => true
  | .absent | .removed | .destroyed => false

/-- What is queued in loop `i` to move the connection on. -/
def duties (n loop i : Nat) : Stage → List LoopFunctor
  | .accepted => if i = loop then [.connectEstablished n] else []
  | .closed => if i = 0 then [.removeConnectionInLoop n] else []
  | .removed => if i = loop then [.connectDestroyed n] else []
  | .absent | .opened | .destroyed => []

/-- What the channel can be watched for. -/
def Watches (channel : Channel) : Stage → Prop
  | .opened => channel.events = Channel.readEvent ∨
      channel.events = Channel.readEvent ||| Channel.writeEvent
  | _ => channel.events = Channel.noneEvent

end Stage

/-- The object of a connection at this stage. -/
structure Connection.At (stage : Stage) (c : Connection) : Prop where
  state : c.tcp.state = stage.state
  index : c.index = stage.index
  callbacks : c.callbacks = stage.callbacks
  context : c.context = !stage.callbacks.isEmpty
  watches : stage.Watches c.tcp.channel

theorem Connection.At.opened_of_connected {stage : Stage} {c : Connection} (shows : c.At stage)
    (connected : c.tcp.state = .kConnected) : stage = .opened := by
  have state := shows.state
  rw [connected] at state
  cases stage <;> first | rfl | cases state

theorem Connection.At.opened_of_added {stage : Stage} {c : Connection} (shows : c.At stage)
    (added : c.index = .kAdded) : stage = .opened := by
  have index := shows.index
  rw [added] at index
  cases stage <;> first | rfl | cases index

namespace TcpServer

variable {s : TcpServer} {stage : Nat → Stage} {n : Nat} {c : Connection}

/-- The loop of a connection. -/
def ioLoop (s : TcpServer) (n : Nat) : Nat :=
  if s.numThreads = 0 then 0 else (n - 1) % s.numThreads + 1

/-- The channels of a loop. -/
def watchedBy (s : TcpServer) (i n : Nat) : Option Watched :=
  (s.conns n).bind fun c => if c.loop = i then some c.watched else none

/-- The objects, `connections_` and the pollers are those of connections at these stages. -/
structure Staged (stage : Nat → Stage) (s : TcpServer) : Prop where
  made : ∀ n, s.conns n ≠ none ↔ 1 ≤ n ∧ n < s.nextConnId
  absent : ∀ n, stage n = .absent ↔ s.conns n = none
  shows : ∀ n c, s.conns n = some c → c.At (stage n)
  loop : ∀ n c, s.conns n = some c → c.loop = s.ioLoop n
  name : ∀ n c, s.conns n = some c → c.name = s.connName n
  fd : ∀ n c, s.conns n = some c → 0 ≤ c.fd ∧ c.fd < s.descriptors
  distinct : ∀ m n b c, s.conns m = some b → s.conns n = some c → b.fd = c.fd → m = n
  next : 1 ≤ s.nextConnId ∧ (s.numThreads ≠ 0 → s.next = (s.nextConnId - 1) % s.numThreads)
  listed : ∀ name n, s.connections name = some n ↔ (stage n).listed = true ∧ name = s.connName n
  tracks : ∀ i, (s.loops i).poller.Tracks (s.watchedBy i)

theorem watchedBy_put {poller : Poller} (here : s.conns n = some c) {c' : Connection}
    (same : c'.loop = c.loop) (i : Nat) :
    (s.put n c' poller).watchedBy i =
      if i = c.loop then Function.update (s.watchedBy i) n (some c'.watched)
      else s.watchedBy i := by
  funext m
  by_cases mine : m = n
  · subst mine
    by_cases own : i = c.loop
    · simp [watchedBy, put, setConn, setLoop, own, same]
    · simp [watchedBy, put, setConn, setLoop, own, same, here, Ne.symm own]
  · by_cases own : i = c.loop <;> simp [watchedBy, put, setConn, setLoop, own, mine]

/-- One object moves to another stage, with its poller, and stays in `connections_` or out
of it. -/
theorem Staged.put (staged : Staged stage s) (here : s.conns n = some c) {c' : Connection}
    {st : Stage} {poller : Poller} (loop : c'.loop = c.loop) (fd : c'.fd = c.fd)
    (name : c'.name = c.name) (shows : c'.At st) (present : st ≠ .absent)
    (listed : st.listed = (stage n).listed)
    (tracks : poller.Tracks (Function.update (s.watchedBy c.loop) n (some c'.watched))) :
    Staged (Function.update stage n st) (s.put n c' poller) := by
  have conns : (s.put n c' poller).conns = Function.update s.conns n (some c') := rfl
  have before : ∀ m b, (s.put n c' poller).conns m = some b → ∃ a, s.conns m = some a ∧
      b.loop = a.loop ∧ b.fd = a.fd ∧ b.name = a.name := by
    intro m b there
    rw [conns] at there
    by_cases mine : m = n
    · subst mine
      rw [Function.update_self] at there
      cases there
      exact ⟨c, here, loop, fd, name⟩
    · rw [Function.update_of_ne mine] at there
      exact ⟨b, there, rfl, rfl, rfl⟩
  constructor
  case made =>
    intro m
    rw [conns]
    by_cases mine : m = n
    · subst mine
      rw [Function.update_self]
      exact iff_of_true (Option.some_ne_none _) ((staged.made m).mp (by simp [here]))
    · rw [Function.update_of_ne mine]
      exact staged.made m
  case absent =>
    intro m
    rw [conns]
    by_cases mine : m = n
    · subst mine
      simp [present]
    · rw [Function.update_of_ne mine, Function.update_of_ne mine]
      exact staged.absent m
  case shows =>
    intro m b there
    rw [conns] at there
    by_cases mine : m = n
    · subst mine
      rw [Function.update_self] at there ⊢
      cases there
      exact shows
    · rw [Function.update_of_ne mine] at there ⊢
      exact staged.shows m b there
  case loop =>
    intro m b there
    obtain ⟨a, was, same, _, _⟩ := before m b there
    exact same.trans (staged.loop m a was)
  case name =>
    intro m b there
    obtain ⟨a, was, _, _, same⟩ := before m b there
    exact same.trans (staged.name m a was)
  case fd =>
    intro m b there
    obtain ⟨a, was, _, same, _⟩ := before m b there
    rw [same]
    exact staged.fd m a was
  case distinct =>
    intro m k b d there there' same
    obtain ⟨a, was, _, fda, _⟩ := before m b there
    obtain ⟨a', was', _, fda', _⟩ := before k d there'
    exact staged.distinct m k a a' was was' (by rw [← fda, ← fda', same])
  case next => exact staged.next
  case listed =>
    intro label m
    by_cases mine : m = n
    · subst mine
      rw [Function.update_self, listed]
      exact staged.listed label m
    · rw [Function.update_of_ne mine]
      exact staged.listed label m
  case tracks =>
    intro i
    rw [watchedBy_put here loop]
    by_cases own : i = c.loop
    · subst own
      simpa [TcpServer.put, setConn, setLoop, loop] using tracks
    · simpa [TcpServer.put, setConn, setLoop, loop, own] using staged.tracks i

theorem watchedBy_own (here : s.conns n = some c) : s.watchedBy c.loop n = some c.watched := by
  simp [watchedBy, here]

/-- The poller takes the new events of a channel, and tells the channel its index. -/
theorem Staged.updateChannel (staged : Staged stage s) (here : s.conns n = some c)
    (tcp : TcpConnection) (index : Index)
    (found : (if c.index = .kAdded ∧ tcp.channel.isNoneEvent then .kDeleted else .kAdded) = index) :
    ∃ poller, s.updateChannel n { c with tcp := tcp } =
        some (s.put n { c with tcp := tcp, index := index } poller) ∧
      poller.Tracks (Function.update (s.watchedBy c.loop) n
        (some ⟨c.fd, index, tcp.channel⟩)) := by
  have free : c.watched.index = .kNew → ∀ m v, s.watchedBy c.loop m = some v →
      v.index ≠ .kNew → v.fd ≠ c.watched.fd := by
    intro fresh m v there known same
    obtain ⟨b, was, rest⟩ := Option.bind_eq_some_iff.mp there
    split at rest
    · cases rest
      obtain rfl := staged.distinct m n b c was here same
      cases was.symm.trans here
      exact known fresh
    · cases rest
  obtain ⟨poller, updated, tracks⟩ :=
    (staged.tracks c.loop).updateChannel (watchedBy_own here) tcp.channel free
  subst found
  refine ⟨poller, ?_, tracks⟩
  have updated' : (s.loops c.loop).poller.updateChannel n
      (Connection.watched { c with tcp := tcp }) = _ := updated
  simp only [TcpServer.updateChannel, updated', Option.bind_eq_bind, Option.bind_some]
  rfl

theorem onConnection_put (s : TcpServer) (n : Nat) (c : Connection) (poller : Poller) :
    (s.put n c poller).onConnection n = some (s.put n { c with
      callbacks := c.callbacks ++ [c.tcp.state == .kConnected]
      context := c.context || c.tcp.state == .kConnected } poller) := by
  simp [onConnection, put, setConn, setLoop]

theorem Staged.connectEstablished (staged : Staged stage s) (here : s.conns n = some c)
    (accepted : stage n = .accepted) :
    ∃ tcp poller c', c.tcp.connectEstablished = some tcp ∧
      c' = { c with tcp := tcp, index := .kAdded, callbacks := [true], context := true } ∧
      s.connectEstablished n = some (s.put n c' poller) ∧
      Staged (Function.update stage n .opened) (s.put n c' poller) := by
  obtain ⟨state, index, callbacks, _, watches⟩ := staged.shows n c here
  rw [accepted] at state index callbacks watches
  obtain ⟨tcp, established, connected, reading⟩ : ∃ tcp, c.tcp.connectEstablished = some tcp ∧
      tcp.state = .kConnected ∧ tcp.channel = c.tcp.channel.enableReading :=
    ⟨_, if_pos state, rfl, rfl⟩
  obtain ⟨poller, updated, tracks⟩ :=
    staged.updateChannel here tcp .kAdded (by simp [index, Stage.index])
  refine ⟨tcp, poller, _, established, rfl, ?_, ?_⟩
  · simp only [TcpServer.connectEstablished, here, established, updated, onConnection_put,
      Option.bind_eq_bind, Option.bind_some]
    simp [callbacks, Stage.callbacks, connected]
  · apply staged.put here (by rfl) (by rfl) (by rfl) ?_ (by simp) (by simp [accepted, Stage.listed])
      tracks
    constructor
    case state => exact connected
    case index => rfl
    case callbacks => rfl
    case context => rfl
    case watches =>
      have none : c.tcp.channel.events = Channel.noneEvent := watches
      left
      rw [reading]
      simp [Channel.enableReading, none, Channel.noneEvent]

/-- The part of `handleClose` before the close callback. -/
theorem Staged.handleClose (staged : Staged stage s) (here : s.conns n = some c)
    (opened : stage n = .opened) (i : Nat) :
    ∃ tcp poller c', c.tcp.handleClose = some tcp ∧
      c' = { c with tcp := tcp, index := .kDeleted, callbacks := [true, false] } ∧
      s.handleClose i n = (s.put n c' poller).removeConnection i n ∧
      Staged (Function.update stage n .closed) (s.put n c' poller) := by
  obtain ⟨state, index, callbacks, context, _⟩ := staged.shows n c here
  rw [opened] at state index callbacks context
  obtain ⟨tcp, closed, disconnected, channel⟩ : ∃ tcp, c.tcp.handleClose = some tcp ∧
      tcp.state = .kDisconnected ∧ tcp.channel = c.tcp.channel.disableAll :=
    ⟨_, if_pos (.inl state), rfl, rfl⟩
  obtain ⟨poller, updated, tracks⟩ := staged.updateChannel here tcp .kDeleted
    (by simp [index, Stage.index, Channel.isNoneEvent, channel, Channel.disableAll])
  refine ⟨tcp, poller, _, closed, rfl, ?_, ?_⟩
  · have down : (StateE.kDisconnected == StateE.kConnected) = false := rfl
    simp only [TcpServer.handleClose, here, closed, updated, onConnection_put,
      Option.bind_eq_bind, Option.bind_some]
    simp [callbacks, Stage.callbacks, disconnected, down]
  · apply staged.put here (by rfl) (by rfl) (by rfl) ?_ (by simp) (by simp [opened, Stage.listed])
      tracks
    constructor
    case state => exact disconnected
    case index => rfl
    case callbacks => rfl
    case context => exact context
    case watches =>
      rw [channel]
      rfl

theorem Staged.connectDestroyed (staged : Staged stage s) (here : s.conns n = some c)
    (removed : stage n = .removed) :
    ∃ poller, s.connectDestroyed n = some (s.put n { c with index := .kNew } poller) ∧
      Staged (Function.update stage n .destroyed) (s.put n { c with index := .kNew } poller) := by
  obtain ⟨state, index, callbacks, context, watches⟩ := staged.shows n c here
  rw [removed] at state index callbacks context watches
  have silent : c.tcp.channel.isNoneEvent = true := by
    have none : c.tcp.channel.events = Channel.noneEvent := watches
    simp [Channel.isNoneEvent, none]
  have known : c.watched.index ≠ .kNew := by simp [Connection.watched, index, Stage.index]
  obtain ⟨poller, taken, tracks⟩ :=
    (staged.tracks c.loop).removeChannel (watchedBy_own here) known silent
  refine ⟨poller, ?_, ?_⟩
  · simp [TcpServer.connectDestroyed, here, state, Stage.state, TcpServer.removeChannel, silent,
      taken]
  · apply staged.put here (by rfl) (by rfl) (by rfl) ?_ (by simp) (by simp [removed, Stage.listed])
      tracks
    constructor
    case state => exact state
    case index => rfl
    case callbacks => exact callbacks
    case context => exact context
    case watches => exact watches

theorem put_setConn (s : TcpServer) (n : Nat) (c : Connection) :
    s.setConn n c = s.put n c (s.loops c.loop).poller := by
  simp [put, setConn, setLoop]

/-- Neither sending nor a writable socket changes anything but the output side. -/
theorem Staged.written (staged : Staged stage s) (here : s.conns n = some c)
    (opened : stage n = .opened) {tcp : TcpConnection} (same : tcp.state = c.tcp.state)
    (channel : tcp.channel = c.tcp.channel ∨ tcp.channel = c.tcp.channel.enableWriting ∨
      tcp.channel = c.tcp.channel.disableWriting) :
    ∃ poller, s.written n c tcp = some (s.put n { c with tcp := tcp } poller) ∧
      Staged stage (s.put n { c with tcp := tcp } poller) := by
  obtain ⟨state, index, callbacks, context, watches⟩ := staged.shows n c here
  rw [opened] at state index callbacks context watches
  have watches' : Stage.Watches tcp.channel .opened := by
    have events : c.tcp.channel.events = Channel.readEvent ∨
      c.tcp.channel.events = Channel.readEvent ||| Channel.writeEvent := watches
    rcases channel with channel | channel | channel <;> rcases events with events | events <;>
      simp [Stage.Watches, channel, events, Channel.enableWriting, Channel.disableWriting,
        Channel.readEvent, Channel.writeEvent]
  have shows : Connection.At .opened { c with tcp := tcp } :=
    ⟨same.trans state, index, callbacks, context, watches'⟩
  have kept {poller : Poller} (tracks : poller.Tracks (Function.update (s.watchedBy c.loop) n
      (some (Connection.watched { c with tcp := tcp })))) :
      Staged stage (s.put n { c with tcp := tcp } poller) := by
    have staged' := staged.put here (by rfl) (by rfl) (by rfl) shows (by simp) (by simp [opened])
      tracks
    rwa [← opened, Function.update_eq_self] at staged'
  have added : c.index = .kAdded := index
  rw [TcpServer.written]
  split
  next events =>
    have unchanged : tcp.channel = c.tcp.channel := by
      rw [Channel.mk.injEq]
      exact events
    refine ⟨(s.loops c.loop).poller, by rw [put_setConn], kept ?_⟩
    have watched : Connection.watched { c with tcp := tcp } = c.watched := by
      simp [Connection.watched, unchanged]
    rw [watched, ← watchedBy_own here, Function.update_eq_self]
    exact staged.tracks c.loop
  next =>
    have heard : tcp.channel.isNoneEvent = false := by
      rcases watches' with events | events <;> simp [Channel.isNoneEvent, events,
        Channel.readEvent, Channel.writeEvent, Channel.noneEvent]
    obtain ⟨poller, updated, tracks⟩ := staged.updateChannel here tcp .kAdded (by simp [heard])
    rw [← added] at updated tracks
    exact ⟨poller, updated, kept tracks⟩

/-- The queues, turns and unfinished sends are not among what the stages are about. -/
theorem Staged.requeue (staged : Staged stage s) {loops : Nat → Loop} (sending : List (Nat × Bytes))
    (same : ∀ i, (loops i).poller = (s.loops i).poller) :
    Staged stage { s with loops := loops, sending := sending } := by
  constructor
  case made => exact staged.made
  case absent => exact staged.absent
  case shows => exact staged.shows
  case loop => exact staged.loop
  case name => exact staged.name
  case fd => exact staged.fd
  case distinct => exact staged.distinct
  case next => exact staged.next
  case listed => exact staged.listed
  case tracks =>
    intro i
    have tracks := staged.tracks i
    rw [← same i] at tracks
    exact tracks

theorem Staged.setLoop (staged : Staged stage s) {i : Nat} {l : Loop}
    (same : l.poller = (s.loops i).poller) : Staged stage (s.setLoop i l) := by
  apply staged.requeue s.sending
  intro j
  by_cases own : j = i
  · subst own
    simp [same]
  · simp [own]

/-- Erasing a name that is in `connections_` takes out the connection that has it. -/
theorem Staged.erase (staged : Staged stage s) (here : s.conns n = some c)
    (closed : stage n = .closed) :
    Staged (Function.update stage n .removed)
      { s with connections := Function.update s.connections c.name none } := by
  have mine : s.connections c.name = some n :=
    (staged.listed c.name n).mpr ⟨by rw [closed]; rfl, staged.name n c here⟩
  constructor
  case made => exact staged.made
  case absent =>
    intro m
    by_cases own : m = n
    · subst own
      simp [here]
    · rw [Function.update_of_ne own]
      exact staged.absent m
  case shows =>
    intro m b there
    by_cases own : m = n
    · subst own
      cases here.symm.trans there
      rw [Function.update_self]
      obtain ⟨state, index, callbacks, context, watches⟩ := staged.shows m c here
      rw [closed] at state index callbacks context watches
      exact ⟨state, index, callbacks, context, watches⟩
    · rw [Function.update_of_ne own]
      exact staged.shows m b there
  case loop => exact staged.loop
  case name => exact staged.name
  case fd => exact staged.fd
  case distinct => exact staged.distinct
  case next => exact staged.next
  case listed =>
    intro label m
    change Function.update s.connections c.name none label = some m ↔ _ ∧ label = s.connName m
    have known := staged.listed label m
    by_cases erased : label = c.name
    · subst erased
      by_cases own : m = n
      · subst own
        simp [Stage.listed]
      · rw [Function.update_self, Function.update_of_ne own, ← known, mine]
        simp [Ne.symm own]
    · rw [Function.update_of_ne erased]
      by_cases own : m = n
      · subst own
        rw [Function.update_self]
        refine known.trans (iff_of_false ?_ (by simp [Stage.listed]))
        rintro ⟨_, named⟩
        exact erased (named.trans (staged.name m c here).symm)
      · rw [Function.update_of_ne own]
        exact known
  case tracks => exact staged.tracks

/-! ### Who holds a connection -/

/-- Before it is opened a connection is in `connections_`, and from then on its session has a
pointer to it. -/
theorem Staged.alive (staged : Staged stage s) (here : s.conns n = some c) : s.alive n = true := by
  have shows := staged.shows n c here
  have listed := staged.listed c.name n
  have named := staged.name n c here
  have context := shows.context
  unfold TcpServer.alive
  rw [here]
  dsimp only
  cases at_ : stage n with
  | absent => simp [(staged.absent n).mp at_] at here
  | accepted | opened | closed =>
    have mine := listed.mpr ⟨by rw [at_]; rfl, named⟩
    simp [mine]
  | removed | destroyed =>
    rw [at_] at context
    simp [context, Stage.callbacks]

theorem Staged.fd_ne_of_available (staged : Staged stage s) {fd : Int}
    (available : s.available fd = true) (here : s.conns n = some c) : c.fd ≠ fd := by
  have made := (staged.made n).mp (by simp [here])
  simp only [TcpServer.available, Bool.and_eq_true, List.all_eq_true, List.mem_range] at available
  have apart := available.2 n made.2
  simpa [staged.alive here, here] using apart

/-- No more connections are made in all than there are descriptors. -/
theorem Staged.bounded (staged : Staged stage s) : s.nextConnId ≤ s.descriptors + 1 := by
  have made : ∀ n ∈ Finset.Ico 1 s.nextConnId, ∃ c, s.conns n = some c := by
    intro n member
    rw [Finset.mem_Ico] at member
    exact Option.ne_none_iff_exists'.mp ((staged.made n).mpr member)
  have fits := Finset.card_le_card_of_injOn
    (s := Finset.Ico 1 s.nextConnId) (t := Finset.range s.descriptors)
    (fun n => ((s.conns n).map fun c => c.fd.toNat).getD 0) ?_ ?_
  · simp at fits
    omega
  · intro n member
    obtain ⟨c, here⟩ := made n member
    have fd := staged.fd n c here
    simp [here]
    omega
  · intro m member n member' same
    obtain ⟨b, there⟩ := made m member
    obtain ⟨c, here⟩ := made n member'
    have fd := staged.fd n c here
    have fd' := staged.fd m b there
    simp [here, there] at same
    exact staged.distinct m n b c there here (by omega)

/-! ### A new connection -/

/-- As long as the number of a connection is an `int`, the array has room for its name. -/
theorem connName_injective (short : s.ipPort.length ≤ 51) {m n : Nat} (small : m ≤ 2147483647)
    (small' : n ≤ 2147483647) (same : s.connName m = s.connName n) : m = n := by
  have whole {k : Nat} (bound : k ≤ 2147483647) : s.connName k =
      s.name ++ (lit "-" ++ s.ipPort ++ lit "#" ++ decimal k) := by
    have digits := Nat.toDigits_length 10 k 10 (by decide) (by omega)
    have dash : (lit "-").length = 1 := by decide
    have hash : (lit "#").length = 1 := by decide
    rw [connName, List.take_of_length_le]
    rw [List.length_append, List.length_append, List.length_append, dash, hash, decimal_natCast,
      List.length_map]
    omega
  rw [whole small, whole small'] at same
  have numbers := decimal_injective (List.append_cancel_left (List.append_cancel_left same))
  exact_mod_cast numbers

/-- The pool goes round its loops in the order of the connections. -/
theorem Staged.getNextLoop (staged : Staged stage s) :
    ∃ next, s.getNextLoop = (s.ioLoop s.nextConnId, { s with next := next }) ∧
      (s.numThreads ≠ 0 → next = s.nextConnId % s.numThreads) := by
  obtain ⟨positive, turn⟩ := staged.next
  by_cases none : s.numThreads = 0
  · exact ⟨s.next, by rw [TcpServer.getNextLoop, ioLoop, if_pos none, if_pos none], absurd none⟩
  · refine ⟨if s.next + 1 ≥ s.numThreads then 0 else s.next + 1, ?_, fun _ => ?_⟩
    · simp [TcpServer.getNextLoop, ioLoop, none, turn none]
    · have below := Nat.mod_lt (s.nextConnId - 1) (Nat.pos_of_ne_zero none)
      have succ : s.nextConnId % s.numThreads = (s.next + 1) % s.numThreads := by
        rw [turn none, Nat.mod_add_mod, Nat.sub_add_cancel positive]
      rw [← turn none] at below
      rw [succ]
      split
      next last =>
        obtain last : s.next + 1 = s.numThreads := by omega
        rw [last, Nat.mod_self]
      next inside => exact (Nat.mod_eq_of_lt (by omega)).symm

theorem Staged.addConnection (staged : Staged stage s) (short : s.ipPort.length ≤ 51)
    (small : s.descriptors < 2147483647) {sockfd : Int} (available : s.available sockfd = true)
    {next : Nat} (turn : s.numThreads ≠ 0 → next = s.nextConnId % s.numThreads) :
    Staged (Function.update stage s.nextConnId .accepted)
      ({ s with next := next }.addConnection (s.ioLoop s.nextConnId) sockfd) := by
  have bounded := staged.bounded
  have new : s.conns s.nextConnId = none := by
    by_contra present
    exact absurd ((staged.made s.nextConnId).mp present).2 (Nat.lt_irrefl _)
  have added : ∀ m b,
      ({ s with next := next }.addConnection (s.ioLoop s.nextConnId) sockfd).conns m = some b →
      (m = s.nextConnId ∧ b = { loop := s.ioLoop m, fd := sockfd, name := s.connName m }) ∨
        (m ≠ s.nextConnId ∧ s.conns m = some b) := by
    intro m b there
    by_cases own : m = s.nextConnId
    · subst own
      simp only [TcpServer.addConnection, setConn, Function.update_self] at there
      exact .inl ⟨rfl, (Option.some.inj there).symm⟩
    · simp only [TcpServer.addConnection, setConn, Function.update_of_ne own] at there
      exact .inr ⟨own, there⟩
  constructor
  case made =>
    intro m
    change Function.update s.conns s.nextConnId _ m ≠ none ↔ 1 ≤ m ∧ m < s.nextConnId + 1
    by_cases own : m = s.nextConnId
    · subst own
      simp [staged.next.1]
    · rw [Function.update_of_ne own, staged.made m]
      omega
  case absent =>
    intro m
    change _ ↔ Function.update s.conns s.nextConnId _ m = none
    by_cases own : m = s.nextConnId
    · subst own
      simp
    · rw [Function.update_of_ne own, Function.update_of_ne own]
      exact staged.absent m
  case shows =>
    intro m b there
    rcases added m b there with ⟨rfl, rfl⟩ | ⟨other, was⟩
    · rw [Function.update_self]
      exact ⟨rfl, rfl, rfl, rfl, rfl⟩
    · rw [Function.update_of_ne other]
      exact staged.shows m b was
  case loop =>
    intro m b there
    rcases added m b there with ⟨_, rfl⟩ | ⟨_, was⟩
    · rfl
    · exact staged.loop m b was
  case name =>
    intro m b there
    rcases added m b there with ⟨_, rfl⟩ | ⟨_, was⟩
    · rfl
    · exact staged.name m b was
  case fd =>
    intro m b there
    rcases added m b there with ⟨_, rfl⟩ | ⟨_, was⟩
    · simp only [TcpServer.available, Bool.and_eq_true, decide_eq_true_eq] at available
      exact available.1
    · exact staged.fd m b was
  case distinct =>
    intro m k b d there there' same
    rcases added m b there with ⟨rfl, rfl⟩ | ⟨_, was⟩ <;>
      rcases added k d there' with ⟨rfl, rfl⟩ | ⟨_, was'⟩
    · rfl
    · exact absurd same.symm (staged.fd_ne_of_available available was')
    · exact absurd same (staged.fd_ne_of_available available was)
    · exact staged.distinct m k b d was was' same
  case next => exact ⟨Nat.le_add_left 1 _, turn⟩
  case listed =>
    intro label m
    change Function.update s.connections (s.connName s.nextConnId) (some s.nextConnId) label =
      some m ↔ _ ∧ label = s.connName m
    have known := staged.listed label m
    by_cases named : label = s.connName s.nextConnId
    · subst named
      rw [Function.update_self]
      by_cases own : m = s.nextConnId
      · subst own
        simp [Stage.listed]
      · refine iff_of_false (by simpa using Ne.symm own) ?_
        rw [Function.update_of_ne own]
        rintro ⟨listed, same⟩
        have made := (staged.made m).mp fun none => by
          rw [(staged.absent m).mpr none] at listed
          cases listed
        exact own (connName_injective short (by omega) (by omega) same.symm)
    · rw [Function.update_of_ne named]
      by_cases own : m = s.nextConnId
      · subst own
        refine known.trans (iff_of_false ?_ (by simp [named]))
        rintro ⟨_, same⟩
        exact named same
      · rw [Function.update_of_ne own]
        exact known
  case tracks =>
    intro i
    by_cases own : i = s.ioLoop s.nextConnId
    · have fresh :
          ({ s with next := next }.addConnection (s.ioLoop s.nextConnId) sockfd).watchedBy i =
          Function.update (s.watchedBy i) s.nextConnId (some ⟨sockfd, .kNew, {}⟩) := by
        funext m
        by_cases mine : m = s.nextConnId
        · subst mine
          simp [watchedBy, TcpServer.addConnection, setConn, own, Connection.watched]
        · simp [watchedBy, TcpServer.addConnection, setConn, mine]
      rw [fresh]
      exact (staged.tracks i).insert (by simp [watchedBy, new]) rfl
    · have same :
          ({ s with next := next }.addConnection (s.ioLoop s.nextConnId) sockfd).watchedBy i =
          s.watchedBy i := by
        funext m
        by_cases mine : m = s.nextConnId
        · subst mine
          simp [watchedBy, TcpServer.addConnection, setConn, Ne.symm own, new]
        · simp [watchedBy, TcpServer.addConnection, setConn, mine]
      rw [same]
      exact staged.tracks i

end TcpServer

end VllmRoute.Network
