import VllmRoute.Lib.Run
import VllmRoute.Network.TcpConnection

/-!
# The output of a connection is a byte stream

A message takes one of two ways to the socket: directly, or through the output
buffer. As long as the connection is not closed and no error makes it give a
message up, what the socket took and what is buffered together are the messages
in the order of their sending. The socket is watched for writability exactly
while bytes are buffered, which is why `shutdownInLoop` closes the write side
only after the last of them.
-/
namespace VllmRoute.Network

open Lib

namespace TcpConnection

namespace Event

def message : Event → Bytes
  | .sendInLoop data _ => data
  | _ => []

/-- Not one of the errors upon which `sendInLoop` gives its message up. -/
def Harmless : Event → Prop
  | .sendInLoop _ (.failed errno) => errno ≠ .epipe ∧ errno ≠ .econnreset
  | _ => True

instance : (e : Event) → Decidable e.Harmless
  | .sendInLoop _ (.failed errno) =>
    inferInstanceAs (Decidable (errno ≠ .epipe ∧ errno ≠ .econnreset))
  | .sendInLoop _ (.wrote _) | .handleWrite _ | .shutdown | .shutdownInLoop => isTrue trivial
  | .forceClose | .forceCloseInLoop | .handleClose => isTrue trivial
  | .startReadInLoop | .stopReadInLoop => isTrue trivial

end Event

/-- An open connection, after these bytes were sent. -/
structure Faithful (sent : Bytes) (conn : TcpConnection) : Prop where
  connected : conn.state = .kConnected ∨ conn.state = .kDisconnecting
  stream : conn.written ++ conn.outputBuffer.content = sent
  watching : conn.channel.isWriting = true ↔ conn.outputBuffer.content ≠ []
  flushed : ∀ unsent ∈ conn.shutdowns, unsent = []

variable {sent : Bytes} {conn : TcpConnection}

namespace Faithful

theorem queueWriteComplete (faithful : Faithful sent conn) :
    Faithful sent conn.queueWriteComplete := by
  unfold TcpConnection.queueWriteComplete
  split
  · exact ⟨faithful.connected, faithful.stream, faithful.watching, faithful.flushed⟩
  · exact faithful

theorem shutdownInLoop (faithful : Faithful sent conn) : Faithful sent conn.shutdownInLoop := by
  unfold TcpConnection.shutdownInLoop
  split
  · exact faithful
  next idle =>
    have empty : conn.outputBuffer.content = [] := by
      by_contra buffered
      exact idle (faithful.watching.mpr buffered)
    constructor
    case connected => exact faithful.connected
    case stream => exact faithful.stream
    case watching => exact faithful.watching
    case flushed =>
      intro unsent member
      rcases List.mem_append.mp member with earlier | now
      · exact faithful.flushed unsent earlier
      · rw [List.mem_singleton.mp now, empty]

/-- The part that the socket takes at once is sent before anything is buffered. -/
theorem writeDirectly (faithful : Faithful sent conn) (empty : conn.outputBuffer.content = [])
    (data : Bytes) (result : WriteResult) (harmless : (Event.sendInLoop data result).Harmless) :
    ∃ conn' nwrote, conn.writeDirectly data result = (conn', nwrote, false) ∧
      Faithful (sent ++ data.take nwrote) conn' := by
  cases result with
  | failed errno =>
    obtain ⟨pipe, reset⟩ := harmless
    refine ⟨conn, 0, ?_, ?_⟩
    · simp [TcpConnection.writeDirectly, pipe, reset]
    · simpa using faithful
  | wrote n =>
    have wrote : Faithful (sent ++ data.take (min n data.length))
        { conn with written := conn.written ++ data.take (min n data.length) } := by
      constructor
      case connected => exact faithful.connected
      case stream =>
        rw [← faithful.stream]
        simp [empty]
      case watching => exact faithful.watching
      case flushed => exact faithful.flushed
    refine ⟨_, _, rfl, ?_⟩
    split
    · exact wrote.queueWriteComplete
    · exact wrote

theorem bufferRest (faithful : Faithful sent conn) {rest : Bytes} (left : rest ≠ []) :
    ∃ conn', conn.bufferRest rest = some conn' ∧ Faithful (sent ++ rest) conn' := by
  obtain ⟨outputBuffer, appended, content⟩ := conn.outputBuffer.append_spec rest
  have stream : conn.written ++ outputBuffer.content = sent ++ rest := by
    rw [content, ← List.append_assoc, faithful.stream]
  have buffered : outputBuffer.content ≠ [] := by
    rw [content]
    exact List.append_ne_nil_of_right_ne_nil _ left
  rw [TcpConnection.bufferRest, appended]
  refine ⟨_, rfl, ?_⟩
  split
  next writing =>
    exact ⟨faithful.connected, stream, iff_of_true writing buffered, faithful.flushed⟩
  next =>
    exact ⟨faithful.connected, stream, iff_of_true conn.channel.isWriting_enableWriting buffered,
      faithful.flushed⟩

/-- A message that could not go to the socket at once is buffered as a whole, and behind what
the socket took of it otherwise. -/
theorem sendInLoop (faithful : Faithful sent conn) (data : Bytes) (result : WriteResult)
    (harmless : (Event.sendInLoop data result).Harmless) :
    ∃ conn', conn.sendInLoop data result = some conn' ∧ Faithful (sent ++ data) conn' := by
  have alive : conn.state ≠ .kDisconnected := by
    rcases faithful.connected with state | state <;> simp [state]
  obtain ⟨conn', nwrote, attempted, faithful'⟩ : ∃ conn' nwrote,
      (if !conn.channel.isWriting && conn.outputBuffer.readableBytes == 0 then
        conn.writeDirectly data result else (conn, 0, false)) = (conn', nwrote, false) ∧
      Faithful (sent ++ data.take nwrote) conn' := by
    split
    next direct =>
      have empty : conn.outputBuffer.content = [] := by
        apply List.eq_nil_of_length_eq_zero
        simpa using (Bool.and_eq_true_iff.mp direct).2
      exact faithful.writeDirectly empty data result harmless
    next => exact ⟨conn, 0, rfl, by simpa using faithful⟩
  rw [TcpConnection.sendInLoop, if_neg alive, attempted]
  by_cases left : data.drop nwrote = []
  · -- all of it was written
    have whole : data.take nwrote = data := by simpa [left] using data.take_append_drop nwrote
    have none : data.length - nwrote = 0 := by rw [← List.length_drop, left, List.length_nil]
    rw [whole] at faithful'
    exact ⟨conn', by simp [none], faithful'⟩
  · have positive : 0 < data.length - nwrote := by
      rw [← List.length_drop]
      exact List.length_pos_of_ne_nil left
    obtain ⟨conn'', buffered, faithful''⟩ := faithful'.bufferRest left
    rw [List.append_assoc, List.take_append_drop] at faithful''
    exact ⟨conn'', by simpa [positive] using buffered, faithful''⟩

/-- The buffer ran empty, and the socket is no longer watched. -/
theorem finishWriting (connected : conn.state = .kConnected ∨ conn.state = .kDisconnecting)
    (stream : conn.written ++ conn.outputBuffer.content = sent)
    (empty : conn.outputBuffer.content = []) (flushed : ∀ unsent ∈ conn.shutdowns, unsent = []) :
    Faithful sent conn.finishWriting := by
  have idle : Faithful sent { conn with channel := conn.channel.disableWriting } := by
    constructor
    case connected => exact connected
    case stream => exact stream
    case watching => simp [empty]
    case flushed => exact flushed
  unfold TcpConnection.finishWriting
  dsimp only
  split
  · exact idle.queueWriteComplete.shutdownInLoop
  · exact idle.queueWriteComplete

theorem handleWrite (faithful : Faithful sent conn) (result : WriteResult) :
    ∃ conn', conn.handleWrite result = some conn' ∧ Faithful sent conn' := by
  unfold TcpConnection.handleWrite
  split
  case isFalse => exact ⟨conn, rfl, faithful⟩
  case isTrue writing =>
    cases result with
    | failed errno => exact ⟨conn, rfl, faithful⟩
    | wrote n =>
      dsimp only
      split
      case isFalse => exact ⟨conn, rfl, faithful⟩
      case isTrue =>
        obtain ⟨outputBuffer, retrieved, rest⟩ := conn.outputBuffer.retrieve_spec
          (Nat.min_le_right n conn.outputBuffer.readableBytes)
        have stream : (conn.written ++ conn.outputBuffer.content.take
            (min n conn.outputBuffer.readableBytes)) ++ outputBuffer.content = sent := by
          rw [rest, List.append_assoc, List.take_append_drop, faithful.stream]
        rw [retrieved]
        refine ⟨_, rfl, ?_⟩
        split
        next empty =>
          have nothing : outputBuffer.content = [] :=
            List.eq_nil_of_length_eq_zero (outputBuffer.length_content.trans empty)
          exact finishWriting faithful.connected stream nothing faithful.flushed
        next left =>
          have buffered : outputBuffer.content ≠ [] := by
            rw [← outputBuffer.length_content] at left
            exact List.ne_nil_of_length_pos (Nat.pos_of_ne_zero left)
          exact ⟨faithful.connected, stream, iff_of_true writing buffered, faithful.flushed⟩

theorem disconnecting (faithful : Faithful sent conn) :
    Faithful sent { conn with state := .kDisconnecting } :=
  ⟨.inr rfl, faithful.stream, faithful.watching, faithful.flushed⟩

theorem shutdown (faithful : Faithful sent conn) : Faithful sent conn.shutdown := by
  unfold TcpConnection.shutdown
  split
  · exact faithful.disconnecting
  · exact faithful

theorem forceClose (faithful : Faithful sent conn) : Faithful sent conn.forceClose := by
  unfold TcpConnection.forceClose
  split
  · exact faithful.disconnecting
  · exact faithful

/-- The read event is another bit of the channel's events. -/
theorem setReading (faithful : Faithful sent conn) {channel : Channel} (reading : Bool)
    (same : channel.isWriting = conn.channel.isWriting) :
    Faithful sent { conn with channel := channel, reading := reading } := by
  constructor
  case connected => exact faithful.connected
  case stream => exact faithful.stream
  case watching =>
    rw [same]
    exact faithful.watching
  case flushed => exact faithful.flushed

theorem startReadInLoop (faithful : Faithful sent conn) : Faithful sent conn.startReadInLoop := by
  unfold TcpConnection.startReadInLoop
  split
  · exact faithful.setReading true conn.channel.isWriting_enableReading
  · exact faithful

theorem stopReadInLoop (faithful : Faithful sent conn) : Faithful sent conn.stopReadInLoop := by
  unfold TcpConnection.stopReadInLoop
  split
  · exact faithful.setReading false conn.channel.isWriting_disableReading
  · exact faithful

/-- What the loop thread does on an open connection never fails, and unless it closes the
connection the stream goes on. -/
theorem step (faithful : Faithful sent conn) (e : Event) (harmless : e.Harmless) :
    ∃ conn', conn.step e = some conn' ∧
      (conn'.state = .kDisconnected ∨ Faithful (sent ++ e.message) conn') := by
  have closed : ∃ conn', conn.handleClose = some conn' ∧ conn'.state = .kDisconnected :=
    ⟨_, if_pos faithful.connected, rfl⟩
  have silent {conn' : TcpConnection} (nothing : e.message = []) (faithful' : Faithful sent conn') :
      Faithful (sent ++ e.message) conn' := by
    rwa [nothing, List.append_nil]
  cases e with
  | sendInLoop data result =>
    obtain ⟨conn', taken, faithful'⟩ := faithful.sendInLoop data result harmless
    exact ⟨conn', taken, .inr faithful'⟩
  | handleWrite result =>
    obtain ⟨conn', taken, faithful'⟩ := faithful.handleWrite result
    exact ⟨conn', taken, .inr (silent rfl faithful')⟩
  | shutdown => exact ⟨_, rfl, .inr (silent rfl faithful.shutdown)⟩
  | shutdownInLoop => exact ⟨_, rfl, .inr (silent rfl faithful.shutdownInLoop)⟩
  | forceClose => exact ⟨_, rfl, .inr (silent rfl faithful.forceClose)⟩
  | forceCloseInLoop =>
    obtain ⟨conn', taken, state⟩ := closed
    exact ⟨conn', (if_pos faithful.connected).trans taken, .inl state⟩
  | handleClose =>
    obtain ⟨conn', taken, state⟩ := closed
    exact ⟨conn', taken, .inl state⟩
  | startReadInLoop => exact ⟨_, rfl, .inr (silent rfl faithful.startReadInLoop)⟩
  | stopReadInLoop => exact ⟨_, rfl, .inr (silent rfl faithful.stopReadInLoop)⟩

end Faithful

/-- A closed connection stays closed. -/
theorem step_disconnected {conn' : TcpConnection} {e : Event} (closed : conn.state = .kDisconnected)
    (taken : conn.step e = some conn') : conn'.state = .kDisconnected := by
  cases e with
  | sendInLoop data result =>
    rw [step, sendInLoop, if_pos closed] at taken
    cases taken
    exact closed
  | handleWrite result => rw [state_handleWrite taken, closed]
  | shutdown | forceClose =>
    cases taken
    simp [shutdown, forceClose, closed]
  | shutdownInLoop =>
    cases taken
    rw [state_shutdownInLoop, closed]
  | forceCloseInLoop =>
    simp only [step, forceCloseInLoop, closed, reduceCtorEq, or_self, if_false] at taken
    cases taken
    exact closed
  | handleClose => simp [step, handleClose, closed] at taken
  | startReadInLoop | stopReadInLoop =>
    cases taken
    simp only [startReadInLoop, stopReadInLoop]
    split <;> exact closed

/-- From an established connection, the calls of the loop thread either close it or are
faithful to what they send. -/
theorem run_faithful {conn t : TcpConnection} {es : List Event} (faithful : Faithful [] conn)
    (harmless : ∀ e ∈ es, e.Harmless) (reached : run step conn es = some t) :
    t.state = .kDisconnected ∨ Faithful (es.map Event.message).flatten t := by
  have kept := run_history_invariant step (fun _ e _ => e.Harmless)
    (fun past s => s.state = .kDisconnected ∨
      Faithful ((past.map Prod.snd).map Event.message).flatten s)
    (by
      intro past s e s' taken harmless inv
      rcases inv with closed | faithful
      · exact .inl (step_disconnected closed taken)
      · obtain ⟨_, taken', faithful'⟩ := faithful.step e harmless
        cases taken.symm.trans taken'
        simpa using faithful')
    [] conn t es reached (along_of_forall step Event.Harmless conn es harmless) (.inr faithful)
  rwa [List.nil_append, map_snd_history step conn t es reached] at kept

end TcpConnection

/-- Whatever `write` does, short of the two errors that make a message be given up, and
whatever the loop thread calls on the connection before it is closed: what the socket took,
followed by the output buffer, is all messages in order, the socket is watched for
writability exactly while the buffer holds something, the write side was never shut down
while it did, and no `assert` can fail next. -/
theorem output_is_message_stream (writeCompleteCallback : Bool) (conn₀ conn : TcpConnection)
    (es : List TcpConnection.Event)
    (established : TcpConnection.connectEstablished
      { writeCompleteCallback := writeCompleteCallback } = some conn₀)
    (harmless : ∀ e ∈ es, e.Harmless) (reached : run TcpConnection.step conn₀ es = some conn)
    (connected : conn.state ≠ .kDisconnected) :
    conn.written ++ conn.outputBuffer.content = (es.map TcpConnection.Event.message).flatten ∧
      (conn.channel.isWriting = true ↔ conn.outputBuffer.content ≠ []) ∧
      (∀ unsent ∈ conn.shutdowns, unsent = []) ∧
      ∀ e : TcpConnection.Event, e.Harmless → ∃ conn', conn.step e = some conn' := by
  have start : TcpConnection.Faithful [] conn₀ := by
    cases established
    constructor
    case connected => exact .inl rfl
    case stream => simp
    case watching =>
      have idle : ({} : Channel).isWriting = false := rfl
      simp [idle]
    case flushed => simp
  rcases TcpConnection.run_faithful start harmless reached with closed | faithful
  · exact absurd closed connected
  · refine ⟨faithful.stream, faithful.watching, faithful.flushed, ?_⟩
    intro e harmless
    obtain ⟨conn', taken, _⟩ := faithful.step e harmless
    exact ⟨conn', taken⟩

/-- One byte of the first message goes directly and the rest waits for two writable events,
with a second message behind it. The shutdown in between takes effect after the last
byte, and another message goes directly again. -/
def interleaved : List TcpConnection.Event :=
  [.sendInLoop [1, 2, 3] (.wrote 1), .sendInLoop [4, 5] (.wrote 2), .handleWrite (.failed .epipe),
    .shutdown, .shutdownInLoop, .handleWrite (.wrote 3), .handleWrite (.wrote 7),
    .sendInLoop [6] (.wrote 1), .sendInLoop [7, 8] (.failed (.other 105))]

theorem output_is_message_stream_interleaved : ∃ conn₀ conn,
    TcpConnection.connectEstablished { writeCompleteCallback := true } = some conn₀ ∧
      run TcpConnection.step conn₀ interleaved = some conn ∧ conn.shutdowns = [[]] ∧
      conn.written ++ conn.outputBuffer.content = [1, 2, 3, 4, 5, 6, 7, 8] ∧
      conn.channel.isWriting = true := by
  have ran : ((TcpConnection.connectEstablished { writeCompleteCallback := true }).bind
      fun conn₀ => run TcpConnection.step conn₀ interleaved).map
        (fun conn => (conn.state, conn.shutdowns, conn.channel.isWriting)) =
      some (.kDisconnecting, [[]], true) := by
    decide +kernel
  obtain ⟨conn, both, ends⟩ := Option.map_eq_some_iff.mp ran
  obtain ⟨conn₀, established, reached⟩ := Option.bind_eq_some_iff.mp both
  obtain ⟨state, shutdowns, writing⟩ : conn.state = .kDisconnecting ∧ conn.shutdowns = [[]] ∧
      conn.channel.isWriting = true := by
    simpa using ends
  have connected : conn.state ≠ .kDisconnected := by simp [state]
  have harmless : ∀ e ∈ interleaved, e.Harmless := by decide +kernel
  exact ⟨conn₀, conn, established, reached, shutdowns,
    (output_is_message_stream true conn₀ conn interleaved established harmless reached
      connected).1, writing⟩

end VllmRoute.Network
