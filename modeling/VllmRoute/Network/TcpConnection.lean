import VllmRoute.Network.Buffer

/-!
# The output side of a connection

`network::TcpConnection` as its loop thread runs it, without the input buffer:
a message is written directly or goes into the output buffer, and a writable
socket takes bytes from there. The result of each `write` is an argument of the
handler that makes it. Callbacks run after the handler that calls them, so that
what they send is a later call.
-/
namespace VllmRoute.Network

/-- The events that a descriptor is watched for. -/
structure Channel where
  events : BitVec 32 := 0#32

namespace Channel

def noneEvent : BitVec 32 := 0#32
/-- `EPOLLIN` -/
def readEvent : BitVec 32 := 1#32
/-- `EPOLLOUT` -/
def writeEvent : BitVec 32 := 4#32

def enableReading (c : Channel) : Channel := { c with events := c.events ||| readEvent }

def disableReading (c : Channel) : Channel := { c with events := c.events &&& ~~~readEvent }

def enableWriting (c : Channel) : Channel := { c with events := c.events ||| writeEvent }

def disableWriting (c : Channel) : Channel := { c with events := c.events &&& ~~~writeEvent }

def disableAll (c : Channel) : Channel := { c with events := noneEvent }

def isWriting (c : Channel) : Bool := c.events &&& writeEvent != 0#32

def isReading (c : Channel) : Bool := c.events &&& readEvent != 0#32

theorem isWriting_eq (c : Channel) : c.isWriting = c.events.getLsbD 2 := by
  have power : writeEvent = BitVec.twoPow 32 2 := rfl
  rw [isWriting, power, BitVec.and_twoPow]
  cases c.events.getLsbD 2 <;> rfl

@[simp] theorem isWriting_enableReading (c : Channel) :
    c.enableReading.isWriting = c.isWriting := by
  simp [isWriting_eq, enableReading, readEvent]

@[simp] theorem isWriting_disableReading (c : Channel) :
    c.disableReading.isWriting = c.isWriting := by
  simp [isWriting_eq, disableReading, readEvent]

@[simp] theorem isWriting_enableWriting (c : Channel) : c.enableWriting.isWriting = true := by
  simp [isWriting_eq, enableWriting, writeEvent]

@[simp] theorem isWriting_disableWriting (c : Channel) : c.disableWriting.isWriting = false := by
  simp [isWriting_eq, disableWriting, writeEvent]

end Channel

inductive StateE where
  | kDisconnected
  | kConnecting
  | kConnected
  | kDisconnecting
  deriving DecidableEq

inductive Errno where
  | ewouldblock
  | epipe
  | econnreset
  | other (errno : Int)
  deriving DecidableEq

/-- What `sockets::write` returns. It takes no more bytes than there are. -/
inductive WriteResult where
  | wrote (n : Nat)
  | failed (errno : Errno)
  deriving DecidableEq

/-- `queued` counts the write-complete callbacks given to the loop, `written` is what the
socket took, and `shutdowns` is what the output buffer held at each `shutdownWrite`. -/
structure TcpConnection where
  state : StateE := .kConnecting
  reading : Bool := true
  channel : Channel := {}
  outputBuffer : Buffer := .ofSize Buffer.kInitialSize
  writeCompleteCallback : Bool
  queued : Nat := 0
  written : Bytes := []
  shutdowns : List Bytes := []

namespace TcpConnection

def connectEstablished (conn : TcpConnection) : Option TcpConnection :=
  if conn.state = .kConnecting then
    some { conn with state := .kConnected, channel := conn.channel.enableReading }
  else none

/-- The callback is queued, if there is one. -/
def queueWriteComplete (conn : TcpConnection) : TcpConnection :=
  if conn.writeCompleteCallback then { conn with queued := conn.queued + 1 } else conn

/-- The direct `write` of `sendInLoop`, with its `nwrote` and `faultError`. -/
def writeDirectly (conn : TcpConnection) (data : Bytes) :
    WriteResult → TcpConnection × Nat × Bool
  | .wrote n =>
    let nwrote := min n data.length
    let conn := { conn with written := conn.written ++ data.take nwrote }
    (if data.length - nwrote = 0 then conn.queueWriteComplete else conn, nwrote, false)
  | .failed errno => (conn, 0, errno == .epipe || errno == .econnreset)

/-- What was not written goes into the buffer, until the socket is writable. -/
def bufferRest (conn : TcpConnection) (rest : Bytes) : Option TcpConnection := do
  let outputBuffer ← conn.outputBuffer.append rest
  let conn := { conn with outputBuffer := outputBuffer }
  some (if conn.channel.isWriting then conn
    else { conn with channel := conn.channel.enableWriting })

def sendInLoop (conn : TcpConnection) (data : Bytes) (result : WriteResult) :
    Option TcpConnection :=
  if conn.state = .kDisconnected then some conn
  else
    -- only with nothing before it does the message go to the socket at once
    let (conn, nwrote, faultError) :=
      if !conn.channel.isWriting && conn.outputBuffer.readableBytes == 0 then
        conn.writeDirectly data result
      else (conn, 0, false)
    if !faultError && 0 < data.length - nwrote then conn.bufferRest (data.drop nwrote)
    else some conn

def shutdown (conn : TcpConnection) : TcpConnection :=
  if conn.state = .kConnected then { conn with state := .kDisconnecting } else conn

def shutdownInLoop (conn : TcpConnection) : TcpConnection :=
  if conn.channel.isWriting then conn
  else { conn with shutdowns := conn.shutdowns ++ [conn.outputBuffer.content] }

/-- The end of `handleWrite`, once the buffer is empty. -/
def finishWriting (conn : TcpConnection) : TcpConnection :=
  let conn := queueWriteComplete { conn with channel := conn.channel.disableWriting }
  if conn.state = .kDisconnecting then conn.shutdownInLoop else conn

def handleWrite (conn : TcpConnection) (result : WriteResult) : Option TcpConnection :=
  if conn.channel.isWriting then
    match result with
    | .wrote n =>
      let n := min n conn.outputBuffer.readableBytes
      if 0 < n then do
        let outputBuffer ← conn.outputBuffer.retrieve n
        let written := conn.written ++ conn.outputBuffer.content.take n
        let conn := { conn with outputBuffer := outputBuffer, written := written }
        some (if outputBuffer.readableBytes = 0 then conn.finishWriting else conn)
      else some conn
    -- whatever the error, the bytes stay in the buffer
    | .failed _ => some conn
  else some conn

def forceClose (conn : TcpConnection) : TcpConnection :=
  if conn.state = .kConnected ∨ conn.state = .kDisconnecting then
    { conn with state := .kDisconnecting }
  else conn

def handleClose (conn : TcpConnection) : Option TcpConnection :=
  if conn.state = .kConnected ∨ conn.state = .kDisconnecting then
    some { conn with state := .kDisconnected, channel := conn.channel.disableAll }
  else none

def forceCloseInLoop (conn : TcpConnection) : Option TcpConnection :=
  if conn.state = .kConnected ∨ conn.state = .kDisconnecting then conn.handleClose else some conn

def startReadInLoop (conn : TcpConnection) : TcpConnection :=
  if !conn.reading || !conn.channel.isReading then
    { conn with channel := conn.channel.enableReading, reading := true }
  else conn

def stopReadInLoop (conn : TcpConnection) : TcpConnection :=
  if conn.reading || conn.channel.isReading then
    { conn with channel := conn.channel.disableReading, reading := false }
  else conn

/-- What the loop thread calls on an established connection. -/
inductive Event where
  | sendInLoop (data : Bytes) (result : WriteResult)
  | handleWrite (result : WriteResult)
  | shutdown
  | shutdownInLoop
  | forceClose
  | forceCloseInLoop
  | handleClose
  | startReadInLoop
  | stopReadInLoop

def step (conn : TcpConnection) : Event → Option TcpConnection
  | .sendInLoop data result => conn.sendInLoop data result
  | .handleWrite result => conn.handleWrite result
  | .shutdown => some conn.shutdown
  | .shutdownInLoop => some conn.shutdownInLoop
  | .forceClose => some conn.forceClose
  | .forceCloseInLoop => conn.forceCloseInLoop
  | .handleClose => conn.handleClose
  | .startReadInLoop => some conn.startReadInLoop
  | .stopReadInLoop => some conn.stopReadInLoop

@[simp] theorem state_queueWriteComplete (conn : TcpConnection) :
    conn.queueWriteComplete.state = conn.state := by
  unfold queueWriteComplete
  split <;> rfl

@[simp] theorem state_shutdownInLoop (conn : TcpConnection) :
    conn.shutdownInLoop.state = conn.state := by
  unfold shutdownInLoop
  split <;> rfl

@[simp] theorem state_finishWriting (conn : TcpConnection) :
    conn.finishWriting.state = conn.state := by
  unfold finishWriting
  dsimp only
  split <;> simp

theorem state_handleWrite {conn conn' : TcpConnection} {result : WriteResult}
    (taken : conn.handleWrite result = some conn') : conn'.state = conn.state := by
  unfold handleWrite at taken
  split at taken
  case isFalse => cases taken; rfl
  case isTrue =>
    cases result with
    | failed errno => cases taken; rfl
    | wrote n =>
      dsimp only at taken
      split at taken
      case isFalse => cases taken; rfl
      case isTrue =>
        obtain ⟨outputBuffer, _, rest⟩ := Option.bind_eq_some_iff.mp taken
        cases rest
        split <;> simp

end TcpConnection

end VllmRoute.Network
