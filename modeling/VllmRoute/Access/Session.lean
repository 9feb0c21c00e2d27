import VllmRoute.Network.Buffer

/-!
# TCP sessions

The way of a client's bytes from the socket to `unit_action_match`:
`TcpConnection::handleRead`, `onMessage`, `select_json_str` and `on_data`.
-/
namespace VllmRoute.Access

open Network

/-- The session of a connection, with the port it was given by `onConnection`. -/
structure TcpSession where
  port : Int

/-- `handed` are the calls of `unit_action_match`, with their `com_id`. -/
structure TcpConnection where
  inputBuffer : Buffer := .ofSize Buffer.kInitialSize
  context : Option TcpSession := none
  connected : Bool := true
  handed : List (Int × Bytes) := []

def newline : UInt8 := chr '\n'

/-- The text that `select_json_str` passes on. -/
def stripNewline (jsonSrc : Bytes) : Bytes :=
  if jsonSrc.getLast? = some newline then jsonSrc.dropLast else jsonSrc

def selectJsonStr {α : Type} (jsonSrc : Bytes) (outFun : Bytes → α) : α :=
  outFun (stripNewline jsonSrc)

def TcpSession.onData (session : TcpSession) (data : Bytes) : Int × Bytes := (session.port, data)

namespace TcpConnection

/-- `onConnection` for a new connection. -/
def accept (port : Int) : TcpConnection := { context := some ⟨port⟩ }

def onMessage (conn : TcpConnection) : Option TcpConnection := do
  let (msg, inputBuffer) ← conn.inputBuffer.retrieveAllAsString
  match conn.context with
  | some session =>
    some { conn with
      inputBuffer := inputBuffer
      handed := conn.handed ++ [selectJsonStr msg session.onData] }
  -- the failed cast of the context is caught, and the message is gone
  | none => some { conn with inputBuffer := inputBuffer }

/-- `handleRead`, when `readv` stored these bytes; without a result it failed, which is
only logged. -/
def handleRead (conn : TcpConnection) (result : Option Bytes) : Option TcpConnection :=
  if conn.connected then
    match result with
    | none => some conn
    -- end of file: `handleClose`
    | some [] => some { conn with connected := false }
    | some received => do
      -- whatever one `readv` returned goes up as one message
      let inputBuffer ← conn.inputBuffer.readFd received
      onMessage { conn with inputBuffer := inputBuffer }
  else none

end TcpConnection

end VllmRoute.Access
