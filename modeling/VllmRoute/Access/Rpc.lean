import VllmRoute.Access.UnitAction
import VllmRoute.Lib.Search

/-!
# Remote calls

The RPC half of `pzmq`: the event loop of a server, and `call_rpc_action`, which
makes a socket for one request. Files, connections and the time that an answer
takes are those of `Sockets`.
-/
namespace VllmRoute.Access

open Lib

/-- `zmq_fun_`; a callback without a result has thrown. -/
structure RpcServer where
  zmqFun : Bytes → Option (Bytes → Option Bytes)

/-- The answer of `zmq_event_loop` to the parts of one request. -/
def RpcServer.zmqEventLoop (server : RpcServer) : List Bytes → Option Bytes
  | [] => none
  | msg :: rest =>
    -- an empty part is passed over, and the next one is taken for the action
    if msg.isEmpty then server.zmqEventLoop rest
    else some (((server.zmqFun msg).bind fun callback => callback (rest.headD [])).getD
      (lit "NotAction"))

/-- What lies outside of `call_rpc_action`: the files, the results of `zmq_connect`, the
servers by their URL, and whether an answer arrives before `timeout_` is over. -/
structure Sockets where
  access : Bytes → Bool
  zmqConnect : Bytes → Int
  server : Bytes → Option RpcServer
  inTime : Bytes → List Bytes → Bool

/-- `rpc_url_head_`, which a server name that is a URL itself clears. -/
def rpcUrlHead (rpcServer : Bytes) : Bytes :=
  if (find (lit "://") rpcServer).isSome then [] else lit "ipc:///tmp/rpc."

def rpcUrlHeadLength : Nat := 6

def rpcUrl (rpcServer : Bytes) : Bytes := rpcUrlHead rpcServer ++ rpcServer

namespace Sockets

variable (sockets : Sockets)

def creatReq (rpcServer : Bytes) : Int :=
  if !(rpcUrlHead rpcServer).isEmpty &&
      !sockets.access (cString ((rpcUrl rpcServer).drop rpcUrlHeadLength)) then -1
  else sockets.zmqConnect (cString (rpcUrl rpcServer))

/-- The socket of a call: nonzero when it could not be made. -/
def creat (rpcServer : Bytes) : Int :=
  if rpcServer.isEmpty then -1 else sockets.creatReq rpcServer

/-- The two `zmq_send` and the `zmq_msg_recv`: what is received before the timeout. -/
def exchange (rpcServer action data : Bytes) : Option Bytes :=
  (sockets.server (cString (rpcUrl rpcServer))).bind fun server =>
    if sockets.inTime (cString (rpcUrl rpcServer)) [action, data] then
      server.zmqEventLoop [action, data]
    else none

/-- `call_rpc_action` with what it received. -/
def callRpcAction (rpcServer action data : Bytes) : Int × Option Bytes :=
  let ret := sockets.creat rpcServer
  if ret ≠ 0 then (ret, none)
  -- neither the results of sending and receiving nor the answer are looked at
  else (ret, sockets.exchange rpcServer action data)

/-- The unit is there, but it has no action of that name, or does not answer in time. -/
def Unhandled (workUnit action : Bytes) : Prop :=
  ∃ server, sockets.server (cString (rpcUrl workUnit)) = some server ∧
    (server.zmqFun action = none ∨
      ∀ data, sockets.inTime (cString (rpcUrl workUnit)) [action, data] = false)

theorem callRpcAction_fst (rpcServer action data : Bytes) :
    (sockets.callRpcAction rpcServer action data).1 = sockets.creat rpcServer := by
  unfold callRpcAction
  dsimp only
  split <;> rfl

variable {sockets}

/-- Nothing that the caller receives says that the action was done. -/
theorem Unhandled.received {workUnit action : Bytes} (unhandled : sockets.Unhandled workUnit action)
    (named : action ≠ []) (data : Bytes) :
    (sockets.callRpcAction workUnit action data).2 = none ∨
      (sockets.callRpcAction workUnit action data).2 = some (lit "NotAction") := by
  obtain ⟨server, there, silent⟩ := unhandled
  have first : action.isEmpty = false := by simpa using named
  unfold callRpcAction
  dsimp only
  split
  · exact Or.inl rfl
  · rw [exchange, there, Option.bind_some]
    split
    next arrived =>
      rcases silent with missing | late
      · right
        simp [RpcServer.zmqEventLoop, first, missing]
      · rw [late data] at arrived
        cases arrived
    next => exact Or.inl rfl

end Sockets

/-- The bus whose calls go through these sockets. -/
def Bus.through (bus : Bus) (sockets : Sockets) : Bus :=
  { bus with
    callRpcAction := fun workUnit action data =>
      (sockets.callRpcAction workUnit action data).1 }

end VllmRoute.Access
