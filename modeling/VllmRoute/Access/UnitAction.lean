import VllmRoute.Access.Registry
import VllmRoute.Lib.Prog

/-!
# Routing of client messages

`unit_action_match`: what the unit manager does with one text of a client. The
parser is a parameter. The code is a `Prog` over the push to a unit, the remote
call and the error reply, which `Bus.exec` carries out on the registry.
-/
namespace VllmRoute.Access

open Lib

/-- What is used of simdjson: a document, and the string members of its object. A lookup
goes on from where the last one ended, and moves the document. -/
structure Simdjson where
  Doc : Type
  iterate : Bytes → Option Doc
  getString : Doc → Bytes → Option Bytes × Doc

/-- A parser that finds these members in every text. -/
def tableParser (requestId workId action : Bytes) : Simdjson where
  Doc := Unit
  iterate := fun _ => some ()
  getString := fun _ key =>
    (if key = lit "request_id" then some requestId
      else if key = lit "work_id" then some workId
      else if key = lit "action" then some action
      else none, ())

inductive BusOp where
  | usrPrintError (requestId workId : Bytes) (code : Int) (message : String) (zmqOut : Int)
  | zmqBusPublisherPush (workId jsonStr : Bytes)
  | remoteCall (comId : Int) (jsonStr : Bytes)

/-- The responses: whether the error reply has thrown, and the returned values. A remote
call without one has thrown. -/
def BusOp.Resp : BusOp → Type
  | .usrPrintError .. => Bool
  | .zmqBusPublisherPush .. => Int
  | .remoteCall .. => Option Int

abbrev BusCode := Prog BusOp BusOp.Resp

def usrPrintError (requestId workId : Bytes) (code : Int) (message : String) (zmqOut : Int) :
    BusCode Bool := Prog.perform (BusOp.usrPrintError requestId workId code message zmqOut)

def zmqBusPublisherPush (workId jsonStr : Bytes) : BusCode Int :=
  Prog.perform (BusOp.zmqBusPublisherPush workId jsonStr)

def remoteCall (comId : Int) (jsonStr : Bytes) : BusCode (Option Int) :=
  Prog.perform (BusOp.remoteCall comId jsonStr)

/-- The loop that cuts the work id at its dots; the last fragment is dropped when it is
empty. -/
def workIdFragments : Bytes → Bytes → List Bytes
  | [], fragment => if fragment.isEmpty then [] else [fragment]
  | c :: cs, fragment =>
    if c ≠ chr '.' then workIdFragments cs (fragment ++ [c]) else fragment :: workIdFragments cs []

/-- The text that is pushed to a unit: the first character of the client's text gives way
to the reply address. -/
def inferenceRawData (zmqPushUrl jsonStr : Bytes) : Bytes :=
  lit "\x7b\"zmq_com\":\"" ++ zmqPushUrl ++ lit "\"," ++ jsonStr.tail

/-- The members that `unit_action_match` reads, in its order. -/
structure Members where
  requestId : Bytes
  workId : Bytes
  action : Bytes
  deriving DecidableEq

def readMembers (simdjson : Simdjson) (jsonStr : Bytes) : Option Members := do
  let doc ← simdjson.iterate jsonStr
  let (requestId, doc) := simdjson.getString doc (lit "request_id")
  let requestId ← requestId
  let (workId, doc) := simdjson.getString doc (lit "work_id")
  let workId ← workId
  let (action, _) := simdjson.getString doc (lit "action")
  return ⟨requestId, workId, ← action⟩

/-- The unit that the message is for. -/
def Members.unit (members : Members) : Bytes :=
  if members.workId.isEmpty then lit "sys" else members.workId

/-- `unit_action_match`; `zmqCFormat` is the expansion of `zmq_c_format`. The result says
that an exception was thrown. -/
def unitActionMatch (simdjson : Simdjson) (zmqCFormat : Int → Bytes) (comId : Int)
    (jsonStr : Bytes) : BusCode Bool :=
  match readMembers simdjson jsonStr with
  | none => usrPrintError (lit "0") (lit "sys") (-2) "json format error" comId
  | some members =>
    -- the work id is looked up whole, and the message is not looked at again
    if members.action = lit "inference" then do
      let ret ← zmqBusPublisherPush members.unit (inferenceRawData (zmqCFormat comId) jsonStr)
      if ret ≠ 0 then
        usrPrintError members.requestId members.unit (-4) "inference data push false" comId
      else return false
    -- a work id that begins with a dot names no unit, and nobody is told
    else if ((workIdFragments members.unit []).headD []).isEmpty then return false
    else do
      match ← remoteCall comId jsonStr with
      -- `remote_call` has thrown, and the caller does not catch it
      | none => return true
      | some ret =>
        if ret ≠ 0 then
          usrPrintError members.requestId members.unit (-9) "unit call false" comId
        else return false

/-! ### The operations -/

/-- What goes out while a text is handled. -/
inductive Sent where
  | reply (requestId workId : Bytes) (code : Int) (message : String) (comId : Int)
  | published (workId jsonStr : Bytes)
  | rpc (workUnit action data : Bytes)
  deriving DecidableEq

/-- The surroundings of `unit_action_match`; `callRpcAction` is what the calls to a unit
return. -/
structure Bus where
  simdjson : Simdjson
  zmqCFormat : Int → Bytes
  keySql : KeySql
  callRpcAction : Bytes → Bytes → Bytes → Int

/-- `pzmq_data::set_param` -/
def setParam (param0 param1 : Bytes) : Bytes := UInt8.ofNat param0.length :: (param0 ++ param1)

/-- The array `com_url` of `remote_call` after its `snprintf`, as a string. -/
def comUrl (text : Bytes) : Bytes := cString (text.take 254)

def sampleLogWarn : Int := 4
def sampleLogInfo : Int := 6

/-- `log_level`, which nothing assigns. -/
def logLevel : Int := sampleLogInfo

namespace Bus

/-- `usr_print_error`: `dump` throws on a string that is not UTF-8. -/
def usrPrintError (requestId workId : Bytes) (code : Int) (message : String) (zmqOut : Int) :
    Bool × List Sent :=
  if validUtf8 requestId && validUtf8 workId then
    (false, [.reply requestId workId code message zmqOut])
  else (true, [])

/-- `zmq_bus_publisher_push`, with the `if` of the `ALOGW` that the `else` binds to. -/
def zmqBusPublisherPush (keySql : KeySql) (workId jsonStr : Bytes) : Int × List Sent :=
  if workId.isEmpty then (-1, [])
  else
    let sent := match safeReading keySql workId with
      | some _ => [.published workId jsonStr]
      | none => []
    if logLevel ≥ sampleLogWarn then (0, sent) else (-1, sent)

/-- The members that `remote_call` reads; a string stays empty when the lookup fails. -/
def remoteMembers (simdjson : Simdjson) (jsonStr : Bytes) : Bytes × Bytes :=
  match simdjson.iterate jsonStr with
  | none => ([], [])
  | some doc =>
    let (workId, doc) := simdjson.getString doc (lit "work_id")
    let (action, _) := simdjson.getString doc (lit "action")
    (workId.getD [], action.getD [])

/-- `remote_call` -/
def remoteCall (bus : Bus) (comId : Int) (jsonStr : Bytes) : Option Int × List Sent :=
  let (workId, action) := remoteMembers bus.simdjson jsonStr
  -- here an empty work id stays empty: only `unit_action_match` replaces it
  let workUnit := workId.takeWhile (· ≠ chr '.')
  if workId.isEmpty || action.isEmpty then (none, [])
  else
    let data := setParam (comUrl (bus.zmqCFormat comId)) jsonStr
    (some (bus.callRpcAction workUnit action data), [.rpc workUnit action data])

def perform (bus : Bus) : (o : BusOp) → o.Resp × List Sent
  | .usrPrintError requestId workId code message zmqOut =>
    usrPrintError requestId workId code message zmqOut
  | .zmqBusPublisherPush workId jsonStr => zmqBusPublisherPush bus.keySql workId jsonStr
  | .remoteCall comId jsonStr => bus.remoteCall comId jsonStr

def exec (bus : Bus) (sent : List Sent) (o : BusOp) : Option (o.Resp × List Sent) :=
  some ((bus.perform o).1, sent ++ (bus.perform o).2)

/-- A text of a client, handled to the end: whether an exception was thrown, and what was
sent. -/
def handle (bus : Bus) (comId : Int) (jsonStr : Bytes) : Option (Bool × List Sent) :=
  (unitActionMatch bus.simdjson bus.zmqCFormat comId jsonStr).complete bus.exec []

end Bus

end VllmRoute.Access
