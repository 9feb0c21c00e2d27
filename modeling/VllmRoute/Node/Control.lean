import VllmRoute.Node.State

/-!
# The control plane

The event loop of `StackFlow` with its handlers, and the two handlers that
`vllm_llm` runs on the RPC thread. Both threads write `request_id_` and
`out_zmq_url_` before they handle a request, and `send` reads them.
-/
namespace VllmRoute.Node

open Lib Access Channel Scheduler

inductive EventKind where
  | setup
  | exit
  | pause
  | taskinfo
  deriving DecidableEq

inductive CallKind where
  | reloadConfig
  | metricsQuery
  deriving DecidableEq

/-- A request of a client: the kind, `get_param(0)` and `get_param(1)`. -/
structure Request (Kind : Type) where
  kind : Kind
  zmqUrl : Bytes
  raw : Bytes

/-- The operations of the two threads. -/
inductive ControlOp where
  | nextEvent
  | nextCall
  | setRequestId (requestId : Bytes)
  | setOutZmqUrl (zmqUrl : Bytes)
  | send (reply : Reply)
  | registerUnit
  | releaseUnit (workId : Bytes)
  | makeChannel (num : Int)
  | eraseChannel (num : Int)
  | setPushUrl (num : Int) (zmqUrl : Bytes)
  | setChannelIds (num : Int) (requestId workId : Bytes)
  | subscribe (num : Int) (enoutput enstream : Bool)
  | stopSubscriber (num : Int)
  | admitSession (num : Int) (session : SessionContext) (configBody : Json)
  | eraseSession (num : Int)
  | findSession (num : Int)
  | sharedTask
  | reloadConfig (configBody : Json)

/-- The responses. Those of the channel operations say whether there was a channel. -/
def ControlOp.Resp : ControlOp → Type
  | .nextEvent => Request EventKind
  | .nextCall => Request CallKind
  | .send _ => Address
  | .registerUnit => Int
  | .setPushUrl .. | .setChannelIds .. | .subscribe .. | .stopSubscriber _ => Bool
  | .admitSession .. => Option (Int × String)
  | .eraseSession _ | .findSession _ | .sharedTask => Bool
  | .reloadConfig _ => Except String (Int × Int)
  | _ => Unit

abbrev ControlCode := Prog ControlOp ControlOp.Resp

/-- The parts of the state that no thread decides: the requests that arrive, and the time. -/
structure Arrival where
  event : Request EventKind := ⟨.taskinfo, [], []⟩
  call : Request CallKind := ⟨.metricsQuery, [], []⟩
  nowMs : Int := 0

def setAddress (s : VllmLlm) (f : Address → Address) : VllmLlm := { s with address := f s.address }

def performControl (env : Environment) (arrival : Arrival) (s : VllmLlm) :
    (o : ControlOp) → o.Resp × VllmLlm
  | .nextEvent => (arrival.event, s)
  | .nextCall => (arrival.call, s)
  | .setRequestId requestId => ((), setAddress s ({ · with requestId := requestId }))
  | .setOutZmqUrl zmqUrl => ((), setAddress s ({ · with url := zmqUrl }))
  -- the address is read here, not where the request came in
  | .send reply => (s.address, { s with sent := s.sent ++ [(s.address, reply)] })
  | .registerUnit => s.registerUnit
  | .releaseUnit workId => ((), s.releaseUnit workId)
  | .makeChannel num =>
    ((), { s with llmTaskChannel := Function.update s.llmTaskChannel num (some {}) })
  | .eraseChannel num =>
    ((), { s with llmTaskChannel := Function.update s.llmTaskChannel num none })
  | .setPushUrl num zmqUrl => s.updateChannel num ({ · with outputUrl := zmqUrl })
  | .setChannelIds num requestId workId =>
    s.updateChannel num ({ · with requestId := requestId, workId := workId })
  | .subscribe num enoutput enstream => s.updateChannel num
      ({ · with enoutput := enoutput, enstream := enstream, subscribed := true })
  | .stopSubscriber num => s.updateChannel num ({ · with subscribed := false })
  | .admitSession num session configBody => s.admitSession env num session configBody
  | .eraseSession num => s.eraseSession num
  | .findSession num => (s.hasSession num, s)
  | .sharedTask => (s.sharedTask.isSome, s)
  | .reloadConfig configBody => s.reloadShared configBody arrival.nowMs

/-- No operation has to wait. -/
def execControl (env : Environment) (arrival : Arrival) (s : VllmLlm) (o : ControlOp) :
    Option (o.Resp × VllmLlm) := some (performControl env arrival s o)

/-! The operations by name. -/

def ask (o : ControlOp) : ControlCode o.Resp := Prog.perform o

def setRequestId (requestId : Bytes) : ControlCode Unit := ask (.setRequestId requestId)
def setOutZmqUrl (zmqUrl : Bytes) : ControlCode Unit := ask (.setOutZmqUrl zmqUrl)
def registerUnit : ControlCode Int := ask .registerUnit
def releaseUnit (workId : Bytes) : ControlCode Unit := ask (.releaseUnit workId)
def makeChannel (num : Int) : ControlCode Unit := ask (.makeChannel num)
def eraseChannel (num : Int) : ControlCode Unit := ask (.eraseChannel num)
def setPushUrl (num : Int) (zmqUrl : Bytes) : ControlCode Bool := ask (.setPushUrl num zmqUrl)
def setChannelIds (num : Int) (requestId workId : Bytes) : ControlCode Bool :=
  ask (.setChannelIds num requestId workId)
def subscribe (num : Int) (enoutput enstream : Bool) : ControlCode Bool :=
  ask (.subscribe num enoutput enstream)
def stopSubscriber (num : Int) : ControlCode Bool := ask (.stopSubscriber num)
def admitSession (num : Int) (session : SessionContext) (configBody : Json) :
    ControlCode (Option (Int × String)) := ask (.admitSession num session configBody)
def eraseSession (num : Int) : ControlCode Bool := ask (.eraseSession num)
def findSession (num : Int) : ControlCode Bool := ask (.findSession num)
def hasSharedTask : ControlCode Bool := ask .sharedTask
def reloadShared (configBody : Json) : ControlCode (Except String (Int × Int)) :=
  ask (.reloadConfig configBody)

/-- `send` and `send_error`; what follows a reply does not depend on it. -/
def send (reply : Reply) : ControlCode Unit := do
  let _ ← ask (.send reply)
  return ()

def sendError (workId : Bytes) (code : Int) (message : String) : ControlCode Unit :=
  send { object := "None", workId := workId, code := code, message := message }

/-! ### Setup and exit -/

/-- `vllm_llm::setup`. Without a result an exception was thrown. -/
def vllmSetup (codec : Codec) (workId data : Bytes) : ControlCode (Option Int) :=
  match sampleGetWorkIdNum workId with
  -- the number is parsed outside of any `try`
  | none => return none
  | some num =>
    match codec.parse data with
    | .error _ => do
      sendError workId (-2) "json format error."
      return some (-2)
    | .ok configBody => do
      let session := makeSessionContext num workId configBody
      match ← admitSession num session configBody with
      | some (code, message) => do
        sendError workId code message
        return some (-1)
      | none => do
        -- the lock is released: another thread may have taken the channel away
        if ← subscribe num session.enoutput session.enstream then do
          send { object := "None", workId := workId }
          return some 0
        else return none

/-- The two calls of `sys_release_unit`. -/
def releaseBoth (workIdNum : Int) (workId : Bytes) : ControlCode Bool := do
  releaseUnit workId
  eraseChannel workIdNum
  return false

/-- `sys_release_unit`. The result says that an exception was thrown. -/
def sysReleaseUnit (workIdNum : Int) (workId : Bytes) : ControlCode Bool :=
  -- the number that is passed counts only without a work id
  if workId.isEmpty then releaseBoth workIdNum (sampleGetWorkId workIdNum)
  else
    match sampleGetWorkIdNum workId with
    | none => return true
    | some num => releaseBoth num workId

/-- `StackFlow::setup` -/
def setup (codec : Codec) (zmqUrl raw : Bytes) : ControlCode Bool := do
  let workidNum ← registerUnit
  -- the number is not looked at: a failed registration goes on with its error value
  makeChannel workidNum
  let workId := sampleGetWorkId workidNum
  let _ ← setPushUrl workidNum zmqUrl
  let _ ← setChannelIds workidNum (sampleJsonStrGet raw (lit "request_id")) workId
  match ← vllmSetup codec workId (sampleJsonStrGet raw (lit "data")) with
  | none => return true
  -- the rollback of a setup that was answered with an error
  | some ret => if ret ≠ 0 then sysReleaseUnit workidNum workId else return false

/-- `vllm_llm::exit`. Without a result an exception was thrown. -/
def vllmExit (workId : Bytes) : ControlCode (Option Int) :=
  match sampleGetWorkIdNum workId with
  | none => return none
  | some num => do
    if ← eraseSession num then
      if ← stopSubscriber num then do
        send { object := "None", workId := workId }
        return some 0
      else return none
    else do
      sendError workId (-6) "Unit Does Not Exist"
      return some (-1)

/-- The `try` block that `exit`, `pause` and `taskinfo` begin with: no exception leaves it. -/
def tryPushUrl (zmqUrl workId : Bytes) : ControlCode Unit :=
  match sampleGetWorkIdNum workId with
  | none => return ()
  | some num => do
    let _ ← setPushUrl num zmqUrl
    return ()

/-- `StackFlow::exit` -/
def exit (zmqUrl raw : Bytes) : ControlCode Bool := do
  let workId := sampleJsonStrGet raw (lit "work_id")
  tryPushUrl zmqUrl workId
  match ← vllmExit workId with
  | none => return true
  | some ret => if ret = 0 then sysReleaseUnit (-1) workId else return false

/-! ### Pause and taskinfo -/

/-- `StackFlow::pause`: the conversion of `error_body` to a string throws. -/
def pause (zmqUrl raw : Bytes) : ControlCode Bool := do
  tryPushUrl zmqUrl (sampleJsonStrGet raw (lit "work_id"))
  return true

def taskinfo (zmqUrl raw : Bytes) : ControlCode Bool := do
  let workId := sampleJsonStrGet raw (lit "work_id")
  tryPushUrl zmqUrl workId
  match sampleGetWorkIdNum workId with
  | none => return true
  | some num => do
    let found ← findSession num
    -- a work id without a number asks for all sessions
    if num = workIdNone then send { object := "llm.tasklist", workId := workId }
    else if found then send { object := "llm.taskinfo", workId := workId }
    else sendError workId (-6) "Unit Does Not Exist"
    return false

/-! ### The two handlers of the RPC thread -/

/-- What the control requests with a JSON body differ in. -/
def CallKind.name : CallKind → String
  | .reloadConfig => "reload_config"
  | .metricsQuery => "metrics_query"

/-- `data` as an object, as the text of one, or the whole request without it. -/
def callBody (codec : Codec) (kind : CallKind) (root : Json) : Except String Json :=
  match root.get? "data" with
  | none => .ok root
  | some (.obj members) => .ok (.obj members)
  | some (.str text) =>
    if text = "" ∨ text = "None" then .ok (.obj [])
    else match codec.parse (lit text) with
      | .ok body => .ok body
      | .error _ => .error (kind.name ++ " data json format error.")
  | some .null => .ok (.obj [])
  | some _ => .error (kind.name ++ " data must be a json object or json string.")

/-- The work id that the reply names. -/
def callWorkId (root : Json) : Bytes :=
  let workId := jsonStringValue root "work_id" "None"
  lit (if workId = "" then "None" else workId)

/-- `reload_config` and `metrics_query` of `vllm_llm`. -/
def handleCall (codec : Codec) (kind : CallKind) (zmqUrl raw : Bytes) : ControlCode Unit := do
  -- for the second time: the handler of the call has written it already
  setOutZmqUrl zmqUrl
  match codec.parse raw with
  | .error _ => sendError (lit "None") (-2) "json format error."
  | .ok root =>
    let workId := callWorkId root
    match callBody codec kind root with
    | .error message => sendError workId (-2) message
    | .ok body => do
      if ← hasSharedTask then
        match kind with
        | .metricsQuery => send { object := "llm.metrics", workId := workId }
        | .reloadConfig => do
          match ← reloadShared body with
          | .error message =>
            sendError workId (-46) (if message = "" then "reload_config failed" else message)
          | .ok _ => send { object := "llm.reload_config", workId := workId }
      else sendError workId (-45) "shared scheduler not initialized"

/-! ### The threads -/

/-- What `_setup`, `_exit`, `_taskinfo` and the two calls write before they go on. -/
def adoptAddress (requestId zmqUrl : Bytes) : ControlCode Unit := do
  setRequestId requestId
  setOutZmqUrl zmqUrl

/-- The event handlers; `_pause` takes the URL for the request. The result says that an
exception was thrown. -/
def handleEvent (codec : Codec) (request : Request EventKind) : ControlCode Bool := do
  -- `_pause` reads parameter 0 where the others read parameter 1
  let raw := if request.kind = .pause then request.zmqUrl else request.raw
  adoptAddress (sampleJsonStrGet raw (lit "request_id")) request.zmqUrl
  match request.kind with
  | .setup => setup codec request.zmqUrl raw
  | .exit => exit request.zmqUrl raw
  | .pause => pause request.zmqUrl raw
  | .taskinfo => taskinfo request.zmqUrl raw

/-- Where a control thread can be between requests. -/
inductive ControlPoint where
  | waiting
  | crashed
  deriving DecidableEq

def eventLoop (codec : Codec) : ControlPoint → Option (ControlCode ControlPoint)
  | .waiting => some do
    let request ← ask .nextEvent
    if ← handleEvent codec request then return .crashed else return .waiting
  | .crashed => none

/-- The RPC thread catches every exception. -/
def rpcLoop (codec : Codec) : ControlPoint → Option (ControlCode ControlPoint)
  | .waiting => some do
    let request ← ask .nextCall
    adoptAddress (sampleJsonStrGet request.raw (lit "request_id")) request.zmqUrl
    handleCall codec request.kind request.zmqUrl request.raw
    return .waiting
  | .crashed => none

end VllmRoute.Node
