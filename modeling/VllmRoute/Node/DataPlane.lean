import VllmRoute.Node.Control

/-!
# The data plane

The thread of one channel: `subscriber_event_call` for each message of its
unit, with `task_user_data` as the callback. The thread works on the fields of
its channel object, which the control plane writes too.
-/
namespace VllmRoute.Node

open Lib Access Channel Scheduler

/-- How `assemble_stream_input` ends. -/
inductive StreamInput where
  | incomplete
  | failed (streamError : String)
  | complete (text : Bytes)

/-- The operations of the thread; those without a number are on its own channel. -/
inductive DataOp where
  | nextMessage
  | setPushUrl (url : Bytes)
  | setRequestId (requestId : Bytes)
  | setWorkId (workId : Bytes)
  | lockChannel
  | getRequestId
  | getWorkId
  | getOutputUrl
  | findSession (num : Int)
  | assembleStreamInput (streamKey : Bytes) (requestMeta : Json)
  | sendRawForUrl (message : ClientMessage)
  | inference (requestId workId outputUrl object prompt : Bytes) (requestMeta : Json)
      (session : SessionContext)

def DataOp.Resp : DataOp → Type
  | .nextMessage | .getRequestId | .getWorkId | .getOutputUrl => Bytes
  | .lockChannel => Bool
  | .findSession _ => Option SessionContext
  | .assembleStreamInput .. => StreamInput
  | _ => Unit

abbrev DataCode := Prog DataOp DataOp.Resp

/-- What no thread decides: the messages that arrive, and the chunks that are assembled. -/
structure DataArrival where
  message : Bytes := []
  stream : StreamInput := .incomplete

/-- An operation on the fields of the channel, which has to be there. -/
def withChannel {α : Type} (s : VllmLlm) (num : Int)
    (f : LlmChannelObj → α × LlmChannelObj) : Option (α × VllmLlm) :=
  (s.llmTaskChannel num).map fun channel => ((f channel).1,
    { s with llmTaskChannel := Function.update s.llmTaskChannel num (some (f channel).2) })

theorem withChannel_cases {α : Type} {s s' : VllmLlm} {num : Int}
    {f : LlmChannelObj → α × LlmChannelObj} {r : α}
    (executed : withChannel s num f = some (r, s')) :
    ∃ c, s.llmTaskChannel num = some c ∧ r = (f c).1 ∧ s'.llmTaskChannel num = some (f c).2 := by
  obtain ⟨c, found, equal⟩ := Option.map_eq_some_iff.mp executed
  cases equal
  exact ⟨c, found, rfl, by simp⟩

/-- One operation of the thread of channel `num`. Messages arrive while it is subscribed. -/
def execData (num : Int) (arrival : DataArrival) (s : VllmLlm) :
    (o : DataOp) → Option (o.Resp × VllmLlm)
  | .nextMessage =>
    if (s.llmTaskChannel num).any (·.subscribed) then some (arrival.message, s) else none
  | .setPushUrl url => withChannel s num fun channel => ((), { channel with outputUrl := url })
  | .setRequestId requestId =>
    withChannel s num fun channel => ((), { channel with requestId := requestId })
  | .setWorkId workId => withChannel s num fun channel => ((), { channel with workId := workId })
  | .lockChannel => some ((s.llmTaskChannel num).isSome, s)
  | .getRequestId => withChannel s num fun channel => (channel.requestId, channel)
  | .getWorkId => withChannel s num fun channel => (channel.workId, channel)
  | .getOutputUrl => withChannel s num fun channel => (channel.outputUrl, channel)
  | .findSession num =>
    -- one critical section of `sessions_mtx_`
    some (if s.sharedTask.isSome then s.sessions.lookup num else none, s)
  | .assembleStreamInput .. => some (arrival.stream, s)
  | .sendRawForUrl _ => some ((), s)
  | .inference .. => some ((), s)

/-- Whatever the operation, the node is the same up to the fields of its channels. -/
theorem execData_frame {num : Int} {arrival : DataArrival} {s s' : VllmLlm} {o : DataOp}
    {r : o.Resp} (executed : execData num arrival s o = some (r, s')) :
    s' = { s with llmTaskChannel := s'.llmTaskChannel } := by
  have field {α : Type} {f : LlmChannelObj → α × LlmChannelObj} {a : α}
      (executed : withChannel s num f = some (a, s')) :
      s' = { s with llmTaskChannel := s'.llmTaskChannel } := by
    obtain ⟨c, _, equal⟩ := Option.map_eq_some_iff.mp executed
    cases equal
    rfl
  cases o with
  | nextMessage =>
    obtain ⟨_, equal⟩ := Option.ite_none_right_eq_some.mp executed
    cases equal
    rfl
  | setPushUrl _ | setRequestId _ | setWorkId _ => exact field executed
  | getRequestId | getWorkId | getOutputUrl => exact field executed
  | _ =>
    cases executed
    rfl

namespace Data

/-! The operations by name. -/

def ask (o : DataOp) : DataCode o.Resp := Prog.perform o

def setPushUrl (url : Bytes) : DataCode Unit := ask (.setPushUrl url)
def setRequestId (requestId : Bytes) : DataCode Unit := ask (.setRequestId requestId)
def setWorkId (workId : Bytes) : DataCode Unit := ask (.setWorkId workId)
def lockChannel : DataCode Bool := ask .lockChannel
def getRequestId : DataCode Bytes := ask .getRequestId
def getWorkId : DataCode Bytes := ask .getWorkId
def getOutputUrl : DataCode Bytes := ask .getOutputUrl
def findSession (num : Int) : DataCode (Option SessionContext) := ask (.findSession num)
def assembleStreamInput (streamKey : Bytes) (requestMeta : Json) : DataCode StreamInput :=
  ask (.assembleStreamInput streamKey requestMeta)

/-! ### `task_user_data` -/

/-- `send_client_message`. The result says that an exception was thrown. -/
def sendClientMessage (m : ClientMessage) : DataCode Bool :=
  if m.outputUrl.isEmpty then return false
  else if m.dumps then do
    ask (.sendRawForUrl m)
    return false
  else return true

/-- The error messages of `task_user_data`. -/
def refuse (code : Int) (message : String) : DataCode Bool := do
  let requestId ← getRequestId
  let workId ← getWorkId
  let outputUrl ← getOutputUrl
  sendClientMessage
    { requestId := requestId, workId := workId, outputUrl := outputUrl, object := lit "None",
      data := .text (lit "None"), errorCode := code, errorMessage := lit message }

/-- `apply_session_defaults`; without a result it throws, as the members of a value that is
neither an object nor null cannot be assigned. -/
def applySessionDefaults (requestMeta : Json) (session : SessionContext) : Option Json :=
  let given (key : String) : Bool := requestMeta.contains key
  -- each default only where the request says nothing of its own
  let defaults : List (String × Json) :=
    (if session.model ≠ "" && !given "model" then [("model", .str session.model)] else []) ++
    (if session.defaultMaxTokens > 0 && !given "max_tokens" && !given "max_token_len" then
      [("max_tokens", .int session.defaultMaxTokens)] else []) ++
    (if session.defaultTimeoutMs > 0 && !given "timeout_ms" then
      [("timeout_ms", .int session.defaultTimeoutMs)] else []) ++
    (if session.defaultDeadlineMs > 0 && !given "deadline_ms" then
      [("deadline_ms", .int session.defaultDeadlineMs)] else []) ++
    (if session.defaultMaxRetries ≥ 0 && !given "max_retries" then
      [("max_retries", .int session.defaultMaxRetries)] else []) ++
    (if session.defaultPriority ≥ 0 && !given "priority" then
      [("priority", .int session.defaultPriority)] else []) ++
    (if !given "allow_model_fallback" && !given "allow_degrade" then
      [("allow_model_fallback", .bool session.allowModelFallback)] else [])
  match requestMeta with
  | .obj members => some (.obj (members ++ defaults))
  | .null => some (.obj defaults)
  | _ => none

/-- The call of `inference`, which reads the fields of the channel through references. -/
def handOver (object prompt : Bytes) (requestMeta : Json) (session : SessionContext) :
    DataCode Bool :=
  match applySessionDefaults requestMeta session with
  | none => return true
  | some requestMeta => do
    let requestId ← getRequestId
    let workId ← getWorkId
    let outputUrl ← getOutputUrl
    ask (.inference requestId workId outputUrl object prompt requestMeta session)
    return false

/-- The branch for input that arrives in chunks. -/
def streamInput (object : Bytes) (requestMeta : Json) (session : SessionContext) :
    DataCode Bool := do
  let workId ← getWorkId
  let requestId ← getRequestId
  match ← assembleStreamInput (workId ++ lit ":" ++ requestId) requestMeta with
  | .incomplete => return false
  | .failed streamError => refuse (-25) streamError
  | .complete text => handOver object text requestMeta session

/-- `request_meta`: an empty object when the data is not JSON. -/
def parseMeta (codec : Codec) (data : Bytes) : Json :=
  match codec.parse data with
  | .ok body => body
  | .error _ => .obj []

/-- `task_user_data` for a session that exists. -/
def sessionData (codec : Codec) (object data : Bytes) (session : SessionContext) :
    DataCode Bool :=
  if data.isEmpty ∨ data = lit "None" then refuse (-24) "The inference data is empty."
  else if (find (lit "stream") object).isSome then
    streamInput object (parseMeta codec data) session
  else handOver object data (parseMeta codec data) session

/-- `task_user_data` -/
def taskUserData (codec : Codec) (object data : Bytes) : DataCode Bool := do
  -- the channel may be gone since the message came in
  if ← lockChannel then do
    let workId ← getWorkId
    match sampleGetWorkIdNum workId with
    | none => return true
    | some num =>
      match ← findSession num with
      | none => refuse (-6) "Unit Does Not Exist"
      | some session => sessionData codec object data session
  else return false

/-! ### `subscriber_event_call` -/

def pushUrlIfGiven (zmqCom : Bytes) : DataCode Unit :=
  if zmqCom.isEmpty then return () else setPushUrl zmqCom

/-- What a message with an `action` writes into the channel. -/
def adoptFields : Option Fields → DataCode Unit
  | some fields => do
    -- three writes, which the control plane can come between
    pushUrlIfGiven fields.zmqCom
    setRequestId fields.requestId
    setWorkId fields.workId
  | none => return ()

def subscriberEventCall (codec : Codec) (raw : Bytes) : DataCode Bool := do
  adoptFields (inferenceFields raw)
  taskUserData codec (sampleJsonStrGet raw (lit "object")) (sampleJsonStrGet raw (lit "data"))

/-- `zmq_event_loop` of the subscriber: no exception is caught. -/
def dataLoop (codec : Codec) : ControlPoint → Option (DataCode ControlPoint)
  | .waiting => some do
    let raw ← ask .nextMessage
    if ← subscriberEventCall codec raw then return .crashed else return .waiting
  | .crashed => none

end Data

end VllmRoute.Node
