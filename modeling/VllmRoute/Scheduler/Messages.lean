import VllmRoute.Lib.Prog
import VllmRoute.Scheduler.Dispatch

/-!
# Operations of the scheduler's threads, and the messages they send

The code of the scheduler's threads is a `Prog` over these operations: each is
one access to what the threads share (a critical section or an atomic), one
exchange with the backend, or one message to a client.
-/
namespace VllmRoute.Scheduler

open Lib

/-- The `data` object of `emit_delta`. The timing members are there on `finish`. -/
structure Delta where
  index : Int
  delta : Bytes
  finish : Bool
  action : String
  profileName : String
  model : String
  servedModel : String
  endpoint : String
  degraded : Bool
  queueWaitMs : Option Int
  firstTokenLatencyMs : Option Int
  totalLatencyMs : Option Int
  retryCount : Option Int
  degradeReason : Option String
  deriving DecidableEq

inductive Payload where
  | text (content : Bytes)
  | delta (body : Delta)
  deriving DecidableEq

/-- The arguments of `send_client_message`. -/
structure ClientMessage where
  requestId : Bytes
  workId : Bytes
  outputUrl : Bytes
  object : Bytes
  data : Payload
  errorCode : Int
  errorMessage : Bytes
  deriving DecidableEq

/-- The strings of a payload that are not taken from a JSON value or a literal. -/
def Payload.dumps : Payload → Bool
  | .text content => validUtf8 content
  | .delta body => validUtf8 body.delta

/-- `out_body.dump()` returns: it throws on a string that is not UTF-8. -/
def ClientMessage.dumps (m : ClientMessage) : Bool :=
  validUtf8 m.requestId && validUtf8 m.workId && validUtf8 m.object && m.data.dumps &&
    validUtf8 m.errorMessage

/-- What `curl_easy_perform` does next: it hands over received bytes, or it
returns, with the text of its error and the HTTP code. -/
inductive Transfer where
  | chunk (bytes : Bytes)
  | done (error : Option Bytes) (httpCode : Int)

inductive Op where
  | popNextRequest
  | loadStopping
  | nowMs
  | endpointWaitMs
  | selectEndpoint (req : InferenceRequest)
  | updateEndpointResult (attempt : Attempt) (ok : Bool) (latencyMs : Int)
  | countRetry
  | updateRecord (req : InferenceRequest) (status : RequestStatus) (errorMessage : Bytes)
  | onRequestFinish (ok timeout degraded : Bool)
      (totalLatencyMs queueWaitMs firstTokenLatencyMs : Int)
  | sendRawForUrl (message : ClientMessage)
  | curlEasyInit
  | curlEasyPerform
  | enqueue (req : InferenceRequest)
  | onQueueReject
  | onRequestAccepted (timeMs : Int)
  | recordPending (req : InferenceRequest)

/-- The responses. A pop without a request ends the worker. -/
def Op.Resp : Op → Type
  | .popNextRequest => Option InferenceRequest
  | .loadStopping => Bool
  | .nowMs => Int
  | .endpointWaitMs => Int
  | .selectEndpoint _ => Option (Attempt × VllmEndpoint)
  | .curlEasyInit => Bool
  | .curlEasyPerform => Transfer
  | .enqueue _ => Option (Int × String)
  | _ => Unit

/-- Code of the scheduler's threads. -/
abbrev Code := Prog Op Op.Resp

def ask (o : Op) : Code o.Resp := Prog.perform o

/-! The operations by name. -/

def popNext : Code (Option InferenceRequest) := ask .popNextRequest
def loadStopping : Code Bool := ask .loadStopping
def nowMs : Code Int := ask .nowMs
def readEndpointWaitMs : Code Int := ask .endpointWaitMs
def select (req : InferenceRequest) : Code (Option (Attempt × VllmEndpoint)) :=
  ask (.selectEndpoint req)
def reportResult (attempt : Attempt) (ok : Bool) (latencyMs : Int) : Code Unit :=
  ask (.updateEndpointResult attempt ok latencyMs)
def countRetry : Code Unit := ask .countRetry
def writeRecord (req : InferenceRequest) (status : RequestStatus) (errorMessage : Bytes) :
    Code Unit := ask (.updateRecord req status errorMessage)
def onRequestFinish (ok timeout degraded : Bool)
    (totalLatencyMs queueWaitMs firstTokenLatencyMs : Int) : Code Unit :=
  ask (.onRequestFinish ok timeout degraded totalLatencyMs queueWaitMs firstTokenLatencyMs)
def curlEasyInit : Code Bool := ask .curlEasyInit
def curlEasyPerform : Code Transfer := ask .curlEasyPerform

/-! ### Messages to the client -/

/-- `send_client_message`. The result says that an exception was thrown. -/
def sendClientMessage (m : ClientMessage) : Code Bool :=
  -- a request without a URL has no client, and its messages are not even dumped
  if m.outputUrl.isEmpty then pure false
  else if m.dumps then do
    ask (.sendRawForUrl m)
    return false
  else pure true

def emitText (req : InferenceRequest) (text : Bytes) : Code Bool :=
  if !req.enoutput then pure false
  else sendClientMessage
    { requestId := req.requestId, workId := req.workId, outputUrl := req.outputUrl,
      object := lit req.responseFormat, data := .text text, errorCode := 0, errorMessage := [] }

/-- The `data_body` of `emit_delta`. -/
def deltaBody (req : InferenceRequest) (delta : Bytes) (finish : Bool) (index : Int) : Delta where
  index := index
  -- the closing message carries no text, whatever its caller passes
  delta := if finish then [] else delta
  finish := finish
  action := req.action
  profileName := req.profileName
  model := req.logicalModel
  servedModel := if req.servedModel = "" then req.logicalModel else req.servedModel
  endpoint := req.endpointName
  degraded := req.degraded
  queueWaitMs := if finish then some req.queueWaitMs else none
  firstTokenLatencyMs := if finish then some req.firstTokenLatencyMs else none
  totalLatencyMs := if finish then some req.totalLatencyMs else none
  retryCount := if finish then some req.retryCount else none
  degradeReason := if req.degradeReason = "" then none else some req.degradeReason

def emitDelta (req : InferenceRequest) (delta : Bytes) (finish : Bool) (index : Int) : Code Bool :=
  if !req.enoutput then pure false
  else sendClientMessage
    { requestId := req.requestId, workId := req.workId, outputUrl := req.outputUrl,
      object := lit req.responseFormat, data := .delta (deltaBody req delta finish index),
      errorCode := 0, errorMessage := [] }

def emitError (req : InferenceRequest) (code : Int) (message : Bytes) : Code Bool :=
  sendClientMessage
    { requestId := req.requestId, workId := req.workId, outputUrl := req.outputUrl,
      object := lit "None", data := .text (lit "None"), errorCode := code, errorMessage := message }

end VllmRoute.Scheduler
