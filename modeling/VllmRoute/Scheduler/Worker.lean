import VllmRoute.Scheduler.Backend
import VllmRoute.Scheduler.Queue

/-!
# Workers and producers

`worker_loop` with `handle_request`, `wait_for_endpoint` and `call_vllm` inlined
at their call sites, and `inference`. The heads of the loops are the `Point`s:
the worker's own loop, the attempts, the wait for an endpoint, and the
transfer, where libcurl calls back any number of times. An exception that
leaves a thread ends the process, which is the point `crashed`.
-/
namespace VllmRoute.Scheduler

open Lib

/-- The variables of the attempt loop of `handle_request`. -/
structure Retry where
  req : InferenceRequest
  attempt : Int := 0
  streamStarted : Bool := false
  errorMessage : Bytes := []
  finalReq : InferenceRequest

inductive Point where
  | top
  | attempts (l : Retry)
  | waiting (l : Retry) (waitUntilMs : Int)
  | transfer (l : Retry) (attempt : Attempt) (attemptReq : InferenceRequest)
      (streamState : StreamState) (responseBody : Bytes)
  | exited
  | crashed

/-- `deadline_exceeded`, with its own look at the clock. -/
def readDeadlineExceeded (req : InferenceRequest) : Code Bool :=
  if req.deadlineMs > 0 then (fun now => deadlineExceeded req now) <$> nowMs else pure false

/-- The end of `handle_request` for a request that did not succeed. -/
def failRequest (l : Retry) : Code Point := do
  -- a stop drops the request here, without a record and without a message
  if ← loadStopping then return .top
  let errorMessage := if l.errorMessage.isEmpty then lit "vLLM request failed" else l.errorMessage
  -- the code is told from the text, also when a backend wrote that text
  let timeout := errorMessage = lit "deadline exceeded"
  let code := if timeout then -42 else -41
  let finishedMs ← nowMs
  let finalReq := { l.finalReq with
    finishedMs := finishedMs, totalLatencyMs := finishedMs - l.finalReq.startedMs }
  writeRecord finalReq (if timeout then .timeout else .failed) errorMessage
  onRequestFinish false timeout finalReq.degraded finalReq.totalLatencyMs finalReq.queueWaitMs
    finalReq.firstTokenLatencyMs
  if ← emitError finalReq code errorMessage then return .crashed
  return .top

/-- The rest of an attempt once `call_vllm` has returned `ok`. -/
def afterCall (l : Retry) (attempt : Attempt) (attemptReq : InferenceRequest)
    (ok streamStarted : Bool) (errorMessage : Bytes) : Code Point := do
  let latencyMs := if attemptReq.totalLatencyMs ≥ 0 then attemptReq.totalLatencyMs else 0
  reportResult attempt ok latencyMs
  if ok then
    let finishedMs ← nowMs
    let finalReq := { attemptReq with finishedMs := finishedMs }
    writeRecord finalReq .success []
    onRequestFinish true false finalReq.degraded finalReq.totalLatencyMs finalReq.queueWaitMs
      finalReq.firstTokenLatencyMs
    return .top
  -- a broken stream is not retried: the client has a part of the answer
  countRetry
  if streamStarted then
    failRequest { l with
      streamStarted := streamStarted, finalReq := attemptReq
      errorMessage := lit "vLLM stream failed after output started: " ++ errorMessage }
  else
    return .attempts { l with
      attempt := l.attempt + 1, streamStarted := streamStarted, finalReq := attemptReq
      errorMessage := errorMessage }

/-- An attempt on the endpoint that was selected, up to `curl_easy_perform`. The
body of the request is dumped before it, and that throws on a prompt that is
not UTF-8. -/
def beginAttempt (l : Retry) (attempt : Attempt) (endpoint : VllmEndpoint) : Code Point := do
  let attemptReq := prepareRequestForEndpoint { l.req with retryCount := l.attempt } endpoint
  if ← curlEasyInit then
    -- the dump of the request body
    if validUtf8 attemptReq.prompt then
      let beginMs ← nowMs
      return .transfer l attempt attemptReq { beginMs := beginMs } []
    else return .crashed
  else afterCall l attempt attemptReq false l.streamStarted (lit "curl_easy_init failed")

def noEndpoint (l : Retry) : Code Point :=
  failRequest { l with errorMessage := lit "no healthy endpoint or endpoint capacity timeout" }

/-- The head of the attempt loop, and the first look of `wait_for_endpoint`. -/
def attemptLoop (l : Retry) : Code Point := do
  -- the two halves of the loop condition, in their order
  if ¬ l.attempt ≤ l.req.maxRetries then failRequest l
  else if ← loadStopping then failRequest l
  else if ← readDeadlineExceeded l.req then
    failRequest { l with errorMessage := lit "deadline exceeded" }
  else
    match ← select l.req with
    | some (attempt, endpoint) => beginAttempt l attempt endpoint
    | none =>
      -- `endpoint_wait_ms_` is read twice, and a reload may come between
      if (← readEndpointWaitMs) ≤ 0 then noEndpoint l
      else
        let now ← nowMs
        return .waiting l (min l.req.deadlineAtMs (now + (← readEndpointWaitMs)))

/-- The loop of `wait_for_endpoint`. -/
def waitLoop (l : Retry) (waitUntilMs : Int) : Code Point := do
  if ← loadStopping then noEndpoint l
  else if ¬ (← nowMs) < waitUntilMs then noEndpoint l
  else
    match ← select l.req with
    | some (attempt, endpoint) => beginAttempt l attempt endpoint
    | none =>
      if ← readDeadlineExceeded l.req then noEndpoint l
      else return .waiting l waitUntilMs

/-- `call_vllm` after `curl_easy_perform` has returned. -/
def finishCall (codec : Codec) (l : Retry) (attempt : Attempt) (attemptReq : InferenceRequest)
    (streamState : StreamState) (responseBody : Bytes) (error : Option Bytes) (httpCode : Int) :
    Code Point := do
  let finishedMs ← nowMs
  let attemptReq := { attemptReq with
    finishedMs := finishedMs
    totalLatencyMs := finishedMs - attemptReq.startedMs
    firstTokenLatencyMs := streamState.firstTokenLatencyMs }
  -- every failure leaves `call_vllm` by the same way, with its text
  let failed := afterCall l attempt attemptReq false streamState.started
  match error with
  | some message => failed message
  | none =>
    if httpCode < 200 ∨ httpCode ≥ 300 then
      -- the body is quoted as it came
      failed (lit "HTTP " ++ lit (toString httpCode) ++ lit ": " ++ responseBody)
    else if attemptReq.enstream then
      if streamState.failed then failed streamState.errorMessage
      else if ← emitDelta attemptReq [] true streamState.index then return .crashed
      else afterCall l attempt attemptReq true streamState.started l.errorMessage
    else
      match extractResponseText codec responseBody with
      | .error message => failed message
      | .ok text =>
        if ← emitText attemptReq (lit text) then return .crashed
        else afterCall l attempt attemptReq true streamState.started l.errorMessage

/-- One callback of libcurl, or the return of `curl_easy_perform`. -/
def transferLoop (codec : Codec) (l : Retry) (attempt : Attempt) (attemptReq : InferenceRequest)
    (streamState : StreamState) (responseBody : Bytes) : Code Point := do
  match ← curlEasyPerform with
  | .chunk bytes =>
    if attemptReq.enstream then
      let streamState ← writeStreamCallback codec attemptReq streamState bytes
      return .transfer l attempt attemptReq streamState responseBody
    else return .transfer l attempt attemptReq streamState (responseBody ++ bytes)
  | .done error httpCode =>
    finishCall codec l attempt attemptReq streamState responseBody error httpCode

/-- `run_mock`, which always succeeds. The result says that an exception was thrown. -/
def runMock (req : InferenceRequest) : Code Bool := do
  if req.enstream then
    if ← emitDelta req req.prompt false 0 then return true
    if ← emitDelta req (lit " [mock-vllm]") false 1 then return true
    emitDelta req [] true 2
  else emitText req (req.prompt ++ lit " [mock-vllm]")

def handleMock (model : String) (req : InferenceRequest) : Code Point := do
  let mockReq := { req with endpointName := "mock", servedModel := model }
  -- a mock run takes no endpoint and never retries
  if ← runMock mockReq then return .crashed
  let finishedMs ← nowMs
  let mockReq := { mockReq with
    finishedMs := finishedMs, totalLatencyMs := finishedMs - mockReq.startedMs }
  writeRecord mockReq .success []
  onRequestFinish true false false mockReq.totalLatencyMs mockReq.queueWaitMs
    mockReq.firstTokenLatencyMs
  return .top

def handleRequest (cfg : TaskConfig) (req : InferenceRequest) : Code Point :=
  if cfg.mockMode then handleMock cfg.model req
  else pure (.attempts { req := req, finalReq := req })

/-- One round of `worker_loop`. -/
def workerRound (cfg : TaskConfig) : Code Point := do
  match ← popNext with
  | none => return .exited
  | some req =>
    let startedMs ← nowMs
    -- the record may not exist yet: `inference` writes it after the enqueue
    let req := { req with startedMs := startedMs, queueWaitMs := startedMs - req.createdMs }
    writeRecord req .running []
    handleRequest cfg req

/-- The code of a worker at each of its loop heads. -/
def worker (codec : Codec) (cfg : TaskConfig) : Point → Option (Code Point)
  | .top => some (workerRound cfg)
  | .attempts l => some (attemptLoop l)
  | .waiting l waitUntilMs => some (waitLoop l waitUntilMs)
  | .transfer l attempt attemptReq streamState responseBody =>
    some (transferLoop codec l attempt attemptReq streamState responseBody)
  | .exited => none
  | .crashed => none

/-- `inference`, for a request whose other fields are already filled in. The
result says that an exception was thrown. -/
def inference (req : InferenceRequest) : Code Bool := do
  let createdMs ← nowMs
  let req := { req with createdMs := createdMs, deadlineAtMs := createdMs + req.deadlineMs }
  -- from here on the workers see the request
  match ← ask (.enqueue req) with
  | some (code, message) =>
    ask .onQueueReject
    emitError req code (lit message)
  | none =>
    ask (.onRequestAccepted req.createdMs)
    ask (.recordPending req)
    return false

end VllmRoute.Scheduler
