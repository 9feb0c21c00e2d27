import VllmRoute.Scheduler.Types

/-!
# Endpoint selection and the circuit breaker

`select_endpoint` and the two functions that report an outcome to an endpoint.
Endpoint objects live in a heap indexed by their identity (the `shared_ptr`),
and `endpoints_` is a list of identities. Every function here is one critical
section of `endpoints_mtx_`.
-/
namespace VllmRoute.Scheduler

/-- The `VllmEndpoint` objects, by identity. -/
abbrev Heap := Nat → VllmEndpoint

/-- The thresholds that a report reads under `config_mtx_` before it takes
`endpoints_mtx_`. -/
structure Thresholds where
  recoveryThreshold : Int
  unhealthyThreshold : Int
  circuitFailureThreshold : Int
  circuitOpenMs : Int

def TaskConfig.thresholds (cfg : TaskConfig) : Thresholds where
  recoveryThreshold := cfg.recoveryThreshold
  unhealthyThreshold := cfg.unhealthyThreshold
  circuitFailureThreshold := cfg.circuitFailureThreshold
  circuitOpenMs := cfg.circuitOpenMs

def deadlineExceeded (req : InferenceRequest) (nowMs : Int) : Bool :=
  req.deadlineMs > 0 && nowMs ≥ req.deadlineAtMs

def estimatePromptTokens (req : InferenceRequest) : Int :=
  toInt32 (toInt32 (req.prompt.length / 4 : Nat) + req.maxTokens)

/-- The iterators of the source are positions; a position equal to the length is `end()`. -/
def fallbackAllows (requestedModel servedModel : String) (fallbackChain : List String) : Bool :=
  if servedModel = requestedModel then true
  else
    let requested := fallbackChain.idxOf requestedModel
    let served := fallbackChain.idxOf servedModel
    -- the chain is read to the right only: a later model may stand in for an earlier one
    if requested = fallbackChain.length || served = fallbackChain.length then false
    else served ≥ requested

def isDegradedEndpoint (ep : VllmEndpoint) (req : InferenceRequest) : Bool :=
  if ep.servedModel = req.logicalModel then false
  -- the head of the chain is the preferred model, under whatever name it was asked for
  else if req.fallbackChain.head? = some ep.servedModel then false
  else if ep.role = "primary" && ep.logicalModels.contains req.logicalModel then false
  else true

def endpointSupportsRequest (ep : VllmEndpoint) (req : InferenceRequest) : Bool :=
  if ep.servedModel = req.logicalModel || ep.logicalModels.contains req.logicalModel then true
  else req.allowDegrade && fallbackAllows req.logicalModel ep.servedModel req.fallbackChain

def modelPreferenceRank (ep : VllmEndpoint) (req : InferenceRequest) : Int :=
  let served := req.fallbackChain.idxOf ep.servedModel
  -- a place in the chain wins, also over the requested model itself
  if served ≠ req.fallbackChain.length then toInt32 served
  else if ep.servedModel = req.logicalModel || ep.logicalModels.contains req.logicalModel then 0
  else intMax

/-- The lazy transition of `endpoint_available_locked` out of `Open`. -/
def reopen (ep : VllmEndpoint) : VllmEndpoint :=
  { ep with circuitState := .halfOpen, halfOpenInflight := 0 }

/-- The three tests of `endpoint_available_locked` that follow the transition. -/
def passesTests (ep : VllmEndpoint) : Bool :=
  if ep.circuitState = .halfOpen && ep.halfOpenInflight > 0 then false
  -- a probe goes out to an unhealthy endpoint
  else if !ep.healthy && ep.circuitState ≠ .halfOpen then false
  else if ep.inflight ≥ ep.maxConcurrency then false
  else true

/-- `endpoint_available_locked`: the answer, and the object as the call leaves it. -/
def endpointAvailableLocked (ep : VllmEndpoint) (currentMs : Int) : Bool × VllmEndpoint :=
  if ep.circuitState = .opened then
    -- the write stays, also when the endpoint is not chosen afterwards
    if currentMs ≥ ep.circuitOpenUntilMs then (passesTests (reopen ep), reopen ep)
    else (false, ep)
  else (passesTests ep, ep)

def endpointScore (ep : VllmEndpoint) (req : InferenceRequest) (degraded : Bool)
    (highPriorityThreshold : Int) : Int :=
  ep.weight * 10
    - (ep.inflight * 500).tdiv (max 1 ep.maxConcurrency)
    - (ep.avgLatencyMs / 20.0).toInt32.toInt
    - ep.consecutiveFailures * 250
    - (if degraded then 2000 else 0)
    - (if ep.role = "fallback" && req.priority ≥ highPriorityThreshold then 500 else 0)
    - (if ep.role = "overflow" then 50 else 0)
    - (if ep.circuitState = .halfOpen then 300 else 0)

/-- Locals of the selection loop, with the heap it writes. -/
structure Scan where
  heap : Heap
  best : Option Nat := none
  bestRank : Int := intMax
  bestScore : Int := intMin

/-- What the loop does with an endpoint that is available: `best.reset()` on a
better rank, and a skip of degraded endpoints only after that reset. -/
def scanCandidate (req : InferenceRequest) (highPriorityThreshold : Int) (scan : Scan)
    (id : Nat) : Scan :=
  let ep := scan.heap id
  let rank := modelPreferenceRank ep req
  if rank = intMax then scan
  else if scan.best.isSome && rank > scan.bestRank then scan
  else
    let scan := if scan.best.isNone || rank < scan.bestRank
      then { scan with best := none, bestRank := rank, bestScore := intMin } else scan
    let degraded := isDegradedEndpoint ep req
    if degraded && !req.allowDegrade then scan
    else
      let score := endpointScore ep req degraded highPriorityThreshold
      if scan.best.isNone || score > scan.bestScore
        then { scan with best := some id, bestScore := score } else scan

/-- One iteration of the selection loop. -/
def scanEndpoint (req : InferenceRequest) (highPriorityThreshold currentMs : Int) (scan : Scan)
    (id : Nat) : Scan :=
  if !endpointSupportsRequest (scan.heap id) req then scan
  else
    let (available, ep) := endpointAvailableLocked (scan.heap id) currentMs
    -- the test may have moved the circuit to half open
    let scan := { scan with heap := Function.update scan.heap id ep }
    if !available then scan
    else if ep.maxContextLen > 0 && estimatePromptTokens req > ep.maxContextLen then scan
    else scanCandidate req highPriorityThreshold scan id

/-- The counters of the winner. -/
def dispatch (ep : VllmEndpoint) : VllmEndpoint :=
  { ep with
    inflight := ep.inflight + 1
    halfOpenInflight :=
      if ep.circuitState = .halfOpen then ep.halfOpenInflight + 1 else ep.halfOpenInflight }

def selectEndpoint (req : InferenceRequest) (highPriorityThreshold currentMs : Int)
    (endpoints : List Nat) (heap : Heap) : Option Nat × Heap :=
  let scan := endpoints.foldl (scanEndpoint req highPriorityThreshold currentMs) { heap := heap }
  match scan.best with
  | some id => (some id, Function.update scan.heap id (dispatch (scan.heap id)))
  | none => (none, scan.heap)

/-- `prepare_request_for_endpoint` -/
def prepareRequestForEndpoint (req : InferenceRequest) (ep : VllmEndpoint) : InferenceRequest :=
  let degraded := isDegradedEndpoint ep req
  { req with
    endpointName := ep.name
    servedModel := ep.servedModel
    degraded := degraded
    degradeReason :=
      if degraded then (if ep.role = "fallback" then "fallback_endpoint" else "model_fallback")
      else req.degradeReason }

/-- The moving average of the two report functions, with their own weights. -/
def blendLatency (keep take avg : Float) (latencyMs : Int) : Float :=
  if latencyMs > 0 then
    if avg ≤ 0.0 then Float.ofInt latencyMs else avg * keep + Float.ofInt latencyMs * take
  else avg

/-- The tail that the failure branches of both report functions share. -/
def countFailure (th : Thresholds) (nowMs : Int) (ep : VllmEndpoint) : VllmEndpoint :=
  let ep := { ep with
    consecutiveFailures := ep.consecutiveFailures + 1
    consecutiveSuccesses := 0 }
  -- both thresholds look at the same count, which a success resets
  let ep := if ep.consecutiveFailures ≥ th.unhealthyThreshold
    then { ep with healthy := false } else ep
  if ep.consecutiveFailures ≥ th.circuitFailureThreshold then
    { ep with
      -- a failure of an open circuit starts its waiting time again
      circuitOpenCount :=
        if ep.circuitState ≠ .opened then ep.circuitOpenCount + 1 else ep.circuitOpenCount
      circuitState := .opened
      circuitOpenUntilMs := nowMs + th.circuitOpenMs }
  else ep

/-- The success branches of both report functions, which write the circuit state
in their own way once the recovery threshold is reached. -/
def countSuccess (th : Thresholds) (close : CircuitState → CircuitState) (ep : VllmEndpoint) :
    VllmEndpoint :=
  let ep := { ep with
    consecutiveSuccesses := ep.consecutiveSuccesses + 1
    consecutiveFailures := 0 }
  if ep.consecutiveSuccesses ≥ th.recoveryThreshold
    then { ep with healthy := true, circuitState := close ep.circuitState } else ep

/-- The start of `update_endpoint_result`: the attempt gives its slots back. -/
def releaseSlot (ep : VllmEndpoint) : VllmEndpoint :=
  { ep with
    inflight := if ep.inflight > 0 then ep.inflight - 1 else ep.inflight
    halfOpenInflight :=
      if ep.halfOpenInflight > 0 then ep.halfOpenInflight - 1 else ep.halfOpenInflight }

def updateEndpointResult (th : Thresholds) (nowMs : Int) (ok : Bool) (latencyMs : Int)
    (ep : VllmEndpoint) : VllmEndpoint :=
  let ep := { releaseSlot ep with
    lastLatencyMs := latencyMs
    avgLatencyMs := blendLatency 0.8 0.2 ep.avgLatencyMs latencyMs }
  if ok then countSuccess th (fun _ => .closed) { ep with successCount := ep.successCount + 1 }
  else countFailure th nowMs { ep with failureCount := ep.failureCount + 1 }

def updateEndpointHealth (th : Thresholds) (nowMs : Int) (ok : Bool) (latencyMs : Int)
    (ep : VllmEndpoint) : VllmEndpoint :=
  let ep := { ep with
    lastHealthCheckMs := nowMs
    lastLatencyMs := if latencyMs > 0 then latencyMs else ep.lastLatencyMs
    avgLatencyMs := blendLatency 0.9 0.1 ep.avgLatencyMs latencyMs }
  if ok then
    countSuccess th
      (fun state => if state = .halfOpen || state = .opened then .closed else state) ep
  else countFailure th nowMs ep

/-! ### Fields that reports do not touch -/

section Fields

variable (th : Thresholds) (close : CircuitState → CircuitState) (nowMs : Int) (ok : Bool)
  (latencyMs : Int) (ep : VllmEndpoint)

/-- A function that counts an outcome leaves everything but the breaker alone. -/
structure KeepsSlots (before after : VllmEndpoint) : Prop where
  inflight : after.inflight = before.inflight
  halfOpenInflight : after.halfOpenInflight = before.halfOpenInflight
  maxConcurrency : after.maxConcurrency = before.maxConcurrency
  baseUrl : after.baseUrl = before.baseUrl
  servedModel : after.servedModel = before.servedModel

theorem countFailure_keepsSlots : KeepsSlots ep (countFailure th nowMs ep) := by
  unfold countFailure
  dsimp only
  split <;> split <;> exact ⟨rfl, rfl, rfl, rfl, rfl⟩

theorem countSuccess_keepsSlots : KeepsSlots ep (countSuccess th close ep) := by
  unfold countSuccess
  dsimp only
  split <;> exact ⟨rfl, rfl, rfl, rfl, rfl⟩

theorem updateEndpointResult_keepsSlots :
    KeepsSlots (releaseSlot ep) (updateEndpointResult th nowMs ok latencyMs ep) := by
  cases ok
  · obtain ⟨inflight, half, capacity, url, model⟩ := countFailure_keepsSlots th nowMs _
    exact ⟨inflight, half, capacity, url, model⟩
  · obtain ⟨inflight, half, capacity, url, model⟩ := countSuccess_keepsSlots th (fun _ => .closed) _
    exact ⟨inflight, half, capacity, url, model⟩

theorem updateEndpointHealth_keepsSlots :
    KeepsSlots ep (updateEndpointHealth th nowMs ok latencyMs ep) := by
  cases ok
  · obtain ⟨inflight, half, capacity, url, model⟩ := countFailure_keepsSlots th nowMs _
    exact ⟨inflight, half, capacity, url, model⟩
  · obtain ⟨inflight, half, capacity, url, model⟩ := countSuccess_keepsSlots th _ _
    exact ⟨inflight, half, capacity, url, model⟩

end Fields

end VllmRoute.Scheduler
