import VllmRoute.Json

/-! Data model of `vllm_task`: requests, endpoints, records and the configuration. -/
namespace VllmRoute.Scheduler

/-- `CircuitState`; `opened` is the source's `Open`. -/
inductive CircuitState where
  | closed
  | opened
  | halfOpen
  deriving DecidableEq

inductive RequestStatus where
  | pending
  | running
  | success
  | failed
  | timeout
  | cancelled
  deriving DecidableEq

/-- The statuses after which a request is over. -/
def RequestStatus.terminal : RequestStatus → Bool
  | .success | .failed | .timeout | .cancelled => true
  | .pending | .running => false

structure InferenceRequest where
  taskId : Int := 0
  requestId : Bytes := []
  workId : Bytes := []
  outputUrl : Bytes := []
  object : Bytes := []
  action : String := ""
  profileName : String := ""
  prompt : Bytes := []
  systemPrompt : String := ""
  responseFormat : String := "llm.utf-8.stream"
  sessionDefaultAction : String := "chat"
  logicalModel : String := ""
  servedModel : String := ""
  endpointName : String := ""
  fallbackChain : List String := []
  priority : Int := 5
  timeoutMs : Int := 30000
  deadlineMs : Int := 70000
  maxRetries : Int := 0
  maxTokens : Int := 1024
  retryCount : Int := 0
  createdMs : Int := 0
  startedMs : Int := 0
  finishedMs : Int := 0
  deadlineAtMs : Int := 0
  queueWaitMs : Int := 0
  firstTokenLatencyMs : Int := -1
  totalLatencyMs : Int := -1
  allowDegrade : Bool := true
  degraded : Bool := false
  enoutput : Bool := true
  enstream : Bool := true
  degradeReason : String := ""
  deriving DecidableEq

structure VllmEndpoint where
  name : String := ""
  baseUrl : String := ""
  servedModel : String := ""
  role : String := "primary"
  healthPath : String := "/health"
  apiKey : String := ""
  logicalModels : List String := []
  weight : Int := 100
  maxContextLen : Int := 0
  maxConcurrency : Int := 1
  healthy : Bool := true
  circuitState : CircuitState := .closed
  inflight : Int := 0
  consecutiveFailures : Int := 0
  consecutiveSuccesses : Int := 0
  halfOpenInflight : Int := 0
  circuitOpenUntilMs : Int := 0
  lastHealthCheckMs : Int := 0
  lastLatencyMs : Int := 0
  avgLatencyMs : Float := 0.0
  successCount : Nat := 0
  failureCount : Nat := 0
  timeoutCount : Nat := 0
  circuitOpenCount : Nat := 0

structure ModelProfile where
  name : String := ""
  actions : List String := []
  primaryModel : String := ""
  fallbackModels : List String := []
  maxContextLen : Int := 0
  stream : Bool := true
  toolCalling : Bool := false
  defaultMaxTokens : Int := 0
  defaultTimeoutMs : Int := 0
  defaultDeadlineMs : Int := 0
  defaultPriority : Int := -1
  allowModelFallback : Bool := true

structure RequestRecord where
  taskId : Int := 0
  requestId : Bytes := []
  workId : Bytes := []
  action : String := ""
  profileName : String := ""
  logicalModel : String := ""
  servedModel : String := ""
  endpointName : String := ""
  status : RequestStatus := .pending
  priority : Int := 5
  retryCount : Int := 0
  degraded : Bool := false
  errorMessage : Bytes := []
  createdMs : Int := 0
  startedMs : Int := 0
  finishedMs : Int := 0
  queueWaitMs : Int := 0
  firstTokenLatencyMs : Int := -1
  totalLatencyMs : Int := -1

/-- The configuration fields of `vllm_task`, those under `config_mtx_`. -/
structure TaskConfig where
  model : String := ""
  responseFormat : String := ""
  enoutput : Bool := true
  enstream : Bool := false
  prompt : String := ""
  timeoutMs : Int := 30000
  deadlineMs : Int := 70000
  maxRetries : Int := 0
  maxTokens : Int := 1024
  temperature : String := ""
  baseUrl : String := ""
  apiKey : String := ""
  endpoint : String := ""
  routingStrategy : String := "weighted_least_queue"
  defaultAction : String := "chat"
  workerCount : Int := 2
  endpointWaitMs : Int := 2000
  maxQueueSize : Int := 64
  maxTaskRecords : Nat := 1000
  lowPriorityDropThreshold : Int := 48
  highPriorityThreshold : Int := 7
  defaultPriority : Int := 5
  healthCheckIntervalMs : Int := 5000
  healthCheckTimeoutMs : Int := 2000
  unhealthyThreshold : Int := 3
  recoveryThreshold : Int := 2
  circuitFailureThreshold : Int := 5
  circuitOpenMs : Int := 30000
  allowModelFallback : Bool := true
  fallbackChain : List String := []
  mockMode : Bool := true
  inputs : List String := []
  modelProfiles : List ModelProfile := []
  configVersion : Int := 1
  lastConfigUpdateMs : Int := 0
  configUpdateCount : Int := 0

end VllmRoute.Scheduler
