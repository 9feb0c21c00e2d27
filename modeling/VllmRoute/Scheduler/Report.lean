import VllmRoute.Scheduler.Config
import VllmRoute.Scheduler.Queue

/-!
# What `taskinfo` reports

The JSON object that `vllm_task::taskinfo` builds of the configuration, the
queue and the endpoints. The parts that other objects of the scheduler report
about themselves are values of the caller.
-/
namespace VllmRoute.Scheduler

inductive TaskStatus where
  | created
  | starting
  | ready
  | running
  | stopping
  | stopped
  | failed
  deriving DecidableEq

def statusToString : TaskStatus → String
  | .created => "created"
  | .starting => "starting"
  | .ready => "ready"
  | .running => "running"
  | .stopping => "stopping"
  | .stopped => "stopped"
  | .failed => "failed"

def circuitToString : CircuitState → String
  | .closed => "closed"
  | .opened => "open"
  | .halfOpen => "half_open"

/-- A `std::vector<std::string>` as a JSON value. -/
def stringArray (values : List String) : Json := .arr (values.map .str)

/-! ### The queue -/

/-- The values of the member `pressure`. -/
inductive Pressure where
  | normal
  | pressure
  | overload
  | full
  deriving DecidableEq

def Pressure.text : Pressure → String
  | .normal => "normal"
  | .pressure => "pressure"
  | .overload => "overload"
  | .full => "full"

structure QueueStats where
  high : Int := 0
  normal : Int := 0
  background : Int := 0
  pressure : Pressure := .normal
  deriving DecidableEq

def QueueStats.total (stats : QueueStats) : Int := stats.high + stats.normal + stats.background

/-- The loop over `pending_`. -/
def countRequest (highPriorityThreshold : Int) (stats : QueueStats) (req : InferenceRequest) :
    QueueStats :=
  if req.priority ≥ highPriorityThreshold then { stats with high := stats.high + 1 }
  else if req.priority ≥ 4 then { stats with normal := stats.normal + 1 }
  else { stats with background := stats.background + 1 }

/-- The chain of tests that decides on `pressure`. The products are those of `int`. -/
def queuePressure (maxQueueSize total : Int) : Pressure :=
  if maxQueueSize ≤ 0 ∨ total < (toInt32 (maxQueueSize * 6)).tdiv 10 then .normal
  else if total < (toInt32 (maxQueueSize * 9)).tdiv 10 then .pressure
  else if total < maxQueueSize then .overload
  else .full

def queueStats (highPriorityThreshold maxQueueSize : Int) (pending : List InferenceRequest) :
    QueueStats :=
  let stats := pending.foldl (countRequest highPriorityThreshold) {}
  { stats with pressure := queuePressure maxQueueSize stats.total }

def QueueStats.toJson (stats : QueueStats) : Json :=
  .obj [("high", .int stats.high), ("normal", .int stats.normal),
    ("background", .int stats.background), ("total", .int stats.total),
    ("pressure", .str stats.pressure.text)]

/-! ### Recent tasks -/

/-- A record that `records_json` passes over. -/
def skipsRecord (query : Json) (record : RequestRecord) : Bool :=
  let queryTaskId := jsonIntValue query "task_id" (-1)
  let queryRequestId := jsonStringValue query "request_id" ""
  let queryAction := jsonStringValue query "action_filter" ""
  (queryTaskId ≥ 0 && record.taskId ≠ queryTaskId) ||
    (queryRequestId ≠ "" && record.requestId ≠ lit queryRequestId) ||
    (queryAction ≠ "" && record.action ≠ queryAction)

def queryLimit (query : Json) : Int :=
  let limit := jsonIntValue query "limit" 20
  if limit ≤ 0 then 20 else limit

/-- The loop of `records_json`, over the records from the newest on. -/
def collectRecords (query : Json) : List RequestRecord → (emitted : Int) → List RequestRecord
  | [], _ => []
  | record :: older, emitted =>
    if emitted < queryLimit query then
      if skipsRecord query record then collectRecords query older emitted
      else record :: collectRecords query older (emitted + 1)
    else []

/-- `records_json`, with the records in place of their JSON objects. -/
def recordsJson (query : Json) (records : List RequestRecord) : List RequestRecord :=
  collectRecords query records.reverse 0

/-! ### Profiles and endpoints -/

def modelProfileJson (profile : ModelProfile) : Json :=
  .obj [("name", .str profile.name), ("actions", stringArray profile.actions),
    ("primary_model", .str profile.primaryModel),
    ("fallback_models", stringArray profile.fallbackModels),
    ("max_context_len", .int profile.maxContextLen), ("stream", .bool profile.stream),
    ("tool_calling", .bool profile.toolCalling),
    ("default_max_tokens", .int profile.defaultMaxTokens),
    ("default_timeout_ms", .int profile.defaultTimeoutMs),
    ("default_deadline_ms", .int profile.defaultDeadlineMs),
    ("default_priority", .int profile.defaultPriority),
    ("allow_model_fallback", .bool profile.allowModelFallback)]

def modelProfilesJsonUnlocked (profiles : List ModelProfile) : Json :=
  .arr (profiles.map modelProfileJson)

/-- An item of `endpoints`: neither `health_path` nor `api_key` is among its members. -/
def endpointJson (ep : VllmEndpoint) : Json :=
  .obj [("name", .str ep.name), ("base_url", .str ep.baseUrl),
    ("served_model", .str ep.servedModel), ("role", .str ep.role),
    ("logical_models", stringArray ep.logicalModels), ("weight", .int ep.weight),
    ("max_context_len", .int ep.maxContextLen), ("max_concurrency", .int ep.maxConcurrency),
    ("healthy", .bool ep.healthy), ("circuit_state", .str (circuitToString ep.circuitState)),
    ("inflight", .int ep.inflight),
    ("available_capacity", .int (max 0 (ep.maxConcurrency - ep.inflight))),
    ("capacity_utilization", .float (if ep.maxConcurrency ≤ 0 then 0.0
      else Float.ofInt ep.inflight / Float.ofInt ep.maxConcurrency)),
    ("avg_latency_ms", .int ep.avgLatencyMs.toInt32.toInt),
    ("last_latency_ms", .int ep.lastLatencyMs),
    ("last_health_check_ms", .int ep.lastHealthCheckMs),
    ("consecutive_failures", .int ep.consecutiveFailures),
    ("success_count", .int ep.successCount), ("failure_count", .int ep.failureCount),
    ("timeout_count", .int ep.timeoutCount), ("circuit_open_count", .int ep.circuitOpenCount)]

def primaryBaseUrl (endpoints : List VllmEndpoint) : String :=
  match endpoints with
  | [] => "None"
  | ep :: _ => if ep.baseUrl = "" then "None" else ep.baseUrl

/-! ### The whole report -/

/-- The rest of what `taskinfo` reads. `pending_count` is called several times, and the queue can
change in between. -/
structure TaskView where
  workId : String := "shared"
  status : TaskStatus := .ready
  retryCount : Int := 0
  pending : List InferenceRequest := []
  pendingCount : Int := 0
  queueSize : Int := 0
  metrics : Json := .null
  observability : Json := .null
  recentTasks : Json := .null

def taskinfo (pool : Pool) (view : TaskView) : Json :=
  let cfg := pool.cfg
  let endpoints := pool.endpoints.map pool.heap
  .obj [("work_id", .str view.workId), ("model", .str cfg.model), ("logical_model", .str cfg.model),
    ("response_format", .str cfg.responseFormat), ("enoutput", .bool cfg.enoutput),
    ("enstream", .bool cfg.enstream), ("inputs", stringArray cfg.inputs),
    ("status", .str (statusToString view.status)), ("timeout_ms", .int cfg.timeoutMs),
    ("deadline_ms", .int cfg.deadlineMs), ("retry_count", .int view.retryCount),
    ("max_retries", .int cfg.maxRetries), ("mock", .bool cfg.mockMode),
    ("max_queue_size", .int cfg.maxQueueSize),
    ("low_priority_drop_threshold", .int cfg.lowPriorityDropThreshold),
    ("high_priority_threshold", .int cfg.highPriorityThreshold),
    ("worker_count", .int cfg.workerCount), ("endpoint_wait_ms", .int cfg.endpointWaitMs),
    ("routing_strategy", .str cfg.routingStrategy), ("default_action", .str cfg.defaultAction),
    ("allow_model_fallback", .bool cfg.allowModelFallback),
    ("fallback_chain", stringArray cfg.fallbackChain),
    ("health_check_interval_ms", .int cfg.healthCheckIntervalMs),
    ("health_check_timeout_ms", .int cfg.healthCheckTimeoutMs),
    ("unhealthy_threshold", .int cfg.unhealthyThreshold),
    ("recovery_threshold", .int cfg.recoveryThreshold),
    ("circuit_failure_threshold", .int cfg.circuitFailureThreshold),
    ("circuit_open_ms", .int cfg.circuitOpenMs), ("config_version", .int cfg.configVersion),
    ("last_config_update_ms", .int cfg.lastConfigUpdateMs),
    ("config_update_count", .int cfg.configUpdateCount),
    ("model_profiles", modelProfilesJsonUnlocked cfg.modelProfiles),
    ("base_url", .str (primaryBaseUrl endpoints)), ("pending", .int view.pendingCount),
    ("queue_size", .int view.queueSize),
    ("queue_stats",
      (queueStats cfg.highPriorityThreshold cfg.maxQueueSize view.pending).toJson),
    ("metrics", view.metrics), ("observability", view.observability),
    ("recent_tasks", view.recentTasks), ("endpoints", .arr (endpoints.map endpointJson))]

end VllmRoute.Scheduler
