import VllmRoute.Scheduler.Routing

/-!
# Loading and reloading the configuration

`parse_config`, `reload_config` and the functions that turn a JSON body into
profiles and endpoint objects. An `Except.error` is the early return with its
message.
-/
namespace VllmRoute.Scheduler

/-- The environment variables that `parse_config` reads, empty when unset. -/
structure Environment where
  vllmBaseUrl : String := ""
  vllmApiKey : String := ""
  vllmMock : String := ""

def containsText (haystack needle : String) : Bool :=
  haystack.toList.tails.any fun rest => needle.toList.isPrefixOf rest

def buildModelProfile (item : Json) (defaultModel : String) : ModelProfile :=
  let primary := jsonStringValue item "primary_model" (jsonStringValue item "model" defaultModel)
  let given := jsonStringValue item "name" ""
  -- the name falls back to the model as it was read, the model to the default after that
  let name := if given = "" then primary else given
  let actions := jsonStringArrayValue item "actions"
  { name := name
    actions := if actions.isEmpty then [name] else actions
    primaryModel := if primary = "" then defaultModel else primary
    fallbackModels := jsonStringArrayValue item "fallback_models"
    maxContextLen := jsonIntValue item "max_context_len" 0
    stream := jsonBoolValue item "stream" true
    toolCalling := jsonBoolValue item "tool_calling" false
    defaultMaxTokens := jsonIntValue item "default_max_tokens" 0
    defaultTimeoutMs := jsonIntValue item "default_timeout_ms" 0
    defaultDeadlineMs := jsonIntValue item "default_deadline_ms" 0
    defaultPriority := jsonIntValue item "default_priority" (-1)
    allowModelFallback := jsonBoolValue item "allow_model_fallback" true }

def buildModelProfilesFromConfig (body : Json) (defaultModel : String) :
    Except String (List ModelProfile) :=
  match body.get? "model_profiles" with
  | none => .ok []
  -- items that are no objects are passed over in silence, also on a reload
  | some (.arr items) => .ok ((items.filter Json.isObject).map (buildModelProfile · defaultModel))
  | some _ => .error "model_profiles must be an array"

/-- One object of the endpoint array, at its position among the objects. -/
def buildEndpointItem (item : Json) (index : Nat) (defaultModel defaultApiKey : String)
    (mockMode : Bool) : Except String VllmEndpoint :=
  let servedModel :=
    jsonStringValue item "served_model" (jsonStringValue item "model" defaultModel)
  let listed := jsonStringArrayValue item "logical_models"
  let logicalModels := if listed.isEmpty then [defaultModel] else listed
  let ep : VllmEndpoint :=
    { name := jsonStringValue item "name" ("endpoint-" ++ toString index)
      baseUrl := trimRightSlash (jsonStringValue item "base_url" "")
      servedModel := servedModel
      role := jsonStringValue item "role" (if index = 0 then "primary" else "fallback")
      healthPath := jsonStringValue item "health_path" "/health"
      apiKey := jsonStringValue item "api_key" defaultApiKey
      -- the served model can always be asked for by its own name
      logicalModels :=
        if logicalModels.contains servedModel then logicalModels
        else logicalModels ++ [servedModel]
      weight := jsonIntValue item "weight" (if index = 0 then 100 else 10)
      maxContextLen := jsonIntValue item "max_context_len" 0
      maxConcurrency := max 1 (jsonIntValue item "max_concurrency" 1) }
  -- the order of the checks decides which message the caller sees
  if ep.baseUrl = "" && !mockMode then .error ("endpoint missing base_url: " ++ ep.name)
  else if ep.servedModel = "" then .error ("endpoint missing served_model: " ++ ep.name)
  else .ok ep

def buildEndpointItems (defaultModel defaultApiKey : String) (mockMode strictItems : Bool) :
    List Json → Nat → Except String (List VllmEndpoint)
  | [], _ => .ok []
  | item :: rest, index =>
    if item.isObject then do
      let ep ← buildEndpointItem item index defaultModel defaultApiKey mockMode
      let eps ← buildEndpointItems defaultModel defaultApiKey mockMode strictItems rest (index + 1)
      return ep :: eps
    else if strictItems then .error "endpoint item must be an object"
    -- a skipped item takes no position
    else buildEndpointItems defaultModel defaultApiKey mockMode strictItems rest index

/-- The array under `endpoints`, else under `vllm_endpoints`, else none. -/
def endpointArray (body : Json) : Except String (List Json) :=
  match body.get? "endpoints", body.get? "vllm_endpoints" with
  -- `vllm_endpoints` is not even looked at when `endpoints` is there
  | some (.arr items), _ => .ok items
  | some _, _ => .error "endpoints must be an array"
  | none, some (.arr items) => .ok items
  | none, some _ => .error "vllm_endpoints must be an array"
  | none, none => .ok []

def defaultEndpoint (defaultModel defaultBaseUrl defaultApiKey : String) : VllmEndpoint :=
  { name := "default"
    baseUrl := defaultBaseUrl
    servedModel := defaultModel
    logicalModels := [defaultModel]
    role := "primary"
    apiKey := defaultApiKey
    maxConcurrency := 1 }

/-- The last check of `build_endpoints_from_config`, on the whole list. -/
def checkBaseUrls (mockMode : Bool) (eps : List VllmEndpoint) : Except String (List VllmEndpoint) :=
  if !mockMode && eps.any (fun ep => ep.baseUrl = "") then
    .error "missing vllm_base_url, VLLM_BASE_URL, or endpoints[].base_url"
  else .ok eps

/-- `build_endpoints_from_config` up to the choice between sharing and copying,
which belongs to its two callers. -/
def buildEndpointsFromConfig (body : Json) (defaultModel defaultBaseUrl defaultApiKey : String)
    (mockMode strictItems : Bool) : Except String (List VllmEndpoint) := do
  let items ← endpointArray body
  let built ← buildEndpointItems defaultModel defaultApiKey mockMode strictItems items 0
  checkBaseUrls mockMode
    (if built.isEmpty then [defaultEndpoint defaultModel defaultBaseUrl defaultApiKey] else built)

def fillDefaultFallbackChain (fallbackChain : List String) (defaultModel : String)
    (endpoints : List VllmEndpoint) : List String :=
  if fallbackChain.isEmpty then
    -- the model itself, then the served models in their order, each once
    endpoints.foldl (fun chain ep =>
      if chain.contains ep.servedModel then chain else chain ++ [ep.servedModel]) [defaultModel]
  else fallbackChain

/-- The endpoint objects of a scheduler: the heap, the first unused identity,
`endpoints_` and the process-wide `global_endpoints_` (newest entry first). -/
structure Pool where
  cfg : TaskConfig
  heap : Heap
  next : Nat
  endpoints : List Nat
  globalEndpoints : List (String × Nat)

def endpointRuntimeKey (ep : VllmEndpoint) : String := ep.baseUrl ++ "|" ++ ep.servedModel

/-- The object found by `share_endpoint_runtime` takes over the configured fields. -/
def adoptConfiguration (existing configured : VllmEndpoint) : VllmEndpoint :=
  { existing with
    name := configured.name
    role := configured.role
    healthPath := configured.healthPath
    apiKey := configured.apiKey
    logicalModels := configured.logicalModels
    weight := configured.weight
    maxContextLen := configured.maxContextLen
    maxConcurrency := configured.maxConcurrency }

/-- `share_endpoint_runtime` followed by the `push_back` of its result. -/
def shareEndpointRuntime (pool : Pool) (configured : VllmEndpoint) : Pool :=
  match pool.globalEndpoints.lookup (endpointRuntimeKey configured) with
  -- the object of another scheduler, or of an earlier item, is taken over and renamed
  | some id =>
    { pool with
      heap := Function.update pool.heap id (adoptConfiguration (pool.heap id) configured)
      endpoints := pool.endpoints ++ [id] }
  | none =>
    { pool with
      heap := Function.update pool.heap pool.next configured
      next := pool.next + 1
      endpoints := pool.endpoints ++ [pool.next]
      globalEndpoints := (endpointRuntimeKey configured, pool.next) :: pool.globalEndpoints }

def copyEndpointRuntimeFields (target source : VllmEndpoint) : VllmEndpoint :=
  { target with
    healthy := source.healthy
    circuitState := source.circuitState
    consecutiveFailures := source.consecutiveFailures
    consecutiveSuccesses := source.consecutiveSuccesses
    circuitOpenUntilMs := source.circuitOpenUntilMs
    lastHealthCheckMs := source.lastHealthCheckMs
    lastLatencyMs := source.lastLatencyMs
    avgLatencyMs := source.avgLatencyMs
    successCount := source.successCount
    failureCount := source.failureCount
    timeoutCount := source.timeoutCount
    circuitOpenCount := source.circuitOpenCount
    -- the counts of the old object stay with the attempts that hold it
    inflight := 0
    halfOpenInflight := 0 }

/-- `old_by_key`: assignment overwrites, so the last endpoint of a key is found. -/
def oldByKey (heap : Heap) (endpoints : List Nat) (key : String) : Option VllmEndpoint :=
  (endpoints.reverse.find? fun id => endpointRuntimeKey (heap id) = key).map heap

/-- The object made for a configured endpoint, with the history of its predecessor. -/
def carryRuntime (old : String → Option VllmEndpoint) (configured : VllmEndpoint) : VllmEndpoint :=
  match old (endpointRuntimeKey configured) with
  | some source => copyEndpointRuntimeFields configured source
  | none => configured

/-- The loop body of `commit_reloaded_endpoints_locked`: a fresh object, published. -/
def commitEndpoint (old : String → Option VllmEndpoint) (pool : Pool)
    (configured : VllmEndpoint) : Pool :=
  { pool with
    heap := Function.update pool.heap pool.next (carryRuntime old configured)
    next := pool.next + 1
    endpoints := pool.endpoints ++ [pool.next]
    globalEndpoints := (endpointRuntimeKey configured, pool.next) :: pool.globalEndpoints }

def commitReloadedEndpointsLocked (pool : Pool) (configured : List VllmEndpoint) : Pool :=
  configured.foldl (commitEndpoint (oldByKey pool.heap pool.endpoints))
    { pool with endpoints := [] }

/-- The fields of `parse_config` that are read before any check. -/
def readConfig (env : Environment) (body : Json) : TaskConfig :=
  let responseFormat := jsonStringValue body "response_format" "llm.utf-8"
  let timeoutMs := jsonIntValue body "timeout_ms" 30000
  let baseUrl := jsonStringValue body "vllm_base_url" env.vllmBaseUrl
  let maxQueueSize := jsonIntValue body "max_queue_size" 64
  let policy := match body.get? "degrade_policy" with
    | some (.obj members) => .obj members
    | _ => body
  -- mock mode is the default only when nothing names a backend
  let noBackend := baseUrl = "" && !(body.contains "endpoints" || body.contains "vllm_endpoints")
  let defaultMock := if env.vllmMock = "" then noBackend else parseBoolString env.vllmMock noBackend
  { model := jsonStringValue body "model" ""
    responseFormat := responseFormat
    enoutput := jsonBoolValue body "enoutput" true
    enstream := containsText responseFormat "stream"
    prompt := jsonStringValue body "prompt" ""
    timeoutMs := timeoutMs
    -- the deadline follows the timeout when it is not given; the sum is one of `int`
    deadlineMs := jsonIntValue body "deadline_ms" (toInt32 (timeoutMs + 10000))
    maxRetries := jsonIntValue body "max_retries" (jsonIntValue body "retry_count" 0)
    maxTokens := jsonIntValue body "max_token_len" (jsonIntValue body "max_tokens" 1024)
    temperature := jsonStringValue body "temperature" "0.7"
    baseUrl := baseUrl
    apiKey := jsonStringValue body "api_key" env.vllmApiKey
    endpoint := jsonStringValue body "endpoint" "/v1/chat/completions"
    routingStrategy := jsonStringValue body "routing_strategy" "weighted_least_queue"
    defaultAction := jsonStringValue body "default_action" "chat"
    workerCount := max 1 (jsonIntValue body "worker_count" 2)
    endpointWaitMs := max 0 (jsonIntValue body "endpoint_wait_ms" 2000)
    -- not clamped here, unlike on a reload
    maxQueueSize := maxQueueSize
    maxTaskRecords := (max 1 (jsonIntValue body "max_task_records" 1000)).toNat
    -- the default is derived from the queue size of this body
    lowPriorityDropThreshold :=
      jsonIntValue body "low_priority_drop_threshold" (max 0 (toInt32 (maxQueueSize - 16)))
    highPriorityThreshold := jsonIntValue body "high_priority_threshold" 7
    defaultPriority := jsonIntValue body "priority" 5
    healthCheckIntervalMs := jsonIntValue body "health_check_interval_ms" 5000
    healthCheckTimeoutMs := jsonIntValue body "health_check_timeout_ms" 2000
    unhealthyThreshold := jsonIntValue body "unhealthy_threshold" 3
    recoveryThreshold := jsonIntValue body "recovery_threshold" 2
    circuitFailureThreshold := jsonIntValue body "circuit_failure_threshold" 5
    circuitOpenMs := jsonIntValue body "circuit_open_ms" 30000
    allowModelFallback := jsonBoolValue policy "allow_model_fallback" true
    fallbackChain := jsonStringArrayValue policy "fallback_chain"
    mockMode := jsonBoolValue body "mock" defaultMock
    inputs := jsonStringArrayValue body "input" }

/-- The two fields that `parse_config` rewrites after the model check. -/
def normalizeConfig (cfg : TaskConfig) : TaskConfig :=
  { cfg with
    endpoint := if cfg.endpoint ≠ "" && cfg.endpoint.toList.head? ≠ some '/'
      then "/" ++ cfg.endpoint else cfg.endpoint
    baseUrl := trimRightSlash cfg.baseUrl }

/-- `load_model` on a fresh scheduler of a fresh process. -/
def loadModel (env : Environment) (body : Json) : Except String Pool :=
  let cfg := normalizeConfig (readConfig env body)
  if cfg.model = "" then .error "missing model"
  else do
    let profiles ← buildModelProfilesFromConfig body cfg.model
    let eps ← buildEndpointsFromConfig body cfg.model cfg.baseUrl cfg.apiKey cfg.mockMode false
    -- two items of one key share one object
    let pool : Pool := eps.foldl shareEndpointRuntime
      { cfg := cfg, heap := fun _ => {}, next := 0, endpoints := [], globalEndpoints := [] }
    let chain := fillDefaultFallbackChain cfg.fallbackChain cfg.model (pool.endpoints.map pool.heap)
    return { pool with cfg := { cfg with modelProfiles := profiles, fallbackChain := chain } }

def hasEndpointReloadConfig (body : Json) : Bool :=
  body.contains "endpoints" || body.contains "vllm_endpoints" || body.contains "vllm_base_url"

def validateStaticReloadFields (body : Json) (cfg : TaskConfig) : Except String Unit :=
  if body.contains "model" && jsonStringValue body "model" cfg.model ≠ cfg.model then
    .error "model cannot be changed by reload_config; create a new scheduler instead"
  else if body.contains "response_format" &&
      jsonStringValue body "response_format" cfg.responseFormat ≠ cfg.responseFormat then
    .error "response_format cannot be changed by reload_config"
  else if body.contains "endpoint" &&
      jsonStringValue body "endpoint" cfg.endpoint ≠ cfg.endpoint then
    .error "endpoint path cannot be changed by reload_config"
  else if body.contains "worker_count" &&
      jsonIntValue body "worker_count" cfg.workerCount ≠ cfg.workerCount then
    .error "worker_count cannot be changed by reload_config"
  else if body.contains "mock" && jsonBoolValue body "mock" cfg.mockMode ≠ cfg.mockMode then
    .error "mock mode cannot be changed by reload_config"
  else .ok ()

/-- The scalar fields of the next configuration, each defaulting to the current one. -/
def reloadScalars (body : Json) (cfg : TaskConfig) : TaskConfig :=
  let policy := match body.get? "degrade_policy" with
    | some (.obj members) => .obj members
    | _ => body
  { cfg with
    routingStrategy := jsonStringValue body "routing_strategy" cfg.routingStrategy
    endpointWaitMs := max 0 (jsonIntValue body "endpoint_wait_ms" cfg.endpointWaitMs)
    maxQueueSize := max 0 (jsonIntValue body "max_queue_size" cfg.maxQueueSize)
    lowPriorityDropThreshold :=
      -- kept as it is, also when the queue size changes
      max 0 (jsonIntValue body "low_priority_drop_threshold" cfg.lowPriorityDropThreshold)
    highPriorityThreshold :=
      max 0 (jsonIntValue body "high_priority_threshold" cfg.highPriorityThreshold)
    healthCheckIntervalMs :=
      max 1 (jsonIntValue body "health_check_interval_ms" cfg.healthCheckIntervalMs)
    healthCheckTimeoutMs :=
      max 1 (jsonIntValue body "health_check_timeout_ms" cfg.healthCheckTimeoutMs)
    unhealthyThreshold := max 1 (jsonIntValue body "unhealthy_threshold" cfg.unhealthyThreshold)
    recoveryThreshold := max 1 (jsonIntValue body "recovery_threshold" cfg.recoveryThreshold)
    circuitFailureThreshold :=
      max 1 (jsonIntValue body "circuit_failure_threshold" cfg.circuitFailureThreshold)
    circuitOpenMs := max 1 (jsonIntValue body "circuit_open_ms" cfg.circuitOpenMs)
    allowModelFallback := jsonBoolValue policy "allow_model_fallback" cfg.allowModelFallback
    fallbackChain := if policy.contains "fallback_chain"
      then jsonStringArrayValue policy "fallback_chain" else cfg.fallbackChain }

/-- The configuration that a successful reload commits. -/
def committedConfig (scalars : TaskConfig) (baseUrl : String) (profiles : List ModelProfile)
    (endpoints : List VllmEndpoint) (nowMs : Int) : TaskConfig :=
  { scalars with
    baseUrl := baseUrl
    modelProfiles := profiles
    fallbackChain := fillDefaultFallbackChain scalars.fallbackChain scalars.model endpoints
    configVersion := scalars.configVersion + 1
    configUpdateCount := scalars.configUpdateCount + 1
    lastConfigUpdateMs := nowMs }

/-- The profiles of the next configuration. -/
def reloadProfiles (body : Json) (cfg : TaskConfig) : Except String (List ModelProfile) :=
  if body.contains "model_profiles" then buildModelProfilesFromConfig body cfg.model
  else .ok cfg.modelProfiles

/-- The base URL that default endpoints of the next configuration get. -/
def reloadBaseUrl (body : Json) (cfg : TaskConfig) : String :=
  trimRightSlash (jsonStringValue body "vllm_base_url" cfg.baseUrl)

/-- `reload_config`. The whole call is one step: `reload_mtx_` keeps other
reloads out and nothing else writes the fields it read. After the commit it also
configures the metrics service, which is `Observability.reloadObservability`. -/
def reloadConfig (pool : Pool) (body : Json) (nowMs : Int) : Except String Pool :=
  if !body.isObject then .error "reload_config data must be a json object"
  else do
    validateStaticReloadFields body pool.cfg
    -- nothing is written before the last check has passed
    let scalars := reloadScalars body pool.cfg
    let profiles ← reloadProfiles body scalars
    if hasEndpointReloadConfig body then do
      let baseUrl := reloadBaseUrl body scalars
      let eps ← buildEndpointsFromConfig body scalars.model baseUrl scalars.apiKey
        scalars.mockMode true
      return { commitReloadedEndpointsLocked pool eps with
        cfg := committedConfig scalars baseUrl profiles eps nowMs }
    else
      return { pool with
        cfg := committedConfig scalars scalars.baseUrl profiles
          (pool.endpoints.map pool.heap) nowMs }

end VllmRoute.Scheduler
