import VllmRoute.Lib.Search
import VllmRoute.Scheduler.Config

/-!
# The request of a message

What `vllm_task::inference` does before the admission: it fills a request from
the metadata of the message, the options of its session and the configuration.
The accessors have a default for every value, so nothing here can fail.
-/
namespace VllmRoute.Scheduler

open Lib

structure RequestOptions where
  responseFormat : String := "llm.utf-8.stream"
  systemPrompt : String := ""
  defaultAction : String := "chat"
  enoutput : Bool := true
  enstream : Bool := true

/-- A string of a session, or that of the scheduler where it is empty. -/
def orDefault (text fallback : String) : String := if text = "" then fallback else text

def requestAction (cfg : TaskConfig) (object : Bytes) (requestMeta : Json)
    (fallbackAction : String) : String :=
  let names (part : String) : Bool := (find (lit part) object).isSome
  let action := jsonStringValue requestMeta "action" ""
  if action ≠ "" then action
  -- an object that names several actions has the first of these
  else if names "summary" then "summary"
  else if names "rewrite" then "rewrite"
  else if names "code" || names "debug" then "code"
  else if names "qa" then "qa"
  else orDefault fallbackAction cfg.defaultAction

def findProfileForAction (modelProfiles : List ModelProfile) (action : String) :
    Option ModelProfile :=
  if action = "" then none
  else modelProfiles.find? fun profile => profile.name = action || profile.actions.contains action

/-- The primary model and the fallbacks of a profile, each once. -/
def profileChain (profile : ModelProfile) : List String :=
  profile.fallbackModels.foldl (fun chain fallback =>
    if chain.contains fallback then chain else chain ++ [fallback]) [profile.primaryModel]

/-- The chain of a request without a profile: the requested model comes first when it is
not in the configured chain. -/
def requestedChain (cfg : TaskConfig) (requestedModel : String) : List String :=
  if requestedModel ≠ "" && !cfg.fallbackChain.contains requestedModel
  then requestedModel :: cfg.fallbackChain else cfg.fallbackChain

/-- `apply_profile_to_request` up to the settings that the message itself may override. -/
def profiledRequest (cfg : TaskConfig) (req : InferenceRequest) (requestedModel : String) :
    InferenceRequest :=
  match findProfileForAction cfg.modelProfiles req.action with
  | none =>
    { req with
      profileName := "default"
      logicalModel := orDefault requestedModel cfg.model
      priority := cfg.defaultPriority
      timeoutMs := cfg.timeoutMs
      deadlineMs := cfg.deadlineMs
      maxRetries := cfg.maxRetries
      maxTokens := cfg.maxTokens
      allowDegrade := cfg.allowModelFallback
      fallbackChain :=
        let chain := requestedChain cfg requestedModel
        if chain.isEmpty then [orDefault requestedModel cfg.model] else chain }
  | some profile =>
    { req with
      profileName := profile.name
      -- the requested model is ignored
      logicalModel := profile.primaryModel
      priority := if profile.defaultPriority < 0 then cfg.defaultPriority
        else profile.defaultPriority
      timeoutMs := if profile.defaultTimeoutMs ≤ 0 then cfg.timeoutMs else profile.defaultTimeoutMs
      deadlineMs := if profile.defaultDeadlineMs ≤ 0 then cfg.deadlineMs
        else profile.defaultDeadlineMs
      maxRetries := cfg.maxRetries
      maxTokens := if profile.defaultMaxTokens ≤ 0 then cfg.maxTokens else profile.defaultMaxTokens
      allowDegrade := cfg.allowModelFallback && profile.allowModelFallback
      fallbackChain := profileChain profile }

def applyProfileToRequest (cfg : TaskConfig) (req : InferenceRequest) (requestMeta : Json) :
    InferenceRequest :=
  let req := profiledRequest cfg req (jsonStringValue requestMeta "model" "")
  { req with
    priority := jsonIntValue requestMeta "priority" req.priority
    timeoutMs := jsonIntValue requestMeta "timeout_ms" req.timeoutMs
    deadlineMs := jsonIntValue requestMeta "deadline_ms" req.deadlineMs
    maxRetries := jsonIntValue requestMeta "max_retries" req.maxRetries
    maxTokens := jsonIntValue requestMeta "max_tokens"
      (jsonIntValue requestMeta "max_token_len" req.maxTokens)
    -- the newer name wins
    allowDegrade := jsonBoolValue requestMeta "allow_model_fallback"
      (jsonBoolValue requestMeta "allow_degrade" req.allowDegrade) }

/-- The request that `inference` makes of its arguments. -/
def newRequest (cfg : TaskConfig) (taskId : Int)
    (requestId workId outputUrl object prompt : Bytes) (requestMeta : Json)
    (options : RequestOptions) : InferenceRequest :=
  let responseFormat := jsonStringValue requestMeta "response_format"
    (orDefault options.responseFormat cfg.responseFormat)
  let sessionDefaultAction := jsonStringValue requestMeta "default_action"
    (orDefault options.defaultAction cfg.defaultAction)
  applyProfileToRequest cfg
    { taskId := taskId
      requestId := requestId
      workId := workId
      outputUrl := outputUrl
      object := object
      prompt := prompt
      systemPrompt :=
        jsonStringValue requestMeta "prompt" (orDefault options.systemPrompt cfg.prompt)
      responseFormat := responseFormat
      sessionDefaultAction := sessionDefaultAction
      enoutput := jsonBoolValue requestMeta "enoutput" options.enoutput
      -- the flag of the session is not read
      enstream := jsonBoolValue requestMeta "stream"
        (jsonBoolValue requestMeta "enstream" (containsText responseFormat "stream"))
      action := requestAction cfg object requestMeta sessionDefaultAction }
    requestMeta

/-- The ids and the reply address are those of the message. -/
theorem newRequest_address (cfg : TaskConfig) (taskId : Int)
    (requestId workId outputUrl object prompt : Bytes) (requestMeta : Json)
    (options : RequestOptions) :
    let req := newRequest cfg taskId requestId workId outputUrl object prompt requestMeta options
    req.requestId = requestId ∧ req.workId = workId ∧ req.outputUrl = outputUrl := by
  unfold newRequest applyProfileToRequest profiledRequest
  dsimp only
  split <;> exact ⟨rfl, rfl, rfl⟩

theorem newRequest_prompt (cfg : TaskConfig) (taskId : Int)
    (requestId workId outputUrl object prompt : Bytes) (requestMeta : Json)
    (options : RequestOptions) :
    (newRequest cfg taskId requestId workId outputUrl object prompt requestMeta options).prompt =
      prompt := by
  unfold newRequest applyProfileToRequest profiledRequest
  dsimp only
  split <;> rfl

/-! ### The request to the backend -/

structure ChatMessage where
  role : String
  content : Bytes
  deriving DecidableEq

/-- The body of the request to the backend, as the JSON object has it. -/
structure RequestBody (Number : Type) where
  model : String
  stream : Bool
  maxTokens : Int
  temperature : Number
  messages : List ChatMessage

/-- `make_request_body`, over any type for `double` and its `std::stod`. -/
def makeRequestBody {Number : Type} [OfScientific Number] (stod : String → Option Number)
    (temperature : String) (req : InferenceRequest) (servedModel : String) :
    RequestBody Number where
  model := servedModel
  stream := req.enstream
  maxTokens := req.maxTokens
  -- a temperature that is no number has thrown
  temperature := (stod temperature).getD 0.7
  messages :=
    (if req.systemPrompt = "" then [] else [⟨"system", lit req.systemPrompt⟩]) ++
      [⟨"user", req.prompt⟩]

theorem makeRequestBody_user {Number : Type} [OfScientific Number]
    (stod : String → Option Number) (temperature : String) (req : InferenceRequest)
    (servedModel : String) :
    (makeRequestBody stod temperature req servedModel).messages.filter (·.role = "user") =
      [⟨"user", req.prompt⟩] := by
  unfold makeRequestBody
  dsimp only
  split <;> simp

end VllmRoute.Scheduler
