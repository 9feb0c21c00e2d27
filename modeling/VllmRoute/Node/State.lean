import VllmRoute.Access.Registry
import VllmRoute.Channel.Object
import VllmRoute.Scheduler.Backend

/-!
# The state of a node

What the threads of the node share: the fields of `StackFlow` and `vllm_llm`,
the channel objects, and the unit manager behind its RPC calls.
-/
namespace VllmRoute.Node

open Lib Access Channel Scheduler

/-- `unit_name_` -/
def unitName : Bytes := lit "llm"

def sampleGetWorkId (workIdNum : Int) : Bytes := unitName ++ lit "." ++ decimal workIdNum

def workIdNone : Int := -100

/-- `sample_get_work_id_num`; without a result it throws. -/
def sampleGetWorkIdNum (workId : Bytes) : Option Int :=
  match find (lit ".") workId with
  | none => some workIdNone
  | some a => if a + 1 = workId.length then some workIdNone else stoi (workId.drop (a + 1))

private theorem sampleGetWorkId_eq (n : Int) :
    sampleGetWorkId n = chr 'l' :: chr 'l' :: chr 'm' :: chr '.' :: decimal n := by
  have head : unitName ++ lit "." = [chr 'l', chr 'l', chr 'm', chr '.'] := by decide
  rw [sampleGetWorkId, head]
  rfl

theorem sampleGetWorkId_isEmpty (n : Int) : (sampleGetWorkId n).isEmpty = false := by
  rw [sampleGetWorkId_eq]
  rfl

/-- The number of a canonical work id. -/
theorem sampleGetWorkIdNum_sampleGetWorkId {n : Int} (low : intMin ≤ n) (high : n ≤ intMax) :
    sampleGetWorkIdNum (sampleGetWorkId n) = some n := by
  have read := stoi_decimal n [] low high (by simp)
  rw [List.append_nil] at read
  have printed : decimal n ≠ [] := by
    intro empty
    rw [empty, show stoi [] = none by decide] at read
    cases read
  -- the unit name has no dot, so the first one is the separator
  have found : find (lit ".") (sampleGetWorkId n) = some 3 := by
    rw [sampleGetWorkId_eq, show lit "." = [chr '.'] by decide]
    have notL : chr '.' ≠ chr 'l' := by decide
    have notM : chr '.' ≠ chr 'm' := by decide
    simp [find, List.findIdx?_cons, List.isPrefixOf, notL, notM]
  rw [sampleGetWorkIdNum, found]
  simp [sampleGetWorkId_eq, printed, read]

theorem sampleGetWorkId_injective {m n : Int} (same : sampleGetWorkId m = sampleGetWorkId n) :
    m = n := decimal_injective (List.append_cancel_left same)

/-- The keys of the output ports are no work ids. -/
theorem outPortKey_ne_sampleGetWorkId (m n : Int) :
    UnitManager.outPortKey (sampleGetWorkId m) ≠ sampleGetWorkId n := by
  intro same
  rw [UnitManager.outPortKey, sampleGetWorkId, sampleGetWorkId, List.append_assoc] at same
  have printed := List.append_cancel_left same
  -- the suffix of an output port begins with a dot, and a printed number has none
  have dot : chr '.' ∈ decimal n := by
    rw [← printed]
    exact List.mem_append_right _ (by decide)
  rcases decimal_bytes dot with sign | digit
  · exact absurd sign (by decide)
  · exact absurd digit (by decide)

/-- The fields of `llm_channel_obj` that are read and written. -/
structure LlmChannelObj where
  enoutput : Bool := false
  enstream : Bool := false
  requestId : Bytes := []
  workId : Bytes := []
  outputUrl : Bytes := []
  subscribed : Bool := false
  deriving DecidableEq

structure SessionContext where
  workIdNum : Int := 0
  workId : Bytes := []
  model : String := ""
  responseFormat : String := "llm.utf-8.stream"
  prompt : String := ""
  defaultAction : String := "chat"
  enoutput : Bool := true
  enstream : Bool := true
  defaultMaxTokens : Int := 0
  defaultTimeoutMs : Int := 0
  defaultDeadlineMs : Int := 0
  defaultMaxRetries : Int := -1
  defaultPriority : Int := -1
  allowModelFallback : Bool := true

def makeSessionContext (workIdNum : Int) (workId : Bytes) (configBody : Json) : SessionContext :=
  let responseFormat := jsonStringValue configBody "response_format" "llm.utf-8.stream"
  let policy := match configBody.get? "degrade_policy" with
    | some (.obj members) => .obj members
    | _ => configBody
  { workIdNum := workIdNum
    workId := workId
    model := jsonStringValue configBody "model" ""
    responseFormat := responseFormat
    prompt := jsonStringValue configBody "prompt" ""
    defaultAction := jsonStringValue configBody "default_action" "chat"
    enoutput := jsonBoolValue configBody "enoutput" true
    enstream := jsonBoolValue configBody "stream"
      (jsonBoolValue configBody "enstream" (containsText responseFormat "stream"))
    defaultMaxTokens :=
      jsonIntValue configBody "max_tokens" (jsonIntValue configBody "max_token_len" 0)
    defaultTimeoutMs := jsonIntValue configBody "timeout_ms" 0
    defaultDeadlineMs := jsonIntValue configBody "deadline_ms" 0
    defaultMaxRetries :=
      jsonIntValue configBody "max_retries" (jsonIntValue configBody "retry_count" (-1))
    defaultPriority := jsonIntValue configBody "priority" (-1)
    allowModelFallback := jsonBoolValue policy "allow_model_fallback" true }

/-- What `send` and `send_error` take from `request_id_` and `out_zmq_url_`. -/
structure Address where
  requestId : Bytes := []
  url : Bytes := []
  deriving DecidableEq

/-- A reply of the control plane, without its `data`. Code 0 is success. -/
structure Reply where
  object : String
  workId : Bytes
  code : Int := 0
  message : String := ""
  deriving DecidableEq

structure VllmLlm where
  manager : UnitManager := {}
  address : Address := {}
  llmTaskChannel : Int → Option LlmChannelObj := fun _ => none
  sessions : List (Int × SessionContext) := []
  sharedTask : Option Pool := none
  sent : List (Address × Reply) := []

def maxSessions : Nat := 1024

namespace VllmLlm

/-- The object that `get_channel` returns; `at` throws without one. -/
def updateChannel (s : VllmLlm) (num : Int) (f : LlmChannelObj → LlmChannelObj) :
    Bool × VllmLlm :=
  match s.llmTaskChannel num with
  | some channel =>
    (true, { s with llmTaskChannel := Function.update s.llmTaskChannel num (some (f channel)) })
  | none => (false, s)

def hasSession (s : VllmLlm) (num : Int) : Bool := s.sessions.any fun entry => entry.1 == num

theorem hasSession_iff (s : VllmLlm) (num : Int) :
    s.hasSession num = true ↔ ∃ session, (num, session) ∈ s.sessions := by
  simp [hasSession]

def addSession (s : VllmLlm) (num : Int) (session : SessionContext) : VllmLlm :=
  { s with sessions := s.sessions ++ [(num, session)] }

/-- The critical section of `vllm_llm::setup`: the error that it answers with, if any. -/
def admitSession (env : Environment) (s : VllmLlm) (num : Int) (session : SessionContext)
    (configBody : Json) : Option (Int × String) × VllmLlm :=
  if s.hasSession num then (some (-22, "session already exists"), s)
  else if s.sessions.length ≥ maxSessions then (some (-21, "session full"), s)
  else
    match s.sharedTask with
    | some _ => (none, s.addSession num session)
    | none =>
      match loadModel env configBody with
      | .error lastError =>
        (some (-5, if lastError = "" then "Model loading failed." else lastError), s)
      | .ok task => (none, { s with sharedTask := some task }.addSession num session)

/-- The critical section of `vllm_llm::exit`: whether there was such a session. -/
def eraseSession (s : VllmLlm) (num : Int) : Bool × VllmLlm :=
  if s.hasSession num then
    (true, { s with sessions := s.sessions.filter fun entry => entry.1 != num })
  else (false, s)

/-- `register_unit` over RPC: the number that the unit manager answers with. -/
def registerUnit (s : VllmLlm) : Int × VllmLlm :=
  match s.manager.sysAllocateUnit unitName with
  | (some unitP, manager) => (unitP.port, { s with manager := manager })
  | (none, manager) => (-1, { s with manager := manager })

def releaseUnit (s : VllmLlm) (workId : Bytes) : VllmLlm :=
  { s with manager := (s.manager.sysReleaseUnit workId).2 }

/-- `vllm_task::reload_config` of the shared task: the versions that the reply carries, or
the error message. -/
def reloadShared (s : VllmLlm) (configBody : Json) (nowMs : Int) :
    Except String (Int × Int) × VllmLlm :=
  match s.sharedTask with
  | none => (.error "", s)
  | some task =>
    match reloadConfig task configBody nowMs with
    | .ok task =>
      (.ok (task.cfg.configVersion, task.cfg.configUpdateCount), { s with sharedTask := some task })
    | .error message => (.error message, s)

section Frames

variable (s : VllmLlm)

/-- A channel that is not there stays away. -/
theorem updateChannel_eq (num : Int) (f : LlmChannelObj → LlmChannelObj) :
    s.updateChannel num f = ((s.llmTaskChannel num).isSome, { s with
      llmTaskChannel := Function.update s.llmTaskChannel num ((s.llmTaskChannel num).map f) }) := by
  unfold updateChannel
  cases found : s.llmTaskChannel num with
  | none =>
    have same := Function.update_eq_self num s.llmTaskChannel
    rw [found] at same
    rw [Option.map_none, same, Option.isSome_none]
  | some channel => rfl

@[simp] theorem updateChannel_address (num : Int) (f : LlmChannelObj → LlmChannelObj) :
    (s.updateChannel num f).2.address = s.address := by rw [updateChannel_eq]

theorem updateChannel_channel (num other : Int) (f : LlmChannelObj → LlmChannelObj) :
    (s.updateChannel num f).2.llmTaskChannel other =
      if other = num then (s.llmTaskChannel num).map f else s.llmTaskChannel other := by
  rw [updateChannel_eq]
  exact Function.update_apply ..

-- The critical sections of the handlers write neither the reply address nor the channels.

@[simp] theorem registerUnit_frame :
    s.registerUnit.2.address = s.address ∧
      s.registerUnit.2.llmTaskChannel = s.llmTaskChannel := by
  unfold registerUnit
  split <;> exact ⟨rfl, rfl⟩

@[simp] theorem admitSession_frame (env : Environment) (num : Int) (session : SessionContext)
    (configBody : Json) :
    (s.admitSession env num session configBody).2.address = s.address ∧
      (s.admitSession env num session configBody).2.llmTaskChannel = s.llmTaskChannel := by
  unfold admitSession
  split
  · exact ⟨rfl, rfl⟩
  · split
    · exact ⟨rfl, rfl⟩
    · split
      · exact ⟨rfl, rfl⟩
      · split <;> exact ⟨rfl, rfl⟩

@[simp] theorem eraseSession_frame (num : Int) :
    (s.eraseSession num).2.address = s.address ∧
      (s.eraseSession num).2.llmTaskChannel = s.llmTaskChannel := by
  unfold eraseSession
  split <;> exact ⟨rfl, rfl⟩

@[simp] theorem reloadShared_frame (configBody : Json) (nowMs : Int) :
    (s.reloadShared configBody nowMs).2.address = s.address ∧
      (s.reloadShared configBody nowMs).2.llmTaskChannel = s.llmTaskChannel := by
  unfold reloadShared
  split
  · exact ⟨rfl, rfl⟩
  · split <;> exact ⟨rfl, rfl⟩

end Frames

end VllmLlm

end VllmRoute.Node
