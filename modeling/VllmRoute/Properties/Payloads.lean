import VllmRoute.Node.StreamInput
import VllmRoute.Scheduler.Worker

/-!
# Inference payloads

What `task_user_data` does with the data of a message, for every text that a
client can send. Text that is JSON becomes the metadata of the request, whatever
value it is, and the defaults of the session are then assigned to its members.
-/
namespace VllmRoute.Node

open Lib Access Channel Scheduler

/-- `operator[]` with a key does not throw. -/
def assignable : Json → Bool
  | .obj _ => true
  | .null => true
  | _ => false

theorem applySessionDefaults_isSome (requestMeta : Json) (session : SessionContext) :
    (Data.applySessionDefaults requestMeta session).isSome = assignable requestMeta := by
  cases requestMeta <;> rfl

/-! ### Requests that the scheduler takes -/

/-- The code returns without an exception, whatever it finds. -/
def NeverThrows (p : Code Bool) : Prop :=
  p.Ensures (fun _ _ (_ : Unit) => ()) (fun _ => True) (fun thrown _ => thrown = false) ()

theorem sendClientMessage_neverThrows {m : ClientMessage} (dumps : m.dumps = true) :
    NeverThrows (Scheduler.sendClientMessage m) := by
  unfold NeverThrows Scheduler.sendClientMessage
  by_cases nobody : m.outputUrl.isEmpty = true
  · rw [if_pos nobody]
    rfl
  · rw [if_neg nobody, if_pos dumps]
    exact ⟨trivial, fun _ => rfl⟩

/-- Only the message of a refusal could throw. -/
theorem inference_neverThrows {req : InferenceRequest} (request : validUtf8 req.requestId = true)
    (work : validUtf8 req.workId = true) : NeverThrows (inference req) := by
  refine ⟨trivial, fun createdMs => ⟨trivial, fun rejected => ?_⟩⟩
  cases rejected with
  | none => exact ⟨trivial, fun _ => ⟨trivial, fun _ => rfl⟩⟩
  | some error =>
    refine ⟨trivial, fun _ => sendClientMessage_neverThrows ?_⟩
    simp [ClientMessage.dumps, Payload.dumps, request, work]

/-! ### The pieces of `task_user_data` -/

section Pieces

variable {codec : Codec} {num nowMs : Int} {message : Bytes} {s : DataNode}
  {channel : LlmChannelObj}

/-- The fields that the thread reads are those of its channel. -/
theorem execNode_get (message : Bytes) (nowMs : Int)
    (found : s.node.llmTaskChannel num = some channel) :
    execNode num message nowMs s .getRequestId = some (channel.requestId, s) ∧
      execNode num message nowMs s .getWorkId = some (channel.workId, s) ∧
      execNode num message nowMs s .getOutputUrl = some (channel.outputUrl, s) := by
  have same : Function.update s.node.llmTaskChannel num (some channel) = s.node.llmTaskChannel :=
    found ▸ Function.update_eq_self num _
  simp only [execNode, execData, withChannel, found, same, Option.map_some]
  exact ⟨rfl, rfl, rfl⟩

/-- The error that a channel's client gets. -/
def refusal (channel : LlmChannelObj) (code : Int) (text : String) : ClientMessage where
  requestId := channel.requestId
  workId := channel.workId
  outputUrl := channel.outputUrl
  object := lit "None"
  data := .text (lit "None")
  errorCode := code
  errorMessage := lit text

/-- The channel has a client that can be answered. -/
structure Answerable (channel : LlmChannelObj) : Prop where
  request : validUtf8 channel.requestId = true
  work : validUtf8 channel.workId = true
  url : channel.outputUrl ≠ []

theorem refuse_complete (found : s.node.llmTaskChannel num = some channel)
    (answerable : Answerable channel) (code : Int) (text : String) :
    (Data.refuse code text).complete (execNode num message nowMs) s =
      some (false, { s with sent := s.sent ++ [refusal channel code text] }) := by
  obtain ⟨request, work, url⟩ := execNode_get message nowMs found
  have dumps : (refusal channel code text).dumps = true := by
    simp [refusal, ClientMessage.dumps, Payload.dumps, answerable.request, answerable.work]
  have some : ¬ (refusal channel code text).outputUrl.isEmpty = true := by
    simpa [refusal] using answerable.url
  refine (Prog.complete_op request).trans ((Prog.complete_op work).trans
    ((Prog.complete_op url).trans ?_))
  change (Data.sendClientMessage (refusal channel code text)).complete _ s = _
  rw [Data.sendClientMessage, if_neg some, if_pos dumps]
  rfl

/-- A refusal reads the fields of the channel and sends a message, and does nothing else. -/
theorem refuse_only {ok : DataOp → Prop} (request : ok .getRequestId) (work : ok .getWorkId)
    (url : ok .getOutputUrl) (send : ∀ m, ok (.sendRawForUrl m)) (code : Int) (text : String) :
    (Data.refuse code text).Only ok := by
  refine ⟨request, fun requestId => ⟨work, fun workId => ⟨url, fun outputUrl => ?_⟩⟩⟩
  change (Data.sendClientMessage _).Only _
  unfold Data.sendClientMessage
  split
  · exact trivial
  · split
    · exact ⟨send _, fun _ => trivial⟩
    · exact trivial

/-- The key of the channel's chunks. -/
def streamKey (channel : LlmChannelObj) : Bytes := channel.workId ++ lit ":" ++ channel.requestId

/-- The ways in which `task_user_data` is to return, and what each leaves behind. -/
inductive Served (channel : LlmChannelObj) (s : DataNode) : DataNode → Prop where
  | buffered {streamStates : StreamStates} {state : StreamInputState} {chunk : Int × Bytes}
      (kept : streamStates (streamKey channel) = some state) (listed : chunk ∈ state.chunks) :
      Served channel s { s with streamStates := streamStates }
  | refused (streamStates : StreamStates) (code : Int) (text : String) :
      Served channel s
        { s with streamStates := streamStates, sent := s.sent ++ [refusal channel code text] }
  | called (streamStates : StreamStates) {req : InferenceRequest}
      (returns : NeverThrows (inference req)) :
      Served channel s { s with
        streamStates := streamStates
        taskIdCounter := s.taskIdCounter + 1
        requests := s.requests ++ [req] }

/-- Metadata to which the defaults cannot be assigned ends the thread before the call. -/
theorem handOver_throws {requestMeta : Json} (fixed : assignable requestMeta = false)
    (object prompt : Bytes) (session : SessionContext) :
    (Data.handOver object prompt requestMeta session).complete (execNode num message nowMs) s =
      some (true, s) := by
  rw [← applySessionDefaults_isSome requestMeta session, Option.isSome_eq_false_iff,
    Option.isNone_iff_eq_none] at fixed
  rw [Data.handOver, fixed]
  rfl

/-- The request that the call makes of the fields of the channel. -/
theorem handOver_complete (found : s.node.llmTaskChannel num = some channel) {pool : Pool}
    (shared : s.node.sharedTask = some pool) {requestMeta withDefaults : Json}
    {session : SessionContext}
    (defaults : Data.applySessionDefaults requestMeta session = some withDefaults)
    (object prompt : Bytes) :
    (Data.handOver object prompt requestMeta session).complete (execNode num message nowMs) s =
      some (false, { s with
        taskIdCounter := s.taskIdCounter + 1
        requests := s.requests ++ [newRequest pool.cfg (s.taskIdCounter + 1) channel.requestId
          channel.workId channel.outputUrl object prompt withDefaults
          (requestOptions session)] }) := by
  obtain ⟨request, work, url⟩ := execNode_get message nowMs found
  have called : execNode num message nowMs s (.inference channel.requestId channel.workId
      channel.outputUrl object prompt withDefaults session) = some ((), { s with
        taskIdCounter := s.taskIdCounter + 1
        requests := s.requests ++ [newRequest pool.cfg (s.taskIdCounter + 1) channel.requestId
          channel.workId channel.outputUrl object prompt withDefaults
          (requestOptions session)] }) := by
    rw [execNode, shared]
    rfl
  rw [Data.handOver, defaults]
  exact (Prog.complete_op request).trans ((Prog.complete_op work).trans
    ((Prog.complete_op url).trans (Prog.complete_op called)))

theorem handOver_served (found : s.node.llmTaskChannel num = some channel)
    (answerable : Answerable channel) (task : s.node.sharedTask.isSome = true)
    {requestMeta : Json} (assigns : assignable requestMeta = true) (object prompt : Bytes)
    (session : SessionContext) :
    ∃ req, NeverThrows (inference req) ∧
      (Data.handOver object prompt requestMeta session).complete (execNode num message nowMs) s =
        some (false, { s with
          taskIdCounter := s.taskIdCounter + 1, requests := s.requests ++ [req] }) := by
  rw [← applySessionDefaults_isSome requestMeta session, Option.isSome_iff_exists] at assigns
  obtain ⟨withDefaults, defaults⟩ := assigns
  obtain ⟨pool, shared⟩ := Option.isSome_iff_exists.mp task
  let req := newRequest pool.cfg (s.taskIdCounter + 1) channel.requestId channel.workId
    channel.outputUrl object prompt withDefaults (requestOptions session)
  obtain ⟨ofRequest, ofWork, _⟩ : req.requestId = _ ∧ req.workId = _ ∧ req.outputUrl = _ :=
    newRequest_address ..
  exact ⟨req,
    inference_neverThrows (ofRequest ▸ answerable.request) (ofWork ▸ answerable.work),
    handOver_complete found shared defaults object prompt⟩

/-- A chunk that is not the last is kept, and only metadata with an index completes. -/
theorem assembleStreamInput_cases (nowMs : Int) (streamStates : StreamStates) (key : Bytes)
    (requestMeta : Json) :
    match assembleStreamInput streamStates key requestMeta nowMs with
    | (.incomplete, after) => ∃ state chunk, after key = some state ∧ chunk ∈ state.chunks
    | (.failed _, _) => True
    | (.complete _, _) => assignable requestMeta = true := by
  have assembled := assembleStreamInput_assembled streamStates key requestMeta nowMs
  generalize assembleStreamInput streamStates key requestMeta nowMs = result at assembled
  cases assembled with
  | malformed streamError _ => trivial
  | excessive streamError _ _ => trivial
  | kept _ _ _ => exact ⟨_, _, Function.update_self .., List.mem_cons_self⟩
  | @joined chunk given _ _ =>
    -- only an object has an index
    have object : assignable requestMeta = true := by
      cases requestMeta <;> first | rfl | cases given
    rcases joinChunks_cases (extended streamStates key chunk nowMs).chunks
      (extended streamStates key chunk nowMs).chunks.length 0 [] with
      ⟨text, complete⟩ | ⟨streamError, failed⟩
    · rw [complete]
      exact object
    · rw [failed]
      trivial

/-- The branch for chunks: what `assemble_stream_input` gives, and what follows from it. -/
theorem streamInput_complete (found : s.node.llmTaskChannel num = some channel)
    (object : Bytes) (requestMeta : Json) (session : SessionContext) {result : StreamInput}
    {after : StreamStates} (assembled : assembleStreamInput s.streamStates (streamKey channel)
      requestMeta nowMs = (result, after)) :
    (Data.streamInput object requestMeta session).complete (execNode num message nowMs) s =
      Prog.complete (execNode num message nowMs)
        (match result with
          | .incomplete => return false
          | .failed streamError => Data.refuse (-25) streamError
          | .complete text => Data.handOver object text requestMeta session)
        { s with streamStates := after } := by
  obtain ⟨request, work, _⟩ := execNode_get message nowMs found
  have executed : execNode num message nowMs s
      (.assembleStreamInput (streamKey channel) requestMeta) =
        some (result, { s with streamStates := after }) := by
    simp only [execNode, assembled]
    rfl
  exact (Prog.complete_op work).trans ((Prog.complete_op request).trans (Prog.complete_op executed))

theorem streamInput_served (found : s.node.llmTaskChannel num = some channel)
    (answerable : Answerable channel) (task : s.node.sharedTask.isSome = true)
    (object : Bytes) (requestMeta : Json) (session : SessionContext) :
    ∃ s', (Data.streamInput object requestMeta session).complete (execNode num message nowMs) s =
      some (false, s') ∧ Served channel s s' := by
  have cases := assembleStreamInput_cases nowMs s.streamStates (streamKey channel) requestMeta
  rcases assembled : assembleStreamInput s.streamStates (streamKey channel) requestMeta nowMs with
    ⟨result, after⟩
  rw [assembled] at cases
  rw [streamInput_complete found object requestMeta session assembled]
  have found : ({ s with streamStates := after } : DataNode).node.llmTaskChannel num =
    some channel := found
  cases result with
  | incomplete =>
    obtain ⟨state, chunk, kept, listed⟩ := cases
    exact ⟨_, rfl, .buffered kept listed⟩
  | failed text =>
    exact ⟨_, refuse_complete found answerable (-25) text, .refused after (-25) text⟩
  | complete text =>
    obtain ⟨req, returns, ends⟩ := handOver_served found answerable task cases object text session
    exact ⟨_, ends, .called after returns⟩

theorem execNode_lockChannel (message : Bytes) (nowMs : Int)
    (found : s.node.llmTaskChannel num = some channel) :
    execNode num message nowMs s .lockChannel = some (true, s) := by
  simp only [execNode, execData, found, Option.isSome_some]
  rfl

/-- A work id whose number cannot be read ends the thread. -/
theorem taskUserData_throws (found : s.node.llmTaskChannel num = some channel)
    (numberless : sampleGetWorkIdNum channel.workId = none) (object data : Bytes) :
    (Data.taskUserData codec object data).complete (execNode num message nowMs) s =
      some (true, s) := by
  refine (Prog.complete_op (execNode_lockChannel message nowMs found)).trans
    ((Prog.complete_op (execNode_get message nowMs found).2.1).trans ?_)
  rw [numberless]
  rfl

/-- `task_user_data` up to the search for the session. -/
theorem taskUserData_complete (found : s.node.llmTaskChannel num = some channel) {n : Int}
    (number : sampleGetWorkIdNum channel.workId = some n) {searched : Option SessionContext}
    (search : (if s.node.sharedTask.isSome then s.node.sessions.lookup n else none) = searched)
    (object data : Bytes) :
    (Data.taskUserData codec object data).complete (execNode num message nowMs) s =
      match searched with
      | none => (Data.refuse (-6) "Unit Does Not Exist").complete (execNode num message nowMs) s
      | some session =>
        (Data.sessionData codec object data session).complete (execNode num message nowMs) s := by
  have executed : execNode num message nowMs s (.findSession n) = some (searched, s) := by
    rw [← search]
    rfl
  refine (Prog.complete_op (execNode_lockChannel message nowMs found)).trans
    ((Prog.complete_op (execNode_get message nowMs found).2.1).trans ?_)
  rw [number]
  refine (Prog.complete_op executed).trans ?_
  cases searched <;> rfl

/-- A payload that `task_user_data` gets past, with or without an error message. -/
def Bearable (codec : Codec) (object data : Bytes) : Prop :=
  data = [] ∨ data = lit "None" ∨ (find (lit "stream") object).isSome = true ∨
    assignable (Data.parseMeta codec data) = true

theorem sessionData_served (found : s.node.llmTaskChannel num = some channel)
    (answerable : Answerable channel) (task : s.node.sharedTask.isSome = true)
    {object data : Bytes} (bearable : Bearable codec object data) (session : SessionContext) :
    ∃ s', (Data.sessionData codec object data session).complete (execNode num message nowMs) s =
      some (false, s') ∧ Served channel s s' := by
  rw [Data.sessionData]
  by_cases empty : data.isEmpty = true ∨ data = lit "None"
  · rw [if_pos empty]
    exact ⟨_, refuse_complete found answerable _ _, .refused s.streamStates _ _⟩
  rw [if_neg empty]
  rw [List.isEmpty_iff, not_or] at empty
  by_cases chunked : (find (lit "stream") object).isSome = true
  · rw [if_pos chunked]
    exact streamInput_served found answerable task object _ session
  rw [if_neg chunked]
  have assigns : assignable (Data.parseMeta codec data) = true := by
    simpa [Bearable, chunked, empty] using bearable
  obtain ⟨req, returns, calls⟩ := handOver_served found answerable task assigns object data session
  exact ⟨_, calls, .called s.streamStates returns⟩

theorem sessionData_throws {object data : Bytes} (unbearable : ¬ Bearable codec object data)
    (session : SessionContext) :
    (Data.sessionData codec object data session).complete (execNode num message nowMs) s =
      some (true, s) := by
  simp only [Bearable, not_or] at unbearable
  obtain ⟨given, notNone, whole, fixed⟩ := unbearable
  rw [Data.sessionData, if_neg (by simp [given, notNone]), if_neg whole]
  exact handOver_throws (by simpa using fixed) object data session

end Pieces

/-- A message for a session is served if its payload is empty, its object is
a stream, or its payload is no JSON, an object or null. Any other payload, such as a number,
makes `task_user_data` throw. -/
theorem taskUserData_served_iff (codec : Codec) (num nowMs : Int) (message : Bytes) (s : DataNode)
    (channel : LlmChannelObj) (found : s.node.llmTaskChannel num = some channel)
    (answerable : Answerable channel) (n : Int)
    (number : sampleGetWorkIdNum channel.workId = some n) (session : SessionContext)
    (listed : s.node.sessions.lookup n = some session) (task : s.node.sharedTask.isSome = true)
    (object data : Bytes) :
    let ends := (Data.taskUserData codec object data).complete (execNode num message nowMs) s
    ((∃ s', ends = some (false, s') ∧ Served channel s s') ↔ Bearable codec object data) ∧
      (¬ Bearable codec object data → ends = some (true, s)) := by
  intro ends
  have reach : ends = (Data.sessionData codec object data session).complete
      (execNode num message nowMs) s :=
    taskUserData_complete found number ((if_pos task).trans listed) object data
  rw [reach]
  refine ⟨⟨fun ⟨s', returned, _⟩ => ?_, fun bearable =>
    sessionData_served found answerable task bearable session⟩, fun unbearable =>
    sessionData_throws unbearable session⟩
  by_contra unbearable
  rw [sessionData_throws unbearable session] at returned
  cases returned

/-- A node with one session, whose client can be answered. -/
def oneSession : DataNode where
  node :=
    { llmTaskChannel := fun num => if num = 1 then some
        { requestId := lit "7", workId := lit "llm.1", outputUrl := lit "ipc:///tmp/7" } else none
      sessions := [(1, {})]
      sharedTask := some
        { cfg := {}, heap := fun _ => {}, next := 0, endpoints := [], globalEndpoints := [] } }

/-- A JSON library that reads numbers. -/
def numbersOnly : Codec where
  parse := fun text => match stoi text with
    | some n => .ok (.int n)
    | none => .error (lit "parse error")
  dump := fun _ => []
  what := []

theorem oneSession_answerable : ∃ channel, oneSession.node.llmTaskChannel 1 = some channel ∧
    Answerable channel ∧ sampleGetWorkIdNum channel.workId = some 1 :=
  ⟨_, rfl, ⟨by decide, by decide, by decide⟩, by decide⟩

/-- A prompt that is no JSON is handed to the scheduler. -/
theorem taskUserData_served_prompt :
    ∃ s', (Data.taskUserData numbersOnly (lit "llm") (lit "hello")).complete (execNode 1 [] 0)
      oneSession = some (false, s') ∧ ∃ channel, Served channel oneSession s' := by
  obtain ⟨channel, found, answerable, number⟩ := oneSession_answerable
  obtain ⟨s', ends, served⟩ := (taskUserData_served_iff numbersOnly 1 0 [] oneSession channel found
    answerable 1 number {} rfl rfl (lit "llm") (lit "hello")).1.mpr
      (.inr (.inr (.inr (by decide))))
  exact ⟨s', ends, channel, served⟩

/-- The prompt `42` is JSON, and takes the node down. -/
theorem number_payload_throws :
    ((Data.taskUserData numbersOnly (lit "llm") (lit "42")).complete (execNode 1 [] 0)
      oneSession).map Prod.fst = some true := by
  decide

end VllmRoute.Node
