import VllmRoute.Lib.Writes
import VllmRoute.Node.DataPlane
import VllmRoute.Scheduler.Request

/-!
# Input that arrives in chunks

`assemble_stream_input` on the states in `stream_states_`, with the `try` block
around its call; and the data plane of a node with these states, the messages
that it sends and the requests that it hands to the scheduler.
-/
namespace VllmRoute.Node

open Lib Access Channel Scheduler

/-- `chunks` holds one text per index. -/
structure StreamInputState where
  chunks : List (Int × Bytes) := []
  updatedMs : Int := 0
  totalBytes : Nat := 0

abbrev StreamStates := Bytes → Option StreamInputState

def kStreamInputTtlMs : Int := 60000
def kMaxStreamInputChunks : Nat := 4096
def kMaxStreamInputBytes : Nat := 8 * 1024 * 1024

def cleanupExpiredStreamStatesLocked (streamStates : StreamStates) (currentMs : Int) :
    StreamStates := fun key =>
  (streamStates key).filter fun state => !decide (currentMs - state.updatedMs > kStreamInputTtlMs)

/-- `stream_chunk_index`; without a result it throws. -/
def streamChunkIndex (requestMeta : Json) : Option Int :=
  match requestMeta.get? "index" with
  | some (.int n) => some (toInt32 n)
  | some (.str s) => stoi (lit s)
  | _ => none

/-- The chunk is added, or takes the place of an earlier one. -/
def StreamInputState.put (state : StreamInputState) (index : Int) (delta : Bytes)
    (currentMs : Int) : StreamInputState where
  chunks := (index, delta) :: state.chunks.filter fun chunk => chunk.1 != index
  updatedMs := currentMs
  totalBytes := state.totalBytes - ((state.chunks.lookup index).map List.length).getD 0 +
    delta.length

/-- The loop over the completed chunks from the index `i` on, with `n` of them to go. -/
def joinChunks (chunks : List (Int × Bytes)) : Nat → Nat → Bytes → StreamInput
  | 0, _, out => .complete out
  | n + 1, i, out =>
    match chunks.lookup (i : Int) with
    | none => .failed ("stream input missing chunk index " ++ toString i)
    | some chunk => joinChunks chunks n (i + 1) (out ++ chunk)

/-- With every index there, the chunks are joined in the order of their indices. -/
theorem joinChunks_complete {chunks : List (Int × Bytes)} {n i : Nat} {out : Bytes}
    (present : ∀ j, i ≤ j → j < i + n → (chunks.lookup (j : Int)).isSome = true) :
    joinChunks chunks n i out = .complete
      (out ++ (List.range' i n).flatMap fun j : Nat => (chunks.lookup (j : Int)).getD []) := by
  induction n generalizing i out with
  | zero => simp [joinChunks]
  | succ n ih =>
    obtain ⟨chunk, found⟩ := Option.isSome_iff_exists.mp (present i (by omega) (by omega))
    rw [joinChunks, found]
    dsimp only
    rw [ih fun j low high => present j (by omega) (by omega)]
    simp [List.range'_succ, found]

theorem joinChunks_failed {chunks : List (Int × Bytes)} {n i j : Nat} {out : Bytes} (low : i ≤ j)
    (high : j < i + n) (missing : chunks.lookup (j : Int) = none) :
    ∃ streamError, joinChunks chunks n i out = .failed streamError := by
  induction n generalizing i out with
  | zero => omega
  | succ n ih =>
    rw [joinChunks]
    cases found : chunks.lookup (i : Int) with
    | none => exact ⟨_, rfl⟩
    | some chunk =>
      -- the missing one is further on
      have further : i ≠ j := by
        rintro rfl
        rw [missing] at found
        cases found
      exact ih (by omega) (by omega)

theorem joinChunks_cases (chunks : List (Int × Bytes)) (n i : Nat) (out : Bytes) :
    (∃ text, joinChunks chunks n i out = .complete text) ∨
      ∃ streamError, joinChunks chunks n i out = .failed streamError := by
  by_cases present : ∀ j, i ≤ j → j < i + n → (chunks.lookup (j : Int)).isSome = true
  · exact .inl ⟨_, joinChunks_complete present⟩
  · push Not at present
    obtain ⟨j, low, high, missing⟩ := present
    exact .inr (joinChunks_failed low high (Option.not_isSome_iff_eq_none.mp missing))

/-- `assemble_stream_input` with the handling of its exceptions and errors in
`task_user_data`. -/
def assembleStreamInput (streamStates : StreamStates) (streamKey : Bytes) (requestMeta : Json)
    (currentMs : Int) : StreamInput × StreamStates :=
  let erased (streamStates : StreamStates) := Function.update streamStates streamKey none
  match streamChunkIndex requestMeta with
  | none => (.failed "Stream data index error.", erased streamStates)
  | some index =>
    if index < 0 then (.failed "stream index must be non-negative", erased streamStates)
    else
      let finish := jsonBoolValue requestMeta "finish" false
      let delta := lit (jsonStringValue requestMeta "delta" "")
      let streamStates := cleanupExpiredStreamStatesLocked streamStates currentMs
      let state := ((streamStates streamKey).getD {}).put index delta currentMs
      if state.chunks.length > kMaxStreamInputChunks then
        (.failed "stream input has too many chunks", erased streamStates)
      else if state.totalBytes > kMaxStreamInputBytes then
        (.failed "stream input is too large", erased streamStates)
      else if !finish then (.incomplete, Function.update streamStates streamKey (some state))
      else (joinChunks state.chunks state.chunks.length 0 [], erased streamStates)

/-- The index and the text of a chunk whose index is one. -/
def streamChunk (requestMeta : Json) : Option (Int × Bytes) :=
  ((streamChunkIndex requestMeta).filter fun index => decide (0 ≤ index)).map fun index =>
    (index, lit (jsonStringValue requestMeta "delta" ""))

/-- The state is within the limits. -/
structure StreamInputState.Fits (state : StreamInputState) : Prop where
  few : state.chunks.length ≤ kMaxStreamInputChunks
  small : state.totalBytes ≤ kMaxStreamInputBytes

/-- The state of a key with one more chunk. -/
def extended (streamStates : StreamStates) (streamKey : Bytes) (chunk : Int × Bytes)
    (currentMs : Int) : StreamInputState :=
  ((cleanupExpiredStreamStatesLocked streamStates currentMs streamKey).getD {}).put chunk.1 chunk.2
    currentMs

/-- The ends of `assemble_stream_input`. Only the end of a chunk without an index leaves
expired states where they are. -/
inductive Assembled (streamStates : StreamStates) (streamKey : Bytes) (requestMeta : Json)
    (currentMs : Int) : StreamInput × StreamStates → Prop where
  | malformed (streamError : String) (lacking : streamChunk requestMeta = none) :
      Assembled streamStates streamKey requestMeta currentMs
        (.failed streamError, Function.update streamStates streamKey none)
  | excessive (streamError : String) {chunk : Int × Bytes}
      (given : streamChunk requestMeta = some chunk)
      (exceeds : ¬ (extended streamStates streamKey chunk currentMs).Fits) :
      Assembled streamStates streamKey requestMeta currentMs (.failed streamError,
        Function.update (cleanupExpiredStreamStatesLocked streamStates currentMs) streamKey none)
  | kept {chunk : Int × Bytes} (given : streamChunk requestMeta = some chunk)
      (fits : (extended streamStates streamKey chunk currentMs).Fits)
      (unfinished : jsonBoolValue requestMeta "finish" false = false) :
      Assembled streamStates streamKey requestMeta currentMs (.incomplete,
        Function.update (cleanupExpiredStreamStatesLocked streamStates currentMs) streamKey
          (some (extended streamStates streamKey chunk currentMs)))
  | joined {chunk : Int × Bytes} (given : streamChunk requestMeta = some chunk)
      (fits : (extended streamStates streamKey chunk currentMs).Fits)
      (finished : jsonBoolValue requestMeta "finish" false = true) :
      Assembled streamStates streamKey requestMeta currentMs
        (joinChunks (extended streamStates streamKey chunk currentMs).chunks
          (extended streamStates streamKey chunk currentMs).chunks.length 0 [],
        Function.update (cleanupExpiredStreamStatesLocked streamStates currentMs) streamKey none)

theorem assembleStreamInput_assembled (streamStates : StreamStates) (streamKey : Bytes)
    (requestMeta : Json) (currentMs : Int) :
    Assembled streamStates streamKey requestMeta currentMs
      (assembleStreamInput streamStates streamKey requestMeta currentMs) := by
  unfold assembleStreamInput
  cases index : streamChunkIndex requestMeta with
  | none => exact .malformed _ (by simp [streamChunk, index])
  | some i =>
    dsimp only
    split
    next negative => exact .malformed _ (by simp [streamChunk, index, Option.filter, negative])
    next natural =>
      have given : streamChunk requestMeta =
          some (i, lit (jsonStringValue requestMeta "delta" "")) := by
        simp [streamChunk, index, Option.filter, Int.not_lt.mp natural]
      split
      next many => exact .excessive _ given fun fits => absurd fits.few (Nat.not_le.mpr many)
      next few =>
        split
        next large => exact .excessive _ given fun fits => absurd fits.small (Nat.not_le.mpr large)
        next small =>
          have fits : (extended streamStates streamKey
              (i, lit (jsonStringValue requestMeta "delta" "")) currentMs).Fits :=
            ⟨Nat.not_lt.mp few, Nat.not_lt.mp small⟩
          split
          next unfinished => exact .kept given fits (by simpa using unfinished)
          next finished => exact .joined given fits (by simpa using finished)

/-- A chunk that is within the limits. -/
theorem assembleStreamInput_fits {streamStates : StreamStates} {streamKey : Bytes}
    {requestMeta : Json} {currentMs : Int} {chunk : Int × Bytes}
    (given : streamChunk requestMeta = some chunk)
    (fits : (extended streamStates streamKey chunk currentMs).Fits) :
    assembleStreamInput streamStates streamKey requestMeta currentMs =
      let state := extended streamStates streamKey chunk currentMs
      let swept := cleanupExpiredStreamStatesLocked streamStates currentMs
      if jsonBoolValue requestMeta "finish" false then
        (joinChunks state.chunks state.chunks.length 0 [], Function.update swept streamKey none)
      else (.incomplete, Function.update swept streamKey (some state)) := by
  have assembled := assembleStreamInput_assembled streamStates streamKey requestMeta currentMs
  generalize assembleStreamInput streamStates streamKey requestMeta currentMs = result at assembled
  cases assembled with
  | malformed _ lacking => exact absurd given (by simp [lacking])
  | excessive _ given' exceeds =>
    cases given.symm.trans given'
    exact absurd fits exceeds
  | kept given' _ unfinished =>
    cases given.symm.trans given'
    simp [unfinished]
  | joined given' _ finished =>
    cases given.symm.trans given'
    simp [finished]

/-! ### The data plane with what it does -/

structure DataNode where
  node : VllmLlm := {}
  streamStates : StreamStates := fun _ => none
  taskIdCounter : Int := 0
  sent : List ClientMessage := []
  /-- the requests of the calls of `vllm_task::inference` -/
  requests : List InferenceRequest := []

/-- The options that `task_user_data` makes of a session. -/
def requestOptions (session : SessionContext) : RequestOptions where
  responseFormat := session.responseFormat
  systemPrompt := session.prompt
  defaultAction := session.defaultAction
  enoutput := session.enoutput
  enstream := session.enstream

/-- One operation of the thread of channel `num`, with everything that it leaves behind. -/
def execNode (num : Int) (message : Bytes) (nowMs : Int) (s : DataNode) :
    (o : DataOp) → Option (o.Resp × DataNode)
  | .assembleStreamInput streamKey requestMeta =>
    let (result, streamStates) := assembleStreamInput s.streamStates streamKey requestMeta nowMs
    some (result, { s with streamStates := streamStates })
  | .sendRawForUrl m => some ((), { s with sent := s.sent ++ [m] })
  | .inference requestId workId outputUrl object prompt requestMeta session =>
    s.node.sharedTask.map fun task =>
      let taskId := s.taskIdCounter + 1
      ((), { s with
        taskIdCounter := taskId
        requests := s.requests ++ [newRequest task.cfg taskId requestId workId outputUrl object
          prompt requestMeta (requestOptions session)] })
  | o => (execData num { message := message } s.node o).map fun (r, node) =>
      (r, { s with node := node })

/-- What an operation leaves behind: new chunks, a message, a request, or new fields of
channels. -/
theorem execNode_cases {num nowMs : Int} {message : Bytes} {s s' : DataNode} {o : DataOp}
    {r : o.Resp} (executed : execNode num message nowMs s o = some (r, s')) :
    (∃ streamKey requestMeta, o = .assembleStreamInput streamKey requestMeta ∧ s' = { s with
        streamStates := (assembleStreamInput s.streamStates streamKey requestMeta nowMs).2 }) ∨
      (∃ m, s' = { s with sent := s.sent ++ [m] }) ∨
      (∃ requestId workId outputUrl object prompt requestMeta session task,
        o = .inference requestId workId outputUrl object prompt requestMeta session ∧
          s.node.sharedTask = some task ∧ s' = { s with
            taskIdCounter := s.taskIdCounter + 1
            requests := s.requests ++ [newRequest task.cfg (s.taskIdCounter + 1) requestId workId
              outputUrl object prompt requestMeta (requestOptions session)] }) ∨
      ∃ channels, s' = { s with node := { s.node with llmTaskChannel := channels } } := by
  -- the operations on the node alone
  have lifted {o : DataOp} {r : o.Resp}
      (executed : ((execData num { message := message } s.node o).map fun result =>
        (result.1, { s with node := result.2 })) = some (r, s')) :
      ∃ channels, s' = { s with node := { s.node with llmTaskChannel := channels } } := by
    obtain ⟨result, moved, equal⟩ := Option.map_eq_some_iff.mp executed
    cases equal
    exact ⟨_, congrArg (fun node => { s with node := node }) (execData_frame moved)⟩
  cases o with
  | assembleStreamInput streamKey requestMeta =>
    cases executed
    exact .inl ⟨streamKey, requestMeta, rfl, rfl⟩
  | sendRawForUrl m =>
    cases executed
    exact .inr (.inl ⟨m, rfl⟩)
  | inference requestId workId outputUrl object prompt requestMeta session =>
    obtain ⟨task, shared, equal⟩ := Option.map_eq_some_iff.mp executed
    cases equal
    exact .inr (.inr (.inl ⟨_, _, _, _, _, _, _, task, rfl, shared, rfl⟩))
  | lockChannel | findSession _ =>
    cases executed
    exact .inr (.inr (.inr ⟨_, rfl⟩))
  | _ => exact .inr (.inr (.inr (lifted executed)))

end VllmRoute.Node
