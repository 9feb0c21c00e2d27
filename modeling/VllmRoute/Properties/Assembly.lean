import VllmRoute.Lib.Run
import VllmRoute.Properties.Payloads

/-!
# Chunks of an input

The chunks of one stream key come in any order, with repetitions and between the
chunks of other keys. What is held for a key is then what its chunks have
written, each index with its latest text; the last chunk joins them if they are
the first indices without a gap.

The states stay within the limits between the messages, and their byte counts are exact.
-/
namespace VllmRoute.Node

open Lib Access Channel Scheduler

/-! ### Reassembly -/

/-- A message for `assemble_stream_input`, with the time at which it comes. -/
structure StreamMessage where
  streamKey : Bytes
  requestMeta : Json
  nowMs : Int

def StreamMessage.finish (m : StreamMessage) : Bool := jsonBoolValue m.requestMeta "finish" false

/-- The states after a message. -/
def feed (streamStates : StreamStates) (m : StreamMessage) : StreamStates :=
  (assembleStreamInput streamStates m.streamKey m.requestMeta m.nowMs).2

/-- The chunks of one key, in the order in which they come. -/
def writesOf (key : Bytes) (messages : List StreamMessage) : List (Int × Bytes) :=
  (messages.filter fun m => m.streamKey = key).filterMap fun m => streamChunk m.requestMeta

/-- No message comes so late that the chunks of `key` have expired. `seen` is the time of
the latest of them. -/
def Prompt (key : Bytes) : Option Int → List StreamMessage → Prop
  | _, [] => True
  | seen, m :: messages => (∀ t ∈ seen, m.nowMs - t ≤ kStreamInputTtlMs) ∧
      Prompt key (if m.streamKey = key then some m.nowMs else seen) messages

/-- The bytes that are held after these writes. -/
def heldBytes (writes : List (Int × Bytes)) : Nat :=
  total (fun _ delta => delta.length) (written writes)

/-- What is held after these writes is within the limits. -/
def Within (writes : List (Int × Bytes)) : Prop :=
  (written writes).length ≤ kMaxStreamInputChunks ∧ heldBytes writes ≤ kMaxStreamInputBytes

instance : DecidablePred Within := fun _ => inferInstanceAs (Decidable (_ ∧ _))

/-- The input of one key: its chunks have an index, only the last one finishes, none of
them expires, and what is held stays within the limits. -/
structure Transmission (key : Bytes) (messages : List StreamMessage) (last : StreamMessage) :
    Prop where
  own : last.streamKey = key
  indexed : ∀ m ∈ messages ++ [last], m.streamKey = key → (streamChunk m.requestMeta).isSome = true
  unfinished : ∀ m ∈ messages, m.streamKey = key → m.finish = false
  finished : last.finish = true
  prompt : Prompt key none (messages ++ [last])
  within : ∀ writes, writes <+: writesOf key (messages ++ [last]) → Within writes

/-- The state with what these writes leave. -/
def heldState (writes : List (Int × Bytes)) (updatedMs : Int) : StreamInputState where
  chunks := written writes
  updatedMs := updatedMs
  totalBytes := heldBytes writes

/-- What is held for a key. -/
structure Held (streamStates : StreamStates) (key : Bytes) (writes : List (Int × Bytes))
    (seen : Option Int) : Prop where
  state : streamStates key = seen.map (heldState writes)
  fresh : seen = none → writes = []

section Feeding

variable {streamStates : StreamStates} {key : Bytes} {writes : List (Int × Bytes)}
  {seen : Option Int} {m : StreamMessage}

/-- A clean-up that comes in time. -/
theorem Held.swept (held : Held streamStates key writes seen) {currentMs : Int}
    (prompt : ∀ t ∈ seen, currentMs - t ≤ kStreamInputTtlMs) :
    Held (cleanupExpiredStreamStatesLocked streamStates currentMs) key writes seen := by
  refine ⟨?_, held.fresh⟩
  rw [cleanupExpiredStreamStatesLocked, held.state]
  cases seen with
  | none => rfl
  | some t =>
    have recent : ¬ currentMs - t > kStreamInputTtlMs := Int.not_lt.mpr (prompt t rfl)
    simp [heldState, Option.filter, recent]

/-- One more chunk is one more write. -/
theorem Held.extended_eq (held : Held streamStates key writes seen) {currentMs : Int}
    (prompt : ∀ t ∈ seen, currentMs - t ≤ kStreamInputTtlMs) (chunk : Int × Bytes) :
    extended streamStates key chunk currentMs = heldState (writes ++ [chunk]) currentMs := by
  have bytes := total_assign (fun _ delta => delta.length) chunk.1 chunk.2
    (distinct_written writes)
  have state : ((cleanupExpiredStreamStatesLocked streamStates currentMs key).getD {}).chunks =
        written writes ∧
      ((cleanupExpiredStreamStatesLocked streamStates currentMs key).getD {}).totalBytes =
        heldBytes writes := by
    rw [(held.swept prompt).state]
    cases seen with
    | none =>
      rw [held.fresh rfl]
      exact ⟨rfl, rfl⟩
    | some t => exact ⟨rfl, rfl⟩
  simp only [extended, StreamInputState.put, state, heldState, heldBytes, written_snoc, bytes]
  rfl

/-- A message of another key leaves the state as it is. -/
theorem Held.feed_other (held : Held streamStates key writes seen) (other : m.streamKey ≠ key)
    (prompt : ∀ t ∈ seen, m.nowMs - t ≤ kStreamInputTtlMs) :
    Held (feed streamStates m) key writes seen := by
  have swept := held.swept prompt
  have assembled := assembleStreamInput_assembled streamStates m.streamKey m.requestMeta m.nowMs
  unfold feed
  generalize assembleStreamInput streamStates m.streamKey m.requestMeta m.nowMs = result
    at assembled
  cases assembled with
  | malformed _ _ => exact ⟨(Function.update_of_ne other.symm ..).trans held.state, held.fresh⟩
  | excessive _ _ _ | kept _ _ _ | joined _ _ _ =>
    exact ⟨(Function.update_of_ne other.symm ..).trans swept.state, held.fresh⟩

/-- A chunk that does not finish the input is kept. -/
theorem Held.feed_own (held : Held streamStates key writes seen) (own : m.streamKey = key)
    (prompt : ∀ t ∈ seen, m.nowMs - t ≤ kStreamInputTtlMs) {chunk : Int × Bytes}
    (given : streamChunk m.requestMeta = some chunk) (unfinished : m.finish = false)
    (within : Within (writes ++ [chunk])) :
    Held (feed streamStates m) key (writes ++ [chunk]) (some m.nowMs) := by
  subst own
  have state := held.extended_eq prompt chunk
  have fits : (extended streamStates m.streamKey chunk m.nowMs).Fits :=
    state ▸ ⟨within.1, within.2⟩
  rw [StreamMessage.finish] at unfinished
  rw [feed, assembleStreamInput_fits given fits, unfinished, state]
  exact ⟨Function.update_self .., nofun⟩

/-- The messages before the last one. -/
theorem Held.run (messages rest : List StreamMessage) (held : Held streamStates key writes seen)
    (indexed : ∀ m ∈ messages, m.streamKey = key → (streamChunk m.requestMeta).isSome = true)
    (unfinished : ∀ m ∈ messages, m.streamKey = key → m.finish = false)
    (prompt : Prompt key seen (messages ++ rest))
    (within : ∀ more, more <+: writesOf key messages → Within (writes ++ more)) :
    ∃ seen', Held (messages.foldl feed streamStates) key (writes ++ writesOf key messages) seen' ∧
      Prompt key seen' rest := by
  induction messages generalizing streamStates writes seen with
  | nil => exact ⟨seen, by simpa [writesOf] using held, prompt⟩
  | cons m messages ih =>
    rw [List.forall_mem_cons] at indexed unfinished
    obtain ⟨inTime, later⟩ := prompt
    by_cases own : m.streamKey = key
    · obtain ⟨chunk, given⟩ := Option.isSome_iff_exists.mp (indexed.1 own)
      have split : writesOf key (m :: messages) = chunk :: writesOf key messages := by
        simp [writesOf, own, given]
      rw [split] at within ⊢
      have first := within [chunk] (by simp)
      have held' := held.feed_own own inTime given (unfinished.1 own) first
      rw [if_pos own] at later
      have further (more : List (Int × Bytes)) (initial : more <+: writesOf key messages) :
          Within (writes ++ [chunk] ++ more) := by
        simpa using within (chunk :: more) (by simpa using initial)
      simpa using ih held' indexed.2 unfinished.2 later further
    · have split : writesOf key (m :: messages) = writesOf key messages := by
        simp [writesOf, own]
      rw [split] at within ⊢
      rw [if_neg own] at later
      exact ih (held.feed_other own inTime) indexed.2 unfinished.2 later within

end Feeding

section Whole

variable {key : Bytes} {messages : List StreamMessage} {last : StreamMessage}

theorem Prompt.filter {seen : Option Int} {rest : List StreamMessage}
    (prompt : Prompt key seen (messages ++ rest)) :
    Prompt key seen (messages.filter (fun m => m.streamKey = key) ++ rest) := by
  induction messages generalizing seen with
  | nil => exact prompt
  | cons m messages ih =>
    obtain ⟨inTime, later⟩ := prompt
    by_cases own : m.streamKey = key
    · rw [List.filter_cons_of_pos (by simpa using own)]
      exact ⟨inTime, ih later⟩
    · rw [List.filter_cons_of_neg (by simpa using own)]
      rw [if_neg own] at later
      exact ih later

theorem writesOf_filter (rest : List StreamMessage) :
    writesOf key (messages.filter (fun m => m.streamKey = key) ++ rest) =
      writesOf key (messages ++ rest) := by
  simp [writesOf, List.filter_filter]

/-- The messages of other keys may be left out. -/
theorem Transmission.filter (sent : Transmission key messages last) :
    Transmission key (messages.filter fun m => m.streamKey = key) last where
  own := sent.own
  indexed m listed := by
    apply sent.indexed m
    rcases List.mem_append.mp listed with earlier | final
    · exact List.mem_append_left _ (List.mem_of_mem_filter earlier)
    · exact List.mem_append_right _ final
  unfinished m listed := sent.unfinished m (List.mem_of_mem_filter listed)
  finished := sent.finished
  prompt := sent.prompt.filter
  within := by
    rw [writesOf_filter]
    exact sent.within

/-- The last chunk joins what the chunks of its key have written. -/
theorem Transmission.assembled {streamStates : StreamStates} (sent : Transmission key messages last)
    (fresh : streamStates key = none) :
    assembleStreamInput (messages.foldl feed streamStates) key last.requestMeta last.nowMs =
      (joinChunks (written (writesOf key (messages ++ [last])))
          (written (writesOf key (messages ++ [last]))).length 0 [],
        Function.update (cleanupExpiredStreamStatesLocked (messages.foldl feed streamStates)
          last.nowMs) key none) := by
  obtain ⟨chunk, given⟩ :=
    Option.isSome_iff_exists.mp (sent.indexed last (by simp) sent.own)
  have split : writesOf key (messages ++ [last]) = writesOf key messages ++ [chunk] := by
    simp [writesOf, sent.own, given]
  have within := sent.within
  rw [split] at within ⊢
  have start : Held streamStates key [] none := ⟨fresh, fun _ => rfl⟩
  obtain ⟨seen, held, inTime, -⟩ := start.run messages [last]
    (fun m listed => sent.indexed m (List.mem_append_left _ listed)) sent.unfinished sent.prompt
    fun more initial => within more (initial.trans (List.prefix_append _ _))
  have state := held.extended_eq inTime chunk
  rw [List.nil_append] at state
  obtain ⟨few, small⟩ := within _ List.prefix_rfl
  have fits : (extended (messages.foldl feed streamStates) key chunk last.nowMs).Fits :=
    state ▸ ⟨few, small⟩
  have finished := sent.finished
  rw [StreamMessage.finish] at finished
  rw [assembleStreamInput_fits given fits, finished, state]
  rfl

end Whole

/-- The input of one key, in whatever order its chunks come and whatever comes between them:
with the indices below some `n` and no others, the text is that of the latest chunks in the
order of their indices; with any others it is an error. The messages of other keys change nothing
in the result, and nothing is left for the key. -/
theorem stream_input_reassembled (key : Bytes) (streamStates : StreamStates)
    (messages : List StreamMessage) (last : StreamMessage) (fresh : streamStates key = none)
    (sent : Transmission key messages last) :
    let writes := writesOf key (messages ++ [last])
    let indices := writes.map Prod.fst
    let result := assembleStreamInput (messages.foldl feed streamStates) key last.requestMeta
      last.nowMs
    (∀ n : Nat, (∀ i, i ∈ indices ↔ 0 ≤ i ∧ i < n) → result.1 = .complete
        ((List.range n).flatMap fun i : Nat => (latest writes (i : Int)).getD [])) ∧
      ((¬ ∃ n : Nat, ∀ i, i ∈ indices ↔ 0 ≤ i ∧ i < n) →
        ∃ streamError, result.1 = .failed streamError) ∧
      result.1 = (assembleStreamInput ((messages.filter fun m => m.streamKey = key).foldl feed
        streamStates) key last.requestMeta last.nowMs).1 ∧
      result.2 key = none := by
  intro writes indices result
  have assembled := sent.assembled fresh
  have alone := sent.filter.assembled fresh
  rw [writesOf_filter] at alone
  have joined : result.1 = joinChunks (written writes) (written writes).length 0 [] :=
    congrArg Prod.fst assembled
  have keys (i : Int) : i ∈ (written writes).map Prod.fst ↔ i ∈ indices := mem_keys_written writes i
  refine ⟨?_, ?_, ?_, ?_⟩
  · intro n all
    have size : (written writes).length = n := by
      rw [← length_of_exact (distinct_written writes) fun i => (keys i).trans (all i)]
      simp
    rw [joined, size, joinChunks_complete, List.nil_append, ← List.range_eq_range']
    · simp only [lookup_written]
    · intro j _ below
      rw [lookup_isSome_iff, keys, all]
      omega
  · intro gap
    by_cases covered : ∀ i : Nat, i < ((written writes).map Prod.fst).length →
        (i : Int) ∈ (written writes).map Prod.fst
    · -- as many indices as there are chunks leave no room for another one
      exact absurd ⟨_, fun i => (keys i).symm.trans (exact_of_covered covered i)⟩ gap
    · push Not at covered
      obtain ⟨i, below, missing⟩ := covered
      rw [List.length_map] at below
      rw [joined]
      exact joinChunks_failed (Nat.zero_le i) (by omega) (lookup_eq_none_of_notMem missing)
  · rw [joined, alone]
  · rw [show result = _ from assembled]
    exact Function.update_self ..

/-- A chunk of the key `k`. -/
def shuffledChunk (index : Int) (delta : String) (finish : Bool) : StreamMessage where
  streamKey := lit "k"
  requestMeta := .obj [("index", .int index), ("delta", .str delta), ("finish", .bool finish)]
  nowMs := 0

/-- Two chunks, the first of them sent twice, and a chunk of another key. -/
def shuffledChunks : List StreamMessage :=
  [shuffledChunk 1 "b" false, { shuffledChunk 7 "z" true with streamKey := lit "j" },
    shuffledChunk 0 "x" false]

theorem stream_input_reassembled_shuffled :
    Transmission (lit "k") shuffledChunks (shuffledChunk 0 "a" true) ∧
      (assembleStreamInput (shuffledChunks.foldl feed fun _ => none) (lit "k")
        (shuffledChunk 0 "a" true).requestMeta 0).1 = .complete (lit "ab") := by
  have writes : writesOf (lit "k") (shuffledChunks ++ [shuffledChunk 0 "a" true]) =
      [(1, lit "b"), (0, lit "x"), (0, lit "a")] := by
    decide +kernel
  have sent : Transmission (lit "k") shuffledChunks (shuffledChunk 0 "a" true) := by
    refine ⟨rfl, by decide +kernel, by decide +kernel, by decide +kernel, ?_, ?_⟩
    · simp [Prompt, shuffledChunks, shuffledChunk, kStreamInputTtlMs]
    · rw [writes]
      have all : ∀ writes ∈ [(1, lit "b"), (0, lit "x"), (0, lit "a")].inits, Within writes := by
        decide +kernel
      exact fun writes initial => all writes ((List.mem_inits _ _).mpr initial)
  obtain ⟨joined, -⟩ := stream_input_reassembled (lit "k") (fun _ => none) shuffledChunks
    (shuffledChunk 0 "a" true) rfl sent
  rw [writes] at joined
  have text := joined 2 fun i => by simp; omega
  refine ⟨sent, text.trans (congrArg StreamInput.complete ?_)⟩
  decide +kernel

/-! ### Limits -/

/-- The state counts its bytes exactly, and is within the limits. -/
structure StreamInputState.Accounted (state : StreamInputState) : Prop where
  distinct : Distinct state.chunks
  bytes : state.totalBytes = total (fun _ delta => delta.length) state.chunks
  fits : state.Fits

def AllAccounted (streamStates : StreamStates) : Prop :=
  ∀ key state, streamStates key = some state → state.Accounted

section Accounting

variable {streamStates : StreamStates} {key : Bytes} {requestMeta : Json} {currentMs : Int}

theorem AllAccounted.swept (accounted : AllAccounted streamStates) (currentMs : Int) :
    AllAccounted (cleanupExpiredStreamStatesLocked streamStates currentMs) := by
  intro key state kept
  exact accounted key state (Option.filter_eq_some_iff.mp kept).1

theorem AllAccounted.update (accounted : AllAccounted streamStates)
    {entry : Option StreamInputState} (new : ∀ state ∈ entry, state.Accounted) :
    AllAccounted (Function.update streamStates key entry) := by
  intro other state found
  by_cases same : other = key
  · subst same
    rw [Function.update_self] at found
    exact new state found
  · rw [Function.update_of_ne same] at found
    exact accounted other state found

/-- One more chunk, before its limits are looked at. -/
theorem AllAccounted.extended (accounted : AllAccounted streamStates) (chunk : Int × Bytes) :
    Distinct (extended streamStates key chunk currentMs).chunks ∧
      (extended streamStates key chunk currentMs).totalBytes =
        total (fun _ delta => delta.length) (extended streamStates key chunk currentMs).chunks := by
  have before : Distinct
        ((cleanupExpiredStreamStatesLocked streamStates currentMs key).getD {}).chunks ∧
      ((cleanupExpiredStreamStatesLocked streamStates currentMs key).getD {}).totalBytes =
        total (fun _ delta => delta.length)
          ((cleanupExpiredStreamStatesLocked streamStates currentMs key).getD {}).chunks := by
    cases found : cleanupExpiredStreamStatesLocked streamStates currentMs key with
    | none => exact ⟨List.nodup_nil, rfl⟩
    | some state =>
      have held := accounted.swept currentMs key state found
      exact ⟨held.distinct, held.bytes⟩
  refine ⟨before.1.assign chunk.1 chunk.2, ?_⟩
  have moved := total_assign (fun _ delta => delta.length) chunk.1 chunk.2 before.1
  rw [← before.2] at moved
  exact moved.symm

theorem AllAccounted.assembled (accounted : AllAccounted streamStates)
    {result : StreamInput × StreamStates}
    (assembled : Assembled streamStates key requestMeta currentMs result) :
    AllAccounted result.2 := by
  cases assembled with
  | malformed _ _ => exact accounted.update nofun
  | excessive _ _ _ => exact (accounted.swept currentMs).update nofun
  | joined _ _ _ => exact (accounted.swept currentMs).update nofun
  | @kept chunk _ fits _ =>
    apply (accounted.swept currentMs).update
    intro state held
    cases held
    obtain ⟨distinct, bytes⟩ := accounted.extended chunk
    exact ⟨distinct, bytes, fits⟩

/-- An input that fails leaves no state. -/
theorem Assembled.erased {result : StreamInput × StreamStates}
    (assembled : Assembled streamStates key requestMeta currentMs result) {streamError : String}
    (failed : result.1 = .failed streamError) : result.2 key = none := by
  cases assembled with
  | kept _ _ _ => cases failed
  | malformed _ _ | excessive _ _ _ | joined _ _ _ => exact Function.update_self ..

end Accounting

/-- A message for `task_user_data`, and the node as it finds it: the control plane and the
fields of the message have made it what it is. -/
structure DataMessage where
  node : VllmLlm
  num : Int
  object : Bytes
  data : Bytes
  nowMs : Int

/-- `task_user_data` for one message. -/
def handle (codec : Codec) (s : DataNode) (m : DataMessage) : Option (Bool × DataNode) :=
  (Data.taskUserData codec m.object m.data).complete (execNode m.num [] m.nowMs)
    { s with node := m.node }

/-- The node after a message, unless an exception ends it. -/
def afterMessage (codec : Codec) (s : DataNode) (m : DataMessage) : Option DataNode :=
  ((handle codec s m).filter fun ended => !ended.1).map Prod.snd

/-- Only `assemble_stream_input` writes the states. -/
theorem execNode_streamStates {num nowMs : Int} {message : Bytes} {s s' : DataNode} {o : DataOp}
    {r : o.Resp} (executed : execNode num message nowMs s o = some (r, s')) :
    (∃ key requestMeta, o = .assembleStreamInput key requestMeta ∧
        s'.streamStates = (assembleStreamInput s.streamStates key requestMeta nowMs).2) ∨
      s'.streamStates = s.streamStates := by
  rcases execNode_cases executed with ⟨key, requestMeta, called, rfl⟩ | ⟨_, rfl⟩ |
    ⟨_, _, _, _, _, _, _, _, _, _, rfl⟩ | ⟨_, rfl⟩
  · exact .inl ⟨key, requestMeta, called, rfl⟩
  · exact .inr rfl
  · exact .inr rfl
  · exact .inr rfl

theorem handle_accounted {codec : Codec} {s s' : DataNode} {m : DataMessage} {thrown : Bool}
    (handled : handle codec s m = some (thrown, s')) (accounted : AllAccounted s.streamStates) :
    AllAccounted s'.streamStates := by
  apply Prog.complete_invariant (fun t => AllAccounted t.streamStates) _ handled accounted
  intro t o r t' executed before
  rcases execNode_streamStates executed with ⟨key, requestMeta, _, after⟩ | same
  · rw [after]
    exact before.assembled (assembleStreamInput_assembled _ key requestMeta _)
  · rw [same]
    exact before

theorem run_accounted {codec : Codec} {s t : DataNode} {messages : List DataMessage}
    (ran : run (afterMessage codec) s messages = some t)
    (fresh : ∀ key, s.streamStates key = none) : AllAccounted t.streamStates := by
  apply run_invariant (afterMessage codec) (fun s => AllAccounted s.streamStates) _ s t messages ran
  · intro key state found
    rw [fresh] at found
    cases found
  · intro s m s' taken before
    obtain ⟨⟨thrown, s''⟩, handled, rfl⟩ := Option.map_eq_some_iff.mp taken
    exact handle_accounted (Option.filter_eq_some_iff.mp handled).1 before

/-- The error with which a stream message is rejected. -/
def rejection (codec : Codec) (s : DataNode) (m : DataMessage) (channel : LlmChannelObj) (n : Int) :
    Option (Int × String) :=
  match if m.node.sharedTask.isSome then m.node.sessions.lookup n else none with
  | none => some (-6, "Unit Does Not Exist")
  | some _ =>
    if m.data.isEmpty ∨ m.data = lit "None" then some (-24, "The inference data is empty.")
    else match (assembleStreamInput s.streamStates (streamKey channel)
        (Data.parseMeta codec m.data) m.nowMs).1 with
      | .failed streamError => some (-25, streamError)
      | _ => none

theorem refuse_streamStates {num nowMs : Int} {message : Bytes} {s s' : DataNode} {code : Int}
    {text : String} {thrown : Bool} (ended : (Data.refuse code text).complete
      (execNode num message nowMs) s = some (thrown, s')) : s'.streamStates = s.streamStates := by
  have only : (Data.refuse code text).Only
      fun o => ∀ streamKey requestMeta, o ≠ .assembleStreamInput streamKey requestMeta :=
    refuse_only nofun nofun nofun (fun _ _ _ => nofun) code text
  apply Prog.complete_only (fun t => t.streamStates = s.streamStates) _ only ended rfl
  intro t o r t' other executed before
  rcases execNode_streamStates executed with ⟨key, requestMeta, called, _⟩ | same
  · exact absurd called (other key requestMeta)
  · exact same.trans before

/-- A rejected stream message ends with its error. The chunks of its key are gone, if it was
rejected for its chunk. -/
theorem handle_rejected {codec : Codec} {s : DataNode} {m : DataMessage} {channel : LlmChannelObj}
    {n code : Int} {text : String} (found : m.node.llmTaskChannel m.num = some channel)
    (number : sampleGetWorkIdNum channel.workId = some n)
    (chunked : (find (lit "stream") m.object).isSome = true)
    (rejected : rejection codec s m channel n = some (code, text)) :
    ∃ after, handle codec s m = (Data.refuse code text).complete (execNode m.num [] m.nowMs)
        { s with node := m.node, streamStates := after } ∧
      (code = -25 → after (streamKey channel) = none) ∧ (code ≠ -25 → after = s.streamStates) := by
  let s₁ : DataNode := { s with node := m.node }
  have found₁ : s₁.node.llmTaskChannel m.num = some channel := found
  unfold rejection at rejected
  cases search : if m.node.sharedTask.isSome then m.node.sessions.lookup n else none with
  | none =>
    have reach := @taskUserData_complete codec m.num m.nowMs [] s₁ channel found₁ n number _ search
      m.object m.data
    rw [search] at rejected
    cases rejected
    exact ⟨s.streamStates, reach, fun same => absurd same (by decide), fun _ => rfl⟩
  | some session =>
    have reach : handle codec s m = (Data.sessionData codec m.object m.data session).complete
        (execNode m.num [] m.nowMs) s₁ :=
      @taskUserData_complete codec m.num m.nowMs [] s₁ channel found₁ n number _ search
        m.object m.data
    rw [reach, Data.sessionData]
    rw [search] at rejected
    dsimp only at rejected
    by_cases empty : m.data.isEmpty = true ∨ m.data = lit "None"
    · rw [if_pos empty] at rejected ⊢
      cases rejected
      exact ⟨s.streamStates, rfl, fun same => absurd same (by decide), fun _ => rfl⟩
    · rw [if_neg empty] at rejected ⊢
      rw [if_pos chunked]
      have ends := assembleStreamInput_assembled s.streamStates (streamKey channel)
        (Data.parseMeta codec m.data) m.nowMs
      rcases assembled : assembleStreamInput s.streamStates (streamKey channel)
        (Data.parseMeta codec m.data) m.nowMs with ⟨result, after⟩
      rw [assembled] at rejected ends
      cases result with
      | incomplete => cases rejected
      | complete _ => cases rejected
      | failed streamError =>
        cases rejected
        exact ⟨after, streamInput_complete found₁ m.object _ session assembled,
          fun _ => ends.erased rfl, fun other => absurd rfl other⟩

/-- Between the messages every state counts its bytes exactly and is within the limits, and the
chunk of any index has no more bytes than are counted, so that overwriting it never
takes too much away. A message that is rejected for its chunk leaves no state under its key;
one that is rejected before that leaves the states as they are. -/
theorem stream_buffers_accounted (codec : Codec) (s t : DataNode) (messages : List DataMessage)
    (fresh : ∀ key, s.streamStates key = none)
    (ran : run (afterMessage codec) s messages = some t) :
    (∀ key state, t.streamStates key = some state → state.Accounted ∧
        ∀ index, weightAt (fun _ delta => delta.length) index state.chunks ≤ state.totalBytes) ∧
      ∀ m channel n code text, m.node.llmTaskChannel m.num = some channel →
        sampleGetWorkIdNum channel.workId = some n →
        (find (lit "stream") m.object).isSome = true →
        rejection codec t m channel n = some (code, text) →
        ∃ after, handle codec t m = (Data.refuse code text).complete (execNode m.num [] m.nowMs)
            { t with node := m.node, streamStates := after } ∧
          (∀ thrown t', handle codec t m = some (thrown, t') → t'.streamStates = after) ∧
          (code = -25 → after (streamKey channel) = none) ∧
          (code ≠ -25 → after = t.streamStates) := by
  constructor
  · intro key state found
    have accounted := run_accounted ran fresh key state found
    refine ⟨accounted, fun index => ?_⟩
    rw [accounted.bytes]
    exact weightAt_le_total _ index accounted.distinct
  · intro m channel n code text found number chunked rejected
    obtain ⟨after, ends, erased, kept⟩ := handle_rejected found number chunked rejected
    refine ⟨after, ends, fun thrown t' handled => ?_, erased, kept⟩
    rw [ends] at handled
    exact refuse_streamStates handled

/-- The data of one chunk. -/
def chunkText : Bytes := lit "\x7b\"index\":0,\"delta\":\"a\"\x7d"

/-- A JSON library that knows this text. -/
def oneChunk : Codec := knowsOnly chunkText (.obj [("index", .int 0), ("delta", .str "a")])

/-- A stream message for the session of `oneSession`. -/
def sessionChunk (data : Bytes) : DataMessage where
  node := oneSession.node
  num := 1
  object := lit "llm.stream"
  data := data
  nowMs := 0

/-- The channel of this session. -/
def sessionChannel : LlmChannelObj :=
  { requestId := lit "7", workId := lit "llm.1", outputUrl := lit "ipc:///tmp/7" }

/-- A chunk is counted, and a message without an index then erases it. -/
theorem stream_buffers_accounted_chunk :
    ∃ t state after, run (afterMessage oneChunk) oneSession [sessionChunk chunkText] = some t ∧
      t.streamStates (streamKey sessionChannel) = some state ∧ state.Accounted ∧
      state.totalBytes = 1 ∧
      (∀ thrown t', handle oneChunk t (sessionChunk (lit "a")) = some (thrown, t') →
        t'.streamStates = after) ∧ after (streamKey sessionChannel) = none := by
  have computed : ((run (afterMessage oneChunk) oneSession [sessionChunk chunkText]).bind fun t =>
      (t.streamStates (streamKey sessionChannel)).bind fun state =>
        (rejection oneChunk t (sessionChunk (lit "a")) sessionChannel 1).map fun rejected =>
          (state.totalBytes, rejected)) = some (1, -25, "Stream data index error.") := by
    decide +kernel
  obtain ⟨t, ran, computed⟩ := Option.bind_eq_some_iff.mp computed
  obtain ⟨state, found, computed⟩ := Option.bind_eq_some_iff.mp computed
  obtain ⟨rejected, rejection, equal⟩ := Option.map_eq_some_iff.mp computed
  obtain ⟨bytes, rfl⟩ := Prod.mk.inj equal
  obtain ⟨counted, rejects⟩ := stream_buffers_accounted oneChunk oneSession t
    [sessionChunk chunkText] (fun _ => rfl) ran
  obtain ⟨after, -, ends, erased, -⟩ := rejects (sessionChunk (lit "a")) sessionChannel 1 _ _ rfl
    (by decide) (by decide +kernel) rejection
  exact ⟨t, state, after, ran, found, (counted _ state found).1, bytes, ends, erased rfl⟩

/-- A stream message without data is rejected, and the chunk before it stays. -/
theorem empty_chunk_keeps_state :
    ∃ t t', run (afterMessage oneChunk) oneSession [sessionChunk chunkText] = some t ∧
      handle oneChunk t (sessionChunk []) = some (false, t') ∧
      t'.sent.map (·.errorCode) = [-24] ∧
      (t'.streamStates (streamKey sessionChannel)).isSome = true := by
  have computed : ((run (afterMessage oneChunk) oneSession [sessionChunk chunkText]).bind fun t =>
      (handle oneChunk t (sessionChunk [])).map fun ended => (ended.1,
        ended.2.sent.map (·.errorCode),
        (ended.2.streamStates (streamKey sessionChannel)).isSome)) =
        some (false, [-24], true) := by
    decide +kernel
  obtain ⟨t, ran, computed⟩ := Option.bind_eq_some_iff.mp computed
  obtain ⟨⟨thrown, t'⟩, ended, equal⟩ := Option.map_eq_some_iff.mp computed
  obtain ⟨rfl, rest⟩ := Prod.mk.inj equal
  obtain ⟨sent, kept⟩ := Prod.mk.inj rest
  exact ⟨t, t', ran, ended, sent, kept⟩

end VllmRoute.Node
