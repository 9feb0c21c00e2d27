import VllmRoute.Scheduler.Log

/-!
# The outcome of a request

The log of a worker: for each request it took, what was sent to the client and
which outcomes were counted. Whatever the other threads and the backend do, the
output of a request is a run of deltas of one attempt and at most one terminal
message, and a request that is over has one outcome, or none if the worker
found `stopping_` set.
-/
namespace VllmRoute.Scheduler

open Lib

/-- The message goes to the client of the request, under its ids. -/
def ClientMessage.AddressedTo (m : ClientMessage) (req : InferenceRequest) : Prop :=
  m.requestId = req.requestId ∧ m.workId = req.workId ∧ m.outputUrl = req.outputUrl

namespace Tally

/-- `k` non-finish deltas of one attempt, numbered from zero. -/
def deltas (source : Source) (k : Nat) : List (Source × Kind) :=
  (List.range k).map fun i => (source, .delta i)

/-- What may follow `k` deltas. -/
def Closing (req : InferenceRequest) (source : Source) (k : Nat) (tail : List (Source × Kind)) :
    Prop :=
  tail = [] ∨ (req.enstream = true ∧ tail = [(source, .finish k)]) ∨
    (req.enstream = false ∧ k = 0 ∧ tail = [(source, .text)]) ∨
    ∃ code, tail = [(source, .error code)]

/-- The output of a request: the deltas of one attempt on one endpoint, then at most
one terminal message. -/
def Delivered (t : Tally) : Prop :=
  ∃ source k tail, t.outputs = deltas source k ++ tail ∧ Closing t.req source k tail

def Addressed (t : Tally) : Prop := ∀ output ∈ t.sent, output.2.AddressedTo t.req

/-- The request gets a terminal message on this outcome. -/
def answered (t : Tally) (status : RequestStatus) : Bool :=
  !t.req.outputUrl.isEmpty && (status ≠ .success || t.req.enoutput)

/-- The request is over: it had one outcome, or it was dropped at a stop. -/
def Settled (t : Tally) : Prop :=
  t.Delivered ∧ t.Addressed ∧
    ((∃ status, status.terminal = true ∧ t.statuses = [(t.req.taskId, status)] ∧ t.finishes = 1 ∧
        t.terminals = if t.answered status then 1 else 0) ∨
      (t.sawStopping = true ∧ t.statuses = [] ∧ t.finishes = 0 ∧ t.terminals = 0))

/-- What holds of a request at any time. -/
structure Sound (t : Tally) : Prop where
  delivered : t.Delivered
  addressed : t.Addressed
  statuses : t.statuses.length ≤ 1
  finishes : t.finishes ≤ 1

/-- The request has no outcome yet, and its current attempt sent `k` deltas and then
`tail`. -/
structure Open (t : Tally) (k : Nat) (tail : List (Source × Kind)) : Prop where
  addressed : t.Addressed
  statuses : t.statuses = []
  finishes : t.finishes = 0
  outputs : t.outputs = deltas t.source k ++ tail
  closing : Closing t.req t.source k tail

theorem Settled.sound {t : Tally} (settled : t.Settled) : t.Sound := by
  obtain ⟨delivered, addressed,
    ⟨status, _, statuses, finishes, _⟩ | ⟨_, statuses, finishes, _⟩⟩ := settled
  · exact ⟨delivered, addressed, by simp [statuses], by omega⟩
  · exact ⟨delivered, addressed, by simp [statuses], by omega⟩

@[simp] theorem outputs_send (t : Tally) (m : ClientMessage) :
    (t.send m).outputs = t.outputs ++ [(t.source, m.kind)] := by
  simp [outputs, send]

theorem Addressed.send {t : Tally} (addressed : t.Addressed) {m : ClientMessage}
    (own : m.AddressedTo t.req) : (t.send m).Addressed := by
  intro output member
  rcases List.mem_append.mp member with old | new
  · exact addressed output old
  · exact List.mem_singleton.mp new ▸ own

theorem deltas_succ (source : Source) (k : Nat) :
    deltas source (k + 1) = deltas source k ++ [(source, .delta k)] := by
  simp [deltas, List.range_succ]

@[simp] theorem countP_deltas (source : Source) (k : Nat) :
    (deltas source k).countP (fun output => output.2.terminal) = 0 := by
  simp [deltas, List.countP_eq_zero, Kind.terminal]

section Open

variable {t : Tally} {k : Nat} {tail : List (Source × Kind)}

theorem Open.delivered (open_ : t.Open k tail) : t.Delivered :=
  ⟨t.source, k, tail, open_.outputs, open_.closing⟩

theorem Open.sound (open_ : t.Open k tail) : t.Sound :=
  ⟨open_.delivered, open_.addressed, by simp [open_.statuses], by simp [open_.finishes]⟩

/-- After `update_record`. -/
theorem Open.recorded (open_ : t.Open k tail) (update : Int × RequestStatus) :
    ({ t with statuses := t.statuses ++ [update] } : Tally).Sound :=
  ⟨open_.delivered, open_.addressed, by simp [open_.statuses], by simp [open_.finishes]⟩

/-- After `update_record` and `on_request_finish`. -/
theorem Open.counted (open_ : t.Open k tail) (update : Int × RequestStatus) :
    ({ t with statuses := t.statuses ++ [update], finishes := t.finishes + 1 } : Tally).Sound :=
  ⟨open_.delivered, open_.addressed, by simp [open_.statuses], by simp [open_.finishes]⟩

/-- With the messages that belong to its outcome, the request is then over. -/
theorem Open.settled (open_ : t.Open k tail) {status : RequestStatus}
    (terminal : status.terminal = true)
    (answer : tail.countP (fun output => output.2.terminal) = if t.answered status then 1 else 0) :
    ({ t with
      statuses := t.statuses ++ [(t.req.taskId, status)]
      finishes := t.finishes + 1 } : Tally).Settled := by
  have counted : t.terminals = if t.answered status then 1 else 0 := by
    simp [terminals, open_.outputs, answer]
  exact ⟨open_.delivered, open_.addressed, Or.inl ⟨status, terminal, by simp [open_.statuses],
    by simp [open_.finishes], counted⟩⟩

/-- A request that is given up at a stop. -/
theorem Open.dropped (open_ : t.Open k []) : ({ t with sawStopping := true } : Tally).Settled := by
  have none : t.terminals = 0 := by simp [terminals, open_.outputs]
  exact ⟨open_.delivered, open_.addressed, Or.inr ⟨rfl, open_.statuses, open_.finishes, none⟩⟩

/-- A further delta. -/
theorem Open.send_delta (open_ : t.Open k []) {m : ClientMessage} (kind : m.kind = .delta k)
    (own : m.AddressedTo t.req) : (t.send m).Open (k + 1) [] := by
  refine ⟨open_.addressed.send own, open_.statuses, open_.finishes, ?_, Or.inl rfl⟩
  rw [outputs_send, open_.outputs, kind, deltas_succ]
  simp [send]

/-- The terminal message. -/
theorem Open.send_terminal (open_ : t.Open k []) {m : ClientMessage}
    (closing : Closing t.req t.source k [(t.source, m.kind)]) (own : m.AddressedTo t.req) :
    (t.send m).Open k [(t.source, m.kind)] := by
  refine ⟨open_.addressed.send own, open_.statuses, open_.finishes, ?_, closing⟩
  rw [outputs_send, open_.outputs, List.append_nil]
  rfl

end Open

end Tally

/-- What holds of the log of a worker that is running. -/
def Running (log : WorkerLog) : Prop := log.drained = false ∧ ∀ t ∈ log.tallies, t.Sound

/-- Code of a running worker that keeps every request sound, and ends with `post`. -/
abbrev Keeps {α : Type} (post : α → List Tally → Prop) (code : Code α) (tallies : List Tally) :
    Prop :=
  code.Ensures logOp Running (fun a log => log.drained = false ∧ post a log.tallies)
    ⟨tallies, false⟩

theorem sound_cons {t : Tally} {done : List Tally} (sound : t.Sound)
    (settled : ∀ u ∈ done, u.Settled) : ∀ u ∈ t :: done, u.Sound := by
  intro u member
  rcases List.mem_cons.mp member with rfl | old
  · exact sound
  · exact (settled u old).sound

/-! ### The operations -/

section Operations

variable {t : Tally} {done : List Tally} (sound : ∀ u ∈ t :: done, u.Sound)
include sound

theorem keeps_loadStopping {post : Bool → List Tally → Prop}
    (running : post false (t :: done))
    (stopping : post true ({ t with sawStopping := true } :: done)) :
    Keeps post loadStopping (t :: done) :=
  ⟨⟨rfl, sound⟩, fun r => match r with
    | false => ⟨rfl, running⟩
    | true => ⟨rfl, stopping⟩⟩

/-- An operation that the log does not note. -/
theorem keeps_unnoted {o : Op} {post : o.Resp → List Tally → Prop}
    (unnoted : ∀ r, logOp o r ⟨t :: done, false⟩ = ⟨t :: done, false⟩)
    (go : ∀ r, post r (t :: done)) : Keeps post (ask o) (t :: done) := by
  refine ⟨⟨rfl, sound⟩, fun r => ?_⟩
  rw [unnoted r]
  exact ⟨rfl, go r⟩

theorem keeps_firstTokenLatency {post : Int → List Tally → Prop} {state : StreamState}
    (go : ∀ latency, post latency (t :: done)) :
    Keeps post (firstTokenLatency state) (t :: done) := by
  unfold firstTokenLatency
  split
  · exact ⟨rfl, go _⟩
  · exact (Prog.ensures_map _ _ _ _).mpr (keeps_unnoted sound (fun _ => rfl) fun now => go _)

theorem keeps_select {post : Option (Attempt × VllmEndpoint) → List Tally → Prop}
    {req : InferenceRequest} (none : post none (t :: done))
    (some : ∀ attempt endpoint, post (some (attempt, endpoint))
      ({ t with source := ⟨t.source.attempts + 1, attempt.endpoint⟩ } :: done)) :
    Keeps post (select req) (t :: done) :=
  ⟨⟨rfl, sound⟩, fun r => match r with
    | .none => ⟨rfl, none⟩
    | .some (attempt, endpoint) => ⟨rfl, some attempt endpoint⟩⟩

theorem keeps_readDeadlineExceeded {post : Bool → List Tally → Prop} {req : InferenceRequest}
    (go : ∀ late, post late (t :: done)) : Keeps post (readDeadlineExceeded req) (t :: done) := by
  unfold readDeadlineExceeded
  split
  · exact (Prog.ensures_map _ _ _ _).mpr (keeps_unnoted sound (fun _ => rfl) fun now => go _)
  · exact ⟨rfl, go false⟩

theorem keeps_writeRecord {post : Unit → List Tally → Prop} {r : InferenceRequest}
    {status : RequestStatus} {message : Bytes} (own : r.taskId = t.req.taskId)
    (terminal : status.terminal = true)
    (go : post () ({ t with statuses := t.statuses ++ [(t.req.taskId, status)] } :: done)) :
    Keeps post (writeRecord r status message) (t :: done) := by
  refine ⟨⟨rfl, sound⟩, fun | () => ⟨rfl, ?_⟩⟩
  simpa only [logOp, noteCurrent, Tally.note, own, terminal, if_true] using go

theorem keeps_onRequestFinish {post : Unit → List Tally → Prop} {ok timeout degraded : Bool}
    {totalLatencyMs queueWaitMs firstTokenLatencyMs : Int}
    (go : post () ({ t with finishes := t.finishes + 1 } :: done)) :
    Keeps post (onRequestFinish ok timeout degraded totalLatencyMs queueWaitMs firstTokenLatencyMs)
      (t :: done) := ⟨⟨rfl, sound⟩, fun _ => ⟨rfl, go⟩⟩

/-- The ways a message can go. -/
theorem keeps_sendClientMessage {post : Bool → List Tally → Prop} {m : ClientMessage}
    (silent : m.outputUrl = [] → post false (t :: done))
    (sent : m.outputUrl ≠ [] → m.dumps = true → post false (t.send m :: done))
    (thrown : m.outputUrl ≠ [] → m.dumps = false → post true (t :: done)) :
    Keeps post (sendClientMessage m) (t :: done) := by
  unfold sendClientMessage
  split
  next empty => exact ⟨rfl, silent (List.isEmpty_iff.mp empty)⟩
  next nonempty =>
    have nonempty : m.outputUrl ≠ [] := fun empty => nonempty (by simp [empty])
    split
    next dumps => exact ⟨⟨rfl, sound⟩, fun _ => ⟨rfl, sent nonempty dumps⟩⟩
    next throws => exact ⟨rfl, thrown nonempty (by simpa using throws)⟩

end Operations

theorem keeps_bind {α β : Type} {post : β → List Tally → Prop} {code : Code α} {f : α → Code β}
    {tallies : List Tally}
    (keeps : Keeps (fun a tallies => Keeps post (f a) tallies) code tallies) :
    Keeps post (code >>= f) tallies := by
  refine (Prog.ensures_bind _ _ _ _).mpr (keeps.mono ?_)
  rintro a ⟨tallies, drained⟩ ⟨rfl, rest⟩
  exact rest

theorem Keeps.mono {α : Type} {post post' : α → List Tally → Prop} {code : Code α}
    {tallies : List Tally} (keeps : Keeps post code tallies)
    (weaker : ∀ a tallies, post a tallies → post' a tallies) : Keeps post' code tallies :=
  Prog.Ensures.mono (fun a log holds => ⟨holds.1, weaker a log.tallies holds.2⟩) keeps

theorem keeps_pure {α : Type} {post : α → List Tally → Prop} {a : α} {tallies : List Tally}
    (holds : post a tallies) : Keeps post (pure a) tallies := ⟨rfl, holds⟩

/-! ### Messages -/

/-- The request has somewhere to send its output to. -/
def InferenceRequest.replies (req : InferenceRequest) : Bool :=
  req.enoutput && !req.outputUrl.isEmpty

/-- The ids of the request can be dumped. -/
def InferenceRequest.idsDump (req : InferenceRequest) : Bool :=
  validUtf8 req.requestId && validUtf8 req.workId

/-- A request as a worker carries it along: the client's side is unchanged. -/
structure Serves (r req : InferenceRequest) : Prop where
  taskId : r.taskId = req.taskId
  requestId : r.requestId = req.requestId
  workId : r.workId = req.workId
  outputUrl : r.outputUrl = req.outputUrl
  enoutput : r.enoutput = req.enoutput
  enstream : r.enstream = req.enstream

theorem keeps_emitDelta {t : Tally} {done : List Tally} (sound : ∀ u ∈ t :: done, u.Sound)
    {r : InferenceRequest} (serves : Serves r t.req) {post : Bool → List Tally → Prop}
    {delta : Bytes} {finish : Bool} {index : Int}
    (silent : t.req.replies = false → post false (t :: done))
    (sent : t.req.replies = true → t.req.idsDump = true → ∀ m : ClientMessage,
      m.kind = (if finish then .finish index else .delta index) → m.AddressedTo t.req →
      post false (t.send m :: done))
    (thrown : t.req.replies = true →
      t.req.idsDump = false ∨ validUtf8 (if finish then [] else delta) = false →
      post true (t :: done)) :
    Keeps post (emitDelta r delta finish index) (t :: done) := by
  obtain ⟨_, requestId, workId, outputUrl, enoutput, _⟩ := serves
  unfold emitDelta
  split
  next quiet =>
    refine keeps_pure (silent ?_)
    simp_all [InferenceRequest.replies]
  next loud =>
    have loud : t.req.enoutput = true := by simpa [enoutput] using loud
    refine keeps_sendClientMessage sound (fun empty => silent ?_) (fun nonempty dumps => ?_)
      (fun nonempty throws => ?_)
    · simp_all [InferenceRequest.replies]
    · refine sent (by simp_all [InferenceRequest.replies]) ?_ _ ?_ ⟨requestId, workId, outputUrl⟩
      · simp_all [ClientMessage.dumps, InferenceRequest.idsDump]
      · cases finish <;> simp [ClientMessage.kind, deltaBody]
    · refine thrown (by simp_all [InferenceRequest.replies]) ?_
      simp only [ClientMessage.dumps, Payload.dumps, deltaBody, validUtf8_lit, validUtf8_nil,
        Bool.and_true, requestId, workId] at throws
      exact Bool.and_eq_false_iff.mp throws

theorem keeps_emitText {t : Tally} {done : List Tally} (sound : ∀ u ∈ t :: done, u.Sound)
    {r : InferenceRequest} (serves : Serves r t.req) {post : Bool → List Tally → Prop}
    {text : Bytes} (silent : t.req.replies = false → post false (t :: done))
    (sent : t.req.replies = true → ∀ m : ClientMessage, m.kind = .text → m.AddressedTo t.req →
      post false (t.send m :: done))
    (thrown : post true (t :: done)) : Keeps post (emitText r text) (t :: done) := by
  obtain ⟨_, requestId, workId, outputUrl, enoutput, _⟩ := serves
  unfold emitText
  split
  next quiet =>
    refine keeps_pure (silent ?_)
    simp_all [InferenceRequest.replies]
  next loud =>
    refine keeps_sendClientMessage sound (fun empty => silent ?_) (fun nonempty _ => ?_)
      (fun _ _ => thrown)
    · simp_all [InferenceRequest.replies]
    · exact sent (by simp_all [InferenceRequest.replies]) _ (by simp [ClientMessage.kind])
        ⟨requestId, workId, outputUrl⟩

theorem keeps_emitError {t : Tally} {done : List Tally} (sound : ∀ u ∈ t :: done, u.Sound)
    {r : InferenceRequest} (serves : Serves r t.req) {post : Bool → List Tally → Prop}
    {code : Int} (nonzero : code ≠ 0) {message : Bytes}
    (silent : t.req.outputUrl = [] → post false (t :: done))
    (sent : t.req.outputUrl ≠ [] → ∀ m : ClientMessage, m.kind = .error code →
      m.AddressedTo t.req → post false (t.send m :: done))
    (thrown : post true (t :: done)) : Keeps post (emitError r code message) (t :: done) := by
  have outputUrl := serves.outputUrl
  refine keeps_sendClientMessage sound (fun empty => silent ?_)
    (fun nonempty _ => sent ?_ _ ?_ ⟨serves.requestId, serves.workId, outputUrl⟩)
    (fun _ _ => thrown)
  · exact outputUrl ▸ empty
  · exact outputUrl ▸ nonempty
  · simp [ClientMessage.kind, nonzero]

/-! ### Loop heads -/

/-- The messages a streaming attempt has sent when its index is `n`. -/
def InferenceRequest.sentAt (req : InferenceRequest) (n : Nat) : Nat :=
  if req.replies && req.idsDump then n else 0

@[simp] theorem InferenceRequest.sentAt_zero (req : InferenceRequest) : req.sentAt 0 = 0 := by
  simp [sentAt]

theorem Tally.answered_success (t : Tally) : t.answered .success = t.req.replies := by
  simp [answered, InferenceRequest.replies, Bool.and_comm]

/-- A request between attempts. -/
structure Retrying (l : Retry) (t : Tally) : Prop where
  unsent : t.Open 0 []
  req : Serves l.req t.req
  finalReq : Serves l.finalReq t.req

/-- A streaming attempt at index `n`. -/
structure Streaming (r : InferenceRequest) (state : StreamState) (t : Tally) (n : Nat) : Prop where
  streamed : t.Open (t.req.sentAt n) []
  serves : Serves r t.req
  index : state.index = n
  started : state.started = false → n = 0

/-- A request during a transfer; a response that is not streamed has sent nothing. -/
structure Transferring (l : Retry) (attemptReq : InferenceRequest) (state : StreamState)
    (t : Tally) (n : Nat) : Prop where
  streaming : Streaming attemptReq state t n
  req : Serves l.req t.req
  whole : t.req.enstream = false → n = 0

/-- What holds of the requests of a running worker at each of its loop heads. -/
def Head : Point → List Tally → Prop
  | .top, log => ∀ t ∈ log, t.Settled
  | .exited, _ => False
  | .crashed, log => ∀ t ∈ log, t.Sound
  | .attempts l, log => ∃ t done, log = t :: done ∧ Retrying l t ∧ ∀ u ∈ done, u.Settled
  | .waiting l _, log => ∃ t done, log = t :: done ∧ Retrying l t ∧ ∀ u ∈ done, u.Settled
  | .transfer l _ attemptReq state _, log =>
    ∃ t done n, log = t :: done ∧ Transferring l attemptReq state t n ∧ ∀ u ∈ done, u.Settled

theorem settled_cons {t : Tally} {done : List Tally} (settled : t.Settled)
    (rest : ∀ u ∈ done, u.Settled) : ∀ u ∈ t :: done, u.Settled := by
  intro u member
  rcases List.mem_cons.mp member with rfl | old
  · exact settled
  · exact rest u old

theorem prepareRequestForEndpoint_serves {r req : InferenceRequest} (serves : Serves r req)
    (ep : VllmEndpoint) (retryCount : Int) :
    Serves (prepareRequestForEndpoint { r with retryCount := retryCount } ep) req :=
  ⟨serves.taskId, serves.requestId, serves.workId, serves.outputUrl, serves.enoutput,
    serves.enstream⟩

theorem Retrying.stopping {l : Retry} {t : Tally} (retrying : Retrying l t) :
    Retrying l { t with sawStopping := true } :=
  ⟨⟨retrying.unsent.addressed, retrying.unsent.statuses, retrying.unsent.finishes,
    retrying.unsent.outputs, Or.inl rfl⟩,
    retrying.req, retrying.finalReq⟩

/-- With nothing sent, the request is free to move on to another attempt. -/
theorem Retrying.moved {l : Retry} {t : Tally} (retrying : Retrying l t) (source : Source) :
    Retrying l { t with source := source } :=
  ⟨⟨retrying.unsent.addressed, retrying.unsent.statuses, retrying.unsent.finishes,
    retrying.unsent.outputs, Or.inl rfl⟩,
    retrying.req, retrying.finalReq⟩

section Heads

variable {l : Retry} {t : Tally} {done : List Tally} (rest : ∀ u ∈ done, u.Settled)
include rest

theorem failRequest_keeps {k : Nat} (open_ : t.Open k []) (serves : Serves l.finalReq t.req) :
    Keeps Head (failRequest l) (t :: done) := by
  have sound := sound_cons open_.sound rest
  unfold failRequest
  -- at a stop the request is dropped; otherwise it is recorded, counted and answered
  refine keeps_bind (keeps_loadStopping sound ?_ (keeps_pure (settled_cons open_.dropped rest)))
  refine keeps_bind (keeps_unnoted sound (fun _ => rfl) fun now => ?_)
  generalize (if l.errorMessage.isEmpty then lit "vLLM request failed" else l.errorMessage) =
    message
  have terminal : (if message = lit "deadline exceeded" then RequestStatus.timeout
      else .failed).terminal = true := by split <;> rfl
  have unsuccessful : (if message = lit "deadline exceeded" then RequestStatus.timeout
      else .failed) ≠ .success := by split <;> decide
  refine keeps_bind (keeps_writeRecord sound serves.taskId terminal ?_)
  refine keeps_bind (keeps_onRequestFinish (sound_cons (open_.recorded _) rest) ?_)
  have counted := sound_cons (open_.counted (t.req.taskId, if message = lit "deadline exceeded"
    then RequestStatus.timeout else .failed)) rest
  refine keeps_bind (keeps_emitError counted ?_ ?_ ?_ ?_ (keeps_pure counted))
  · exact ⟨serves.taskId, serves.requestId, serves.workId, serves.outputUrl, serves.enoutput,
      serves.enstream⟩
  · split <;> decide
  · intro silent
    refine keeps_pure (settled_cons (open_.settled terminal ?_) rest)
    have empty : t.req.outputUrl = [] := silent
    simp [Tally.answered, empty]
  · intro loud m kind own
    -- an error may follow any number of deltas
    have closing : Tally.Closing t.req t.source k [(t.source, m.kind)] :=
      Or.inr (Or.inr (Or.inr ⟨_, by rw [kind]⟩))
    refine keeps_pure (settled_cons ((open_.send_terminal closing own).settled terminal ?_) rest)
    have nonempty : t.req.outputUrl ≠ [] := loud
    simp [Tally.answered, Tally.send, nonempty, unsuccessful, kind, Kind.terminal]

theorem noEndpoint_keeps (retrying : Retrying l t) : Keeps Head (noEndpoint l) (t :: done) :=
  failRequest_keeps rest retrying.unsent retrying.finalReq

theorem afterCall_ok_keeps {k : Nat} {tail : List (Source × Kind)} (open_ : t.Open k tail)
    (answer : tail.countP (fun output => output.2.terminal) =
      if t.answered .success then 1 else 0)
    {r : InferenceRequest} (own : r.taskId = t.req.taskId) (attempt : Attempt)
    (streamStarted : Bool) (message : Bytes) :
    Keeps Head (afterCall l attempt r true streamStarted message) (t :: done) := by
  have sound := sound_cons open_.sound rest
  unfold afterCall
  refine keeps_bind (keeps_unnoted sound (fun _ => rfl) fun _ => ?_)
  refine keeps_bind (keeps_unnoted sound (fun _ => rfl) fun now => ?_)
  refine keeps_bind (keeps_writeRecord sound own rfl ?_)
  refine keeps_bind (keeps_onRequestFinish (sound_cons (open_.recorded _) rest) ?_)
  exact keeps_pure (settled_cons (open_.settled rfl answer) rest)

theorem afterCall_failed_keeps {k : Nat} (open_ : t.Open k []) (req : Serves l.req t.req)
    {r : InferenceRequest} (serves : Serves r t.req) {streamStarted : Bool}
    (unstarted : streamStarted = false → k = 0) (attempt : Attempt) (message : Bytes) :
    Keeps Head (afterCall l attempt r false streamStarted message) (t :: done) := by
  have sound := sound_cons open_.sound rest
  unfold afterCall
  refine keeps_bind (keeps_unnoted sound (fun _ => rfl) fun _ => ?_)
  refine keeps_bind (keeps_unnoted sound (fun _ => rfl) fun _ => ?_)
  cases streamStarted with
  -- after the first delta there is no further attempt, so the deltas stay of one attempt
  | true => exact failRequest_keeps rest open_ serves
  | false =>
    -- nothing went out, and the next attempt starts from the first index
    have unsent : k = 0 := unstarted rfl
    subst unsent
    exact keeps_pure ⟨t, done, rfl, ⟨open_, req, serves⟩, rest⟩

theorem beginAttempt_keeps (retrying : Retrying l t) (attempt : Attempt)
    (endpoint : VllmEndpoint) : Keeps Head (beginAttempt l attempt endpoint) (t :: done) := by
  obtain ⟨unsent, req, _⟩ := retrying
  have sound := sound_cons unsent.sound rest
  have serves := prepareRequestForEndpoint_serves req endpoint l.attempt
  unfold beginAttempt
  refine keeps_bind (keeps_unnoted sound (fun _ => rfl) fun ready => ?_)
  cases ready with
  | false => exact afterCall_failed_keeps rest unsent req serves (fun _ => rfl) attempt _
  | true =>
    simp only [if_true]
    split
    · refine keeps_bind (keeps_unnoted sound (fun _ => rfl) fun now => ?_)
      refine keeps_pure
        ⟨t, done, 0, rfl, ⟨⟨?_, serves, rfl, fun _ => rfl⟩, req, fun _ => rfl⟩, rest⟩
      simpa using unsent
    · exact keeps_pure sound

theorem attemptLoop_keeps (retrying : Retrying l t) : Keeps Head (attemptLoop l) (t :: done) := by
  have sound := sound_cons retrying.unsent.sound rest
  unfold attemptLoop
  split
  · exact failRequest_keeps rest retrying.unsent retrying.finalReq
  · refine keeps_bind (keeps_loadStopping sound ?_
      (failRequest_keeps rest retrying.stopping.unsent retrying.finalReq))
    refine keeps_bind (keeps_readDeadlineExceeded sound fun late => ?_)
    cases late with
    | true => exact failRequest_keeps rest retrying.unsent retrying.finalReq
    | false =>
      refine keeps_bind (keeps_select sound ?_ fun attempt endpoint =>
        beginAttempt_keeps rest (retrying.moved _) attempt endpoint)
      refine keeps_bind (keeps_unnoted sound (fun _ => rfl) fun waitMs => ?_)
      split
      · exact noEndpoint_keeps rest retrying
      · refine keeps_bind (keeps_unnoted sound (fun _ => rfl) fun now => ?_)
        exact keeps_bind (keeps_unnoted sound (fun _ => rfl) fun _ =>
          keeps_pure ⟨t, done, rfl, retrying, rest⟩)

theorem waitLoop_keeps (retrying : Retrying l t) (waitUntilMs : Int) :
    Keeps Head (waitLoop l waitUntilMs) (t :: done) := by
  have sound := sound_cons retrying.unsent.sound rest
  unfold waitLoop
  refine keeps_bind (keeps_loadStopping sound ?_ (noEndpoint_keeps rest retrying.stopping))
  refine keeps_bind (keeps_unnoted sound (fun _ => rfl) fun now => ?_)
  split
  · exact noEndpoint_keeps rest retrying
  · refine keeps_bind (keeps_select sound ?_ fun attempt endpoint =>
      beginAttempt_keeps rest (retrying.moved _) attempt endpoint)
    refine keeps_bind (keeps_readDeadlineExceeded sound fun late => ?_)
    cases late with
    | true => exact noEndpoint_keeps rest retrying
    | false => exact keeps_pure ⟨t, done, rfl, retrying, rest⟩

/-- A delta moves the index and the deltas sent together. -/
theorem nextDelta_keeps {r : InferenceRequest} {n : Nat} (streamed : t.Open (t.req.sentAt n) [])
    (serves : Serves r t.req) {delta : Bytes} {post : Bool → List Tally → Prop}
    (go : ∀ t', t'.req = t.req → t'.Open (t'.req.sentAt (n + 1)) [] → post false (t' :: done))
    (thrown : t.req.idsDump = false ∨ validUtf8 delta = false → post true (t :: done)) :
    Keeps post (emitDelta r delta false n) (t :: done) := by
  refine keeps_emitDelta (sound_cons streamed.sound rest) serves ?_ ?_ (fun _ => thrown)
  · intro silent
    refine go t rfl ?_
    simpa [InferenceRequest.sentAt, silent] using streamed
  · intro loud dump m kind own
    -- every index so far was sent, and so is this one
    have all (n : Nat) : t.req.sentAt n = n := by simp [InferenceRequest.sentAt, loud, dump]
    rw [all] at streamed
    have next := streamed.send_delta (m := m) (by simpa using kind) own
    rw [← all (n + 1)] at next
    exact go (t.send m) rfl next

theorem handleStreamLine_keeps (codec : Codec) {r : InferenceRequest} {state : StreamState}
    {n : Nat} (streaming : Streaming r state t n) (line : Bytes) :
    Keeps (fun state log => ∃ t' n, log = t' :: done ∧ Streaming r state t' n ∧ t'.req = t.req)
      (handleStreamLine codec r state line) (t :: done) := by
  obtain ⟨streamed, serves, index, started⟩ := streaming
  have sound := sound_cons streamed.sound rest
  unfold handleStreamLine
  split
  · exact keeps_pure ⟨t, n, rfl, ⟨streamed, serves, index, started⟩, rfl⟩
  · exact keeps_pure ⟨t, n, rfl, ⟨streamed, serves, index, started⟩, rfl⟩
  · exact keeps_pure ⟨t, n, rfl, ⟨streamed, serves, index, started⟩, rfl⟩
  -- only a delta moves the index
  next delta =>
    refine keeps_bind (keeps_firstTokenLatency sound fun latency => ?_)
    rw [index]
    refine keeps_bind (nextDelta_keeps rest streamed serves ?_ ?_)
    · intro t' same streamed'
      exact keeps_pure ⟨t', n + 1, rfl, ⟨streamed', same ▸ serves, rfl, by simp⟩, same⟩
    · intro throws
      -- the text of a delta is UTF-8, so it is the ids that cannot be dumped
      have undumped : t.req.idsDump = false := by simpa using throws
      refine keeps_pure ⟨t, n + 1, rfl, ⟨?_, serves, rfl, by simp⟩, rfl⟩
      simpa [InferenceRequest.sentAt, undumped] using streamed

theorem handleStreamLines_keeps (codec : Codec) {r : InferenceRequest} {state : StreamState}
    {n : Nat} (streaming : Streaming r state t n) (lines : List Bytes) :
    Keeps (fun state log => ∃ t' n, log = t' :: done ∧ Streaming r state t' n ∧ t'.req = t.req)
      (handleStreamLines codec r state lines) (t :: done) := by
  -- on the lines: each one moves the index and the tally together
  induction lines generalizing state t n with
  | nil => exact keeps_pure ⟨t, n, rfl, streaming, rfl⟩
  | cons line lines ih =>
    refine keeps_bind (Keeps.mono (handleStreamLine_keeps rest codec streaming _) ?_)
    rintro state tallies ⟨t', n', rfl, streaming', same⟩
    refine Keeps.mono (ih streaming') ?_
    rintro state tallies ⟨u, k, rfl, streaming'', same'⟩
    exact ⟨u, k, rfl, streaming'', same'.trans same⟩

/-- The end of a streamed response. -/
theorem finishStream_keeps {r : InferenceRequest} {n : Nat}
    (streamed : t.Open (t.req.sentAt n) []) (serves : Serves r t.req)
    (stream : t.req.enstream = true) {post : Bool → List Tally → Prop}
    (done' : ∀ t' tail, t'.req = t.req → t'.Open (t.req.sentAt n) tail →
      tail.countP (fun output => output.2.terminal) = (if t'.answered .success then 1 else 0) →
      post false (t' :: done)) (thrown : post true (t :: done)) :
    Keeps post (emitDelta r [] true n) (t :: done) := by
  refine keeps_emitDelta (sound_cons streamed.sound rest) serves ?_ ?_ (fun _ _ => thrown)
  · intro silent
    exact done' t [] rfl streamed (by simp [t.answered_success, silent])
  · intro loud dump m kind own
    -- the finish delta takes the index after the last delta
    have all : t.req.sentAt n = n := by simp [InferenceRequest.sentAt, loud, dump]
    have closing : Tally.Closing t.req t.source (t.req.sentAt n) [(t.source, m.kind)] :=
      Or.inr (Or.inl ⟨stream, by simp [kind, all]⟩)
    refine done' (t.send m) _ rfl (streamed.send_terminal closing own) ?_
    have loud' : (t.send m).answered .success = true := (t.send m).answered_success.trans loud
    simp [loud', kind, Kind.terminal]

/-- The end of a response that is not streamed. -/
theorem finishText_keeps {r : InferenceRequest} (unsent : t.Open 0 []) (serves : Serves r t.req)
    (whole : t.req.enstream = false) {text : Bytes} {post : Bool → List Tally → Prop}
    (done' : ∀ t' tail, t'.req = t.req → t'.Open 0 tail →
      tail.countP (fun output => output.2.terminal) = (if t'.answered .success then 1 else 0) →
      post false (t' :: done)) (thrown : post true (t :: done)) :
    Keeps post (emitText r text) (t :: done) := by
  refine keeps_emitText (sound_cons unsent.sound rest) serves ?_ ?_ thrown
  · intro silent
    exact done' t [] rfl unsent (by simp [t.answered_success, silent])
  · intro loud m kind own
    have closing : Tally.Closing t.req t.source 0 [(t.source, m.kind)] :=
      Or.inr (Or.inr (Or.inl ⟨whole, rfl, by rw [kind]⟩))
    refine done' (t.send m) _ rfl (unsent.send_terminal closing own) ?_
    have loud' : (t.send m).answered .success = true := (t.send m).answered_success.trans loud
    simp [loud', kind, Kind.terminal]

theorem finishCall_keeps (codec : Codec) {r : InferenceRequest} {state : StreamState} {n : Nat}
    (transferring : Transferring l r state t n) (attempt : Attempt) (responseBody : Bytes)
    (error : Option Bytes) (httpCode : Int) :
    Keeps Head (finishCall codec l attempt r state responseBody error httpCode) (t :: done) := by
  obtain ⟨⟨streamed, serves, index, started⟩, req, whole⟩ := transferring
  have sound := sound_cons streamed.sound rest
  unfold finishCall
  refine keeps_bind (keeps_unnoted sound (fun _ => rfl) fun now => ?_)
  -- all failures go through `afterCall` with the tally as it is
  extract_lets r' failed
  have serves' : Serves r' t.req :=
    ⟨serves.taskId, serves.requestId, serves.workId, serves.outputUrl, serves.enoutput,
      serves.enstream⟩
  have unstarted (idle : state.started = false) : t.req.sentAt n = 0 := by simp [started idle]
  have failing (message : Bytes) : Keeps Head (failed message) (t :: done) :=
    afterCall_failed_keeps rest streamed req serves' unstarted attempt message
  have enstream : r'.enstream = t.req.enstream := serves'.enstream
  split
  · exact failing _
  · split
    · exact failing _
    · split
      next stream =>
        split
        · exact failing _
        · rw [index]
          refine keeps_bind (finishStream_keeps rest streamed serves' (enstream ▸ stream) ?_
            (keeps_pure sound))
          intro t' tail same open_ answer
          exact afterCall_ok_keeps rest open_ answer (same ▸ serves'.taskId) _ _ _
      -- without a stream nothing was sent before the text
      next unstreamed =>
        have unstreamed : t.req.enstream = false := by simpa [enstream] using unstreamed
        have unsent : t.Open 0 [] := by simpa [whole unstreamed] using streamed
        split
        · exact failing _
        · refine keeps_bind (finishText_keeps rest unsent serves' unstreamed ?_ (keeps_pure sound))
          intro t' tail same open_ answer
          exact afterCall_ok_keeps rest open_ answer (same ▸ serves'.taskId) _ _ _

theorem transferLoop_keeps (codec : Codec) {r : InferenceRequest} {state : StreamState} {n : Nat}
    (transferring : Transferring l r state t n) (attempt : Attempt) (responseBody : Bytes) :
    Keeps Head (transferLoop codec l attempt r state responseBody) (t :: done) := by
  have sound := sound_cons transferring.streaming.streamed.sound rest
  unfold transferLoop
  refine keeps_bind (keeps_unnoted sound (fun _ => rfl) fun transfer => ?_)
  cases transfer with
  | done error httpCode =>
    exact finishCall_keeps rest codec transferring attempt responseBody error httpCode
  | chunk bytes =>
    obtain ⟨streaming, req, whole⟩ := transferring
    dsimp only
    split
    next stream =>
      have started :
          Streaming r { state with buffer := (splitLines (state.buffer ++ bytes)).2 } t n :=
        ⟨streaming.streamed, streaming.serves, streaming.index, streaming.started⟩
      refine keeps_bind (Keeps.mono (handleStreamLines_keeps rest codec started _) ?_)
      rintro state' tallies ⟨t', n', rfl, streaming', same⟩
      refine keeps_pure ⟨t', done, n', rfl, ⟨streaming', same ▸ req, fun unstreamed => ?_⟩, rest⟩
      have mode : r.enstream = t'.req.enstream := streaming'.serves.enstream
      rw [stream, unstreamed] at mode
      cases mode
    · exact keeps_pure ⟨t, done, n, rfl, ⟨streaming, req, whole⟩, rest⟩

theorem runMock_keeps {r : InferenceRequest} (unsent : t.Open 0 []) (serves : Serves r t.req)
    {post : Bool → List Tally → Prop}
    (done' : ∀ t' k tail, t'.req = t.req → t'.Open k tail →
      tail.countP (fun output => output.2.terminal) = (if t'.answered .success then 1 else 0) →
      post false (t' :: done))
    (thrown : ∀ t' : Tally, t'.Sound → post true (t' :: done)) :
    Keeps post (runMock r) (t :: done) := by
  unfold runMock
  split
  next stream =>
    refine keeps_bind (nextDelta_keeps rest (n := 0) (by simpa using unsent) serves ?_
      (fun _ => keeps_pure (thrown t unsent.sound)))
    intro t₁ same₁ streamed₁
    refine keeps_bind (nextDelta_keeps rest (n := 1) streamed₁ (same₁ ▸ serves) ?_
      (fun _ => keeps_pure (thrown t₁ streamed₁.sound)))
    intro t₂ same₂ streamed₂
    have serves₂ : Serves r t₂.req := same₂ ▸ same₁ ▸ serves
    exact finishStream_keeps rest (n := 2) streamed₂ serves₂ (serves₂.enstream ▸ stream)
      (fun t' tail same => done' t' _ tail (same.trans (same₂.trans same₁)))
      (thrown t₂ streamed₂.sound)
  next unstreamed =>
    have whole : t.req.enstream = false := by simpa [serves.enstream] using unstreamed
    exact finishText_keeps rest unsent serves whole (fun t' tail => done' t' 0 tail)
      (thrown t unsent.sound)

theorem handleRequest_keeps (cfg : TaskConfig) {r : InferenceRequest} (unsent : t.Open 0 [])
    (serves : Serves r t.req) : Keeps Head (handleRequest cfg r) (t :: done) := by
  unfold handleRequest
  split
  · unfold handleMock
    refine keeps_bind (runMock_keeps rest unsent ?_ ?_ fun t' sound =>
      keeps_pure (sound_cons sound rest))
    · exact ⟨serves.taskId, serves.requestId, serves.workId, serves.outputUrl, serves.enoutput,
        serves.enstream⟩
    · intro t' k tail same open_ answer
      have sound := sound_cons open_.sound rest
      refine keeps_bind (keeps_unnoted sound (fun _ => rfl) fun now => ?_)
      refine keeps_bind (keeps_writeRecord sound (same ▸ serves.taskId) rfl ?_)
      refine keeps_bind (keeps_onRequestFinish (sound_cons (open_.recorded _) rest) ?_)
      exact keeps_pure (settled_cons (open_.settled rfl answer) rest)
  · exact keeps_pure ⟨t, done, rfl, ⟨unsent, serves, serves⟩, rest⟩

end Heads

theorem open_popped (req : InferenceRequest) : ({ req := req } : Tally).Open 0 [] :=
  ⟨by simp [Tally.Addressed], rfl, rfl, rfl, Or.inl rfl⟩

/-- What holds of the log of a worker at each of its loop heads. -/
def WorkerHead : Point → WorkerLog → Prop
  | .exited, log => log.drained = true ∧ ∀ t ∈ log.tallies, t.Settled
  | point, log => log.drained = false ∧ Head point log.tallies

/-- The worker is between two operations, at a head or on the way to one. -/
abbrev Working (code : Code Point) (log : WorkerLog) : Prop :=
  code.Ensures logOp Running WorkerHead log

theorem Keeps.working {code : Code Point} {tallies : List Tally}
    (keeps : Keeps Head code tallies) : Working code ⟨tallies, false⟩ := by
  refine Prog.Ensures.mono ?_ keeps
  rintro point log ⟨undrained, head⟩
  cases point with
  | exited => exact head.elim
  | _ => exact ⟨undrained, head⟩

theorem workerRound_working (cfg : TaskConfig) {tallies : List Tally}
    (rest : ∀ u ∈ tallies, u.Settled) : Working (workerRound cfg) ⟨tallies, false⟩ := by
  refine (Prog.ensures_bind _ _ _ _).mpr
    ⟨⟨rfl, fun u member => (rest u member).sound⟩, fun r => ?_⟩
  cases r with
  | none => exact ⟨rfl, rest⟩
  | some req =>
    have sound := sound_cons (open_popped req).sound rest
    refine Keeps.working (keeps_bind (keeps_unnoted sound (fun _ => rfl) fun now => ?_))
    -- `Running` is written first, and that is no outcome
    refine keeps_bind ⟨⟨rfl, sound⟩, fun _ => ⟨rfl, ?_⟩⟩
    exact handleRequest_keeps rest cfg (open_popped req) ⟨rfl, rfl, rfl, rfl, rfl, rfl⟩

/-- Whatever the environment does, a worker carries the conditions of its loop heads
from head to head. -/
theorem worker_loops (codec : Codec) (cfg : TaskConfig) :
    Loops (worker codec cfg) logOp Running WorkerHead := by
  rintro point code ⟨tallies, drained⟩ found head
  cases point with
  | exited => cases found
  | crashed => cases found
  | top =>
    cases found
    obtain ⟨rfl, settled⟩ := head
    exact workerRound_working cfg settled
  | attempts l =>
    cases found
    obtain ⟨rfl, t, done, rfl, retrying, rest⟩ := head
    exact (attemptLoop_keeps rest retrying).working
  | waiting l waitUntilMs =>
    cases found
    obtain ⟨rfl, t, done, rfl, retrying, rest⟩ := head
    exact (waitLoop_keeps rest retrying waitUntilMs).working
  | transfer l attempt r state responseBody =>
    cases found
    obtain ⟨rfl, t, done, n, rfl, transferring, rest⟩ := head
    exact (transferLoop_keeps rest codec transferring attempt responseBody).working

theorem WorkerHead.sound {point : Point} {log : WorkerLog} (head : WorkerHead point log) :
    ∀ t ∈ log.tallies, t.Sound := by
  cases point with
  | top => exact fun t member => (head.2 t member).sound
  | exited => exact fun t member => (head.2 t member).sound
  | crashed => exact head.2
  | attempts l =>
    obtain ⟨_, t, done, equal, retrying, rest⟩ := head
    exact equal ▸ sound_cons retrying.unsent.sound rest
  | waiting l waitUntilMs =>
    obtain ⟨_, t, done, equal, retrying, rest⟩ := head
    exact equal ▸ sound_cons retrying.unsent.sound rest
  | transfer l attempt r state responseBody =>
    obtain ⟨_, t, done, n, equal, transferring, rest⟩ := head
    exact equal ▸ sound_cons transferring.streaming.streamed.sound rest

theorem Working.sound {code : Code Point} {log : WorkerLog} (working : Working code log) :
    ∀ t ∈ log.tallies, t.Sound := by
  cases code with
  -- at a head the invariant is the condition of the head
  | pure point => exact WorkerHead.sound working
  | op o k => exact working.1.2

theorem start_working : Working (.pure .top) {} :=
  ⟨rfl, fun t member => by cases member⟩

/-- A worker in any environment: for every request it has taken, the messages it sent
are the deltas `0, 1, …, k - 1` of one attempt on one endpoint, followed by at
most one terminal message, which is the finish delta `k` of the same attempt,
the text of a request that is not streamed, or an error. -/
theorem delivery_of_worker (codec : Codec) (cfg : TaskConfig)
    (w : Thread Op Op.Resp Point WorkerLog)
    (ran : Steps (worker codec cfg) logOp ⟨.pure .top, {}⟩ w) :
    ∀ t ∈ w.log.tallies, t.Delivered := by
  have working : Working w.prog w.log := ran.ensures (worker_loops codec cfg) start_working
  exact fun t member => (working.sound t member).delivered

/-- The payload of a chunk of a stream. -/
def deltaText : Bytes := lit "\x7b\"choices\":[\x7b\"delta\":\x7b\"content\":\"x\"\x7d\x7d]\x7d"

/-- A JSON library that knows this payload. -/
def oneDelta : Codec :=
  knowsOnly deltaText
    (.obj [("choices", .arr [.obj [("delta", .obj [("content", .str "x")])]])])

/-- A streaming request whose transfer breaks off after one delta. -/
theorem delivery_of_worker_broken : ∃ w : Thread Op Op.Resp Point WorkerLog,
    Steps (worker oneDelta { mockMode := false }) logOp ⟨.pure .top, {}⟩ w ∧
    w.log.tallies.map Tally.outputs =
      [[(⟨1, some 0⟩, .delta 0), (⟨1, some 0⟩, .error (-41))]] ∧
    ∀ t ∈ w.log.tallies, t.Delivered := by
  obtain ⟨w, ran, outputs⟩ : ∃ w : Thread Op Op.Resp Point WorkerLog,
      Steps (worker oneDelta { mockMode := false }) logOp ⟨.pure .top, {}⟩ w ∧
      w.log.tallies.map Tally.outputs =
        [[(⟨1, some 0⟩, .delta 0), (⟨1, some 0⟩, .error (-41))]] :=
    ⟨_, .enter rfl <| .respond (some { outputUrl := lit "tcp://c", deadlineAtMs := 9 }) <|
      .respond (0 : Int) <| .respond () <|
      .enter rfl <| .respond false <| .respond (0 : Int) <|
      .respond (some ((⟨0, 0⟩ : Attempt), ({} : VllmEndpoint))) <| .respond true <|
      .respond (0 : Int) <|
      .enter rfl <| .respond (Transfer.chunk (lit "data: " ++ deltaText ++ lit "\n")) <|
      .respond (0 : Int) <| .respond () <|
      .enter rfl <| .respond (Transfer.done (some (lit "reset")) 0) <| .respond (0 : Int) <|
      .respond () <| .respond () <| .respond false <| .respond (0 : Int) <| .respond () <|
      .respond () <| .respond () <| .refl _, rfl⟩
  exact ⟨w, ran, outputs, delivery_of_worker oneDelta { mockMode := false } w ran⟩

end VllmRoute.Scheduler
