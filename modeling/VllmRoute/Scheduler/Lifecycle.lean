import VllmRoute.Scheduler.Worker

/-!
# The turns of a task

A task is enqueued and recorded by its call of `inference`, and popped and
updated by one worker. Each kind of thread is followed by an automaton over its
operations on the queue and the records, which breaks on an operation that is
out of turn or for another task.
-/
namespace VllmRoute.Scheduler

open Lib

/-- The operation touches neither the queue nor the records. -/
def Op.quiet : Op → Bool
  | .popNextRequest => false
  | .updateRecord .. => false
  | .enqueue _ => false
  | .recordPending _ => false
  | _ => true

/-- The operation is part of talking to the client. -/
def Op.aside : Op → Bool
  | .nowMs => true
  | .sendRawForUrl _ => true
  | _ => false

section Quiet

/-- Code that makes quiet operations only. -/
abbrev Quiet {α : Type} (code : Code α) : Prop := code.Only (·.quiet = true)

theorem ask_quiet {o : Op} (quiet : o.quiet = true) : Quiet (ask o) := ⟨quiet, fun _ => trivial⟩

/-- Code that looks at the clock and sends messages, and does nothing else. -/
abbrev Aside {α : Type} (code : Code α) : Prop := code.Only (·.aside = true)

theorem Aside.quiet {α : Type} {code : Code α} (aside : Aside code) : Quiet code := by
  refine aside.mono fun o holds => ?_
  cases o <;> first | rfl | cases holds

theorem sendClientMessage_aside (m : ClientMessage) : Aside (sendClientMessage m) := by
  unfold sendClientMessage
  split
  · trivial
  · split
    · exact ⟨rfl, fun _ => trivial⟩
    · trivial

theorem emitDelta_aside (req : InferenceRequest) (delta : Bytes) (finish : Bool) (index : Int) :
    Aside (emitDelta req delta finish index) := by
  unfold emitDelta
  split
  · trivial
  · exact sendClientMessage_aside _

theorem emitText_aside (req : InferenceRequest) (text : Bytes) : Aside (emitText req text) := by
  unfold emitText
  split
  · trivial
  · exact sendClientMessage_aside _

theorem handleStreamLine_aside (codec : Codec) (req : InferenceRequest) (state : StreamState)
    (line : Bytes) : Aside (handleStreamLine codec req state line) := by
  unfold handleStreamLine
  split
  · trivial
  · trivial
  · trivial
  · refine Prog.only_bind ?_ fun _ => Prog.only_bind (emitDelta_aside _ _ _ _) fun thrown => ?_
    · unfold firstTokenLatency
      split
      · trivial
      · exact ⟨rfl, fun _ => trivial⟩
    · cases thrown <;> trivial

theorem handleStreamLines_aside (codec : Codec) (req : InferenceRequest) (state : StreamState)
    (lines : List Bytes) : Aside (handleStreamLines codec req state lines) := by
  induction lines generalizing state with
  | nil => trivial
  | cons line lines ih =>
    exact Prog.only_bind (handleStreamLine_aside codec req state _) fun state => ih state

theorem readDeadlineExceeded_aside (req : InferenceRequest) : Aside (readDeadlineExceeded req) := by
  unfold readDeadlineExceeded
  split
  · exact ⟨rfl, fun _ => trivial⟩
  · trivial

theorem runMock_aside (req : InferenceRequest) : Aside (runMock req) := by
  unfold runMock
  split
  · refine Prog.only_bind (emitDelta_aside _ _ _ _) fun thrown => ?_
    cases thrown with
    | true => trivial
    | false =>
      refine Prog.only_bind (emitDelta_aside _ _ _ _) fun thrown => ?_
      cases thrown with
      | true => trivial
      | false => exact emitDelta_aside _ _ _ _
  · exact emitText_aside _ _

end Quiet

/-! ### Workers -/

/-- How far a worker is with the task that it popped last. -/
inductive Phase where
  | idle
  | popped (task : Int)
  | running (task : Int)
  | finished
  | broken

def Phase.next (o : Op) (r : o.Resp) (phase : Phase) : Phase :=
  match o, r, phase with
  | .popNextRequest, some req, _ => .popped req.taskId
  -- `Running` once, then one terminal status
  | .updateRecord req .running _, _, .popped task =>
    if req.taskId = task then .running task else .broken
  | .updateRecord req status _, _, .running task =>
    if req.taskId = task ∧ status.terminal = true then .finished else .broken
  | .updateRecord .., _, _ => .broken
  | .enqueue _, _, _ => .broken
  | .recordPending _, _, _ => .broken
  | _, _, phase => phase

theorem Phase.next_quiet (phase : Phase) (o : Op) (quiet : o.quiet = true) (r : o.Resp) :
    phase.next o r = phase := by
  cases o <;> first | rfl | cases quiet

/-- The code takes its turns from this phase on, and `post` holds at its end. -/
abbrev InTurn {α : Type} (post : α → Phase → Prop) (code : Code α) (phase : Phase) : Prop :=
  code.Ensures Phase.next (· ≠ .broken) post phase

theorem inTurn_quiet {α β : Type} {post : β → Phase → Prop} {code : Code α} {f : α → Code β}
    {phase : Phase} (quiet : Quiet code) (sound : phase ≠ .broken)
    (next : ∀ a, InTurn post (f a) phase) : InTurn post (code >>= f) phase :=
  (Prog.ensures_bind _ _ _ _).mpr
    (Prog.ensures_only (fun o holds r => phase.next_quiet o holds r) quiet sound next)

/-- The phase of a worker at each of its loop heads. -/
def PhaseHead : Point → Phase → Prop
  | .attempts l, phase => phase = .running l.req.taskId ∧ l.finalReq.taskId = l.req.taskId
  | .waiting l _, phase => phase = .running l.req.taskId ∧ l.finalReq.taskId = l.req.taskId
  | .transfer l _ attemptReq _ _, phase => phase = .running l.req.taskId ∧
      l.finalReq.taskId = l.req.taskId ∧ attemptReq.taskId = l.req.taskId
  | _, phase => phase ≠ .broken

section Worker

variable {l : Retry}

/-- The terminal `update_record`, and what follows it. -/
theorem writeRecord_inTurn {α : Type} {post : α → Phase → Prop} {f : Unit → Code α} {task : Int}
    {req : InferenceRequest} {status : RequestStatus} {message : Bytes}
    (own : req.taskId = task) (terminal : status.terminal = true)
    (next : InTurn post (f ()) .finished) :
    InTurn post (writeRecord req status message >>= f) (.running task) := by
  refine ⟨by simp, fun _ => ?_⟩
  have finished : Phase.next (.updateRecord req status message) () (.running task) = .finished := by
    cases status <;> first | exact if_pos ⟨own, rfl⟩ | cases terminal
  change InTurn post (f ()) (Phase.next (.updateRecord req status message) () (.running task))
  rw [finished]
  exact next

theorem failRequest_inTurn {task : Int} (own : l.finalReq.taskId = task) :
    InTurn PhaseHead (failRequest l) (.running task) := by
  unfold failRequest
  refine inTurn_quiet (ask_quiet rfl) (by simp) fun stopping => ?_
  cases stopping with
  -- dropped at a stop: the task stays as running as it was
  | true => exact Phase.noConfusion
  | false =>
    refine inTurn_quiet (ask_quiet rfl) (by simp) fun finishedMs => ?_
    have terminal (timeout : Prop) [Decidable timeout] :
        (if timeout then RequestStatus.timeout else .failed).terminal = true := by
      split <;> rfl
    refine writeRecord_inTurn own (terminal _) ?_
    refine inTurn_quiet (ask_quiet rfl) (by simp) fun _ => ?_
    refine inTurn_quiet (sendClientMessage_aside _).quiet (by simp) fun thrown => ?_
    cases thrown <;> exact Phase.noConfusion

theorem afterCall_inTurn {req : InferenceRequest} (own : req.taskId = l.req.taskId)
    (attempt : Attempt) (ok streamStarted : Bool) (message : Bytes) :
    InTurn PhaseHead (afterCall l attempt req ok streamStarted message)
      (.running l.req.taskId) := by
  unfold afterCall
  refine inTurn_quiet (ask_quiet rfl) (by simp) fun _ => ?_
  cases ok with
  | true =>
    refine inTurn_quiet (ask_quiet rfl) (by simp) fun finishedMs => ?_
    refine writeRecord_inTurn own rfl ?_
    exact inTurn_quiet (ask_quiet rfl) (by simp) fun _ => Phase.noConfusion
  | false =>
    refine inTurn_quiet (ask_quiet rfl) (by simp) fun _ => ?_
    cases streamStarted with
    | true => exact failRequest_inTurn own
    | false => exact ⟨rfl, own⟩

variable (own : l.finalReq.taskId = l.req.taskId)
include own

theorem beginAttempt_inTurn (attempt : Attempt) (endpoint : VllmEndpoint) :
    InTurn PhaseHead (beginAttempt l attempt endpoint) (.running l.req.taskId) := by
  unfold beginAttempt
  refine inTurn_quiet (ask_quiet rfl) (by simp) fun ready => ?_
  cases ready with
  | false => exact afterCall_inTurn (by rfl) _ _ _ _
  | true =>
    simp only [if_true]
    split
    · exact inTurn_quiet (ask_quiet rfl) (by simp) fun beginMs => ⟨rfl, own, rfl⟩
    · exact Phase.noConfusion

theorem attemptLoop_inTurn : InTurn PhaseHead (attemptLoop l) (.running l.req.taskId) := by
  unfold attemptLoop
  split
  · exact failRequest_inTurn own
  · refine inTurn_quiet (ask_quiet rfl) (by simp) fun stopping => ?_
    cases stopping with
    | true => exact failRequest_inTurn own
    | false =>
      refine inTurn_quiet (readDeadlineExceeded_aside _).quiet (by simp) fun late => ?_
      cases late with
      | true => exact failRequest_inTurn own
      | false =>
        refine inTurn_quiet (ask_quiet rfl) (by simp) fun chosen => ?_
        cases chosen with
        | some chosen => exact beginAttempt_inTurn own chosen.1 chosen.2
        | none =>
          refine inTurn_quiet (ask_quiet rfl) (by simp) fun waitMs => ?_
          split
          · exact failRequest_inTurn own
          · refine inTurn_quiet (ask_quiet rfl) (by simp) fun now => ?_
            exact inTurn_quiet (ask_quiet rfl) (by simp) fun _ => ⟨rfl, own⟩

theorem waitLoop_inTurn (waitUntilMs : Int) :
    InTurn PhaseHead (waitLoop l waitUntilMs) (.running l.req.taskId) := by
  unfold waitLoop
  refine inTurn_quiet (ask_quiet rfl) (by simp) fun stopping => ?_
  cases stopping with
  | true => exact failRequest_inTurn own
  | false =>
    refine inTurn_quiet (ask_quiet rfl) (by simp) fun now => ?_
    split
    · exact failRequest_inTurn own
    · refine inTurn_quiet (ask_quiet rfl) (by simp) fun chosen => ?_
      cases chosen with
      | some chosen => exact beginAttempt_inTurn own chosen.1 chosen.2
      | none =>
        refine inTurn_quiet (readDeadlineExceeded_aside _).quiet (by simp) fun late => ?_
        cases late with
        | true => exact failRequest_inTurn own
        | false => exact ⟨rfl, own⟩

theorem transferLoop_inTurn (codec : Codec) (attempt : Attempt) {attemptReq : InferenceRequest}
    (attempted : attemptReq.taskId = l.req.taskId) (state : StreamState) (responseBody : Bytes) :
    InTurn PhaseHead (transferLoop codec l attempt attemptReq state responseBody)
      (.running l.req.taskId) := by
  unfold transferLoop
  refine inTurn_quiet (ask_quiet rfl) (by simp) fun transfer => ?_
  cases transfer with
  | chunk bytes =>
    dsimp only
    split
    · exact inTurn_quiet (handleStreamLines_aside _ _ _ _).quiet (by simp) fun _ =>
        ⟨rfl, own, attempted⟩
    · exact ⟨rfl, own, attempted⟩
  | done error httpCode =>
    unfold finishCall
    refine inTurn_quiet (ask_quiet rfl) (by simp) fun finishedMs => ?_
    -- the attempt keeps the task id of the request
    extract_lets attemptReq' failed
    have attempted' : attemptReq'.taskId = l.req.taskId := attempted
    have failing (message : Bytes) : InTurn PhaseHead (failed message) (.running l.req.taskId) :=
      afterCall_inTurn attempted' _ _ _ _
    split
    · exact failing _
    · split
      · exact failing _
      · split
        · split
          · exact failing _
          · refine inTurn_quiet (emitDelta_aside _ _ _ _).quiet (by simp) fun thrown => ?_
            cases thrown with
            | true => exact Phase.noConfusion
            | false => exact afterCall_inTurn attempted' _ _ _ _
        · split
          · exact failing _
          · refine inTurn_quiet (emitText_aside _ _).quiet (by simp) fun thrown => ?_
            cases thrown with
            | true => exact Phase.noConfusion
            | false => exact afterCall_inTurn attempted' _ _ _ _

end Worker

theorem handleRequest_inTurn (cfg : TaskConfig) (req : InferenceRequest) :
    InTurn PhaseHead (handleRequest cfg req) (.running req.taskId) := by
  unfold handleRequest
  split
  · refine inTurn_quiet (runMock_aside _).quiet (by simp) fun thrown => ?_
    cases thrown with
    | true => exact Phase.noConfusion
    | false =>
      refine inTurn_quiet (ask_quiet rfl) (by simp) fun finishedMs => ?_
      refine writeRecord_inTurn (by rfl) rfl ?_
      exact inTurn_quiet (ask_quiet rfl) (by simp) fun _ => Phase.noConfusion
  · exact ⟨rfl, rfl⟩

theorem workerRound_inTurn (cfg : TaskConfig) {phase : Phase} (sound : phase ≠ .broken) :
    InTurn PhaseHead (workerRound cfg) phase := by
  refine (Prog.ensures_bind _ _ _ _).mpr ⟨sound, fun popped => ?_⟩
  cases popped with
  | none => exact sound
  | some req =>
    refine inTurn_quiet (ask_quiet rfl) Phase.noConfusion fun startedMs => ?_
    refine (Prog.ensures_bind _ _ _ _).mpr ⟨Phase.noConfusion, fun _ => ?_⟩
    -- the times that are filled in leave the task id alone
    have started : Phase.next (.updateRecord { req with
        startedMs := startedMs, queueWaitMs := startedMs - req.createdMs } .running []) ()
        (.popped req.taskId) = .running req.taskId := if_pos rfl
    exact started ▸ handleRequest_inTurn cfg { req with
      startedMs := startedMs, queueWaitMs := startedMs - req.createdMs }

/-- A worker takes its turns, whatever the environment does. -/
theorem worker_inTurn (codec : Codec) (cfg : TaskConfig) :
    Loops (worker codec cfg) Phase.next (· ≠ .broken) PhaseHead := by
  intro point code phase found head
  cases point with
  | exited | crashed => cases found
  | top =>
    cases found
    exact workerRound_inTurn cfg head
  | attempts l =>
    cases found
    obtain ⟨rfl, own⟩ := head
    exact attemptLoop_inTurn own
  | waiting l waitUntilMs =>
    cases found
    obtain ⟨rfl, own⟩ := head
    exact waitLoop_inTurn own waitUntilMs
  | transfer l attempt attemptReq state responseBody =>
    cases found
    obtain ⟨rfl, own, attempted⟩ := head
    exact transferLoop_inTurn own codec attempt attempted state responseBody

theorem InTurn.sound {code : Code Point} {phase : Phase} (turn : InTurn PhaseHead code phase) :
    phase ≠ .broken := by
  cases code with
  | op o k => exact turn.1
  | pure point =>
    cases point with
    | attempts | waiting | transfer => exact turn.1 ▸ Phase.noConfusion
    | _ => exact turn

/-- The two turns of `update_record`. -/
theorem Phase.next_updateRecord {phase : Phase} {req : InferenceRequest} {status : RequestStatus}
    {message : Bytes} {r : (Op.updateRecord req status message).Resp}
    (sound : phase.next (.updateRecord req status message) r ≠ .broken) :
    (phase = .popped req.taskId ∧ status = .running ∧
        phase.next (.updateRecord req status message) r = .running req.taskId) ∨
      (phase = .running req.taskId ∧ status.terminal = true ∧
        phase.next (.updateRecord req status message) r = .finished) := by
  cases phase with
  | popped task =>
    cases status with
    | running =>
      by_cases own : req.taskId = task
      · subst own
        exact Or.inl ⟨rfl, rfl, if_pos rfl⟩
      · exact absurd (if_neg own) sound
    | _ => exact absurd rfl sound
  -- a terminal update ends the turn, for the own task only
  | running task =>
    have next : Phase.next (.updateRecord req status message) r (.running task) =
        if req.taskId = task ∧ status.terminal = true then .finished else .broken := by
      cases status <;> rfl
    by_cases own : req.taskId = task ∧ status.terminal = true
    · rw [next, if_pos own]
      exact Or.inr ⟨by rw [own.1], own.2, rfl⟩
    · rw [next, if_neg own] at sound
      exact absurd rfl sound
  | _ => cases status <;> exact absurd rfl sound

/-! ### Calls of `inference` -/

/-- How far a call is with its task. -/
inductive Stage where
  | fresh (task : Int)
  | accepted (task : Int)
  | finished
  | broken

def Stage.next (o : Op) (r : o.Resp) (stage : Stage) : Stage :=
  match o, r, stage with
  | .enqueue req, none, .fresh task => if req.taskId = task then .accepted task else .broken
  -- a refused request gets no record
  | .enqueue _, some _, .fresh _ => .finished
  | .recordPending req, _, .accepted task => if req.taskId = task then .finished else .broken
  | .enqueue _, _, _ => .broken
  | .recordPending _, _, _ => .broken
  | .popNextRequest, _, _ => .broken
  | .updateRecord .., _, _ => .broken
  | _, _, stage => stage

theorem Stage.next_quiet (stage : Stage) (o : Op) (quiet : o.quiet = true) (r : o.Resp) :
    stage.next o r = stage := by
  cases o <;> first | rfl | cases quiet

/-- The rest of a call takes its turns from this stage on, and leaves nothing to do. -/
abbrev Calling (code : Code Bool) (stage : Stage) : Prop :=
  code.Ensures Stage.next (· ≠ .broken)
    (fun _ stage => stage = .finished) stage

theorem calling_quiet {α : Type} {code : Code α} {f : α → Code Bool} {stage : Stage}
    (quiet : Quiet code) (sound : stage ≠ .broken) (next : ∀ a, Calling (f a) stage) :
    Calling (code >>= f) stage :=
  (Prog.ensures_bind _ _ _ _).mpr
    (Prog.ensures_only (fun o holds r => stage.next_quiet o holds r) quiet sound next)

theorem inference_calling (req : InferenceRequest) :
    Calling (inference req) (.fresh req.taskId) := by
  refine calling_quiet (ask_quiet rfl) (by simp) fun createdMs => ?_
  refine (Prog.ensures_bind _ _ _ _).mpr ⟨Stage.noConfusion, fun error => ?_⟩
  cases error with
  | some error =>
    refine calling_quiet (ask_quiet rfl) Stage.noConfusion fun _ => ?_
    exact Prog.ensures_only (fun o holds r => Stage.next_quiet _ o holds r)
      (sendClientMessage_aside _).quiet Stage.noConfusion fun _ => rfl
  | none =>
    have accepted : Stage.next (.enqueue { req with
        createdMs := createdMs, deadlineAtMs := createdMs + req.deadlineMs }) none
        (.fresh req.taskId) = .accepted req.taskId := if_pos rfl
    change Calling _ (Stage.next (.enqueue { req with
      createdMs := createdMs, deadlineAtMs := createdMs + req.deadlineMs }) none
      (.fresh req.taskId))
    rw [accepted]
    exact calling_quiet (ask_quiet rfl) (by simp) fun _ => ⟨by simp, fun _ => if_pos rfl⟩

/-- The call is past its `record_pending` of the task, if it makes one. -/
def Call.past (code : Code Bool) (task : Int) : Prop :=
  code.Only fun o => ∀ req, o = .recordPending req → req.taskId ≠ task

theorem Op.Resp.nonempty (o : Op) : Nonempty o.Resp := by
  cases o with
  | popNextRequest => exact ⟨(none : Option InferenceRequest)⟩
  | loadStopping => exact ⟨false⟩
  | nowMs | endpointWaitMs => exact ⟨(0 : Int)⟩
  | selectEndpoint req => exact ⟨(none : Option (Attempt × VllmEndpoint))⟩
  | curlEasyInit => exact ⟨false⟩
  | curlEasyPerform => exact ⟨Transfer.done none 0⟩
  | enqueue req => exact ⟨(none : Option (Int × String))⟩
  | _ => exact ⟨()⟩

theorem Calling.sound {code : Code Bool} {stage : Stage} (calling : Calling code stage) :
    stage ≠ .broken := by
  cases code with
  | pure a =>
    cases calling
    exact Stage.noConfusion
  | op o k => exact calling.1

/-- An accepted task is still to be recorded. -/
theorem Calling.not_past {code : Code Bool} {task : Int} (calling : Calling code (.accepted task)) :
    ¬ Call.past code task := by
  induction code with
  | pure a => cases calling
  | op o k ih =>
    rintro ⟨other, past⟩
    -- along any one path of responses, the record is still to come
    obtain ⟨r⟩ := Op.Resp.nonempty o
    have rest := calling.2 r
    cases o with
    | popNextRequest | updateRecord => exact Calling.sound rest rfl
    | enqueue req => cases r <;> exact Calling.sound rest rfl
    | recordPending req => exact Calling.sound rest (if_neg (other req rfl))
    | _ => exact ih r rest (past r)

end VllmRoute.Scheduler
