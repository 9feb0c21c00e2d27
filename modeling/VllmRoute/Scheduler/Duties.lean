import VllmRoute.Scheduler.Lifecycle

/-!
# What a thread owes

Between its operations on the shared counters a thread owes something: a call
that has enqueued its request is still to count it, a worker that has popped a
request is still to finish it, and a worker that has taken an endpoint is still
to report to it. The debt is followed by one automaton for both kinds of
threads. A worker that learns of a stop drops its request, and is not followed
any further.
-/
namespace VllmRoute.Scheduler

open Lib

inductive Duty where
  | idle
  /-- the request is in the queue, and not counted yet -/
  | owing
  | serving
  /-- on an endpoint -/
  | calling
  | stopped
  | broken
  deriving DecidableEq

namespace Duty

def next (o : Op) (r : o.Resp) (duty : Duty) : Duty :=
  match o, r, duty with
  | _, _, .stopped => .stopped
  | .loadStopping, true, _ => .stopped
  | .popNextRequest, none, _ => .stopped
  | .popNextRequest, some _, .idle => .serving
  | .popNextRequest, some _, _ => .broken
  | .selectEndpoint _, some _, .serving => .calling
  | .selectEndpoint _, some _, _ => .broken
  | .updateEndpointResult .., _, .calling => .serving
  | .updateEndpointResult .., _, _ => .broken
  | .onRequestFinish .., _, .serving => .idle
  | .onRequestFinish .., _, _ => .broken
  | .enqueue _, none, .idle => .owing
  | .enqueue _, none, _ => .broken
  | .onRequestAccepted _, _, .owing => .idle
  | .onRequestAccepted _, _, _ => .broken
  | _, _, duty => duty

/-- The requests that are queued and not counted. -/
def uncounted : Duty → Nat
  | .owing => 1
  | _ => 0

/-- The requests that are popped and not finished. -/
def unfinished : Duty → Nat
  | .serving | .calling => 1
  | _ => 0

/-- The attempts that are dispatched and not reported. -/
def unreported : Duty → Nat
  | .calling => 1
  | _ => 0

theorem next_stopped (o : Op) (r : o.Resp) : next o r .stopped = .stopped := by
  cases o <;> rfl

end Duty

/-- The operation leaves every duty as it is. -/
def Op.neutral : Op → Bool
  | .nowMs | .endpointWaitMs | .countRetry | .updateRecord .. | .sendRawForUrl _ => true
  | .curlEasyInit | .curlEasyPerform | .onQueueReject | .recordPending _ => true
  | _ => false

theorem Duty.next_neutral (duty : Duty) (o : Op) (neutral : o.neutral = true) (r : o.Resp) :
    duty.next o r = duty := by
  cases o <;> cases duty <;> first | rfl | cases neutral

/-- The code pays its duties from this one on, and `post` holds at its end. -/
abbrev Dutiful {α : Type} (post : α → Duty → Prop) (code : Code α) (duty : Duty) : Prop :=
  code.Ensures Duty.next (· ≠ .broken) post duty

section Dutiful

variable {α β : Type} {post : β → Duty → Prop} {duty : Duty}

theorem dutiful_neutral {o : Op} {f : o.Resp → Code β} (neutral : o.neutral = true)
    (sound : duty ≠ .broken) (next : ∀ r, Dutiful post (f r) duty) :
    Dutiful post (ask o >>= f) duty :=
  Prog.ensures_unnoted (fun r => duty.next_neutral o neutral r) sound next

theorem dutiful_aside {code : Code α} {f : α → Code β} (aside : Aside code)
    (sound : duty ≠ .broken) (next : ∀ a, Dutiful post (f a) duty) :
    Dutiful post (code >>= f) duty := by
  refine (Prog.ensures_bind _ _ _ _).mpr (Prog.ensures_only (fun o holds r => ?_) aside sound next)
  exact duty.next_neutral o (by cases o <;> first | rfl | cases holds) r

/-- Once it has seen a stop, a thread owes nothing. -/
theorem dutiful_stopped (code : Code β) (ends : ∀ b, post b .stopped) :
    Dutiful post code .stopped := by
  induction code with
  | pure b => exact ends b
  | op o k ih =>
    refine ⟨Duty.noConfusion, fun r => ?_⟩
    rw [Duty.next_stopped]
    exact ih r

end Dutiful

/-! ### Workers -/

/-- The duty of a worker at each of its loop heads, up to a stop. -/
def DutyHead : Point → Duty → Prop
  | .top, duty => duty = .idle ∨ duty = .stopped
  | .attempts _, duty => duty = .serving ∨ duty = .stopped
  | .waiting .., duty => duty = .serving ∨ duty = .stopped
  | .transfer .., duty => duty = .calling ∨ duty = .stopped
  | .exited, duty => duty = .stopped
  | .crashed, duty => duty ≠ .broken

theorem dutyHead_stopped (point : Point) : DutyHead point .stopped := by
  cases point with
  | top | attempts | waiting | transfer => exact Or.inr rfl
  | exited => rfl
  | crashed => exact Duty.noConfusion

section Worker

variable {l : Retry}

/-- A look at `stopping_`. -/
theorem loadStopping_dutiful {f : Bool → Code Point} {duty : Duty} (sound : duty ≠ .broken)
    (next : Dutiful DutyHead (f false) duty) :
    Dutiful DutyHead (loadStopping >>= f) duty := by
  refine ⟨sound, fun stopping => ?_⟩
  cases stopping with
  | true =>
    have stopped : Duty.next .loadStopping true duty = .stopped := by cases duty <;> rfl
    change Dutiful DutyHead (f true) (Duty.next .loadStopping true duty)
    rw [stopped]
    exact dutiful_stopped _ dutyHead_stopped
  | false =>
    have same : Duty.next .loadStopping false duty = duty := by cases duty <;> rfl
    change Dutiful DutyHead (f false) (Duty.next .loadStopping false duty)
    rwa [same]

theorem failRequest_dutiful : Dutiful DutyHead (failRequest l) .serving := by
  unfold failRequest
  refine loadStopping_dutiful Duty.noConfusion ?_
  refine dutiful_neutral rfl Duty.noConfusion fun finishedMs => ?_
  refine dutiful_neutral rfl Duty.noConfusion fun _ => ?_
  refine (Prog.ensures_bind _ _ _ _).mpr ⟨Duty.noConfusion, fun _ => ?_⟩
  refine dutiful_aside (sendClientMessage_aside _) Duty.noConfusion fun thrown => ?_
  cases thrown with
  | true => exact Duty.noConfusion
  | false => exact Or.inl rfl

theorem afterCall_dutiful (attempt : Attempt) (req : InferenceRequest) (ok streamStarted : Bool)
    (message : Bytes) :
    Dutiful DutyHead (afterCall l attempt req ok streamStarted message) .calling := by
  unfold afterCall
  refine (Prog.ensures_bind _ _ _ _).mpr ⟨Duty.noConfusion, fun _ => ?_⟩
  cases ok with
  | true =>
    refine dutiful_neutral rfl Duty.noConfusion fun finishedMs => ?_
    refine dutiful_neutral rfl Duty.noConfusion fun _ => ?_
    exact ⟨Duty.noConfusion, fun _ => Or.inl rfl⟩
  | false =>
    refine dutiful_neutral rfl Duty.noConfusion fun _ => ?_
    cases streamStarted with
    | true => exact failRequest_dutiful
    | false => exact Or.inl rfl

theorem beginAttempt_dutiful (attempt : Attempt) (endpoint : VllmEndpoint) :
    Dutiful DutyHead (beginAttempt l attempt endpoint) .calling := by
  unfold beginAttempt
  refine dutiful_neutral rfl Duty.noConfusion fun ready => ?_
  cases ready with
  | false => exact afterCall_dutiful _ _ _ _ _
  | true =>
    simp only [if_true]
    split
    · exact dutiful_neutral rfl Duty.noConfusion fun beginMs => Or.inl rfl
    · exact Duty.noConfusion

/-- A selection, with the rest of the attempt if it finds an endpoint. -/
theorem select_dutiful {req : InferenceRequest} {f : Code Point}
    (next : Dutiful DutyHead f .serving) :
    Dutiful DutyHead (do
      match ← select req with
      | some (attempt, endpoint) => beginAttempt l attempt endpoint
      | none => f) .serving := by
  refine (Prog.ensures_bind _ _ _ _).mpr ⟨Duty.noConfusion, fun chosen => ?_⟩
  cases chosen with
  | some chosen => exact beginAttempt_dutiful chosen.1 chosen.2
  | none => exact next

theorem attemptLoop_dutiful : Dutiful DutyHead (attemptLoop l) .serving := by
  unfold attemptLoop
  split
  · exact failRequest_dutiful
  · refine loadStopping_dutiful Duty.noConfusion ?_
    refine dutiful_aside (readDeadlineExceeded_aside _) Duty.noConfusion fun late => ?_
    cases late with
    | true => exact failRequest_dutiful
    | false =>
      refine select_dutiful (dutiful_neutral rfl Duty.noConfusion fun waitMs => ?_)
      split
      · exact failRequest_dutiful
      · refine dutiful_neutral rfl Duty.noConfusion fun now => ?_
        exact dutiful_neutral rfl Duty.noConfusion fun _ => Or.inl rfl

theorem waitLoop_dutiful (waitUntilMs : Int) :
    Dutiful DutyHead (waitLoop l waitUntilMs) .serving := by
  unfold waitLoop
  refine loadStopping_dutiful Duty.noConfusion ?_
  refine dutiful_neutral rfl Duty.noConfusion fun now => ?_
  split
  · exact failRequest_dutiful
  · refine select_dutiful (dutiful_aside (readDeadlineExceeded_aside _) Duty.noConfusion ?_)
    intro late
    cases late with
    | true => exact failRequest_dutiful
    | false => exact Or.inl rfl

theorem transferLoop_dutiful (codec : Codec) (attempt : Attempt) (attemptReq : InferenceRequest)
    (state : StreamState) (responseBody : Bytes) :
    Dutiful DutyHead (transferLoop codec l attempt attemptReq state responseBody) .calling := by
  unfold transferLoop
  refine dutiful_neutral rfl Duty.noConfusion fun transfer => ?_
  cases transfer with
  | chunk bytes =>
    dsimp only
    split
    · exact dutiful_aside (handleStreamLines_aside _ _ _ _) Duty.noConfusion fun _ => Or.inl rfl
    · exact Or.inl rfl
  | done error httpCode =>
    unfold finishCall
    refine dutiful_neutral rfl Duty.noConfusion fun finishedMs => ?_
    extract_lets attemptReq' failed
    have failing (message : Bytes) : Dutiful DutyHead (failed message) .calling :=
      afterCall_dutiful _ _ _ _ _
    -- every way out of `call_vllm` reports, up to an exception
    have spoken {code : Code Bool} (aside : Aside code) :
        Dutiful DutyHead (do
          if ← code then return .crashed
          else afterCall l attempt attemptReq' true state.started l.errorMessage) .calling := by
      refine dutiful_aside aside Duty.noConfusion fun thrown => ?_
      cases thrown with
      | true => exact Duty.noConfusion
      | false => exact afterCall_dutiful _ _ _ _ _
    split
    · exact failing _
    · split
      · exact failing _
      · split
        · split
          · exact failing _
          · exact spoken (emitDelta_aside _ _ _ _)
        · split
          · exact failing _
          · exact spoken (emitText_aside _ _)

end Worker

theorem workerRound_dutiful (cfg : TaskConfig) : Dutiful DutyHead (workerRound cfg) .idle := by
  refine (Prog.ensures_bind _ _ _ _).mpr ⟨Duty.noConfusion, fun popped => ?_⟩
  cases popped with
  | none => rfl
  | some req =>
    refine dutiful_neutral rfl Duty.noConfusion fun startedMs => ?_
    refine dutiful_neutral rfl Duty.noConfusion fun _ => ?_
    unfold handleRequest
    split
    · refine dutiful_aside (runMock_aside _) Duty.noConfusion fun thrown => ?_
      cases thrown with
      | true => exact Duty.noConfusion
      | false =>
        refine dutiful_neutral rfl Duty.noConfusion fun finishedMs => ?_
        refine dutiful_neutral rfl Duty.noConfusion fun _ => ?_
        exact ⟨Duty.noConfusion, fun _ => Or.inl rfl⟩
    · exact Or.inl rfl

/-- A worker pays its duties, whatever the environment does. -/
theorem worker_dutiful (codec : Codec) (cfg : TaskConfig) :
    Loops (worker codec cfg) Duty.next (· ≠ .broken) DutyHead := by
  intro point code duty found head
  cases point with
  | exited | crashed => cases found
  | top =>
    cases found
    rcases head with rfl | rfl
    · exact workerRound_dutiful cfg
    · exact dutiful_stopped _ dutyHead_stopped
  | attempts l =>
    cases found
    rcases head with rfl | rfl
    · exact attemptLoop_dutiful
    · exact dutiful_stopped _ dutyHead_stopped
  | waiting l waitUntilMs =>
    cases found
    rcases head with rfl | rfl
    · exact waitLoop_dutiful waitUntilMs
    · exact dutiful_stopped _ dutyHead_stopped
  | transfer l attempt attemptReq state responseBody =>
    cases found
    rcases head with rfl | rfl
    · exact transferLoop_dutiful codec attempt attemptReq state responseBody
    · exact dutiful_stopped _ dutyHead_stopped

/-! ### Calls of `inference` -/

/-- A call that has returned owes nothing. -/
def CallDuty (_ : Bool) (duty : Duty) : Prop := duty = .idle

theorem inference_dutiful (req : InferenceRequest) : Dutiful CallDuty (inference req) .idle := by
  refine dutiful_neutral rfl Duty.noConfusion fun createdMs => ?_
  refine (Prog.ensures_bind _ _ _ _).mpr ⟨Duty.noConfusion, fun error => ?_⟩
  cases error with
  | some error =>
    refine dutiful_neutral rfl Duty.noConfusion fun _ => ?_
    refine Prog.ensures_only (fun o holds r => ?_) (sendClientMessage_aside _) Duty.noConfusion
      fun _ => rfl
    exact Duty.next_neutral _ o (by cases o <;> first | rfl | cases holds) r
  | none =>
    refine (Prog.ensures_bind _ _ _ _).mpr ⟨Duty.noConfusion, fun _ => ?_⟩
    exact ⟨Duty.noConfusion, fun _ => rfl⟩

end VllmRoute.Scheduler
