import VllmRoute.Scheduler.Worker

/-!
# `wait_for_endpoint` on its own

The worker has the wait for an endpoint spread over two of its loops. Here it is
taken out of them: `firstLook` is `wait_for_endpoint` up to its loop, `nextLook`
one round of the loop, and the worker's code is these two followed by what the
worker makes of their end. A run is over a trace of what the rounds find.
-/
namespace VllmRoute.Scheduler

open Lib

/-- Where a look for an endpoint ends. -/
inductive Look where
  | found (chosen : Attempt × VllmEndpoint)
  | gaveUp
  | again (waitUntilMs : Int)

/-- The endpoint that `wait_for_endpoint` returns. -/
def Look.endpoint : Look → Option (Attempt × VllmEndpoint)
  | .found chosen => some chosen
  | _ => none

def firstLook (req : InferenceRequest) : Code Look := do
  match ← select req with
  | some chosen => return .found chosen
  | none =>
    if (← readEndpointWaitMs) ≤ 0 then return .gaveUp
    else
      let now ← nowMs
      return .again (min req.deadlineAtMs (now + (← readEndpointWaitMs)))

def nextLook (req : InferenceRequest) (waitUntilMs : Int) : Code Look := do
  if ← loadStopping then return .gaveUp
  else if ¬ (← nowMs) < waitUntilMs then return .gaveUp
  else
    match ← select req with
    | some chosen => return .found chosen
    | none =>
      if ← readDeadlineExceeded req then return .gaveUp
      else return .again waitUntilMs

/-- What the worker makes of a look. -/
def afterLook (l : Retry) : Look → Code Point
  | .found (attempt, endpoint) => beginAttempt l attempt endpoint
  | .gaveUp => noEndpoint l
  | .again waitUntilMs => return .waiting l waitUntilMs

/-- A program is its first operation and what follows each response. -/
theorem perform_congr {α : Type} {o : Op} {f g : o.Resp → Code α} (same : ∀ r, f r = g r) :
    ask o >>= f = ask o >>= g := by
  rw [funext same]

theorem waitLoop_eq (l : Retry) (waitUntilMs : Int) :
    waitLoop l waitUntilMs = nextLook l.req waitUntilMs >>= afterLook l := by
  unfold waitLoop nextLook
  rw [bind_assoc]
  apply perform_congr
  intro stopping
  cases stopping with
  | true => rfl
  | false =>
    change _ = (nowMs >>= _) >>= afterLook l
    rw [bind_assoc]
    apply perform_congr
    intro (now : Int)
    by_cases late : ¬ now < waitUntilMs
    · rw [if_pos late, if_pos late]
      rfl
    · rw [if_neg late, if_neg late, bind_assoc]
      apply perform_congr
      intro chosen
      cases chosen with
      | some chosen => rfl
      | none =>
        change (readDeadlineExceeded l.req >>= _) = (readDeadlineExceeded l.req >>= _) >>= _
        rw [bind_assoc]
        congr 1
        funext exceeded
        cases exceeded <;> rfl

theorem attemptLoop_eq (l : Retry) :
    attemptLoop l = (do
      if ¬ l.attempt ≤ l.req.maxRetries then failRequest l
      else if ← loadStopping then failRequest l
      else if ← readDeadlineExceeded l.req then
        failRequest { l with errorMessage := lit "deadline exceeded" }
      else firstLook l.req >>= afterLook l) := by
  unfold attemptLoop
  congr 1
  apply perform_congr
  intro stopping
  cases stopping with
  | true => rfl
  | false =>
    refine congrArg (readDeadlineExceeded l.req >>= ·) (funext fun exceeded => ?_)
    cases exceeded with
    | true => rfl
    | false =>
      unfold firstLook
      change (select l.req >>= _) = (select l.req >>= _) >>= afterLook l
      rw [bind_assoc]
      apply perform_congr
      intro chosen
      cases chosen with
      | some chosen => rfl
      | none =>
        change (readEndpointWaitMs >>= _) = (readEndpointWaitMs >>= _) >>= afterLook l
        rw [bind_assoc]
        apply perform_congr
        intro (waitMs : Int)
        by_cases none : waitMs ≤ 0
        · rw [if_pos none, if_pos none]
          rfl
        · rw [if_neg none, if_neg none]
          rfl

/-! ### Runs over a trace -/

/-- What one round finds: `stopping_` and the clock at the head of the loop, the answer of
`select_endpoint`, and the clock after it. -/
structure WaitRound where
  stopping : Bool := false
  headMs : Int
  found : Option (Attempt × VllmEndpoint)
  afterMs : Int

/-- The clock, and the rounds to come. -/
structure Trace where
  clockMs : Int
  rounds : List WaitRound

def execTrace (endpointWaitMs : Int) (t : Trace) : (o : Op) → Option (o.Resp × Trace)
  | .loadStopping => t.rounds.head?.map fun m => (m.stopping, { t with clockMs := m.headMs })
  | .nowMs => some (t.clockMs, t)
  | .endpointWaitMs => some (endpointWaitMs, t)
  | .selectEndpoint _ => t.rounds.head?.map fun m => (m.found, ⟨m.afterMs, t.rounds.tail⟩)
  | _ => none

variable (endpointWaitMs : Int) (req : InferenceRequest)

/-- At most `n` rounds of the loop. -/
def lookAgain : Nat → Look → Trace → Option Look
  | n + 1, .again waitUntilMs, t =>
    ((nextLook req waitUntilMs).complete (execTrace endpointWaitMs) t).bind fun (look, t) =>
      lookAgain n look t
  | _, look, _ => some look

/-- `wait_for_endpoint`, for as long as the trace goes: what it has returned by then. -/
def waitForEndpoint (first : WaitRound) (rest : List WaitRound) : Option (Attempt × VllmEndpoint) :=
  (((firstLook req).complete (execTrace endpointWaitMs) ⟨first.headMs, first :: rest⟩).bind
    fun (look, t) => lookAgain endpointWaitMs req rest.length look t).bind Look.endpoint

/-- The end of the first look. -/
def firstEnd (first : WaitRound) : Look :=
  match first.found with
  | some chosen => .found chosen
  | none =>
    if endpointWaitMs ≤ 0 then .gaveUp
    else .again (min req.deadlineAtMs (first.afterMs + endpointWaitMs))

theorem firstLook_complete (clockMs : Int) (m : WaitRound) (rest : List WaitRound) :
    (firstLook req).complete (execTrace endpointWaitMs) ⟨clockMs, m :: rest⟩ =
      some (firstEnd endpointWaitMs req m, ⟨m.afterMs, rest⟩) := by
  have selected : execTrace endpointWaitMs ⟨clockMs, m :: rest⟩ (.selectEndpoint req) =
      some (m.found, ⟨m.afterMs, rest⟩) := rfl
  refine (Prog.complete_op selected).trans ?_
  unfold firstEnd
  cases m.found with
  | some chosen => rfl
  | none =>
    have waited : execTrace endpointWaitMs ⟨m.afterMs, rest⟩ .endpointWaitMs =
        some (endpointWaitMs, ⟨m.afterMs, rest⟩) := rfl
    refine (Prog.complete_op waited).trans ?_
    by_cases never : endpointWaitMs ≤ 0
    · rw [if_pos never, if_pos never]
      rfl
    · rw [if_neg never, if_neg never]
      rfl

/-- The round makes its look: nobody has stopped the scheduler, and there is time left. -/
def WaitRound.polls (waitUntilMs : Int) (m : WaitRound) : Bool :=
  !m.stopping && decide (m.headMs < waitUntilMs)

theorem readDeadlineExceeded_complete (t : Trace) :
    (readDeadlineExceeded req).complete (execTrace endpointWaitMs) t =
      some (deadlineExceeded req t.clockMs, t) := by
  unfold readDeadlineExceeded
  by_cases given : req.deadlineMs > 0
  · rw [if_pos given]
    rfl
  · rw [if_neg given]
    simp [Prog.complete, pure, deadlineExceeded, given]

/-- The end of a round that has made its look. -/
def nextEnd (waitUntilMs : Int) (m : WaitRound) : Look :=
  match m.found with
  | some chosen => .found chosen
  | none => if deadlineExceeded req m.afterMs then .gaveUp else .again waitUntilMs

section Round

variable {waitUntilMs : Int} {m : WaitRound}

theorem execTrace_loadStopping (clockMs : Int) (m : WaitRound) (rest : List WaitRound) :
    execTrace endpointWaitMs ⟨clockMs, m :: rest⟩ .loadStopping =
      some (m.stopping, ⟨m.headMs, m :: rest⟩) := rfl

theorem nextLook_polls (polls : m.polls waitUntilMs = true) (clockMs : Int)
    (rest : List WaitRound) :
    (nextLook req waitUntilMs).complete (execTrace endpointWaitMs) ⟨clockMs, m :: rest⟩ =
      some (nextEnd req waitUntilMs m, ⟨m.afterMs, rest⟩) := by
  simp only [WaitRound.polls, Bool.and_eq_true, Bool.not_eq_true', decide_eq_true_eq] at polls
  obtain ⟨running, time⟩ := polls
  refine (Prog.complete_op (execTrace_loadStopping endpointWaitMs clockMs m rest)).trans ?_
  have clock : execTrace endpointWaitMs ⟨m.headMs, m :: rest⟩ .nowMs =
      some (m.headMs, ⟨m.headMs, m :: rest⟩) := rfl
  have selected : execTrace endpointWaitMs ⟨m.headMs, m :: rest⟩ (.selectEndpoint req) =
      some (m.found, ⟨m.afterMs, rest⟩) := rfl
  rw [running]
  refine (Prog.complete_op clock).trans ?_
  rw [if_neg (not_not.mpr time)]
  refine (Prog.complete_op selected).trans ?_
  unfold nextEnd
  cases m.found with
  | some chosen => rfl
  | none =>
    have checked := readDeadlineExceeded_complete endpointWaitMs req ⟨m.afterMs, rest⟩
    refine (Prog.complete_bind _ _ _).trans ?_
    rw [checked, Option.bind_some]
    dsimp only
    cases deadlineExceeded req m.afterMs <;> rfl

theorem nextLook_over (ended : m.polls waitUntilMs = false) (clockMs : Int)
    (rest : List WaitRound) :
    (nextLook req waitUntilMs).complete (execTrace endpointWaitMs) ⟨clockMs, m :: rest⟩ =
      some (.gaveUp, ⟨m.headMs, m :: rest⟩) := by
  refine (Prog.complete_op (execTrace_loadStopping endpointWaitMs clockMs m rest)).trans ?_
  cases stopping : m.stopping with
  | true => rfl
  | false =>
    have late : ¬ m.headMs < waitUntilMs := by simpa [WaitRound.polls, stopping] using ended
    have clock : execTrace endpointWaitMs ⟨m.headMs, m :: rest⟩ .nowMs =
        some (m.headMs, ⟨m.headMs, m :: rest⟩) := rfl
    refine (Prog.complete_op clock).trans ?_
    rw [if_pos late]
    rfl

end Round

theorem lookAgain_found (n : Nat) (chosen : Attempt × VllmEndpoint) (t : Trace) :
    lookAgain endpointWaitMs req n (.found chosen) t = some (.found chosen) := by
  cases n <;> rfl

theorem lookAgain_gaveUp (n : Nat) (t : Trace) :
    lookAgain endpointWaitMs req n .gaveUp t = some .gaveUp := by
  cases n <;> rfl

/-- The loop returns the first endpoint that a round finds in time, as long as the deadline
is never exceeded. -/
theorem lookAgain_endpoint (waitUntilMs clockMs : Int) (rest : List WaitRound)
    (unexceeded : ∀ m ∈ rest, deadlineExceeded req m.afterMs = false) :
    (lookAgain endpointWaitMs req rest.length (.again waitUntilMs) ⟨clockMs, rest⟩).bind
      Look.endpoint = (rest.takeWhile (WaitRound.polls waitUntilMs)).findSome? WaitRound.found := by
  -- on the rounds to come; a round without a look is the last
  induction rest generalizing clockMs with
  | nil => rfl
  | cons m rest ih =>
    obtain ⟨first, later⟩ := List.forall_mem_cons.mp unexceeded
    rw [List.length_cons, lookAgain]
    by_cases polls : m.polls waitUntilMs = true
    · rw [nextLook_polls endpointWaitMs req polls, Option.bind_some, nextEnd,
        List.takeWhile_cons_of_pos polls, List.findSome?_cons]
      cases m.found with
      | some chosen =>
        dsimp only
        rw [lookAgain_found]
        rfl
      | none =>
        dsimp only
        rw [first]
        exact ih m.afterMs later
    · rw [nextLook_over endpointWaitMs req (Bool.not_eq_true _ ▸ polls), Option.bind_some,
        List.takeWhile_cons_of_neg polls]
      dsimp only
      rw [lookAgain_gaveUp]
      rfl

/-- What `wait_for_endpoint` returns while the deadline is never exceeded. -/
theorem waitForEndpoint_eq (first : WaitRound) (rest : List WaitRound) (waits : 0 < endpointWaitMs)
    (unexceeded : ∀ m ∈ rest, deadlineExceeded req m.afterMs = false) :
    waitForEndpoint endpointWaitMs req first rest = first.found.or
      ((rest.takeWhile (WaitRound.polls (min req.deadlineAtMs
        (first.afterMs + endpointWaitMs)))).findSome? WaitRound.found) := by
  unfold waitForEndpoint
  rw [firstLook_complete, Option.bind_some, firstEnd]
  cases first.found with
  | some chosen =>
    dsimp only
    rw [lookAgain_found]
    rfl
  | none =>
    dsimp only
    rw [if_neg (by omega), lookAgain_endpoint endpointWaitMs req _ _ rest unexceeded]
    rfl

end VllmRoute.Scheduler
