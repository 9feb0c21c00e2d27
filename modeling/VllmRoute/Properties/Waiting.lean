import VllmRoute.Scheduler.Waiting

/-!
# Waiting without a deadline

A request whose `deadline_ms` is not positive has no deadline for
`deadline_exceeded`, but its `deadline_at_ms` is the time of its creation or
before. The wait for an endpoint is bounded by that time.
-/
namespace VllmRoute.Scheduler

/-- The readings of the clock in a wait, in their order. -/
def readings (first : WaitRound) (rest : List WaitRound) : List Int :=
  first.afterMs :: rest.flatMap fun m => [m.headMs, m.afterMs]

/-- For every request without a deadline, every wait, every clock that does not go back and
everything that the rounds may find: `wait_for_endpoint` returns what it returns
with a deadline behind the whole trace if and only if the first look finds an
endpoint, or none of the polls within the wait does. -/
theorem wait_without_deadline_iff (req : InferenceRequest) (endpointWaitMs : Int)
    (waits : 0 < endpointWaitMs) (without : req.deadlineMs ≤ 0)
    (created : req.deadlineAtMs = req.createdMs + req.deadlineMs) (first : WaitRound)
    (rest : List WaitRound) (monotone : (req.createdMs :: readings first rest).Pairwise (· ≤ ·))
    (deadlineMs deadlineAtMs : Int) (far : first.afterMs + endpointWaitMs ≤ deadlineAtMs)
    (beyond : ∀ t ∈ readings first rest, t < deadlineAtMs) :
    waitForEndpoint endpointWaitMs req first rest =
        waitForEndpoint endpointWaitMs
          { req with deadlineMs := deadlineMs, deadlineAtMs := deadlineAtMs } first rest ↔
      first.found.isSome = true ∨
        ∀ m ∈ rest.takeWhile (WaitRound.polls (first.afterMs + endpointWaitMs)),
          m.found = none := by
  obtain ⟨start, ordered⟩ := List.pairwise_cons.mp monotone
  obtain ⟨later, _⟩ := List.pairwise_cons.mp ordered
  have start : req.createdMs ≤ first.afterMs := start _ List.mem_cons_self
  -- the request itself: the time is over before the first round
  have nothing : rest.takeWhile
      (WaitRound.polls (min req.deadlineAtMs (first.afterMs + endpointWaitMs))) = [] := by
    cases rest with
    | nil => rfl
    | cons m rest =>
      apply List.takeWhile_cons_of_neg
      have after : first.afterMs ≤ m.headMs := later _ (by simp)
      simp only [WaitRound.polls, Bool.and_eq_true, decide_eq_true_eq]
      omega
  have own := waitForEndpoint_eq endpointWaitMs req first rest waits fun m _ => by
    simp [deadlineExceeded, Int.not_lt.mpr without]
  rw [nothing] at own
  -- with the other deadline: the bound is that of the wait alone
  have other := waitForEndpoint_eq endpointWaitMs
    { req with deadlineMs := deadlineMs, deadlineAtMs := deadlineAtMs } first rest waits
    fun m member => by
      have before : m.afterMs < deadlineAtMs :=
        beyond _ (List.mem_cons_of_mem _ (List.mem_flatMap.mpr ⟨m, member, by simp⟩))
      simp [deadlineExceeded, Int.not_le.mpr before]
  dsimp only at other
  rw [Int.min_eq_right far] at other
  rw [own, other]
  cases first.found with
  | some chosen => simp
  | none =>
    rw [List.findSome?_nil, Option.none_or, Option.none_or, eq_comm, List.findSome?_eq_none_iff]
    simp

/-- A look that finds no endpoint. -/
def emptyLook : WaitRound := { headMs := 0, found := none, afterMs := 10 }

/-- A poll that finds none either. -/
def quietRound : WaitRound := { headMs := 10, found := none, afterMs := 20 }

/-- The round after it, when an endpoint has become available. -/
def luckyRound : WaitRound := { headMs := 20, found := some (⟨0, 0⟩, {}), afterMs := 30 }

/-- A request without a deadline, created at time 0. -/
def openEnded : InferenceRequest := { deadlineMs := 0, deadlineAtMs := 0 }

/-- The same polls: within a wait of two seconds one of them finds an endpoint, within a wait
of five milliseconds none does. -/
theorem wait_without_deadline_iff_polled :
    waitForEndpoint 2000 openEnded emptyLook [quietRound, luckyRound] ≠ waitForEndpoint 2000
      { openEnded with deadlineMs := 60000, deadlineAtMs := 60000 } emptyLook
      [quietRound, luckyRound] ∧
    waitForEndpoint 5 openEnded emptyLook [quietRound, luckyRound] = waitForEndpoint 5
      { openEnded with deadlineMs := 60000, deadlineAtMs := 60000 } emptyLook
      [quietRound, luckyRound] := by
  constructor
  · refine (wait_without_deadline_iff openEnded 2000 (by decide) (by decide) (by decide) emptyLook
      _ (by decide) 60000 60000 (by decide) (by decide)).not.mpr ?_
    rintro (found | unlucky)
    · cases found
    · have lost := unlucky luckyRound (by simp [WaitRound.polls, quietRound, luckyRound, emptyLook])
      cases lost
  · refine (wait_without_deadline_iff openEnded 5 (by decide) (by decide) (by decide) emptyLook
      _ (by decide) 60000 60000 (by decide) (by decide)).mpr (Or.inr ?_)
    intro m member
    have polled : m = quietRound := by simpa [WaitRound.polls, quietRound, luckyRound,
      emptyLook] using member
    rw [polled]
    rfl

/-- The endpoint that the first poll would have found is not looked for. -/
theorem wait_without_deadline_gives_up :
    openEnded.deadlineMs ≤ 0 ∧ waitForEndpoint 2000 openEnded emptyLook [luckyRound] = none ∧
    waitForEndpoint 2000 { openEnded with deadlineMs := 60000, deadlineAtMs := 60000 } emptyLook
      [luckyRound] = luckyRound.found :=
  ⟨by decide, rfl, rfl⟩

end VllmRoute.Scheduler
