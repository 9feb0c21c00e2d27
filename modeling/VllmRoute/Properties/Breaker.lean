import VllmRoute.Scheduler.Dispatch

/-!
# The circuit breaker

What the reports of attempts and the health checks do to the breaker of an
object, and what a dispatch says about the history since the last trip. The
single probe of `HalfOpen` is guarded by `half_open_inflight`, which counts
completions of any attempt and not of probes alone.
-/
namespace VllmRoute.Scheduler

open Lib Dispatcher

/-- The outcome an act reports, with the thresholds it is judged by. -/
def Act.outcome : Act → Option (Thresholds × Bool)
  | .result _ th ok _ => some (th, ok)
  | .health th ok _ => some (th, ok)
  | _ => none

/-- The act sets `circuit_open_until_ms`. -/
def Act.trips (act : Act) (ep : VllmEndpoint) : Bool :=
  match act.outcome with
  | some (th, false) => ep.consecutiveFailures + 1 ≥ th.circuitFailureThreshold
  | _ => false

/-- The breaker after a transition that reports nothing: only an open circuit
whose time has come moves. -/
def Unreported (nowMs : Int) (ep ep' : VllmEndpoint) : Prop :=
  ep'.consecutiveSuccesses = ep.consecutiveSuccesses ∧
    ep'.circuitOpenUntilMs = ep.circuitOpenUntilMs ∧
    (ep'.circuitState = ep.circuitState ∨
      ep.circuitState = .opened ∧ ep.circuitOpenUntilMs ≤ nowMs ∧ ep'.circuitState = .halfOpen)

/-- The breaker after a reported success. -/
def Succeeded (th : Thresholds) (ep ep' : VllmEndpoint) : Prop :=
  ep'.consecutiveSuccesses = ep.consecutiveSuccesses + 1 ∧
    ep'.circuitOpenUntilMs = ep.circuitOpenUntilMs ∧
    ep'.circuitState =
      if ep.consecutiveSuccesses + 1 ≥ th.recoveryThreshold then .closed else ep.circuitState

/-- The breaker after a reported failure. -/
def Failed (th : Thresholds) (nowMs : Int) (ep ep' : VllmEndpoint) : Prop :=
  ep'.consecutiveSuccesses = 0 ∧
    (ep.consecutiveFailures + 1 ≥ th.circuitFailureThreshold →
      ep'.circuitState = .opened ∧ ep'.circuitOpenUntilMs = nowMs + th.circuitOpenMs) ∧
    (¬ ep.consecutiveFailures + 1 ≥ th.circuitFailureThreshold →
      ep'.circuitState = ep.circuitState ∧ ep'.circuitOpenUntilMs = ep.circuitOpenUntilMs)

theorem countSuccess_succeeded (th : Thresholds) (close : CircuitState → CircuitState)
    (closes : ∀ state, close state = .closed) (ep : VllmEndpoint) :
    Succeeded th ep (countSuccess th close ep) := by
  unfold Succeeded countSuccess
  dsimp only
  split
  · exact ⟨rfl, rfl, closes _⟩
  · exact ⟨rfl, rfl, rfl⟩

theorem countFailure_failed (th : Thresholds) (nowMs : Int) (ep : VllmEndpoint) :
    Failed th nowMs ep (countFailure th nowMs ep) := by
  unfold Failed countFailure
  by_cases sick : ep.consecutiveFailures + 1 ≥ th.unhealthyThreshold <;>
    by_cases trip : ep.consecutiveFailures + 1 ≥ th.circuitFailureThreshold <;>
    simp [sick, trip]

/-- What each transition of an object does to its breaker. -/
theorem Effect.breaker {nowMs : Int} {v w : View} {act : Act} (effect : Effect nowMs v act w) :
    match act.outcome with
    | none => Unreported nowMs v.ep w.ep
    | some (th, true) => Succeeded th v.ep w.ep
    | some (th, false) => Failed th nowMs v.ep w.ep := by
  induction effect with
  | same v => exact ⟨rfl, rfl, Or.inl rfl⟩
  | reopened v opened due => exact ⟨rfl, rfl, Or.inr ⟨opened, due, rfl⟩⟩
  | dispatched v w _ _ ih => exact ih
  | reported ep n p probe th ok latencyMs =>
    cases ok with
    | true => exact countSuccess_succeeded th _ (fun _ => rfl) _
    | false => exact countFailure_failed th nowMs _
  | checked v th ok latencyMs =>
    cases ok with
    | true =>
      exact countSuccess_succeeded th
        (fun state => if state = .halfOpen || state = .opened then .closed else state)
        (by intro state; cases state <;> rfl) _
    | false => exact countFailure_failed th nowMs _

/-! ### Dispatches after a trip -/

/-- The outcome a transition of a run reports on an object. -/
def outcomeOn (id : Nat) (t : Dispatcher × Event) : Option Bool :=
  (t.1.actOn id t.2).outcome.map Prod.snd

/-- A stretch of the run without a reported failure, with at least `n` successes. -/
structure Streak (id : Nat) (n : Int) (w : List (Dispatcher × Event)) : Prop where
  unbroken : ∀ t ∈ w, outcomeOn id t ≠ some false
  long : n ≤ w.countP fun t => outcomeOn id t == some true

theorem Streak.snoc {id : Nat} {n : Int} {w : List (Dispatcher × Event)} (streak : Streak id n w)
    (t : Dispatcher × Event) (fine : outcomeOn id t ≠ some false) :
    Streak id (if outcomeOn id t = some true then n + 1 else n) (w ++ [t]) := by
  obtain ⟨unbroken, long⟩ := streak
  constructor
  · intro u member
    rcases List.mem_append.mp member with old | new
    · exact unbroken u old
    · exact (List.mem_singleton.mp new) ▸ fine
  · rw [List.countP_append]
    split
    next success =>
      simp [success]
      omega
    next =>
      push_cast
      omega

/-- The stretch since a trip: what it says about the object. -/
structure SinceTrip (id : Nat) (recovery openUntil : Int) (past : List (Dispatcher × Event))
    (d : Dispatcher) : Prop where
  wellFormed : d.WellFormed
  allocated : id < d.pool.next
  kept : (d.pool.heap id).circuitOpenUntilMs = openUntil
  streak : ∃ w, w <:+ past ∧ Streak id (d.pool.heap id).consecutiveSuccesses w
  closed : (d.pool.heap id).circuitState = .closed → ∃ w, w <:+: past ∧ Streak id recovery w
  due : (d.pool.heap id).circuitState = .halfOpen → openUntil ≤ d.nowMs

/-- The event is no trip of the object and is judged by the recovery threshold. -/
def Untripped (id : Nat) (recovery : Int) (d : Dispatcher) (e : Event) : Prop :=
  (d.actOn id e).trips (d.pool.heap id) = false ∧
    ∀ th ok, (d.actOn id e).outcome = some (th, ok) → th.recoveryThreshold = recovery

section Since

variable {id : Nat} {recovery openUntil : Int} {past : List (Dispatcher × Event)}
  {d d' : Dispatcher} {e : Event}

/-- A streak of the run so far is still one after the next transition. -/
theorem recovered_earlier (t : Dispatcher × Event)
    (recovered : ∃ w, w <:+: past ∧ Streak id recovery w) :
    ∃ w, w <:+: past ++ [t] ∧ Streak id recovery w := by
  obtain ⟨w, inside, streak⟩ := recovered
  exact ⟨w, inside.trans (List.prefix_append past _).isInfix, streak⟩

/-- The running streak with the next transition, if that reports no failure. -/
theorem SinceTrip.extended (before : SinceTrip id recovery openUntil past d) (e : Event)
    (fine : outcomeOn id (d, e) ≠ some false) :
    ∃ w, w <:+ past ++ [(d, e)] ∧
      Streak id (if outcomeOn id (d, e) = some true
        then (d.pool.heap id).consecutiveSuccesses + 1
        else (d.pool.heap id).consecutiveSuccesses) w := by
  obtain ⟨w, ⟨front, rfl⟩, streak⟩ := before.streak
  exact ⟨w ++ [(d, e)], ⟨front, by simp⟩, streak.snoc (d, e) fine⟩

variable (wf' : d'.WellFormed) (allocated' : id < d'.pool.next) (later : d.nowMs ≤ d'.nowMs)

include wf' allocated' later

theorem SinceTrip.unreported (before : SinceTrip id recovery openUntil past d)
    (reported : (d.actOn id e).outcome = none)
    (breaker : Unreported d.nowMs (d.pool.heap id) (d'.pool.heap id)) :
    SinceTrip id recovery openUntil (past ++ [(d, e)]) d' := by
  obtain ⟨successes, openUntil', state⟩ := breaker
  have quiet : outcomeOn id (d, e) = none := by simp [outcomeOn, reported]
  obtain ⟨w, longer, extended⟩ := before.extended e (by simp [quiet])
  simp only [quiet, reduceCtorEq, if_false] at extended
  refine ⟨wf', allocated', openUntil'.trans before.kept, ⟨w, longer, successes ▸ extended⟩,
    fun closed' => ?_, fun half => ?_⟩
  · rcases state with same | ⟨_, _, half⟩
    · exact recovered_earlier (d, e) (before.closed (same ▸ closed'))
    · cases closed'.symm.trans half
  · rcases state with same | ⟨_, reached, _⟩
    · exact Int.le_trans (before.due (same ▸ half)) later
    · -- the circuit has just become half open, because its time has come
      exact Int.le_trans (before.kept ▸ reached) later

theorem SinceTrip.succeeded (before : SinceTrip id recovery openUntil past d) {th : Thresholds}
    (reported : (d.actOn id e).outcome = some (th, true)) (judged : th.recoveryThreshold = recovery)
    (breaker : Succeeded th (d.pool.heap id) (d'.pool.heap id)) :
    SinceTrip id recovery openUntil (past ++ [(d, e)]) d' := by
  obtain ⟨successes, openUntil', state⟩ := breaker
  have success : outcomeOn id (d, e) = some true := by simp [outcomeOn, reported]
  obtain ⟨w, longer, extended⟩ := before.extended e (by simp [success])
  simp only [success, if_true] at extended
  refine ⟨wf', allocated', openUntil'.trans before.kept, ⟨w, longer, successes ▸ extended⟩,
    fun closed' => ?_, fun half => ?_⟩
  · split at state
    next enough =>
      -- the running streak is the one that closes the circuit
      rw [judged] at enough
      exact ⟨w, longer.isInfix, extended.unbroken, Int.le_trans enough extended.long⟩
    next => exact recovered_earlier (d, e) (before.closed (state.symm.trans closed'))
  · split at state
    next => cases half.symm.trans state
    next => exact Int.le_trans (before.due (state.symm.trans half)) later

/-- A failure that does not trip ends the streak and leaves the circuit as it is. -/
theorem SinceTrip.failed (before : SinceTrip id recovery openUntil past d) {th : Thresholds}
    (low : ¬ (d.pool.heap id).consecutiveFailures + 1 ≥ th.circuitFailureThreshold)
    (breaker : Failed th d.nowMs (d.pool.heap id) (d'.pool.heap id)) :
    SinceTrip id recovery openUntil (past ++ [(d, e)]) d' := by
  obtain ⟨successes, _, still⟩ := breaker
  obtain ⟨state, openUntil'⟩ := still low
  refine ⟨wf', allocated', openUntil'.trans before.kept, ⟨[], List.nil_suffix, ?_⟩,
    fun closed' => recovered_earlier (d, e) (before.closed (state.symm.trans closed')),
    fun half => Int.le_trans (before.due (state.symm.trans half)) later⟩
  exact ⟨by simp, Int.le_of_eq successes⟩

end Since

theorem step_sinceTrip (id : Nat) (recovery openUntil : Int) (past : List (Dispatcher × Event))
    (d : Dispatcher) (e : Event) (d' : Dispatcher) (taken : d.step e = some d')
    (untripped : Untripped id recovery d e) (before : SinceTrip id recovery openUntil past d) :
    SinceTrip id recovery openUntil (past ++ [(d, e)]) d' := by
  obtain ⟨noTrip, judged⟩ := untripped
  obtain ⟨grown, later⟩ := step_monotone d d' e taken
  have wf' := step_wellFormed d d' e before.wellFormed taken
  have allocated' := Nat.lt_of_lt_of_le before.allocated grown
  have breaker := (step_effect_of_lt d d' e before.wellFormed taken before.allocated).breaker
  cases reported : (d.actOn id e).outcome with
  | none =>
    rw [reported] at breaker
    exact before.unreported wf' allocated' later reported breaker
  | some report =>
    obtain ⟨th, ok⟩ := report
    rw [reported] at breaker
    cases ok with
    | true => exact before.succeeded wf' allocated' later reported (judged th true reported) breaker
    | false =>
      refine before.failed wf' allocated' later ?_ breaker
      simpa [Act.trips, reported] using noTrip

/-- An outcome is reported by an attempt on the object or by its health check. -/
theorem outcome_cases {d : Dispatcher} {id : Nat} {e : Event} {th : Thresholds} {ok : Bool}
    (reported : (d.actOn id e).outcome = some (th, ok)) :
    (∃ slot latencyMs a, e = .complete slot th ok latencyMs ∧ d.outstanding[slot]? = some a ∧
      a.endpoint = id ∧ d.actOn id e = .result (a.era == d.eras id) th ok latencyMs) ∨
    ∃ latencyMs, e = .health id th ok latencyMs := by
  cases e with
  | select req threshold =>
    simp only [actOn] at reported
    split at reported <;> cases reported
  | complete slot th ok latencyMs =>
    simp only [actOn] at reported
    split at reported
    next a found =>
      split at reported
      next same =>
        cases reported
        refine Or.inl ⟨slot, latencyMs, a, rfl, found, same, ?_⟩
        simp only [actOn, found, if_pos same]
      next => cases reported
    next => cases reported
  | health other th ok latencyMs =>
    simp only [actOn] at reported
    split at reported
    next same =>
      cases reported
      exact Or.inr ⟨latencyMs, by rw [same]⟩
    next => cases reported
  | reload | advance => cases reported

/-- A reported outcome is one of an allocated object. -/
theorem reported_allocated (d d' : Dispatcher) (e : Event) (id : Nat) (wf : d.WellFormed)
    (taken : d.step e = some d') (th : Thresholds) (ok : Bool)
    (reported : (d.actOn id e).outcome = some (th, ok)) : id < d.pool.next := by
  rcases outcome_cases reported with ⟨_, _, a, _, found, rfl, _⟩ | ⟨_, rfl⟩
  · exact wf.allocated a (List.mem_of_getElem? found)
  · simp only [step] at taken
    split at taken
    next inside => exact inside
    next => cases taken

theorem trip_sinceTrip (d d' : Dispatcher) (e : Event) (id : Nat) (recovery : Int)
    (wf : d.WellFormed) (taken : d.step e = some d')
    (trip : (d.actOn id e).trips (d.pool.heap id) = true) :
    SinceTrip id recovery (d'.pool.heap id).circuitOpenUntilMs [] d' := by
  have grown := step_monotone d d' e taken
  unfold Act.trips at trip
  split at trip
  next th reported =>
    have allocated := reported_allocated d d' e id wf taken th false reported
    have breaker := (step_effect_of_lt d d' e wf taken allocated).breaker
    rw [reported] at breaker
    obtain ⟨successes, opens, _⟩ := breaker
    obtain ⟨opened, _⟩ := opens (of_decide_eq_true trip)
    -- the trip leaves the circuit open, so neither of the last two clauses applies yet
    refine ⟨step_wellFormed d d' e wf taken, Nat.lt_of_lt_of_le allocated grown.1, rfl,
      ⟨[], List.nil_suffix, by simp, ?_⟩, fun closed => ?_, fun half => ?_⟩
    · exact Int.le_of_eq successes
    · cases opened.symm.trans closed
    · cases opened.symm.trans half
  next => cases trip

/-- A dispatch finds the circuit closed, and closed before the scan, or half open
with its time come. -/
theorem Effect.dispatch_admits {nowMs : Int} {v w : View} (effect : Effect nowMs v .dispatch w) :
    (w.ep.circuitState = .closed ∧ w.ep.healthy = true ∧ v.ep.circuitState = .closed) ∨
      (w.ep.circuitState = .halfOpen ∧
        (v.ep.circuitState = .halfOpen ∨ v.ep.circuitOpenUntilMs ≤ nowMs)) := by
  cases effect with
  | dispatched v w before ready =>
    obtain ⟨_, _, state⟩ := before.breaker
    rcases ready.admits with ⟨closed, healthy⟩ | ⟨half, _⟩
    · left
      refine ⟨closed, healthy, ?_⟩
      rcases state with same | ⟨_, _, half⟩
      · exact same ▸ closed
      · cases closed.symm.trans half
    · right
      refine ⟨half, ?_⟩
      rcases state with same | ⟨_, due, _⟩
      · exact Or.inl (same ▸ half)
      · exact Or.inr due

/-- A dispatch after a trip, with no trip in between: the circuit is closed and
healthy after a streak of `recovery_threshold` successes since the trip, or
half open with the opening of the last trip run out. -/
theorem dispatch_after_trip (env : Environment) (body : Json) (pool : Pool) (nowMs : Int)
    (loaded : loadModel env body = .ok pool) (before after : List Event)
    (d₁ d₂ d₃ d₄ : Dispatcher) (ran : run step (start pool nowMs) before = some d₁)
    (id : Nat) (trip : Event) (tripped : (d₁.actOn id trip).trips (d₁.pool.heap id) = true)
    (taken : d₁.step trip = some d₂)
    (recovery : Int) (ranAfter : run step d₂ after = some d₃)
    (untripped : Along step (fun d e _ => Untripped id recovery d e) d₂ after)
    (req : InferenceRequest) (highPriorityThreshold : Int)
    (selected : d₃.step (.select req highPriorityThreshold) = some d₄)
    (dispatched : d₃.actOn id (.select req highPriorityThreshold) = .dispatch) :
    ((d₄.pool.heap id).circuitState = .closed ∧ (d₄.pool.heap id).healthy = true ∧
        ∃ w, w <:+: history step d₂ after ∧ Streak id recovery w) ∨
      ((d₄.pool.heap id).circuitState = .halfOpen ∧
        (d₂.pool.heap id).circuitOpenUntilMs ≤ d₃.nowMs) := by
  have wf : d₁.WellFormed := run_invariant step WellFormed
    (fun d e d' taken wf => step_wellFormed d d' e wf taken) _ d₁ before ran
    (start_wellFormed env body pool nowMs loaded)
  have since : SinceTrip id recovery (d₂.pool.heap id).circuitOpenUntilMs
      (history step d₂ after) d₃ := by
    simpa using run_history_invariant step _ _
      (step_sinceTrip id recovery (d₂.pool.heap id).circuitOpenUntilMs) [] d₂ d₃ after ranAfter
      untripped (trip_sinceTrip d₁ d₂ trip id recovery wf taken tripped)
  have effect : Effect d₃.nowMs (d₃.view id) .dispatch (d₄.view id) :=
    dispatched ▸ step_effect_of_lt d₃ d₄ _ since.wellFormed selected since.allocated
  rcases effect.dispatch_admits with ⟨closed, healthy, already⟩ | ⟨half, reason⟩
  · exact Or.inl ⟨closed, healthy, since.closed already⟩
  · refine Or.inr ⟨half, ?_⟩
    -- half open before the scan, or made so by the scan
    rcases reason with already | due
    · exact since.due already
    · exact since.kept ▸ due

/-- One endpoint of capacity four whose circuit opens at the first failure. -/
def fragileBackend : Json :=
  .obj [("model", .str "m"), ("circuit_failure_threshold", .int 1), ("endpoints", .arr [.obj
    [("base_url", .str "http://a"), ("max_concurrency", .int 4)]])]

def anyRequest : InferenceRequest := { logicalModel := "m" }

/-- The thresholds of a load of `fragileBackend`. -/
def fragile : Thresholds :=
  { recoveryThreshold := 2, unhealthyThreshold := 3, circuitFailureThreshold := 1,
    circuitOpenMs := 30000 }

theorem dispatch_after_trip_recovered : ∃ pool d₁ d₂ d₃ d₄,
    loadModel {} fragileBackend = .ok pool ∧ pool.cfg.thresholds = fragile ∧
    run step (start pool 0) [.select anyRequest 7] = some d₁ ∧
    d₁.step (.complete 0 fragile false 0) = some d₂ ∧
    run step d₂ [.health 0 fragile true 0, .health 0 fragile true 0] = some d₃ ∧
    d₃.step (.select anyRequest 7) = some d₄ ∧ (d₄.pool.heap 0).circuitState = .closed ∧
    (((d₄.pool.heap 0).circuitState = .closed ∧ (d₄.pool.heap 0).healthy = true ∧
        ∃ w, w <:+: history step d₂ [.health 0 fragile true 0, .health 0 fragile true 0] ∧
          Streak 0 2 w) ∨
      ((d₄.pool.heap 0).circuitState = .halfOpen ∧
        (d₂.pool.heap 0).circuitOpenUntilMs ≤ d₃.nowMs)) := by
  refine ⟨_, _, _, _, _, rfl, rfl, rfl, rfl, rfl, rfl, rfl,
    dispatch_after_trip {} fragileBackend _ 0 rfl [.select anyRequest 7] _ _ _ _ _ rfl 0
      (.complete 0 fragile false 0) rfl rfl 2 rfl ?_ anyRequest 7 rfl rfl⟩
  intro d first
  cases first
  refine ⟨⟨rfl, ?_⟩, fun d' second => ?_⟩
  · rintro th ok ⟨⟩
    rfl
  · cases second
    refine ⟨⟨rfl, ?_⟩, trivial⟩
    rintro th ok ⟨⟩
    rfl

/-! ### The probe of a half-open circuit -/

/-- While the circuit is half open, `half_open_inflight` is the number of
outstanding attempts dispatched since it became so, at most one. -/
def SingleProbe (v : View) : Prop :=
  v.ep.circuitState = .halfOpen → v.ep.halfOpenInflight = v.probes ∧ v.probes ≤ 1

/-- The report of an attempt that finds the circuit half open with a probe
counted is the report of a probe. -/
def ProbeReport (d : Dispatcher) : Event → Prop
  | .complete slot _ _ _ => ∀ a, d.outstanding[slot]? = some a →
      (d.pool.heap a.endpoint).circuitState = .halfOpen →
      0 < (d.pool.heap a.endpoint).halfOpenInflight → a.era = d.eras a.endpoint
  | _ => True

/-- The same condition on the act of one object. -/
def Act.ofProbe (act : Act) (ep : VllmEndpoint) : Prop :=
  ∀ th ok latencyMs, act = .result false th ok latencyMs →
    ep.circuitState = .halfOpen → ¬ 0 < ep.halfOpenInflight

theorem ProbeReport.ofProbe {d : Dispatcher} {e : Event} (probe : ProbeReport d e) (id : Nat) :
    (d.actOn id e).ofProbe (d.pool.heap id) := by
  intro th ok latencyMs equal half counted
  rcases outcome_cases (congrArg Act.outcome equal) with ⟨_, _, a, rfl, found, rfl, act⟩ | ⟨_, rfl⟩
  · have current := probe a found half counted
    rw [equal, current] at act
    simp at act
  · simp [actOn] at equal

/-- A report leaves the circuit half open only if it found it so. -/
theorem Effect.stays_halfOpen {nowMs : Int} {v w : View} {act : Act} {th : Thresholds} {ok : Bool}
    (effect : Effect nowMs v act w) (reported : act.outcome = some (th, ok))
    (half : w.ep.circuitState = .halfOpen) : v.ep.circuitState = .halfOpen := by
  have breaker := effect.breaker
  rw [reported] at breaker
  cases ok with
  | true =>
    obtain ⟨_, _, state⟩ := breaker
    split at state
    · cases half.symm.trans state
    · exact state ▸ half
  | false =>
    obtain ⟨_, opens, still⟩ := breaker
    by_cases trip : v.ep.consecutiveFailures + 1 ≥ th.circuitFailureThreshold
    · cases half.symm.trans (opens trip).1
    · exact (still trip).1 ▸ half

theorem Effect.singleProbe {nowMs : Int} {v w : View} {act : Act} (effect : Effect nowMs v act w)
    (probe : act.ofProbe v.ep) (before : SingleProbe v) : SingleProbe w := by
  induction effect with
  | same v => exact before
  | reopened v _ _ => exact fun _ => ⟨rfl, Nat.zero_le 1⟩
  | dispatched v w inner ready ih =>
    intro half
    have idle : Act.idle.ofProbe v.ep := by
      intro th ok latencyMs equal
      cases equal
    obtain ⟨counted, single⟩ := ih idle before half
    -- a half-open circuit accepts the dispatch only with no probe counted
    have none : w.ep.halfOpenInflight ≤ 0 := by
      rcases ready.admits with ⟨closed, _⟩ | ⟨_, none⟩
      · cases closed.symm.trans half
      · exact none
    have entered : w.ep.circuitState = .halfOpen := half
    simp only [dispatch, if_pos entered]
    omega
  | reported ep n p isProbe th ok latencyMs =>
    intro half
    have already : ep.circuitState = .halfOpen :=
      (Effect.reported ep n p isProbe th ok latencyMs).stays_halfOpen rfl half
    obtain ⟨counted, single⟩ := before already
    obtain ⟨_, slots, _, _, _⟩ := updateEndpointResult_keepsSlots th nowMs ok latencyMs ep
    dsimp only at counted single ⊢
    rw [slots]
    simp only [releaseSlot]
    -- the report frees a counted slot, and the condition says that its own attempt took it
    cases isProbe with
    | true =>
      simp only [Bool.toNat_true] at counted single
      split <;> omega
    | false =>
      have uncounted := probe th ok latencyMs rfl already
      simp only [Bool.toNat_false] at counted single
      rw [if_neg uncounted]
      omega
  | checked v th ok latencyMs =>
    intro half
    have already := (Effect.checked v th ok latencyMs).stays_halfOpen rfl half
    obtain ⟨_, slots, _, _, _⟩ := updateEndpointHealth_keepsSlots th nowMs ok latencyMs v.ep
    obtain ⟨counted, single⟩ := before already
    exact ⟨slots.trans counted, single⟩

/-- The probes of every object of a well-formed pool are single. -/
structure Probing (d : Dispatcher) : Prop where
  wellFormed : d.WellFormed
  single : ∀ id, SingleProbe (d.view id)

theorem step_probing (d : Dispatcher) (e : Event) (d' : Dispatcher) (taken : d.step e = some d')
    (probe : ProbeReport d e) (before : Probing d) : Probing d' := by
  refine ⟨step_wellFormed d d' e before.wellFormed taken, fun id => ?_⟩
  rcases step_effect d d' e before.wellFormed taken id with effect | ⟨_, _, idle, _, none⟩
  · exact effect.singleProbe (probe.ofProbe id) (before.single id)
  · intro _
    simp [view, none, idle.halfOpenInflight]

/-- In every run in which only probes report while a probe is counted, at most one
attempt dispatched since the circuit became half open is outstanding. -/
theorem single_probe_of_probe_reports (env : Environment) (body : Json) (pool : Pool) (nowMs : Int)
    (loaded : loadModel env body = .ok pool) (events : List Event) (d : Dispatcher)
    (ran : run step (start pool nowMs) events = some d)
    (probes : Along step (fun d e _ => ProbeReport d e) (start pool nowMs) events) (id : Nat)
    (half : (d.pool.heap id).circuitState = .halfOpen) : d.probesOn id ≤ 1 := by
  have probing : Probing d := by
    apply run_invariant_along step _ Probing (fun d e d' taken => step_probing d e d' taken)
      _ d events ran probes
    refine ⟨start_wellFormed env body pool nowMs loaded, fun id _ => ?_⟩
    have idle := (loadModel_fresh env body pool loaded).idle id
    simp [view, start, probesOn, idle.halfOpenInflight]
  exact (probing.single id half).2

/-- A probe reports a success, which is one too few to close the circuit, and another goes out. -/
def twoProbes : List Event :=
  [.select anyRequest 7, .complete 0 fragile false 0, .advance 30000, .select anyRequest 7,
    .complete 0 fragile true 0, .select anyRequest 7]

theorem single_probe_of_probe_reports_reopened : ∃ pool d,
    loadModel {} fragileBackend = .ok pool ∧ run step (start pool 0) twoProbes = some d ∧
    (d.pool.heap 0).circuitState = .halfOpen ∧ 0 < d.probesOn 0 ∧ d.probesOn 0 ≤ 1 := by
  refine ⟨_, _, rfl, rfl, rfl, by decide, single_probe_of_probe_reports {} fragileBackend _ 0 rfl
    twoProbes _ rfl ?_ 0 rfl⟩
  -- the first report comes while the circuit is closed, the second is that of the probe
  refine along_cons rfl trivial (along_cons rfl ?_ (along_cons rfl trivial (along_cons rfl trivial
    (along_cons rfl ?_ (along_cons rfl trivial trivial)))))
  · rintro a ⟨⟩ half
    cases half
  · rintro a ⟨⟩ _ _
    rfl

/-- The late report of an attempt from before the trip frees the slot of the
running probe, and a second probe goes out. -/
theorem late_report_admits_second_probe : ∃ pool d,
    loadModel {} fragileBackend = .ok pool ∧ pool.cfg.thresholds = fragile ∧
    run step (start pool 0) [.select anyRequest 7, .select anyRequest 7,
      .complete 0 fragile false 0, .advance 30000, .select anyRequest 7,
      .complete 1 fragile true 0, .select anyRequest 7] = some d ∧
    (d.pool.heap 0).circuitState = .halfOpen ∧ ¬ d.probesOn 0 ≤ 1 :=
  ⟨_, _, rfl, rfl, rfl, rfl, by decide⟩

end VllmRoute.Scheduler
