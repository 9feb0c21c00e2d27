import VllmRoute.Properties.Breaker
import VllmRoute.Properties.Reloading

/-!
# The trail of an endpoint

What an endpoint has gone through, as a list of what was reported on it and the
state of its circuit after each step. An object that a reload makes goes on with
the trail of its predecessor. The counters of the breaker are functions of the
trail: `circuit_open_count` of the states, `consecutive_failures` of the reports.
-/
namespace VllmRoute.Scheduler

open Lib Dispatcher

/-- One step of the system, seen from an endpoint. -/
structure Moment where
  outcome : Option Bool
  state : CircuitState

/-- The state at the end of a trail, whose last moment comes first. -/
def lastState : List Moment → CircuitState
  | [] => .closed
  | now :: _ => now.state

/-- The number of transitions from another state to `Open`. -/
def opens : List Moment → Nat
  | [] => 0
  | now :: past =>
    opens past + if lastState past ≠ .opened ∧ now.state = .opened then 1 else 0

/-- The number of failures since the last success. -/
def failuresSinceSuccess : List Moment → Nat
  | [] => 0
  | now :: past =>
    match now.outcome with
    | some true => 0
    | some false => failuresSinceSuccess past + 1
    | none => failuresSinceSuccess past

/-- The scheduler with the trails of its endpoints. -/
structure Traced where
  dispatcher : Dispatcher
  trail : Nat → List Moment

/-- The object whose runtime fields a reload copies into one with this key. -/
def Pool.predecessor (pool : Pool) (key : String) : Option Nat :=
  pool.endpoints.reverse.find? fun id => endpointRuntimeKey (pool.heap id) = key

namespace Traced

def start (pool : Pool) (nowMs : Int) : Traced := ⟨Dispatcher.start pool nowMs, fun _ => []⟩

/-- The trail of an object that a step may have made. -/
def past (t : Traced) (d' : Dispatcher) (id : Nat) : List Moment :=
  if id < t.dispatcher.pool.next then t.trail id
  else ((t.dispatcher.pool.predecessor (endpointRuntimeKey (d'.pool.heap id))).map t.trail).getD []

def step (t : Traced) (e : Event) : Option Traced :=
  (t.dispatcher.step e).map fun d' =>
    ⟨d', fun id => ⟨outcomeOn id (t.dispatcher, e), (d'.pool.heap id).circuitState⟩ ::
      t.past d' id⟩

end Traced

/-! ### One endpoint -/

/-- The breaker of an endpoint shows its trail. -/
structure Recorded (trail : List Moment) (ep : VllmEndpoint) : Prop where
  state : ep.circuitState = lastState trail
  opens : ep.circuitOpenCount = opens trail
  failures : ep.consecutiveFailures = failuresSinceSuccess trail

/-- The health flag and the counters fit the state. -/
structure Consistent (ep : VllmEndpoint) : Prop where
  unhealthy : ep.circuitState ≠ .closed → ep.healthy = false
  counts : ep.consecutiveFailures = 0 ∨ ep.consecutiveSuccesses = 0

/-- The counters and the health flag after a reported failure. -/
def FailureCounted (th : Thresholds) (ep ep' : VllmEndpoint) : Prop :=
  ep'.consecutiveFailures = ep.consecutiveFailures + 1 ∧
    ep'.healthy = (ep.healthy && decide (ep.consecutiveFailures + 1 < th.unhealthyThreshold)) ∧
    ep'.circuitOpenCount = ep.circuitOpenCount +
      if ep.circuitState ≠ .opened ∧ ep'.circuitState = .opened then 1 else 0

/-- The counters and the health flag after a reported success. -/
def SuccessCounted (th : Thresholds) (ep ep' : VllmEndpoint) : Prop :=
  ep'.consecutiveFailures = 0 ∧
    ep'.healthy = (ep.healthy || decide (th.recoveryThreshold ≤ ep.consecutiveSuccesses + 1)) ∧
    ep'.circuitOpenCount = ep.circuitOpenCount

theorem countFailure_counted (th : Thresholds) (nowMs : Int) (ep : VllmEndpoint) :
    FailureCounted th ep (countFailure th nowMs ep) := by
  unfold FailureCounted countFailure
  by_cases sick : ep.consecutiveFailures + 1 ≥ th.unhealthyThreshold <;>
    by_cases trip : ep.consecutiveFailures + 1 ≥ th.circuitFailureThreshold <;>
    by_cases opened : ep.circuitState = .opened <;>
    simp [sick, trip, opened, Int.not_lt.mpr, Int.not_le.mp]

theorem countSuccess_counted (th : Thresholds) (close : CircuitState → CircuitState)
    (ep : VllmEndpoint) : SuccessCounted th ep (countSuccess th close ep) := by
  unfold SuccessCounted countSuccess
  by_cases enough : ep.consecutiveSuccesses + 1 ≥ th.recoveryThreshold <;> simp [enough]

section Effects

variable {nowMs : Int} {v w : View} {act : Act} {trail : List Moment}

theorem Recorded.failed {ep ep' : VllmEndpoint} (recorded : Recorded trail ep)
    (failures : ep'.consecutiveFailures = ep.consecutiveFailures + 1)
    (count : ep'.circuitOpenCount = ep.circuitOpenCount +
      if ep.circuitState ≠ .opened ∧ ep'.circuitState = .opened then 1 else 0) :
    Recorded (⟨some false, ep'.circuitState⟩ :: trail) ep' := by
  refine ⟨rfl, ?_, ?_⟩
  · rw [count, recorded.opens, recorded.state]
    rfl
  · rw [failures, recorded.failures]
    rfl

/-- Without a failure the circuit does not open. -/
theorem Recorded.unfailed {ep ep' : VllmEndpoint} (recorded : Recorded trail ep)
    {outcome : Option Bool} (fine : outcome ≠ some false)
    (failures : ep'.consecutiveFailures = if outcome = some true then 0 else ep.consecutiveFailures)
    (count : ep'.circuitOpenCount = ep.circuitOpenCount)
    (shut : ep'.circuitState = .opened → ep.circuitState = .opened) :
    Recorded (⟨outcome, ep'.circuitState⟩ :: trail) ep' := by
  refine ⟨rfl, ?_, ?_⟩
  · have still : ¬ (lastState trail ≠ .opened ∧ ep'.circuitState = .opened) := by
      rintro ⟨other, opened⟩
      exact other (recorded.state ▸ shut opened)
    rw [count, recorded.opens, Scheduler.opens, if_neg still, Nat.add_zero]
  · rw [failures, recorded.failures]
    rcases outcome with _ | _ | _
    · rfl
    · exact absurd rfl fine
    · rfl

/-- The counters and the health flag after each kind of transition. -/
theorem Effect.counted (effect : Effect nowMs v act w) :
    match act.outcome with
    | none => w.ep.consecutiveFailures = v.ep.consecutiveFailures ∧
        w.ep.healthy = v.ep.healthy ∧ w.ep.circuitOpenCount = v.ep.circuitOpenCount
    | some (th, true) => SuccessCounted th v.ep w.ep
    | some (th, false) => FailureCounted th v.ep w.ep := by
  induction effect with
  | same | reopened => exact ⟨rfl, rfl, rfl⟩
  | dispatched v w _ _ ih => exact ih
  | reported ep n p probe th ok latencyMs =>
    cases ok with
    | true =>
      exact countSuccess_counted th (fun _ => .closed) { releaseSlot ep with
        successCount := ep.successCount + 1, lastLatencyMs := latencyMs
        avgLatencyMs := blendLatency 0.8 0.2 ep.avgLatencyMs latencyMs }
    | false => exact countFailure_counted th nowMs _
  | checked v th ok latencyMs =>
    cases ok with
    | true => exact countSuccess_counted th _ _
    | false => exact countFailure_counted th nowMs _

/-- A transition adds its moment to the trail. -/
theorem Effect.recorded (effect : Effect nowMs v act w) (recorded : Recorded trail v.ep) :
    Recorded (⟨act.outcome.map Prod.snd, w.ep.circuitState⟩ :: trail) w.ep := by
  have counts := effect.counted
  have breaker := effect.breaker
  cases reported : act.outcome with
  | none =>
    rw [reported] at counts breaker
    obtain ⟨failures, _, count⟩ := counts
    obtain ⟨_, _, state⟩ := breaker
    refine recorded.unfailed (by simp) failures count fun opened => ?_
    rcases state with same | ⟨_, _, half⟩
    · exact same ▸ opened
    · cases opened.symm.trans half
  | some report =>
    obtain ⟨th, ok⟩ := report
    rw [reported] at counts breaker
    cases ok with
    | false => exact recorded.failed counts.1 counts.2.2
    | true =>
      obtain ⟨failures, _, count⟩ := counts
      obtain ⟨_, _, state⟩ := breaker
      refine recorded.unfailed (by simp) failures count fun opened => ?_
      split at state
      · cases opened.symm.trans state
      · exact state ▸ opened

/-- The flag and the counters stay consistent where an endpoint is unhealthy before its
circuit opens. -/
theorem Effect.consistent (effect : Effect nowMs v act w)
    (ordered : ∀ th ok, act.outcome = some (th, ok) →
      th.unhealthyThreshold ≤ th.circuitFailureThreshold)
    (consistent : Consistent v.ep) : Consistent w.ep := by
  have counts := effect.counted
  have breaker := effect.breaker
  cases reported : act.outcome with
  | none =>
    rw [reported] at counts breaker
    obtain ⟨failures, healthy, _⟩ := counts
    obtain ⟨successes, _, state⟩ := breaker
    constructor
    · intro shut
      rw [healthy]
      apply consistent.unhealthy
      rcases state with same | ⟨opened, _, _⟩
      · exact same ▸ shut
      · simp [opened]
    · rw [failures, successes]
      exact consistent.counts
  | some report =>
    obtain ⟨th, ok⟩ := report
    rw [reported] at counts breaker
    cases ok with
    | true =>
      obtain ⟨failures, healthy, _⟩ := counts
      obtain ⟨successes, _, state⟩ := breaker
      refine ⟨fun shut => ?_, Or.inl failures⟩
      split at state
      · exact absurd state shut
      next few =>
        rw [healthy, consistent.unhealthy (state ▸ shut)]
        simpa using few
    | false =>
      obtain ⟨_, healthy, _⟩ := counts
      obtain ⟨successes, _, still⟩ := breaker
      refine ⟨fun shut => ?_, Or.inr successes⟩
      rw [healthy]
      by_cases trip : v.ep.consecutiveFailures + 1 ≥ th.circuitFailureThreshold
      · -- the circuit opens, and the lower threshold is reached as well
        have sick := ordered th false reported
        have reached : ¬ v.ep.consecutiveFailures + 1 < th.unhealthyThreshold := by omega
        simp [reached]
      · rw [consistent.unhealthy ((still trip).1 ▸ shut)]
        rfl

end Effects

/-! ### All endpoints of a run -/

/-- The thresholds that a report of the event is judged by. -/
def Event.JudgedBy (judged : Thresholds → Prop) : Event → Prop
  | .complete _ th _ _ => judged th
  | .health _ th _ _ => judged th
  | _ => True

theorem Event.JudgedBy.outcome {judged : Thresholds → Prop} {e : Event} (by_ : e.JudgedBy judged)
    (d : Dispatcher) (id : Nat) {th : Thresholds} {ok : Bool}
    (reported : (d.actOn id e).outcome = some (th, ok)) : judged th := by
  rcases outcome_cases reported with ⟨_, _, _, rfl, _⟩ | ⟨_, rfl⟩
  · exact by_
  · exact by_

/-- An object that a step makes has the history of its predecessor, or none. -/
theorem step_created (d d' : Dispatcher) (e : Event) (taken : d.step e = some d') (id : Nat)
    (low : d.pool.next ≤ id) (high : id < d'.pool.next) :
    (d.actOn id e).outcome = none ∧
      match d.pool.predecessor (endpointRuntimeKey (d'.pool.heap id)) with
      | some old => old ∈ d.pool.endpoints ∧ SameHistory (d'.pool.heap id) (d.pool.heap old)
      | none => Unworn (d'.pool.heap id) := by
  rcases step_frame d d' e taken with ⟨next, _, _⟩ | ⟨body, _, rfl, changed, reloaded, _, _⟩
  · omega
  rcases reloadConfig_cases d.pool d'.pool body d.nowMs reloaded with
    ⟨unchanged, _⟩ | ⟨_, eps, unworn, committed⟩
  · cases unchanged.symm.trans changed
  obtain ⟨ep, member, made⟩ := committed.made id low high
  refine ⟨rfl, ?_⟩
  rw [made, carryRuntime_key]
  split
  next old found =>
    have source : oldByKey d.pool.heap d.pool.endpoints (endpointRuntimeKey ep) =
        some (d.pool.heap old) := congrArg (Option.map d.pool.heap) found
    rw [carryRuntime, source]
    exact ⟨List.mem_reverse.mp (List.mem_of_find?_eq_some found), by constructor <;> rfl⟩
  next absent =>
    have nothing : oldByKey d.pool.heap d.pool.endpoints (endpointRuntimeKey ep) = none :=
      congrArg (Option.map d.pool.heap) absent
    rw [carryRuntime, nothing]
    exact unworn ep member

/-- What holds of an object and its trail when it is new, what a copy takes over, and what
every transition keeps. -/
structure Persistent (judged : Thresholds → Prop) (holds : List Moment → VllmEndpoint → Prop) :
    Prop where
  unworn : ∀ ep, Unworn ep → holds [] ep
  copied : ∀ trail ep ep', holds trail ep → SameHistory ep' ep → holds trail ep'
  effect : ∀ nowMs v act w trail, Effect nowMs v act w →
    (∀ th ok, act.outcome = some (th, ok) → judged th) → holds trail v.ep →
    holds (⟨act.outcome.map Prod.snd, w.ep.circuitState⟩ :: trail) w.ep

/-- All objects of a traced scheduler have the property. -/
structure Traced.All (holds : List Moment → VllmEndpoint → Prop) (t : Traced) : Prop where
  wellFormed : t.dispatcher.WellFormed
  each : ∀ id < t.dispatcher.pool.next, holds (t.trail id) (t.dispatcher.pool.heap id)

section Persistence

variable {judged : Thresholds → Prop} {holds : List Moment → VllmEndpoint → Prop}

theorem Persistent.step (persistent : Persistent judged holds) (t : Traced) (e : Event)
    (t' : Traced) (taken : t.step e = some t') (by_ : e.JudgedBy judged) (all : t.All holds) :
    t'.All holds := by
  obtain ⟨d, trail⟩ := t
  obtain ⟨wf, each⟩ := all
  obtain ⟨d', moved, rfl⟩ := Option.map_eq_some_iff.mp taken
  dsimp only at moved wf each
  refine ⟨step_wellFormed d d' e wf moved, fun id inside => ?_⟩
  dsimp only [Traced.past]
  by_cases known : id < d.pool.next
  · have effect := step_effect_of_lt d d' e wf moved known
    rw [if_pos known]
    exact persistent.effect _ _ _ _ _ effect (fun th ok => by_.outcome d id) (each id known)
  · -- a new object: the copy, and then a moment in which nothing is reported
    obtain ⟨quiet, source⟩ := step_created d d' e moved id (Nat.not_lt.mp known) inside
    have unmoved (past : List Moment) (before : holds past (d'.pool.heap id)) :
        holds (⟨outcomeOn id (d, e), (d'.pool.heap id).circuitState⟩ :: past)
          (d'.pool.heap id) := by
      have silent : outcomeOn id (d, e) = none := by rw [outcomeOn, quiet, Option.map_none]
      rw [silent]
      exact persistent.effect d.nowMs ⟨d'.pool.heap id, 0, 0⟩ .idle _ past (.same _)
        (fun th ok reported => by cases reported) before
    rw [if_neg known]
    apply unmoved
    split at source
    next old found =>
      rw [found]
      exact persistent.copied _ _ _ (each old (wf.listed old source.1)) source.2
    next absent =>
      rw [absent]
      exact persistent.unworn _ source

/-- The rule for runs: a persistent property holds of every object that is ever made. -/
theorem Persistent.run (persistent : Persistent judged holds) (env : Environment) (body : Json)
    (pool : Pool) (nowMs : Int) (loaded : loadModel env body = .ok pool) (events : List Event)
    (by_ : ∀ e ∈ events, e.JudgedBy judged) (t : Traced)
    (returned : Lib.run Traced.step (Traced.start pool nowMs) events = some t) :
    t.All holds := by
  apply run_invariant_along Traced.step (fun _ e _ => e.JudgedBy judged) (Traced.All holds)
    (fun t e t' taken by_ all => persistent.step t e t' taken by_ all) _ t events returned
    (along_of_forall Traced.step (Event.JudgedBy judged) _ events by_)
  exact ⟨start_wellFormed env body pool nowMs loaded,
    fun id _ => persistent.unworn _ (loadModel_unworn env body pool loaded id)⟩

end Persistence

/-! ### The health flag and the circuit -/

theorem Recorded.copied {trail : List Moment} {ep ep' : VllmEndpoint}
    (recorded : Recorded trail ep) (same : SameHistory ep' ep) : Recorded trail ep' :=
  ⟨same.circuitState.trans recorded.state, same.circuitOpenCount.trans recorded.opens,
    same.consecutiveFailures.trans recorded.failures⟩

theorem Recorded.unworn {ep : VllmEndpoint} (unworn : Unworn ep) : Recorded [] ep :=
  ⟨unworn.closed, unworn.circuitOpenCount, unworn.consecutiveFailures⟩

/-- In every run in which reports are judged with the unhealthy threshold no higher than the
circuit threshold, the health flag, the counters and the trip count of every endpoint fit its
circuit. -/
theorem health_consistent (env : Environment) (body : Json) (pool : Pool) (nowMs : Int)
    (loaded : loadModel env body = .ok pool) (events : List Event)
    (ordered : ∀ e ∈ events, e.JudgedBy fun th =>
      th.unhealthyThreshold ≤ th.circuitFailureThreshold) (t : Traced)
    (returned : run Traced.step (Traced.start pool nowMs) events = some t) (id : Nat)
    (made : id < t.dispatcher.pool.next) :
    let ep := t.dispatcher.pool.heap id
    (ep.circuitState ≠ .closed → ep.healthy = false) ∧
    (ep.consecutiveFailures = 0 ∨ ep.consecutiveSuccesses = 0) ∧
    ep.circuitOpenCount = opens (t.trail id) := by
  have persistent : Persistent
      (fun th => th.unhealthyThreshold ≤ th.circuitFailureThreshold)
      (fun trail ep => Recorded trail ep ∧ Consistent ep) := by
    constructor
    · intro ep unworn
      exact ⟨.unworn unworn, fun shut => absurd unworn.closed shut,
        Or.inl unworn.consecutiveFailures⟩
    · rintro trail ep ep' ⟨recorded, consistent⟩ same
      refine ⟨recorded.copied same, ?_, ?_⟩
      · rw [same.circuitState, same.healthy]
        exact consistent.unhealthy
      · rw [same.consecutiveFailures, same.consecutiveSuccesses]
        exact consistent.counts
    · rintro nowMs v act w trail effect ordered ⟨recorded, consistent⟩
      exact ⟨effect.recorded recorded, effect.consistent ordered consistent⟩
  obtain ⟨recorded, consistent⟩ :=
    (persistent.run env body pool nowMs loaded events ordered t returned).each id made
  exact ⟨consistent.unhealthy, consistent.counts, recorded.opens⟩

/-- Thresholds with the circuit opening at the second failure. -/
def brittle : Thresholds :=
  { recoveryThreshold := 2, unhealthyThreshold := 2, circuitFailureThreshold := 2,
    circuitOpenMs := 30000 }

/-- One endpoint with these thresholds. -/
def brittleBackend : Json :=
  .obj [("model", .str "m"), ("unhealthy_threshold", .int 2), ("circuit_failure_threshold", .int 2),
    ("endpoints", .arr [.obj [("base_url", .str "http://a"), ("max_concurrency", .int 4)]])]

/-- The circuit opens, a reload copies the endpoint, and the copy becomes half open. -/
theorem health_consistent_reloaded : ∃ pool t,
    loadModel {} brittleBackend = .ok pool ∧ pool.cfg.thresholds = brittle ∧
    run Traced.step (Traced.start pool 0) [.health 0 brittle false 0, .health 0 brittle false 0,
      .reload brittleBackend, .advance 30000, .select anyRequest 7] = some t ∧
    (t.dispatcher.pool.heap 1).circuitState = .halfOpen ∧
    (t.dispatcher.pool.heap 1).healthy = false ∧
    (t.dispatcher.pool.heap 1).circuitOpenCount = opens (t.trail 1) := by
  refine ⟨_, _, rfl, rfl, rfl, rfl, ?_⟩
  have consistent := health_consistent {} brittleBackend _ 0 rfl
    [.health 0 brittle false 0, .health 0 brittle false 0, .reload brittleBackend, .advance 30000,
      .select anyRequest 7] (by simp [Event.JudgedBy, brittle]) _ rfl 1 (by decide)
  exact ⟨consistent.1 (by decide), consistent.2.2⟩

/-! ### The failure of a probe -/

/-- Counters of a run with constant thresholds. If one success closes the circuit, the
failures that opened it still count while it is not closed. -/
structure Primed (th : Thresholds) (ep : VllmEndpoint) : Prop where
  successes : 0 ≤ ep.consecutiveSuccesses
  failures : th.recoveryThreshold ≤ 1 → ep.circuitState ≠ .closed →
    th.circuitFailureThreshold ≤ ep.consecutiveFailures

theorem Effect.primed {nowMs : Int} {v w : View} {act : Act} {th : Thresholds}
    (effect : Effect nowMs v act w)
    (constant : ∀ th' ok, act.outcome = some (th', ok) → th' = th) (primed : Primed th v.ep) :
    Primed th w.ep := by
  have counts := effect.counted
  have breaker := effect.breaker
  cases reported : act.outcome with
  | none =>
    rw [reported] at counts breaker
    obtain ⟨successes, _, state⟩ := breaker
    refine ⟨successes ▸ primed.successes, fun single shut => ?_⟩
    rw [counts.1]
    apply primed.failures single
    rcases state with same | ⟨opened, _, _⟩
    · exact same ▸ shut
    · simp [opened]
  | some report =>
    obtain ⟨th', ok⟩ := report
    obtain rfl := constant th' ok reported
    rw [reported] at counts breaker
    cases ok with
    | true =>
      obtain ⟨successes, _, state⟩ := breaker
      have before := primed.successes
      refine ⟨by omega, fun single shut => ?_⟩
      rw [if_pos (by omega)] at state
      exact absurd state shut
    | false =>
      obtain ⟨failures, _, _⟩ := counts
      obtain ⟨successes, _, still⟩ := breaker
      refine ⟨Int.le_of_eq successes.symm, fun single shut => ?_⟩
      by_cases trip : v.ep.consecutiveFailures + 1 ≥ th'.circuitFailureThreshold
      · omega
      · have before := primed.failures single ((still trip).1 ▸ shut)
        omega

/-- An attempt fails and finds its circuit half open, in a run with constant thresholds. The
circuit opens again exactly if the failures since the last success are enough with this one. They
are when the first success closes the circuit, or the first failure opens it. -/
theorem failed_probe_reopens_iff (env : Environment) (body : Json) (pool : Pool) (nowMs : Int)
    (loaded : loadModel env body = .ok pool) (th : Thresholds) (events : List Event)
    (constant : ∀ e ∈ events, e.JudgedBy (· = th)) (t : Traced)
    (returned : run Traced.step (Traced.start pool nowMs) events = some t) (slot : Nat)
    (a : Attempt) (found : t.dispatcher.outstanding[slot]? = some a)
    (half : (t.dispatcher.pool.heap a.endpoint).circuitState = .halfOpen) (latencyMs : Int)
    (d' : Dispatcher) (taken : t.dispatcher.step (.complete slot th false latencyMs) = some d') :
    let reopens := (d'.pool.heap a.endpoint).circuitState = .opened ∧
      (d'.pool.heap a.endpoint).circuitOpenUntilMs = t.dispatcher.nowMs + th.circuitOpenMs
    (reopens ↔ th.circuitFailureThreshold ≤ failuresSinceSuccess (t.trail a.endpoint) + 1) ∧
    (th.recoveryThreshold ≤ 1 ∨ th.circuitFailureThreshold ≤ 1 → reopens) := by
  have persistent : Persistent (· = th) (fun trail ep => Recorded trail ep ∧ Primed th ep) := by
    constructor
    · intro ep unworn
      exact ⟨.unworn unworn, Int.le_of_eq unworn.consecutiveSuccesses.symm,
        fun _ shut => absurd unworn.closed shut⟩
    · rintro trail ep ep' ⟨recorded, primed⟩ same
      refine ⟨recorded.copied same, ?_, ?_⟩
      · rw [same.consecutiveSuccesses]
        exact primed.successes
      · rw [same.circuitState, same.consecutiveFailures]
        exact primed.failures
    · rintro nowMs v act w trail effect constant ⟨recorded, primed⟩
      exact ⟨effect.recorded recorded, effect.primed constant primed⟩
  have all := persistent.run env body pool nowMs loaded events constant t returned
  have made := all.wellFormed.allocated a (List.mem_of_getElem? found)
  obtain ⟨recorded, primed⟩ := all.each a.endpoint made
  have effect := step_effect_of_lt _ d' _ all.wellFormed taken made
  have reported : (t.dispatcher.actOn a.endpoint (.complete slot th false latencyMs)).outcome =
      some (th, false) := by
    simp only [actOn, found, if_true]
    rfl
  have breaker := effect.breaker
  rw [reported] at breaker
  obtain ⟨_, opens, still⟩ := breaker
  dsimp only [view] at opens still
  rw [recorded.failures] at opens still
  have decided : ((d'.pool.heap a.endpoint).circuitState = .opened ∧
      (d'.pool.heap a.endpoint).circuitOpenUntilMs = t.dispatcher.nowMs + th.circuitOpenMs) ↔
      th.circuitFailureThreshold ≤ failuresSinceSuccess (t.trail a.endpoint) + 1 := by
    constructor
    · rintro ⟨opened, _⟩
      by_contra few
      cases opened.symm.trans ((still few).1.trans half)
    · exact opens
  refine ⟨decided, fun easy => decided.mpr ?_⟩
  rcases easy with single | first
  · have enough := primed.failures single (by simp [half])
    rw [recorded.failures] at enough
    omega
  · omega

/-- The probe of a circuit that two failures have opened. -/
theorem failed_probe_reopens_iff_brittle : ∃ pool t d',
    loadModel {} brittleBackend = .ok pool ∧ pool.cfg.thresholds = brittle ∧
    run Traced.step (Traced.start pool 0) [.health 0 brittle false 0, .health 0 brittle false 0,
      .advance 30000, .select anyRequest 7] = some t ∧
    t.dispatcher.step (.complete 0 brittle false 0) = some d' ∧
    (d'.pool.heap 0).circuitState = .opened ∧
    (d'.pool.heap 0).circuitOpenUntilMs = t.dispatcher.nowMs + 30000 := by
  refine ⟨_, _, _, rfl, rfl, rfl, rfl, ?_⟩
  refine (failed_probe_reopens_iff {} brittleBackend _ 0 rfl brittle
    [.health 0 brittle false 0, .health 0 brittle false 0, .advance 30000, .select anyRequest 7]
    (by simp [Event.JudgedBy]) _ rfl 0 ⟨0, 1⟩ rfl rfl 0 _ rfl).1.mpr ?_
  decide

/-- After the success of a first probe, the failure of the second leaves the circuit half
open. -/
theorem failed_probe_stays_halfOpen : ∃ pool t d',
    loadModel {} brittleBackend = .ok pool ∧ pool.cfg.thresholds = brittle ∧
    run Traced.step (Traced.start pool 0) [.health 0 brittle false 0, .health 0 brittle false 0,
      .advance 30000, .select anyRequest 7, .complete 0 brittle true 0, .select anyRequest 7] =
        some t ∧
    t.dispatcher.outstanding = [⟨0, t.dispatcher.eras 0⟩] ∧
    (t.dispatcher.pool.heap 0).circuitState = .halfOpen ∧
    t.dispatcher.step (.complete 0 brittle false 0) = some d' ∧
    (d'.pool.heap 0).circuitState = .halfOpen :=
  ⟨_, _, _, rfl, rfl, rfl, rfl, rfl, rfl, rfl⟩

end VllmRoute.Scheduler
