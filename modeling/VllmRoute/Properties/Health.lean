import VllmRoute.Lib.Debounce
import VllmRoute.Properties.Trails

/-!
# Health and circuit as debounced signals

Requests and health checks report into the same two counters, selections move
an open circuit to half open in between, and reloads copy the fields into new
objects. For all that, the health flag of an endpoint and whether its circuit
is closed are signals over the outcomes on its trail.
-/
namespace VllmRoute.Scheduler

open Lib Dispatcher

/-- The outcomes on a trail, the first one first. -/
def reports (trail : List Moment) : List Bool := (trail.filterMap Moment.outcome).reverse

theorem reports_cons (outcome : Option Bool) (state : CircuitState) (trail : List Moment) :
    reports (⟨outcome, state⟩ :: trail) = reports trail ++ outcome.toList := by
  cases outcome <;> simp [reports]

/-- The counters of an endpoint count what its reports end with, and both of its signals follow
the reports. -/
structure Debouncing (th : Thresholds) (trail : List Moment) (ep : VllmEndpoint) : Prop where
  failures : ep.consecutiveFailures = trailing false (reports trail)
  successes : ep.consecutiveSuccesses = trailing true (reports trail)
  healthy : ep.healthy = true ↔
    Debounced true th.recoveryThreshold th.unhealthyThreshold (reports trail)
  closed : ep.circuitState = .closed ↔
    Debounced true th.recoveryThreshold th.circuitFailureThreshold (reports trail)

section Effects

variable {nowMs : Int} {v w : View} {act : Act} {th : Thresholds} {trail : List Moment}

theorem Debouncing.silent (before : Debouncing th trail v.ep) (effect : Effect nowMs v act w)
    (quiet : act.outcome = none) (state : CircuitState) :
    Debouncing th (⟨none, state⟩ :: trail) w.ep := by
  have counts := effect.counted
  have breaker := effect.breaker
  rw [quiet] at counts breaker
  obtain ⟨failures, healthy, _⟩ := counts
  obtain ⟨successes, _, moved⟩ := breaker
  constructor <;> rw [reports_cons, Option.toList_none, List.append_nil]
  · rw [failures, before.failures]
  · rw [successes, before.successes]
  · rw [healthy, before.healthy]
  · -- a circuit whose time has come goes from one state that is not closed to another
    rw [← before.closed]
    rcases moved with same | ⟨opened, _, half⟩
    · rw [same]
    · rw [opened, half]
      decide

theorem Debouncing.succeeded (before : Debouncing th trail v.ep) (effect : Effect nowMs v act w)
    (reported : act.outcome = some (th, true)) (state : CircuitState) :
    Debouncing th (⟨some true, state⟩ :: trail) w.ep := by
  have counts := effect.counted
  have breaker := effect.breaker
  rw [reported] at counts breaker
  obtain ⟨failures, healthy, _⟩ := counts
  obtain ⟨successes, _, closes⟩ := breaker
  rw [before.successes] at successes healthy closes
  constructor <;> rw [reports_cons, Option.toList_some]
  · simpa [trailing_snoc] using failures
  · simpa [trailing_snoc] using successes
  · rw [debounced_success, ← before.healthy, healthy, Bool.or_eq_true, decide_eq_true_iff, or_comm]
  · rw [debounced_success, ← before.closed, closes]
    by_cases enough : th.recoveryThreshold ≤ trailing true (reports trail) + 1
    · simp [enough]
    · simp [enough]

theorem Debouncing.failed (before : Debouncing th trail v.ep) (effect : Effect nowMs v act w)
    (reported : act.outcome = some (th, false)) (state : CircuitState) :
    Debouncing th (⟨some false, state⟩ :: trail) w.ep := by
  have counts := effect.counted
  have breaker := effect.breaker
  rw [reported] at counts breaker
  obtain ⟨failures, healthy, _⟩ := counts
  obtain ⟨successes, opens, still⟩ := breaker
  rw [before.failures] at failures healthy opens still
  constructor <;> rw [reports_cons, Option.toList_some]
  · simpa [trailing_snoc] using failures
  · simpa [trailing_snoc] using successes
  · rw [debounced_failure, ← before.healthy, healthy, Bool.and_eq_true, decide_eq_true_iff,
      and_comm]
  · rw [debounced_failure, ← before.closed]
    by_cases trip : th.circuitFailureThreshold ≤ trailing false (reports trail) + 1
    · simp [(opens trip).1, Int.not_lt.mpr trip]
    · simp [(still trip).1, Int.not_le.mp trip]

theorem Debouncing.effect (before : Debouncing th trail v.ep) (effect : Effect nowMs v act w)
    (constant : ∀ th' ok, act.outcome = some (th', ok) → th' = th) :
    Debouncing th (⟨act.outcome.map Prod.snd, w.ep.circuitState⟩ :: trail) w.ep := by
  cases reported : act.outcome with
  | none => exact before.silent effect reported _
  | some report =>
    obtain ⟨th', ok⟩ := report
    obtain rfl := constant th' ok reported
    cases ok with
    | true => exact before.succeeded effect reported _
    | false => exact before.failed effect reported _

end Effects

theorem persistent_debouncing (th : Thresholds) : Persistent (· = th) (Debouncing th) where
  unworn ep unworn := by
    constructor
    · exact unworn.consecutiveFailures
    · exact unworn.consecutiveSuccesses
    · exact iff_of_true unworn.healthy (debounced_nil.mpr rfl)
    · exact iff_of_true unworn.closed (debounced_nil.mpr rfl)
  copied trail ep ep' before same := by
    constructor
    · rw [same.consecutiveFailures, before.failures]
    · rw [same.consecutiveSuccesses, before.successes]
    · rw [same.healthy, before.healthy]
    · rw [same.circuitState, before.closed]
  effect nowMs v act w trail effect constant before := before.effect effect constant

/-- With constant thresholds, in every interleaving of selections, completions, health checks and
reloads: an endpoint is healthy unless a streak of `unhealthy_threshold` failures has come since
the last streak of `recovery_threshold` successes, and its circuit is closed unless a streak of
`circuit_failure_threshold` failures has. -/
theorem health_and_circuit_debounced (env : Environment) (body : Json) (pool : Pool) (nowMs : Int)
    (loaded : loadModel env body = .ok pool) (th : Thresholds) (events : List Event)
    (constant : ∀ e ∈ events, e.JudgedBy (· = th)) (t : Traced)
    (returned : run Traced.step (Traced.start pool nowMs) events = some t) (id : Nat)
    (made : id < t.dispatcher.pool.next) :
    let ep := t.dispatcher.pool.heap id
    (ep.healthy = true ↔
      Debounced true th.recoveryThreshold th.unhealthyThreshold (reports (t.trail id))) ∧
    (ep.circuitState = .closed ↔
      Debounced true th.recoveryThreshold th.circuitFailureThreshold (reports (t.trail id))) := by
  have all := (persistent_debouncing th).run env body pool nowMs loaded events constant t returned
  have debouncing := all.each id made
  exact ⟨debouncing.healthy, debouncing.closed⟩

/-- The circuit opens, a reload copies the endpoint, and two good checks close it. -/
theorem health_and_circuit_debounced_reloaded : ∃ pool t,
    loadModel {} brittleBackend = .ok pool ∧ pool.cfg.thresholds = brittle ∧
    run Traced.step (Traced.start pool 0) [.health 0 brittle false 0, .health 0 brittle false 0,
      .reload brittleBackend, .health 1 brittle true 0, .health 1 brittle true 0] = some t ∧
    reports (t.trail 1) = [false, false, true, true] ∧
    (t.dispatcher.pool.heap 1).circuitState = .closed ∧
    Debounced true 2 2 [false, false, true, true] := by
  refine ⟨_, _, rfl, rfl, rfl, rfl, rfl, ?_⟩
  have debounced := health_and_circuit_debounced {} brittleBackend _ 0 rfl brittle
    [.health 0 brittle false 0, .health 0 brittle false 0, .reload brittleBackend,
      .health 1 brittle true 0, .health 1 brittle true 0] (by simp [Event.JudgedBy]) _ rfl 1
    (by decide)
  exact debounced.2.mp rfl

end VllmRoute.Scheduler
