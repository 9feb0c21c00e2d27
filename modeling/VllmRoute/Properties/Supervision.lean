import VllmRoute.Properties.Trails
import VllmRoute.Scheduler.HealthLoop

/-!
# Rounds of the health worker

How soon the state of a backend shows in its endpoint: after as many rounds as
the thresholds say, and one more for the round that is under way, whatever the
other threads do in between.
-/
namespace VllmRoute.Scheduler

open Lib

/-! ### Reports that agree -/

/-- An endpoint shows that its backend is up, or that it is down, after `n` reports. -/
def Shows (th : Thresholds) (n : Nat) (ep : VllmEndpoint) : Bool → Prop
  | true => th.recoveryThreshold ≤ n → ep.healthy = true ∧ ep.circuitState = .closed
  | false =>
    (th.unhealthyThreshold ≤ n → ep.healthy = false) ∧
      (th.circuitFailureThreshold ≤ n → ep.circuitState ≠ .closed)

theorem Shows.mono {th : Thresholds} {n m : Nat} {ep : VllmEndpoint} {up : Bool}
    (shows : Shows th n ep up) (fewer : m ≤ n) : Shows th m ep up := by
  cases up with
  | true => exact fun enough => shows (by omega)
  | false => exact ⟨fun enough => shows.1 (by omega), fun enough => shows.2 (by omega)⟩

/-- The last `n` reports on the endpoint all were `up`. -/
structure Agreed (th : Thresholds) (up : Bool) (n : Nat) (ep : VllmEndpoint) : Prop where
  counted : n ≤ if up then ep.consecutiveSuccesses else ep.consecutiveFailures
  shown : 0 < n → Shows th n ep up

section Effects

variable {nowMs : Int} {v w : View} {act : Act} {th : Thresholds} {up : Bool} {n : Nat}

theorem Agreed.silent (agreed : Agreed th up n v.ep) (effect : Effect nowMs v act w)
    (quiet : act.outcome = none) : Agreed th up n w.ep := by
  have counts := effect.counted
  have breaker := effect.breaker
  rw [quiet] at counts breaker
  obtain ⟨failures, healthy, _⟩ := counts
  obtain ⟨successes, _, moved⟩ := breaker
  -- an open circuit that becomes half open is as little closed as before
  have closed : w.ep.circuitState = .closed ↔ v.ep.circuitState = .closed := by
    rcases moved with same | ⟨opened, _, half⟩
    · rw [same]
    · rw [opened, half]
      decide
  constructor
  · rw [successes, failures]
    exact agreed.counted
  · intro positive
    have shown := agreed.shown positive
    cases up with
    | true =>
      rw [Shows, healthy, closed]
      exact shown
    | false =>
      rw [Shows, healthy, ne_eq, closed]
      exact shown

theorem Agreed.reported (agreed : Agreed th up n v.ep) (effect : Effect nowMs v act w)
    (reported : act.outcome = some (th, up)) : Agreed th up (n + 1) w.ep := by
  have counts := effect.counted
  have breaker := effect.breaker
  have before := agreed.counted
  rw [reported] at counts breaker
  cases up with
  | true =>
    obtain ⟨_, healthy, _⟩ := counts
    obtain ⟨successes, _, closes⟩ := breaker
    rw [if_pos rfl] at before
    constructor
    · rw [if_pos rfl]
      omega
    · intro _ enough
      have recovered : th.recoveryThreshold ≤ v.ep.consecutiveSuccesses + 1 := by omega
      constructor
      · simp [healthy, recovered]
      · rw [closes, if_pos recovered]
  | false =>
    obtain ⟨failures, healthy, _⟩ := counts
    obtain ⟨_, opens, _⟩ := breaker
    rw [if_neg Bool.false_ne_true] at before
    constructor
    · rw [if_neg Bool.false_ne_true]
      omega
    · intro _
      constructor
      · intro enough
        have sick : ¬ v.ep.consecutiveFailures + 1 < th.unhealthyThreshold := by omega
        simp [healthy, sick]
      · intro enough
        have opened := (opens (by omega)).1
        simp [opened]

end Effects

/-- A step of the dispatcher in which nothing but `up` is reported on the endpoint. -/
theorem Agreed.step {th : Thresholds} {up : Bool} {n id : Nat} {d d' : Dispatcher} {e : Event}
    (agreed : Agreed th up n (d.pool.heap id)) (wf : d.WellFormed) (allocated : id < d.pool.next)
    (taken : d.step e = some d')
    (same : ∀ th' ok, (d.actOn id e).outcome = some (th', ok) → th' = th ∧ ok = up) :
    Agreed th up (n + (d.actOn id e).outcome.isSome.toNat) (d'.pool.heap id) := by
  have effect := Dispatcher.step_effect_of_lt d d' e wf taken allocated
  cases reported : (d.actOn id e).outcome with
  | none => exact Agreed.silent (v := d.view id) (w := d'.view id) agreed effect reported
  | some report =>
    obtain ⟨th', ok⟩ := report
    obtain ⟨rfl, rfl⟩ := same th' ok reported
    exact Agreed.reported (v := d.view id) (w := d'.view id) agreed effect reported

/-! ### Counters of every run -/

/-- The counters are never negative. -/
theorem persistent_counters : Persistent (fun _ => True)
    (fun _ ep => 0 ≤ ep.consecutiveSuccesses ∧ 0 ≤ ep.consecutiveFailures) where
  unworn ep unworn := by
    rw [unworn.consecutiveSuccesses, unworn.consecutiveFailures]
    exact ⟨Int.le_refl 0, Int.le_refl 0⟩
  copied _ ep ep' before same := by
    rw [same.consecutiveSuccesses, same.consecutiveFailures]
    exact before
  effect nowMs v act w _ effect _ before := by
    have counts := effect.counted
    have breaker := effect.breaker
    obtain ⟨successes, failures⟩ := before
    cases reported : act.outcome with
    | none =>
      rw [reported] at counts breaker
      rw [counts.1, breaker.1]
      exact ⟨successes, failures⟩
    | some report =>
      obtain ⟨th, ok⟩ := report
      rw [reported] at counts breaker
      cases ok with
      | true =>
        rw [counts.1, breaker.1]
        exact ⟨by omega, Int.le_refl 0⟩
      | false =>
        rw [counts.1, breaker.1]
        exact ⟨Int.le_refl 0, by omega⟩

namespace Supervised

variable {codec : Codec} {s s' : Supervised} {e : SupervisedEvent}

/-- The critical section of `endpoints_mtx_` that is part of a step, if one is. -/
def section? (s : Supervised) : SupervisedEvent → Option Event
  | .health choice =>
    match s.point with
    | .update id ok latencyMs _ => some (.health id choice.thresholds ok latencyMs)
    | _ => none
  | .scheduler e => some e
  | .stop => none

theorem step_scheduler {f : Event} (taken : s.step codec (.scheduler f) = some s') :
    ∃ d', s.dispatcher.step f = some d' ∧ { s with dispatcher := d' } = s' := by
  cases f with
  | health id th ok latencyMs => cases taken
  | select | complete | reload | advance =>
    simp only [step, Option.map_eq_some_iff] at taken
    exact taken

theorem step_section (taken : s.step codec e = some s') :
    match s.section? e with
    | none => s'.dispatcher = s.dispatcher
    | some f => s.dispatcher.step f = some s'.dispatcher := by
  obtain ⟨dispatcher, stopping, point, rounds⟩ := s
  cases e with
  | health choice =>
    cases point with
    | top => cases taken; rfl
    | next snapshot => cases snapshot <;> cases taken <;> rfl
    | checking id timeoutMs snapshot =>
      obtain ⟨ok, _, rfl⟩ := Option.map_eq_some_iff.mp taken
      rfl
    | update id ok latencyMs snapshot =>
      obtain ⟨d', moved, rfl⟩ := Option.map_eq_some_iff.mp taken
      exact moved
    | sleep slept interval => cases taken; rfl
    | finished => cases taken
  | scheduler f =>
    obtain ⟨d', moved, rfl⟩ := step_scheduler taken
    exact moved
  | stop => cases taken; rfl

/-- Some trails fit the endpoints, and their counters are not negative. -/
def Sound (s : Supervised) : Prop :=
  ∃ trail, Traced.All
    (fun _ ep => 0 ≤ ep.consecutiveSuccesses ∧ 0 ≤ ep.consecutiveFailures) ⟨s.dispatcher, trail⟩

theorem Sound.step (sound : s.Sound) (taken : s.step codec e = some s') : s'.Sound := by
  have moved := step_section taken
  obtain ⟨trail, all⟩ := sound
  split at moved
  · refine ⟨trail, ?_⟩
    rw [moved]
    exact all
  next f _ =>
    have traced : Traced.step ⟨s.dispatcher, trail⟩ f = some ⟨s'.dispatcher, _⟩ :=
      congrArg (Option.map _) moved
    exact ⟨_, persistent_counters.step _ f _ traced (by cases f <;> trivial) all⟩

theorem sound_of_run {env : Environment} {body : Json} {pool : Pool} {nowMs : Int}
    (loaded : loadModel env body = .ok pool) {events : List SupervisedEvent}
    (reached : run (step codec) (start pool nowMs) events = some s) : s.Sound := by
  apply run_invariant (step codec) Sound (fun s e s' taken sound => sound.step taken) _ s events
    reached
  refine ⟨fun _ => [], Dispatcher.start_wellFormed env body pool nowMs loaded, ?_⟩
  exact fun id _ => persistent_counters.unworn _ (loadModel_unworn env body pool loaded id)

/-! ### Rounds -/

/-- The round that is under way has passed the endpoint. -/
def passed (id : Nat) : HealthPoint → Nat
  | .next snapshot => if id ∈ snapshot then 0 else 1
  | .checking other _ snapshot => if other = id ∨ id ∈ snapshot then 0 else 1
  | .update other _ _ snapshot => if other = id ∨ id ∈ snapshot then 0 else 1
  | _ => 0

/-- What is not yet reported on the endpoint is `up`. -/
def Pending (id : Nat) (up : Bool) (point : HealthPoint) : Prop :=
  ∀ ok latencyMs snapshot, point = .update id ok latencyMs snapshot → ok = up

/-- The endpoint is configured, and what a step finds out about it is `up`, judged by the
thresholds. -/
def Steady (codec : Codec) (th : Thresholds) (id : Nat) (up : Bool) (s : Supervised)
    (e : SupervisedEvent) : Prop :=
  id ∈ s.dispatcher.pool.endpoints ∧
  match e with
  | .health choice =>
    choice.thresholds = th ∧
      ∀ timeoutMs snapshot ok, s.point = .checking id timeoutMs snapshot →
        checkEndpointHealth codec (s.dispatcher.pool.heap id) timeoutMs choice.health
          choice.models = some ok → ok = up
  | .scheduler e =>
    ∀ th' ok, (s.dispatcher.actOn id e).outcome = some (th', ok) → th' = th ∧ ok = up
  | .stop => True

/-- From some state on, each round but one has brought a report on the endpoint. -/
structure Serving (th : Thresholds) (id : Nat) (up : Bool) (since : Nat) (s : Supervised) :
    Prop where
  wellFormed : s.dispatcher.WellFormed
  allocated : id < s.dispatcher.pool.next
  pending : Pending id up s.point
  reports : ∃ n, s.rounds + passed id s.point ≤ since + n ∧
    Agreed th up n (s.dispatcher.pool.heap id)

section Serving

variable {th : Thresholds} {id since : Nat} {up : Bool}

/-- A critical section, with what is left of the round after it. -/
theorem Serving.sectioned (serving : Serving th id up since s) {f : Event} {d' : Dispatcher}
    (taken : s.dispatcher.step f = some d')
    (same : ∀ th' ok, (s.dispatcher.actOn id f).outcome = some (th', ok) → th' = th ∧ ok = up)
    (point : HealthPoint) (pending : Pending id up point)
    (left : passed id point ≤
      passed id s.point + (s.dispatcher.actOn id f).outcome.isSome.toNat) :
    Serving th id up since { s with dispatcher := d', point := point } := by
  obtain ⟨wf, allocated, _, n, bound, agreed⟩ := serving
  have grown := Dispatcher.step_monotone s.dispatcher d' f taken
  refine ⟨Dispatcher.step_wellFormed _ d' f wf taken, Nat.lt_of_lt_of_le allocated grown.1,
    pending, _, ?_, agreed.step wf allocated taken same⟩
  dsimp only
  omega

/-- A step of the worker outside the critical sections. -/
theorem Serving.turned (serving : Serving th id up since s) (point : HealthPoint) (rounds : Nat)
    (pending : Pending id up point)
    (left : rounds + passed id point ≤ s.rounds + passed id s.point) :
    Serving th id up since { s with point := point, rounds := rounds } := by
  obtain ⟨wf, allocated, _, n, bound, agreed⟩ := serving
  exact ⟨wf, allocated, pending, n, Nat.le_trans left bound, agreed⟩

theorem Serving.health (serving : Serving th id up since s) {choice : HealthChoice}
    (steady : Steady codec th id up s (.health choice))
    (taken : s.healthLoop codec choice = some s') : Serving th id up since s' := by
  obtain ⟨listed, judged, checked⟩ := steady
  unfold healthLoop at taken
  dsimp only at taken
  split at taken
  next top =>
    cases taken
    apply serving.turned _ s.rounds
    · intro ok latencyMs snapshot updates
      split at updates <;> cases updates
    · rw [top]
      split
      · exact Nat.le_refl _
      · simp [passed, listed]
  next done =>
    cases taken
    apply serving.turned
    · rintro ok latencyMs snapshot ⟨⟩
    · rw [done]
      simp [passed]
  next other snapshot next =>
    cases taken
    apply serving.turned _ s.rounds
    · intro ok latencyMs snapshot' updates
      split at updates <;> cases updates
    · rw [next]
      split
      · exact Nat.le_add_right _ _
      · simp [passed, eq_comm]
  next other timeoutMs snapshot checking =>
    obtain ⟨found, answered, rfl⟩ := Option.map_eq_some_iff.mp taken
    apply serving.turned _ s.rounds
    · rintro ok latencyMs snapshot' ⟨⟩
      exact checked timeoutMs snapshot found checking answered
    · rw [checking]
      exact Nat.le_refl _
  next other ok latencyMs snapshot updates =>
    obtain ⟨d', moved, rfl⟩ := Option.map_eq_some_iff.mp taken
    apply serving.sectioned moved
    · intro th' ok' reported
      by_cases here : other = id
      · subst here
        simp only [Dispatcher.actOn, if_true, Act.outcome, Option.some.injEq, Prod.mk.injEq]
          at reported
        exact ⟨reported.1 ▸ judged, reported.2 ▸ serving.pending ok latencyMs snapshot updates⟩
      · simp [Dispatcher.actOn, here, Act.outcome] at reported
    · rintro ok latencyMs snapshot ⟨⟩
    · rw [updates]
      by_cases here : other = id
      · simp only [passed, Dispatcher.actOn, here, if_true, true_or, Act.outcome,
          Option.isSome_some, Bool.toNat_true]
        split <;> omega
      · simp [passed, here]
  next slept interval sleeping =>
    cases taken
    apply serving.turned _ s.rounds
    · intro ok latencyMs snapshot updates
      split at updates <;> cases updates
    · rw [sleeping]
      split <;> exact Nat.le_refl _
  next => cases taken

theorem Serving.step (serving : Serving th id up since s) (steady : Steady codec th id up s e)
    (taken : s.step codec e = some s') : Serving th id up since s' := by
  cases e with
  | health choice => exact serving.health steady taken
  | scheduler f =>
    obtain ⟨d', moved, rfl⟩ := step_scheduler taken
    exact serving.sectioned moved steady.2 s.point serving.pending (Nat.le_add_right _ _)
  | stop =>
    cases taken
    exact ⟨serving.wellFormed, serving.allocated, serving.pending, serving.reports⟩

end Serving

/-- From any reachable state on, as long as an endpoint stays configured and every health check
of it and every request on it ends alike: once the health worker has gone through `n + 1` more
snapshots, the endpoint is healthy with its circuit closed if they succeed and
`recovery_threshold` is at most `n`; it is unhealthy, and its circuit not closed, if they fail
and the threshold for that is at most `n`. -/
theorem backend_shows_after_rounds (codec : Codec) (env : Environment) (body : Json) (pool : Pool)
    (nowMs : Int) (loaded : loadModel env body = .ok pool) (before after : List SupervisedEvent)
    (s s' : Supervised) (reached : run (step codec) (start pool nowMs) before = some s)
    (ran : run (step codec) s after = some s') (th : Thresholds) (id : Nat) (up : Bool)
    (listed : id ∈ s.dispatcher.pool.endpoints) (pending : Pending id up s.point)
    (steady : Along (step codec) (fun s e _ => Steady codec th id up s e) s after) (n : Nat)
    (positive : 0 < n) (passed : s.rounds + n + 1 ≤ s'.rounds) :
    Shows th n (s'.dispatcher.pool.heap id) up := by
  obtain ⟨_, wf, counters⟩ := sound_of_run loaded reached
  have allocated := wf.listed id listed
  obtain ⟨successes, failures⟩ := counters id allocated
  have bound : Supervised.passed id s.point ≤ 1 := by
    unfold Supervised.passed
    split <;> try split
    all_goals omega
  have initial : Serving th id up (s.rounds + 1) s := by
    refine ⟨wf, allocated, pending, 0, by omega, ?_, fun none => absurd none (Nat.lt_irrefl 0)⟩
    cases up with
    | true => exact successes
    | false => exact failures
  obtain ⟨_, _, _, m, enough, agreed⟩ := run_invariant_along (step codec) _
    (Serving th id up (s.rounds + 1)) (fun s e s' taken steady serving => serving.step steady taken)
    s s' after ran steady initial
  exact (agreed.shown (by omega)).mono (by omega)

/-- A backend that cannot be reached. -/
def noAnswer : HealthChoice where
  health := fun _ _ _ => some ⟨false, 0, []⟩
  models := fun _ _ _ => some ⟨false, 0, []⟩
  latencyMs := 0
  thresholds := brittle

/-- One endpoint with the thresholds of `brittle`, checked without a pause. -/
def watchedBackend : Json :=
  .obj [("model", .str "m"), ("unhealthy_threshold", .int 2), ("circuit_failure_threshold", .int 2),
    ("health_check_interval_ms", .int 0),
    ("endpoints", .arr [.obj [("base_url", .str "http://a"), ("max_concurrency", .int 4)]])]

/-- Three rounds of six steps each, with a selection at the start. -/
def threeRounds : List SupervisedEvent :=
  .scheduler (.select anyRequest 7) :: List.replicate 18 (.health noAnswer)

theorem noAnswer_fails {codec : Codec} {ep : VllmEndpoint} {point : Int → List Nat → Prop}
    (timeoutMs : Int) (snapshot : List Nat) (ok : Bool) (_ : point timeoutMs snapshot)
    (found : checkEndpointHealth codec ep timeoutMs noAnswer.health noAnswer.models = some ok) :
    ok = false :=
  (Option.some.inj found).symm

theorem backend_shows_after_rounds_down : ∃ pool s,
    loadModel {} watchedBackend = .ok pool ∧ pool.cfg.thresholds = brittle ∧
    run (step rejectAll) (start pool 0) threeRounds = some s ∧ s.rounds = 3 ∧
    (s.dispatcher.pool.heap 0).healthy = false ∧
    (s.dispatcher.pool.heap 0).circuitState ≠ .closed := by
  refine ⟨_, _, rfl, rfl, rfl, rfl, ?_⟩
  have shown := backend_shows_after_rounds rejectAll {} watchedBackend _ 0 rfl [] threeRounds _ _
    rfl rfl brittle 0 false (by decide) (by rintro ok latencyMs snapshot ⟨⟩) ?_ 2 (by decide)
    (by decide)
  · exact ⟨shown.1 (by decide), shown.2 (by decide)⟩
  · refine along_cons rfl ⟨by decide, by rintro th' ok ⟨⟩⟩ ?_
    iterate 18 refine along_cons rfl ⟨by decide, rfl, noAnswer_fails⟩ ?_
    trivial

/-! ### Shutdown -/

/-- The endpoints that the worker has still before it in this round. -/
def ahead : HealthPoint → List Nat
  | .next snapshot => snapshot
  | .checking id _ snapshot => id :: snapshot
  | .update id _ _ snapshot => id :: snapshot
  | _ => []

/-- The objects that the worker holds are there, and its requests have a timeout. -/
structure Held (s : Supervised) : Prop where
  wellFormed : s.dispatcher.WellFormed
  ahead : ∀ id ∈ ahead s.point, id < s.dispatcher.pool.next
  configured : 0 < s.dispatcher.pool.cfg.healthCheckTimeoutMs
  timed : ∀ id timeoutMs snapshot, s.point = .checking id timeoutMs snapshot → 0 < timeoutMs

/-- A reload sets a timeout of at least one. -/
theorem step_timeout {d d' : Dispatcher} {f : Event} (taken : d.step f = some d')
    (configured : 0 < d.pool.cfg.healthCheckTimeoutMs) :
    0 < d'.pool.cfg.healthCheckTimeoutMs := by
  cases f with
  | select req threshold =>
    cases taken
    exact configured
  | complete slot th ok latencyMs =>
    obtain ⟨a, _, rfl⟩ := Option.map_eq_some_iff.mp taken
    exact configured
  | health id th ok latencyMs =>
    simp only [Dispatcher.step] at taken
    split at taken <;> cases taken
    exact configured
  | advance ms =>
    cases taken
    exact configured
  | reload body =>
    simp only [Dispatcher.step] at taken
    split at taken <;> cases taken
    next pool reloaded =>
      have least : 0 < (reloadScalars body d.pool.cfg).healthCheckTimeoutMs :=
        Int.lt_of_lt_of_le Int.one_pos (Int.le_max_left _ _)
      obtain ⟨_, _, profiles, _, ends⟩ := (reloadConfig_ok_iff _ _ _ _).mp reloaded
      split at ends
      · obtain ⟨eps, _, rfl⟩ := ends
        exact least
      · rw [ends]
        exact least
    next => exact configured

/-- A critical section, after which the worker holds no more than before. -/
theorem Held.sectioned (held : s.Held) {d' : Dispatcher} {f : Event}
    (moved : s.dispatcher.step f = some d') (point : HealthPoint)
    (fewer : ∀ id ∈ Supervised.ahead point, id ∈ Supervised.ahead s.point)
    (timed : ∀ id timeoutMs snapshot, point = .checking id timeoutMs snapshot → 0 < timeoutMs) :
    Held { s with dispatcher := d', point := point } := by
  have grown := Dispatcher.step_monotone s.dispatcher d' f moved
  exact ⟨Dispatcher.step_wellFormed _ d' f held.wellFormed moved,
    fun id member => Nat.lt_of_lt_of_le (held.ahead id (fewer id member)) grown.1,
    step_timeout moved held.configured, timed⟩

/-- A step of the worker outside the critical sections. -/
theorem Held.turned (held : s.Held) (point : HealthPoint) (rounds : Nat)
    (ahead : ∀ id ∈ Supervised.ahead point, id < s.dispatcher.pool.next)
    (timed : ∀ id timeoutMs snapshot, point = .checking id timeoutMs snapshot → 0 < timeoutMs) :
    Held { s with point := point, rounds := rounds } :=
  ⟨held.wellFormed, ahead, held.configured, timed⟩

theorem Held.health (held : s.Held) {choice : HealthChoice}
    (taken : s.healthLoop codec choice = some s') : s'.Held := by
  have before := held.ahead
  unfold healthLoop at taken
  dsimp only at taken
  split at taken
  next =>
    cases taken
    apply held.turned _ s.rounds
    · intro id member
      split at member
      · cases member
      · exact held.wellFormed.listed id member
    · intro id timeoutMs snapshot checking
      split at checking <;> cases checking
  next =>
    cases taken
    apply held.turned
    · rintro id ⟨⟩
    · rintro id timeoutMs snapshot ⟨⟩
  next other snapshot next =>
    cases taken
    rw [next] at before
    apply held.turned _ s.rounds
    · intro id member
      split at member
      · cases member
      · exact before id member
    · -- the timeout is read when the check begins
      intro id timeoutMs later checking
      split at checking <;> cases checking
      exact held.configured
  next other timeoutMs snapshot checking =>
    obtain ⟨ok, _, rfl⟩ := Option.map_eq_some_iff.mp taken
    rw [checking] at before
    exact held.turned _ s.rounds before (by rintro id timeoutMs snapshot ⟨⟩)
  next other ok latencyMs snapshot updates =>
    obtain ⟨d', moved, rfl⟩ := Option.map_eq_some_iff.mp taken
    apply held.sectioned moved
    · intro id member
      rw [updates]
      exact List.mem_cons_of_mem other member
    · rintro id timeoutMs snapshot ⟨⟩
  next =>
    cases taken
    apply held.turned _ s.rounds
    · intro id member
      split at member <;> cases member
    · intro id timeoutMs snapshot checking
      split at checking <;> cases checking
  next => cases taken

theorem Held.step (held : s.Held) (taken : s.step codec e = some s') : s'.Held := by
  cases e with
  | scheduler f =>
    obtain ⟨d', moved, rfl⟩ := step_scheduler taken
    exact held.sectioned moved s.point (fun _ => id) held.timed
  | stop =>
    cases taken
    exact ⟨held.wellFormed, held.ahead, held.configured, held.timed⟩
  | health choice => exact held.health taken

/-- Two requests that return make a check that returns. -/
theorem checkEndpointHealth_isSome (ep : VllmEndpoint) {timeoutMs : Int} (positive : 0 < timeoutMs)
    {health models : Web} (first : health.Timed) (second : models.Timed) :
    (checkEndpointHealth codec ep timeoutMs health models).isSome = true := by
  obtain ⟨result, answered⟩ := Option.isSome_iff_exists.mp
    (first (healthUrl ep) ep.apiKey timeoutMs positive)
  obtain ⟨listing, answered'⟩ := Option.isSome_iff_exists.mp
    (second (ep.baseUrl ++ "/v1/models") ep.apiKey timeoutMs positive)
  simp only [checkEndpointHealth, answered, answered', Option.bind_eq_bind, Option.bind_some]
  repeat' split
  all_goals rfl

/-- The worker is blocked in a check only, and there not for ever. -/
theorem Held.enabled (held : s.Held) (running : s.point ≠ .finished) {choice : HealthChoice}
    (health : choice.health.Timed) (models : choice.models.Timed) :
    (s.step codec (.health choice)).isSome = true := by
  change (s.healthLoop codec choice).isSome = true
  unfold healthLoop
  dsimp only
  split
  next => rfl
  next => rfl
  next => rfl
  next other timeoutMs snapshot checking =>
    rw [Option.isSome_map]
    exact checkEndpointHealth_isSome _ (held.timed _ _ _ checking) health models
  next other ok latencyMs snapshot updates =>
    have inside : other < s.dispatcher.pool.next := by
      apply held.ahead
      rw [updates]
      exact List.mem_cons_self
    simp [Dispatcher.step, inside]
  next => rfl
  next finished => exact absurd finished running

/-- The steps that the worker takes once `stopping_` is set. -/
def remaining : HealthPoint → Nat
  | .checking .. => 5
  | .update .. => 4
  | .next _ => 3
  | .sleep .. => 2
  | .top => 1
  | .finished => 0

def isHealth : SupervisedEvent → Bool
  | .health _ => true
  | _ => false

/-- A transition in which the worker reports a check. -/
def isReport (t : Supervised × SupervisedEvent) : Bool :=
  isHealth t.2 && remaining t.1.point == 4

theorem step_remaining (stopping : s.stopping = true) (taken : s.step codec e = some s') :
    s'.stopping = true ∧
      remaining s.point = remaining s'.point + (isHealth e).toNat := by
  cases e with
  | scheduler f =>
    obtain ⟨d', moved, rfl⟩ := step_scheduler taken
    exact ⟨stopping, rfl⟩
  | stop =>
    cases taken
    exact ⟨rfl, rfl⟩
  | health choice =>
    obtain ⟨dispatcher, _, point, rounds⟩ := s
    dsimp only at stopping
    subst stopping
    cases point with
    | top => cases taken; exact ⟨rfl, rfl⟩
    | next snapshot => cases snapshot <;> cases taken <;> exact ⟨rfl, rfl⟩
    | checking id timeoutMs snapshot =>
      obtain ⟨ok, _, rfl⟩ := Option.map_eq_some_iff.mp taken
      exact ⟨rfl, rfl⟩
    | update id ok latencyMs snapshot =>
      obtain ⟨d', moved, rfl⟩ := Option.map_eq_some_iff.mp taken
      exact ⟨rfl, rfl⟩
    | sleep slept interval => cases taken; exact ⟨rfl, rfl⟩
    | finished => cases taken

theorem run_remaining (stopping : s.stopping = true) {events : List SupervisedEvent}
    (ran : run (step codec) s events = some s') :
    remaining s.point = remaining s'.point + events.countP isHealth := by
  induction events generalizing s with
  | nil =>
    cases ran
    rfl
  | cons e events ih =>
    obtain ⟨s₁, taken, rest⟩ := (run_cons_iff _ _ _ _ _).mp ran
    obtain ⟨stopping', fewer⟩ := step_remaining stopping taken
    have later := ih stopping' rest
    rw [fewer, later, List.countP_cons, Nat.add_assoc]
    cases isHealth e <;> rfl

theorem remaining_le (point : HealthPoint) : remaining point ≤ 5 := by
  cases point <;> simp [remaining]

/-- Once the worker has passed a report there is no other. -/
theorem countP_isReport (stopping : s.stopping = true) {events : List SupervisedEvent}
    (ran : run (step codec) s events = some s') :
    (history (step codec) s events).countP isReport ≤ min 1 (remaining s.point - 3) := by
  induction events generalizing s with
  | nil => exact Nat.zero_le _
  | cons e events ih =>
    obtain ⟨s₁, taken, rest⟩ := (run_cons_iff _ _ _ _ _).mp ran
    obtain ⟨stopping', fewer⟩ := step_remaining stopping taken
    have later := ih stopping' rest
    rw [history_cons _ _ _ _ _ taken, List.countP_cons]
    have here : isReport (s, e) = (isHealth e && remaining s.point == 4) := rfl
    rw [here]
    cases worker : isHealth e with
    | false =>
      rw [worker, Bool.toNat_false] at fewer
      rw [Bool.false_and, if_neg Bool.false_ne_true]
      omega
    | true =>
      rw [worker, Bool.toNat_true] at fewer
      simp only [Bool.true_and, beq_iff_eq]
      split <;> omega

/-- Once `stopping_` is set, from any reachable state and in any interleaving, the health worker
takes at most five more steps and reports at most one more check. If the loaded
`health_check_timeout_ms` is positive, and libcurl keeps to its timeouts, it is never blocked for
ever, so the join in `stop` returns. -/
theorem stop_ends_health_worker (codec : Codec) (env : Environment) (body : Json) (pool : Pool)
    (nowMs : Int) (loaded : loadModel env body = .ok pool) (before after : List SupervisedEvent)
    (s s' : Supervised) (reached : run (step codec) (start pool nowMs) before = some s)
    (stopping : s.stopping = true) (ran : run (step codec) s after = some s') :
    after.countP isHealth ≤ 5 ∧
    (history (step codec) s after).countP isReport ≤ 1 ∧
    (0 < pool.cfg.healthCheckTimeoutMs →
      s'.point = .finished ∨ ∀ choice, choice.health.Timed → choice.models.Timed →
        (s'.step codec (.health choice)).isSome = true) := by
  have bound := remaining_le s.point
  have steps := run_remaining stopping ran
  have reports := countP_isReport stopping ran
  refine ⟨by omega, by omega, fun configured => ?_⟩
  have held : s'.Held := by
    have all : run (step codec) (start pool nowMs) (before ++ after) = some s' := by
      rw [run_append, reached]
      exact ran
    apply run_invariant (step codec) Held (fun s e s' taken held => held.step taken) _ s' _ all
    refine ⟨Dispatcher.start_wellFormed env body pool nowMs loaded, fun id member => ?_, configured,
      fun id timeoutMs snapshot checking => ?_⟩
    · unfold start at member
      dsimp only at member
      split at member <;> cases member
    · unfold start at checking
      dsimp only at checking
      split at checking <;> cases checking
  by_cases running : s'.point = .finished
  · exact Or.inl running
  · exact Or.inr fun choice health models => held.enabled running health models

/-- `stop` during a check: its result is still reported, and the loop ends. -/
theorem stop_ends_health_worker_checking : ∃ pool s s',
    loadModel {} watchedBackend = .ok pool ∧ 0 < pool.cfg.healthCheckTimeoutMs ∧
    run (step rejectAll) (start pool 0) [.health noAnswer, .health noAnswer, .stop] = some s ∧
    (∃ id timeoutMs snapshot, s.point = .checking id timeoutMs snapshot) ∧
    run (step rejectAll) s (List.replicate 5 (.health noAnswer)) = some s' ∧
    s'.point = .finished ∧ s'.rounds = 1 ∧
    (history (step rejectAll) s (List.replicate 5 (.health noAnswer))).countP isReport ≤ 1 := by
  refine ⟨_, _, _, rfl, by decide, rfl, ⟨0, 2000, [], rfl⟩, rfl, rfl, rfl, ?_⟩
  exact (stop_ends_health_worker rejectAll {} watchedBackend _ 0 rfl
    [.health noAnswer, .health noAnswer, .stop] (List.replicate 5 (.health noAnswer)) _ _ rfl rfl
    rfl).2.1

/-- A check whose request does not return keeps the worker, whatever the other threads do and
also after a `stop`. Without a timeout nothing ends the request of a silent backend. -/
theorem silent_check_never_ends {id : Nat} {timeoutMs : Int} {snapshot : List Nat}
    (checking : s.point = .checking id timeoutMs snapshot) {events : List SupervisedEvent}
    (ran : run (step codec) s events = some s')
    (silent : ∀ choice, .health choice ∈ events →
      ∀ url apiKey, choice.health url apiKey timeoutMs = none) :
    s'.point = .checking id timeoutMs snapshot := by
  induction events generalizing s with
  | nil =>
    cases ran
    exact checking
  | cons e events ih =>
    obtain ⟨s₁, taken, rest⟩ := (run_cons_iff _ _ _ _ _).mp ran
    refine ih ?_ rest fun choice member => silent choice (List.mem_cons_of_mem _ member)
    cases e with
    | scheduler f =>
      obtain ⟨d', _, rfl⟩ := step_scheduler taken
      exact checking
    | stop =>
      cases taken
      exact checking
    | health choice =>
      have none_ := silent choice List.mem_cons_self
      change s.healthLoop codec choice = some s₁ at taken
      simp [healthLoop, checking, checkEndpointHealth, none_] at taken

end Supervised

end VllmRoute.Scheduler
