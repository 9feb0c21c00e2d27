import VllmRoute.Scheduler.Dispatch

/-!
# Endpoint accounting

`inflight` counts the outstanding attempts of its own object, over every run.
A reload starts the replacement objects at zero, so the limit that the counter
enforces is a limit per object and not per backend.
-/
namespace VllmRoute.Scheduler

open Lib Dispatcher

/-- The counters of an object, against the attempts that are really outstanding on it. -/
structure Accounted (v : View) : Prop where
  counted : v.ep.inflight = v.outstanding
  nonneg : 0 ≤ v.ep.halfOpenInflight
  within : v.ep.halfOpenInflight ≤ v.ep.inflight
  bounded : v.ep.inflight ≤ v.ep.maxConcurrency

theorem Idle.accounted {ep : VllmEndpoint} (idle : Idle ep) : Accounted ⟨ep, 0, 0⟩ := by
  have capacity := idle.capacity
  refine ⟨by simp [idle.inflight], ?_, ?_, ?_⟩ <;>
    simp only [idle.inflight, idle.halfOpenInflight] <;> omega

/-- No transition of an object unbalances its counters: a report always finds the
slot that its dispatch took. -/
theorem Effect.accounted {nowMs : Int} {v w : View} {act : Act} (effect : Effect nowMs v act w)
    (before : Accounted v) : Accounted w := by
  induction effect with
  | same v => exact before
  | reopened v _ _ =>
    obtain ⟨counted, nonneg, within, bounded⟩ := before
    -- `half_open_inflight` starts again at zero, whatever is still outstanding
    exact ⟨counted, Int.le_refl 0, by simp only [reopen]; omega, bounded⟩
  | dispatched v w _ ready ih =>
    obtain ⟨counted, nonneg, within, bounded⟩ := ih before
    have room := ready.capacity
    refine ⟨by simp [dispatch, counted], ?_, ?_, ?_⟩ <;>
      simp only [dispatch] <;> (try split) <;> omega
  | reported ep n p probe th ok latencyMs =>
    obtain ⟨counted, nonneg, within, bounded⟩ := before
    obtain ⟨inflight, half, capacity, _, _⟩ :=
      updateEndpointResult_keepsSlots th nowMs ok latencyMs ep
    dsimp only at counted nonneg within bounded
    -- the slot is there: `inflight` is at least one before the report
    have taken : 0 < ep.inflight := by omega
    refine ⟨?_, ?_, ?_, ?_⟩ <;> simp only [inflight, half, capacity, releaseSlot, if_pos taken] <;>
      (try split) <;> omega
  | checked v th ok latencyMs =>
    obtain ⟨counted, nonneg, within, bounded⟩ := before
    obtain ⟨inflight, half, capacity, _, _⟩ :=
      updateEndpointHealth_keepsSlots th nowMs ok latencyMs v.ep
    exact ⟨inflight.trans counted, half ▸ nonneg, by simpa only [inflight, half] using within,
      by simpa only [inflight, capacity] using bounded⟩

/-- The invariant of the pool: well-formed, with every object accounted for. -/
structure Balanced (d : Dispatcher) : Prop where
  wellFormed : d.WellFormed
  accounted : ∀ id, Accounted (d.view id)

theorem start_balanced (env : Environment) (body : Json) (pool : Pool) (nowMs : Int)
    (loaded : loadModel env body = .ok pool) : Balanced (start pool nowMs) :=
  ⟨start_wellFormed env body pool nowMs loaded,
    fun id => ((loadModel_fresh env body pool loaded).idle id).accounted⟩

theorem step_balanced (d d' : Dispatcher) (e : Event) (taken : d.step e = some d')
    (balanced : Balanced d) : Balanced d' := by
  refine ⟨step_wellFormed d d' e balanced.wellFormed taken, fun id => ?_⟩
  rcases step_effect d d' e balanced.wellFormed taken id with effect | ⟨_, _, idle, none, noProbe⟩
  · exact effect.accounted (balanced.accounted id)
  · -- an object that this step made starts with no attempt and with counters at zero
    have fresh := idle.accounted
    simpa [view, none, noProbe] using fresh

theorem run_balanced (env : Environment) (body : Json) (pool : Pool) (nowMs : Int)
    (loaded : loadModel env body = .ok pool) (events : List Event) (d : Dispatcher)
    (ran : run step (start pool nowMs) events = some d) : Balanced d :=
  run_invariant step Balanced (fun d e d' taken => step_balanced d d' e taken) _ d events ran
    (start_balanced env body pool nowMs loaded)

theorem Accounted.guarded {v : View} (accounted : Accounted v) (busy : 0 < v.outstanding) :
    0 < v.ep.inflight := by
  rw [accounted.counted]
  exact_mod_cast busy

theorem outstandingOn_pos (d : Dispatcher) (a : Attempt) (member : a ∈ d.outstanding) :
    0 < d.outstandingOn a.endpoint :=
  List.countP_pos_iff.mpr ⟨a, member, by simp⟩

/-- Over every run from a load, `inflight` is the number of attempts on the object,
`0 ≤ half_open_inflight ≤ inflight ≤ max_concurrency`, the guard of a report
never suppresses its decrement, and an object without attempts is not locked
out by `half_open_inflight`. -/
theorem endpoint_accounting (env : Environment) (body : Json) (pool : Pool) (nowMs : Int)
    (loaded : loadModel env body = .ok pool) (events : List Event) (d : Dispatcher)
    (ran : run step (start pool nowMs) events = some d) (id : Nat) :
    let ep := d.pool.heap id
    ep.inflight = d.outstandingOn id ∧
      0 ≤ ep.halfOpenInflight ∧ ep.halfOpenInflight ≤ ep.inflight ∧
      ep.inflight ≤ ep.maxConcurrency ∧
      (∀ a ∈ d.outstanding, a.endpoint = id → 0 < ep.inflight) ∧
      (d.outstandingOn id = 0 → ep.halfOpenInflight = 0) := by
  have balanced := run_balanced env body pool nowMs loaded events d ran
  obtain ⟨counted, nonneg, within, bounded⟩ := balanced.accounted id
  simp only [view] at counted nonneg within bounded
  refine ⟨counted, nonneg, within, bounded, ?_, ?_⟩
  · rintro a member rfl
    exact (balanced.accounted a.endpoint).guarded (outstandingOn_pos d a member)
  · intro quiet
    omega

/-- One endpoint of capacity one. -/
def oneBackend : Json :=
  .obj [("model", .str "m"), ("endpoints", .arr [.obj
    [("base_url", .str "http://a"), ("max_concurrency", .int 1)]])]

def askModel : InferenceRequest := { logicalModel := "m" }

theorem endpoint_accounting_oneBackend : ∃ pool d, loadModel {} oneBackend = .ok pool ∧
    run step (start pool 0) [.select askModel 7, .reload oneBackend] = some d ∧
    d.outstandingOn 0 = 1 ∧ (d.pool.heap 0).inflight = d.outstandingOn 0 :=
  ⟨_, _, rfl, rfl, rfl, (endpoint_accounting {} oneBackend _ 0 rfl
    [.select askModel 7, .reload oneBackend] _ rfl 0).1⟩

/-! ### The capacity of a backend across reloads -/

/-- Attempts outstanding on any object of the backend, replaced objects included. -/
def Dispatcher.backendOutstanding (d : Dispatcher) (key : String) : Nat :=
  d.outstanding.countP fun a => endpointRuntimeKey (d.pool.heap a.endpoint) == key

/-- `id` is the one listed endpoint of the backend, and has capacity `m`. -/
def ListsAt (pool : Pool) (key : String) (m : Int) (id : Nat) : Prop :=
  pool.endpoints.filter (fun other => endpointRuntimeKey (pool.heap other) == key) = [id] ∧
    (pool.heap id).maxConcurrency = m

/-- The configuration lists the backend once, with capacity `m`. -/
def Lists (pool : Pool) (key : String) (m : Int) : Prop := ∃ id, ListsAt pool key m id

/-- Every reload of the run keeps the backend listed once with capacity `m`. -/
def KeepsListing (key : String) (m : Int) (_ : Dispatcher) : Event → Dispatcher → Prop
  | .reload _, after => Lists after.pool key m
  | _, _ => True

/-- A reload that replaces the endpoints finds no attempt of the backend outstanding. -/
def QuietReload (key : String) (d : Dispatcher) : Event → Prop
  | .reload body => hasEndpointReloadConfig body = true →
      (∃ pool, reloadConfig d.pool body d.nowMs = .ok pool) → d.backendOutstanding key = 0
  | _ => True

/-- All attempts on the backend are on its one listed object. -/
structure Confined (key : String) (m : Int) (d : Dispatcher) : Prop where
  balanced : Balanced d
  confined : ∃ id, ListsAt d.pool key m id ∧
    ∀ a ∈ d.outstanding, endpointRuntimeKey (d.pool.heap a.endpoint) = key → a.endpoint = id

theorem Confined.capacity {key : String} {m : Int} {d : Dispatcher} (confined : Confined key m d) :
    (d.backendOutstanding key : Int) ≤ m := by
  obtain ⟨id, ⟨_, capacity⟩, only⟩ := confined.confined
  obtain ⟨counted, _, _, bounded⟩ := confined.balanced.accounted id
  -- every attempt that counts for the backend counts for its listed object
  have le : d.backendOutstanding key ≤ d.outstandingOn id := by
    apply List.countP_mono_left
    intro a member on
    simpa using only a member (by simpa using on)
  simp only [view] at counted bounded
  omega

theorem step_confined (key : String) (m : Int) (d d' : Dispatcher) (e : Event)
    (taken : d.step e = some d') (keeps : KeepsListing key m d e d') (quiet : QuietReload key d e)
    (before : Confined key m d) : Confined key m d' := by
  have wf := before.balanced.wellFormed
  have static := step_static d d' e wf taken
  obtain ⟨id, ⟨listed, capacity⟩, only⟩ := before.confined
  refine ⟨step_balanced d d' e taken before.balanced, ?_⟩
  rcases step_endpoints d d' e taken with same | ⟨body, rfl, changed, reloaded⟩
  · have inside : id < d.pool.next := by
      have member : id ∈ d.pool.endpoints.filter
          (fun other => endpointRuntimeKey (d.pool.heap other) == key) := by simp [listed]
      exact wf.listed id (List.mem_filter.mp member).1
    -- the list is the same, and no object of it changes its key or its capacity
    refine ⟨id, ⟨?_, (static id inside).2.trans capacity⟩, ?_⟩
    · rw [same, ← listed]
      apply List.filter_congr
      intro other member
      rw [(static other (wf.listed other member)).1]
    · intro a member on
      rcases step_attempts d d' e taken a member with ⟨old, _⟩ | ⟨fresh, _⟩
      · exact only a old ((static a.endpoint (wf.allocated a old)).1 ▸ on)
      · -- a new attempt went to a listed object of the backend, and there is only one
        have among : a.endpoint ∈ d.pool.endpoints.filter
            (fun other => endpointRuntimeKey (d.pool.heap other) == key) := by
          rw [List.mem_filter, ← (static a.endpoint (wf.listed _ fresh)).1]
          exact ⟨fresh, by simpa using on⟩
        simpa [listed] using among
  · -- the list is replaced, and no attempt of the backend is there to be on an old object
    obtain ⟨new, lists⟩ := keeps
    refine ⟨new, lists, ?_⟩
    intro a member on
    have old : a ∈ d.outstanding := by
      simp only [step, reloaded, Option.some.injEq] at taken
      rw [← taken] at member
      exact member
    have none := List.countP_eq_zero.mp (quiet changed ⟨d'.pool, reloaded⟩) a old
    exact absurd ((static a.endpoint (wf.allocated a old)).1 ▸ on) (by simpa using none)

/-- Runs whose endpoint-replacing reloads all find the backend quiet respect its
capacity, in every state they reach. -/
theorem capacity_of_quiet_reloads (env : Environment) (body : Json) (pool : Pool) (nowMs : Int)
    (loaded : loadModel env body = .ok pool) (key : String) (m : Int) (lists : Lists pool key m)
    (events : List Event) (d : Dispatcher) (ran : run step (start pool nowMs) events = some d)
    (keeps : Along step (KeepsListing key m) (start pool nowMs) events)
    (quiet : Along step (fun d e _ => QuietReload key d e) (start pool nowMs) events) :
    (d.backendOutstanding key : Int) ≤ m := by
  have confined : Confined key m d := by
    apply run_invariant_along step (fun d e d' => KeepsListing key m d e d' ∧ QuietReload key d e)
      (Confined key m) _ _ d events ran (keeps.and quiet)
    · obtain ⟨id, at_⟩ := lists
      exact ⟨start_balanced env body pool nowMs loaded, id, at_, by simp [start]⟩
    · intro d e d' taken admitted before
      exact step_confined key m d d' e taken admitted.1 admitted.2 before
  exact confined.capacity

theorem capacity_of_quiet_reloads_oneBackend : ∃ pool d, loadModel {} oneBackend = .ok pool ∧
    run step (start pool 0) [.reload oneBackend, .select askModel 7] = some d ∧
    d.backendOutstanding "http://a|m" = 1 ∧ (d.backendOutstanding "http://a|m" : Int) ≤ 1 :=
  ⟨_, _, rfl, rfl, rfl, capacity_of_quiet_reloads {} oneBackend _ 0 rfl "http://a|m" 1
    ⟨0, rfl, rfl⟩ [.reload oneBackend, .select askModel 7] _ rfl
    (by
      intro d' taken
      cases taken
      exact ⟨⟨1, rfl, rfl⟩, fun d'' _ => ⟨trivial, trivial⟩⟩)
    (by
      intro d' taken
      cases taken
      exact ⟨fun _ _ => rfl, fun d'' _ => ⟨trivial, trivial⟩⟩)⟩

/-- A reload while an attempt runs lets a second one out to a backend of capacity one. -/
theorem reload_exceeds_capacity : ∃ pool d, loadModel {} oneBackend = .ok pool ∧
    Lists pool "http://a|m" 1 ∧
    run step (start pool 0) [.select askModel 7, .reload oneBackend, .select askModel 7] = some d ∧
    Along step (KeepsListing "http://a|m" 1) (start pool 0)
      [.select askModel 7, .reload oneBackend, .select askModel 7] ∧
    ¬ (d.backendOutstanding "http://a|m" : Int) ≤ 1 := by
  refine ⟨_, _, rfl, ⟨0, rfl, rfl⟩, rfl, ?_, by decide⟩
  intro d₁ first
  cases first
  refine ⟨trivial, fun d₂ second => ?_⟩
  cases second
  exact ⟨⟨1, rfl, rfl⟩, fun d₃ _ => ⟨trivial, trivial⟩⟩

end VllmRoute.Scheduler
