import VllmRoute.Properties.Breaker
import VllmRoute.Properties.Reloading

/-!
# The history of a backend across reloads

A reload replaces the endpoint objects and hands the history of each on to its
successor. The reference is a single object that no reload replaces: every
report about the backend is applied to it, whatever object the report was for.
A worker or the health checker may still hold an object that is no longer
listed, and what it reports there never reaches the successor.
-/
namespace VllmRoute.Scheduler

open Lib Dispatcher

section Reports

variable {a b c : VllmEndpoint} (th : Thresholds) (nowMs : Int) (ok : Bool) (latencyMs : Int)

theorem SameHistory.refl (a : VllmEndpoint) : SameHistory a a :=
  ⟨rfl, rfl, rfl, rfl, rfl, rfl, rfl, rfl, rfl⟩

theorem SameHistory.trans (first : SameHistory a b) (second : SameHistory b c) :
    SameHistory a c where
  healthy := first.healthy.trans second.healthy
  circuitState := first.circuitState.trans second.circuitState
  circuitOpenUntilMs := first.circuitOpenUntilMs.trans second.circuitOpenUntilMs
  consecutiveFailures := first.consecutiveFailures.trans second.consecutiveFailures
  consecutiveSuccesses := first.consecutiveSuccesses.trans second.consecutiveSuccesses
  successCount := first.successCount.trans second.successCount
  failureCount := first.failureCount.trans second.failureCount
  timeoutCount := first.timeoutCount.trans second.timeoutCount
  circuitOpenCount := first.circuitOpenCount.trans second.circuitOpenCount

/-- The reports and the availability test read nothing but the history. -/
theorem SameHistory.countFailure (same : SameHistory a b) :
    SameHistory (countFailure th nowMs a) (countFailure th nowMs b) := by
  obtain ⟨healthy, state, due, failures, _, succeeded, failed, timeouts, trips⟩ := same
  unfold Scheduler.countFailure
  simp only [failures]
  split <;> split <;> constructor <;> simp_all

theorem SameHistory.countSuccess (close : CircuitState → CircuitState) (same : SameHistory a b) :
    SameHistory (countSuccess th close a) (countSuccess th close b) := by
  obtain ⟨healthy, state, due, _, successes, succeeded, failed, timeouts, trips⟩ := same
  unfold Scheduler.countSuccess
  simp only [successes]
  split <;> constructor <;> simp_all

theorem SameHistory.updateEndpointResult (same : SameHistory a b) :
    SameHistory (updateEndpointResult th nowMs ok latencyMs a)
      (updateEndpointResult th nowMs ok latencyMs b) := by
  obtain ⟨healthy, state, due, failures, successes, succeeded, failed, timeouts, trips⟩ := same
  cases ok with
  | false =>
    exact SameHistory.countFailure th nowMs ⟨healthy, state, due, failures, successes, succeeded,
      congrArg (· + 1) failed, timeouts, trips⟩
  | true =>
    exact SameHistory.countSuccess th (fun _ => .closed) ⟨healthy, state, due, failures, successes,
      congrArg (· + 1) succeeded, failed, timeouts, trips⟩

theorem SameHistory.updateEndpointHealth (same : SameHistory a b) :
    SameHistory (updateEndpointHealth th nowMs ok latencyMs a)
      (updateEndpointHealth th nowMs ok latencyMs b) := by
  obtain ⟨healthy, state, due, failures, successes, succeeded, failed, timeouts, trips⟩ := same
  cases ok with
  | false =>
    exact SameHistory.countFailure th nowMs
      ⟨healthy, state, due, failures, successes, succeeded, failed, timeouts, trips⟩
  | true =>
    exact SameHistory.countSuccess th
      (fun state => if state = .halfOpen || state = .opened then .closed else state)
      ⟨healthy, state, due, failures, successes, succeeded, failed, timeouts, trips⟩

theorem SameHistory.endpointAvailableLocked (same : SameHistory a b) :
    SameHistory (endpointAvailableLocked a nowMs).2 (endpointAvailableLocked b nowMs).2 := by
  unfold Scheduler.endpointAvailableLocked
  rw [same.circuitState, same.circuitOpenUntilMs]
  split
  · split
    · exact { same with circuitState := rfl }
    · exact same
  · exact same

end Reports

/-- The endpoint object is one for this backend. -/
def VllmEndpoint.serves (ep : VllmEndpoint) (baseUrl servedModel : String) : Bool :=
  ep.baseUrl == baseUrl && ep.servedModel == servedModel

section Backend

variable (baseUrl servedModel : String)

/-- The backend has one entry, and no other entry has its runtime key. -/
structure Kept (pool : Pool) : Prop where
  once : (pool.endpoints.countP fun id => (pool.heap id).serves baseUrl servedModel) = 1
  apart : ∀ id ∈ pool.endpoints, endpointRuntimeKey (pool.heap id) =
    baseUrl ++ "|" ++ servedModel → (pool.heap id).serves baseUrl servedModel = true

/-- A report about the backend is applied to a listed object. -/
def Current (d : Dispatcher) : Event → Prop
  | .complete slot _ _ _ => ∀ a, d.outstanding[slot]? = some a →
      (d.pool.heap a.endpoint).serves baseUrl servedModel = true → a.endpoint ∈ d.pool.endpoints
  | .health id _ _ _ =>
      (d.pool.heap id).serves baseUrl servedModel = true → id ∈ d.pool.endpoints
  | _ => True

/-- An event on the single object `ep` of the backend. The availability test of a selection
runs on it when it runs on the listed object, which has the configured model names. -/
def Dispatcher.onBackend (d : Dispatcher) (ep : VllmEndpoint) : Event → VllmEndpoint
  | .select req _ =>
    if d.pool.endpoints.any fun id => (d.pool.heap id).serves baseUrl servedModel &&
        endpointSupportsRequest (d.pool.heap id) req
      then (endpointAvailableLocked ep d.nowMs).2 else ep
  | .complete slot th ok latencyMs =>
    if d.outstanding[slot]?.any fun a => (d.pool.heap a.endpoint).serves baseUrl servedModel
      then updateEndpointResult th d.nowMs ok latencyMs ep else ep
  | .health id th ok latencyMs =>
    if (d.pool.heap id).serves baseUrl servedModel
      then updateEndpointHealth th d.nowMs ok latencyMs ep else ep
  | .reload _ => ep
  | .advance _ => ep

/-- The single object after the transitions of a run. -/
def reference (ep : VllmEndpoint) (past : List (Dispatcher × Event)) : VllmEndpoint :=
  past.foldl (fun ep (d, e) => d.onBackend baseUrl servedModel ep e) ep

/-- The listed object of the backend has the history of `ep`. -/
structure Follows (ep : VllmEndpoint) (d : Dispatcher) : Prop where
  wellFormed : d.WellFormed
  kept : Kept baseUrl servedModel d.pool
  same : ∀ id ∈ d.pool.endpoints, (d.pool.heap id).serves baseUrl servedModel = true →
    SameHistory (d.pool.heap id) ep

variable {baseUrl servedModel} {ep : VllmEndpoint} {d d' : Dispatcher}

theorem Kept.unique {pool : Pool} (kept : Kept baseUrl servedModel pool) {x y : Nat}
    (hx : x ∈ pool.endpoints) (hy : y ∈ pool.endpoints)
    (sx : (pool.heap x).serves baseUrl servedModel = true)
    (sy : (pool.heap y).serves baseUrl servedModel = true) : x = y :=
  eq_of_countP_eq_one kept.once hx hy sx sy

theorem endpointRuntimeKey_of_serves (serves : ep.serves baseUrl servedModel = true) :
    endpointRuntimeKey ep = baseUrl ++ "|" ++ servedModel := by
  simp only [VllmEndpoint.serves, Bool.and_eq_true, beq_iff_eq] at serves
  rw [endpointRuntimeKey, serves.1, serves.2]

theorem Kept.exists_listed {pool : Pool} (kept : Kept baseUrl servedModel pool) :
    ∃ id ∈ pool.endpoints, (pool.heap id).serves baseUrl servedModel = true := by
  apply List.countP_pos_iff.mp
  rw [kept.once]
  exact Nat.zero_lt_one

/-- The runtime key of the backend occurs once. -/
theorem Kept.key_once {pool : Pool} (kept : Kept baseUrl servedModel pool) :
    (pool.endpoints.map fun id => endpointRuntimeKey (pool.heap id)).count
      (baseUrl ++ "|" ++ servedModel) = 1 := by
  rw [← kept.once, List.count, List.countP_map]
  apply List.countP_congr
  intro id listed
  simp only [Function.comp_apply, beq_iff_eq]
  exact ⟨kept.apart id listed, endpointRuntimeKey_of_serves⟩

/-- A step that is no reload keeps the backend of a listed object. -/
theorem Follows.serves_before (follows : Follows baseUrl servedModel ep d) {e : Event}
    (taken : d.step e = some d') {id : Nat} (listed : id ∈ d.pool.endpoints)
    (serves : (d'.pool.heap id).serves baseUrl servedModel = true) :
    (d.pool.heap id).serves baseUrl servedModel = true := by
  obtain ⟨url, model⟩ := step_backend d d' e follows.wellFormed taken id
    (follows.wellFormed.listed id listed)
  rwa [VllmEndpoint.serves, url, model] at serves

theorem Follows.select (follows : Follows baseUrl servedModel ep d) {req : InferenceRequest}
    {threshold : Int} (taken : d.step (.select req threshold) = some d') {id : Nat}
    (listed : id ∈ d.pool.endpoints)
    (serves : (d.pool.heap id).serves baseUrl servedModel = true) :
    SameHistory (d'.pool.heap id)
      (d.onBackend baseUrl servedModel ep (.select req threshold)) := by
  have heap : d'.pool.heap =
      (selectEndpoint req threshold d.nowMs d.pool.endpoints d.pool.heap).2 := by
    simp only [step, Option.some.injEq] at taken
    rw [← taken]
    rfl
  have before := follows.same id listed serves
  -- the backend is listed once, so the test of the single object is the one of `id`
  have supported : (d.pool.endpoints.any fun id => (d.pool.heap id).serves baseUrl servedModel &&
      endpointSupportsRequest (d.pool.heap id) req) =
      endpointSupportsRequest (d.pool.heap id) req := by
    rw [Bool.eq_iff_iff, List.any_eq_true]
    constructor
    · rintro ⟨other, member, both⟩
      rw [Bool.and_eq_true] at both
      rw [follows.kept.unique listed member serves both.1]
      exact both.2
    · intro supports
      exact ⟨id, listed, by simp [serves, supports]⟩
  have scanned : SameHistory (tested req d.nowMs (d.pool.heap id))
      (d.onBackend baseUrl servedModel ep (.select req threshold)) := by
    rw [onBackend, supported, tested]
    split
    · exact before.endpointAvailableLocked d.nowMs
    · exact before
  -- a dispatch moves the counters of the load, which are no history
  rw [heap]
  rcases selectEndpoint_heap req threshold d.nowMs d.pool.endpoints d.pool.heap id listed with
    only | dispatched
  · rw [only]
    exact scanned
  · rw [dispatched]
    exact { scanned with }

/-- A report to one object, against the same report to the single object when it is about
the backend. -/
theorem Follows.report (follows : Follows baseUrl servedModel ep d)
    (f : VllmEndpoint → VllmEndpoint)
    (congruent : ∀ {a b}, SameHistory a b → SameHistory (f a) (f b)) {target id : Nat}
    (current : (d.pool.heap target).serves baseUrl servedModel = true →
      target ∈ d.pool.endpoints)
    (listed : id ∈ d.pool.endpoints)
    (serves : (d.pool.heap id).serves baseUrl servedModel = true) :
    SameHistory (Function.update d.pool.heap target (f (d.pool.heap target)) id)
      (if (d.pool.heap target).serves baseUrl servedModel then f ep else ep) := by
  have before := follows.same id listed serves
  by_cases mine : (d.pool.heap target).serves baseUrl servedModel = true
  · -- the report is about the backend, so it is for the only listed object
    have same : id = target := follows.kept.unique listed (current mine) serves mine
    subst same
    rw [if_pos mine, Function.update_self]
    exact congruent before
  · have other : id ≠ target := fun same => mine (same ▸ serves)
    rw [if_neg mine, Function.update_of_ne other]
    exact before

theorem Follows.complete (follows : Follows baseUrl servedModel ep d) {slot : Nat}
    {th : Thresholds} {ok : Bool} {latencyMs : Int}
    (taken : d.step (.complete slot th ok latencyMs) = some d')
    (current : Current baseUrl servedModel d (.complete slot th ok latencyMs)) {id : Nat}
    (listed : id ∈ d.pool.endpoints)
    (serves : (d.pool.heap id).serves baseUrl servedModel = true) :
    SameHistory (d'.pool.heap id)
      (d.onBackend baseUrl servedModel ep (.complete slot th ok latencyMs)) := by
  simp only [step, Option.map_eq_some_iff] at taken
  obtain ⟨a, found, rfl⟩ := taken
  simp only [onBackend, found, Option.any_some, setHeap]
  exact follows.report (updateEndpointResult th d.nowMs ok latencyMs)
    (SameHistory.updateEndpointResult th d.nowMs ok latencyMs) (current a found) listed serves

theorem Follows.health (follows : Follows baseUrl servedModel ep d) {checked : Nat}
    {th : Thresholds} {ok : Bool} {latencyMs : Int}
    (taken : d.step (.health checked th ok latencyMs) = some d')
    (current : Current baseUrl servedModel d (.health checked th ok latencyMs)) {id : Nat}
    (listed : id ∈ d.pool.endpoints)
    (serves : (d.pool.heap id).serves baseUrl servedModel = true) :
    SameHistory (d'.pool.heap id)
      (d.onBackend baseUrl servedModel ep (.health checked th ok latencyMs)) := by
  simp only [step, Option.ite_none_right_eq_some, Option.some.injEq] at taken
  obtain ⟨_, rfl⟩ := taken
  simp only [onBackend, setHeap]
  exact follows.report (updateEndpointHealth th d.nowMs ok latencyMs)
    (SameHistory.updateEndpointHealth th d.nowMs ok latencyMs) current listed serves

/-- The object that a reload lists for the backend takes over the history of the old one. -/
theorem Follows.reload (follows : Follows baseUrl servedModel ep d) {body : Json} {pool : Pool}
    (reloaded : reloadConfig d.pool body d.nowMs = .ok pool) {id' : Nat}
    (listed : id' ∈ pool.endpoints)
    (serves : (pool.heap id').serves baseUrl servedModel = true) :
    SameHistory (pool.heap id') ep := by
  obtain ⟨id, old, served⟩ := follows.kept.exists_listed
  have key := endpointRuntimeKey_of_serves serves
  have inherited := reloadConfig_keepsHistory d.pool pool body d.nowMs reloaded id' listed id old
    (by rw [key, endpointRuntimeKey_of_serves served]) (by rw [key]; exact follows.kept.key_once)
  exact inherited.trans (follows.same id old served)

theorem Follows.step {e : Event} (follows : Follows baseUrl servedModel ep d)
    (taken : d.step e = some d') (kept : Kept baseUrl servedModel d'.pool)
    (current : Current baseUrl servedModel d e) :
    Follows baseUrl servedModel (d.onBackend baseUrl servedModel ep e) d' := by
  refine ⟨step_wellFormed d d' e follows.wellFormed taken, kept, fun id listed serves => ?_⟩
  rcases step_endpoints d d' e taken with unchanged | ⟨body, rfl, _, reloaded⟩
  · rw [unchanged] at listed
    have served := follows.serves_before taken listed serves
    cases e with
    | select req threshold => exact follows.select taken listed served
    | complete slot th ok latencyMs => exact follows.complete taken current listed served
    | health checked th ok latencyMs => exact follows.health taken current listed served
    | reload body =>
      -- a reload that names no endpoints keeps the list, and one that is refused does nothing
      simp only [Dispatcher.step] at taken
      split at taken
      next pool reloaded =>
        cases taken
        exact follows.reload reloaded (unchanged ▸ listed) serves
      · cases taken
        exact follows.same id listed served
    | advance ms =>
      cases taken
      exact follows.same id listed served
  · exact follows.reload reloaded listed serves

/-- As long as no report goes to an object that a reload has replaced, the listed object of a
backend has the history of the single object. -/
theorem history_survives_reload (env : Environment) (body : Json) (pool : Pool) (nowMs : Int)
    (loaded : loadModel env body = .ok pool) (kept : Kept baseUrl servedModel pool)
    (id₀ : Nat) (listed₀ : id₀ ∈ pool.endpoints)
    (serves₀ : (pool.heap id₀).serves baseUrl servedModel = true)
    (events : List Event) (d : Dispatcher)
    (returned : run Dispatcher.step (start pool nowMs) events = some d)
    (keeps : Along Dispatcher.step (fun _ _ d' => Kept baseUrl servedModel d'.pool)
      (start pool nowMs) events)
    (current : Along Dispatcher.step (fun d e _ => Current baseUrl servedModel d e)
      (start pool nowMs) events) :
    ∃ id ∈ d.pool.endpoints, (d.pool.heap id).serves baseUrl servedModel = true ∧
      SameHistory (d.pool.heap id) (reference baseUrl servedModel (pool.heap id₀)
        (history Dispatcher.step (start pool nowMs) events)) := by
  have initial : Follows baseUrl servedModel (pool.heap id₀) (start pool nowMs) := by
    refine ⟨start_wellFormed env body pool nowMs loaded, kept, fun id listed serves => ?_⟩
    rw [kept.unique listed listed₀ serves serves₀]
    exact SameHistory.refl (pool.heap id₀)
  -- by induction on the run, the listed object follows the single one
  have follows : Follows baseUrl servedModel
      (reference baseUrl servedModel (pool.heap id₀)
        ([] ++ history Dispatcher.step (start pool nowMs) events)) d := by
    refine run_history_invariant Dispatcher.step _
      (fun past d => Follows baseUrl servedModel
        (reference baseUrl servedModel (pool.heap id₀) past) d)
      ?_ [] (start pool nowMs) d events returned (keeps.and current) initial
    intro past s e s' taken ⟨stays, here⟩ before
    have after := before.step taken stays here
    simpa only [reference, List.foldl_append, List.foldl_cons, List.foldl_nil] using after
  obtain ⟨id, listed, serves⟩ := follows.kept.exists_listed
  exact ⟨id, listed, serves, follows.same id listed serves⟩

end Backend

/-- A reload between two reports: both reach the listed object. -/
theorem history_survives_reload_two : ∃ pool d,
    loadModel {} fragileBackend = .ok pool ∧
    run Dispatcher.step (start pool 0) [.select anyRequest 7, .complete 0 fragile false 0,
      .reload fragileBackend, .health 1 fragile true 0] = some d ∧
    d.pool.endpoints = [1] ∧
    ∃ id ∈ d.pool.endpoints, (d.pool.heap id).serves "http://a" "m" = true ∧
      SameHistory (d.pool.heap id) (reference "http://a" "m" (pool.heap 0)
        (history Dispatcher.step (start pool 0) [.select anyRequest 7, .complete 0 fragile false 0,
          .reload fragileBackend, .health 1 fragile true 0])) := by
  have kept (pool : Pool) (id : Nat) (listed : pool.endpoints = [id])
      (serves : (pool.heap id).serves "http://a" "m" = true) : Kept "http://a" "m" pool :=
    ⟨by simp [listed, serves], by simp [listed, serves]⟩
  refine ⟨_, _, rfl, rfl, rfl, history_survives_reload {} fragileBackend _ 0 rfl
    (kept _ 0 rfl rfl) 0 ?_ rfl _ _ rfl ?_ ?_⟩
  · exact List.mem_singleton.mpr rfl
  · -- object 1 takes the place of object 0 at the reload
    exact along_cons rfl (kept _ 0 rfl rfl) (along_cons rfl (kept _ 0 rfl rfl)
      (along_cons rfl (kept _ 1 rfl rfl) (along_cons rfl (kept _ 1 rfl rfl) trivial)))
  · refine along_cons rfl trivial (along_cons rfl ?_ (along_cons rfl trivial
      (along_cons rfl ?_ trivial)))
    · rintro a ⟨⟩ _
      exact List.mem_singleton.mpr rfl
    · exact fun _ => List.mem_singleton.mpr rfl

/-- A call that fails after a reload has replaced its object: the failure, which opens the
circuit of the single object, never reaches the listed one. -/
theorem reload_loses_failure : ∃ pool d,
    loadModel {} fragileBackend = .ok pool ∧ pool.cfg.thresholds = fragile ∧
    pool.endpoints = [0] ∧ (pool.heap 0).serves "http://a" "m" = true ∧
    run Dispatcher.step (start pool 0) [.select anyRequest 7, .reload fragileBackend,
      .complete 0 fragile false 0] = some d ∧
    d.pool.endpoints = [1] ∧ (d.pool.heap 1).serves "http://a" "m" = true ∧
    (d.pool.heap 1).circuitState = .closed ∧ (d.pool.heap 1).failureCount = 0 ∧
    (reference "http://a" "m" (pool.heap 0) (history Dispatcher.step (start pool 0)
      [.select anyRequest 7, .reload fragileBackend, .complete 0 fragile false 0])).circuitState =
      .opened ∧
    (reference "http://a" "m" (pool.heap 0) (history Dispatcher.step (start pool 0)
      [.select anyRequest 7, .reload fragileBackend, .complete 0 fragile false 0])).failureCount =
      1 :=
  ⟨_, _, rfl, rfl, rfl, rfl, rfl, rfl, rfl, rfl, rfl, rfl, rfl⟩

end VllmRoute.Scheduler
