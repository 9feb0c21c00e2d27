import Mathlib.Data.List.Count
import VllmRoute.Lib.Run
import VllmRoute.Scheduler.Reload
import VllmRoute.Scheduler.Selection

/-!
# The endpoint pool under concurrent workers

The state that workers, the health checker and `reload_config` share through
`endpoints_mtx_`, with the attempts that workers have dispatched and not yet
reported. Each event is one critical section. The thresholds of a report are
part of its event: they are read under `config_mtx_` before the section, and
may be those of an earlier configuration.
-/
namespace VllmRoute.Scheduler

/-- A `call_vllm` in progress: a worker between `select_endpoint` and
`update_endpoint_result`. `era` counts the entries of the object into
`HalfOpen` up to the dispatch. -/
structure Attempt where
  endpoint : Nat
  era : Nat
  deriving DecidableEq

structure Dispatcher where
  pool : Pool
  nowMs : Int
  outstanding : List Attempt
  eras : Nat → Nat

inductive Event where
  | select (req : InferenceRequest) (highPriorityThreshold : Int)
  | complete (slot : Nat) (th : Thresholds) (ok : Bool) (latencyMs : Int)
  | health (id : Nat) (th : Thresholds) (ok : Bool) (latencyMs : Int)
  | reload (body : Json)
  | advance (ms : Nat)

namespace Dispatcher

/-- A scheduler right after `load_model`. -/
def start (pool : Pool) (nowMs : Int) : Dispatcher :=
  { pool := pool, nowMs := nowMs, outstanding := [], eras := fun _ => 0 }

/-- The eras after a critical section that took the heap to `after`. -/
def enter (d : Dispatcher) (after : Heap) (id : Nat) : Nat :=
  if (d.pool.heap id).circuitState = .opened ∧ (after id).circuitState = .halfOpen
    then d.eras id + 1 else d.eras id

def setHeap (d : Dispatcher) (heap : Heap) : Dispatcher :=
  { d with pool := { d.pool with heap := heap } }

/-- One critical section. A slot without an attempt and an object that was
never allocated have no step. A failed reload changes nothing. -/
def step (d : Dispatcher) : Event → Option Dispatcher
  | .select req threshold =>
    let (chosen, heap) := selectEndpoint req threshold d.nowMs d.pool.endpoints d.pool.heap
    let eras := d.enter heap
    some { d.setHeap heap with
      outstanding := match chosen with
        | some id => ⟨id, eras id⟩ :: d.outstanding
        | none => d.outstanding
      eras := eras }
  | .complete slot th ok latencyMs =>
    d.outstanding[slot]?.map fun a =>
      { d.setHeap (Function.update d.pool.heap a.endpoint
          (updateEndpointResult th d.nowMs ok latencyMs (d.pool.heap a.endpoint))) with
        outstanding := d.outstanding.eraseIdx slot }
  | .health id th ok latencyMs =>
    if id < d.pool.next then
      some (d.setHeap (Function.update d.pool.heap id
        (updateEndpointHealth th d.nowMs ok latencyMs (d.pool.heap id))))
    else none
  | .reload body =>
    match reloadConfig d.pool body d.nowMs with
    | .ok pool => some { d with pool := pool }
    | .error _ => some d
  | .advance ms => some { d with nowMs := d.nowMs + ms }

end Dispatcher

/-! ### One object at a time -/

/-- An object with the attempts on it that are outstanding, and those of them
that were dispatched since it last entered `HalfOpen`. -/
structure View where
  ep : VllmEndpoint
  outstanding : Nat
  probes : Nat

/-- What an event does to one object. `probe` says whether the attempt that
reports was dispatched since the object last entered `HalfOpen`. -/
inductive Act where
  | idle
  | dispatch
  | result (probe : Bool) (th : Thresholds) (ok : Bool) (latencyMs : Int)
  | health (th : Thresholds) (ok : Bool) (latencyMs : Int)

namespace Dispatcher

def outstandingOn (d : Dispatcher) (id : Nat) : Nat :=
  d.outstanding.countP fun a => a.endpoint == id

def probesOn (d : Dispatcher) (id : Nat) : Nat :=
  d.outstanding.countP fun a => a.endpoint == id && a.era == d.eras id

def view (d : Dispatcher) (id : Nat) : View := ⟨d.pool.heap id, d.outstandingOn id, d.probesOn id⟩

def actOn (d : Dispatcher) (id : Nat) : Event → Act
  | .select req threshold =>
    if (selectEndpoint req threshold d.nowMs d.pool.endpoints d.pool.heap).1 = some id
      then .dispatch else .idle
  | .complete slot th ok latencyMs =>
    match d.outstanding[slot]? with
    | some a => if a.endpoint = id then .result (a.era == d.eras id) th ok latencyMs else .idle
    | none => .idle
  | .health other th ok latencyMs => if other = id then .health th ok latencyMs else .idle
  | .reload _ => .idle
  | .advance _ => .idle

end Dispatcher

/-- The transitions of one object. -/
inductive Effect (nowMs : Int) : View → Act → View → Prop where
  | same (v : View) : Effect nowMs v .idle v
  | reopened (v : View) (opened : v.ep.circuitState = .opened)
      (due : v.ep.circuitOpenUntilMs ≤ nowMs) :
      Effect nowMs v .idle ⟨reopen v.ep, v.outstanding, 0⟩
  | dispatched (v w : View) (before : Effect nowMs v .idle w) (ready : Ready w.ep) :
      Effect nowMs v .dispatch ⟨dispatch w.ep, w.outstanding + 1, w.probes + 1⟩
  | reported (ep : VllmEndpoint) (n p : Nat) (probe : Bool) (th : Thresholds) (ok : Bool)
      (latencyMs : Int) :
      Effect nowMs ⟨ep, n + 1, p + probe.toNat⟩ (.result probe th ok latencyMs)
        ⟨updateEndpointResult th nowMs ok latencyMs ep, n, p⟩
  | checked (v : View) (th : Thresholds) (ok : Bool) (latencyMs : Int) :
      Effect nowMs v (.health th ok latencyMs)
        ⟨updateEndpointHealth th nowMs ok latencyMs v.ep, v.outstanding, v.probes⟩

/-- The backend of an object. -/
theorem Effect.backend {nowMs : Int} {v w : View} {act : Act} (effect : Effect nowMs v act w) :
    w.ep.baseUrl = v.ep.baseUrl ∧ w.ep.servedModel = v.ep.servedModel := by
  induction effect with
  | same | reopened => exact ⟨rfl, rfl⟩
  | dispatched v w _ _ ih => exact ih
  | reported ep n p probe th ok latencyMs =>
    have kept := updateEndpointResult_keepsSlots th nowMs ok latencyMs ep
    exact ⟨kept.baseUrl, kept.servedModel⟩
  | checked v th ok latencyMs =>
    have kept := updateEndpointHealth_keepsSlots th nowMs ok latencyMs v.ep
    exact ⟨kept.baseUrl, kept.servedModel⟩

/-- The fields of an object that identify its backend and bound its use. -/
theorem Effect.static {nowMs : Int} {v w : View} {act : Act} (effect : Effect nowMs v act w) :
    endpointRuntimeKey w.ep = endpointRuntimeKey v.ep ∧
      w.ep.maxConcurrency = v.ep.maxConcurrency := by
  obtain ⟨url, model⟩ := effect.backend
  refine ⟨by rw [endpointRuntimeKey, url, model, endpointRuntimeKey], ?_⟩
  clear url model
  induction effect with
  | same | reopened => rfl
  | dispatched v w _ _ ih => exact ih
  | reported ep n p probe th ok latencyMs =>
    exact (updateEndpointResult_keepsSlots th nowMs ok latencyMs ep).maxConcurrency
  | checked v th ok latencyMs =>
    exact (updateEndpointHealth_keepsSlots th nowMs ok latencyMs v.ep).maxConcurrency

namespace Dispatcher

/-- Attempts run on allocated objects and carry an era that has begun. -/
structure WellFormed (d : Dispatcher) : Prop where
  allocated : ∀ a ∈ d.outstanding, a.endpoint < d.pool.next
  begun : ∀ a ∈ d.outstanding, a.era ≤ d.eras a.endpoint
  listed : ∀ id ∈ d.pool.endpoints, id < d.pool.next

theorem le_enter (d : Dispatcher) (after : Heap) (id : Nat) : d.eras id ≤ d.enter after id := by
  unfold enter
  split
  · exact Nat.le_succ _
  · exact Nat.le_refl _

/-- The scan of a selection, seen from one object. -/
private theorem touched_effect (d : Dispatcher) (wf : d.WellFormed) (after : Heap) (id : Nat)
    (ep : VllmEndpoint) (touched : Touched d.nowMs (d.pool.heap id) ep)
    (state : (after id).circuitState = ep.circuitState) :
    Effect d.nowMs (d.view id) .idle ⟨ep, d.outstandingOn id,
      d.outstanding.countP fun a => a.endpoint == id && a.era == d.enter after id⟩ := by
  rcases touched with rfl | ⟨opened, due, rfl⟩
  · have still : d.enter after id = d.eras id := by
      unfold enter
      rw [state]
      split
      next both => rw [both.1] at both; cases both.2
      · rfl
    rw [still]
    exact Effect.same (d.view id)
  · have entered : d.enter after id = d.eras id + 1 := by
      unfold enter
      rw [state]
      exact if_pos ⟨opened, rfl⟩
    -- the era has just begun, so no attempt is of it
    have none :
        (d.outstanding.countP fun a => a.endpoint == id && a.era == d.enter after id) = 0 := by
      rw [List.countP_eq_zero, entered]
      intro a member both
      simp only [Bool.and_eq_true, beq_iff_eq] at both
      have bound := wf.begun a member
      rw [both.1, both.2] at bound
      omega
    rw [none]
    exact Effect.reopened (d.view id) opened due

private theorem select_effect (d d' : Dispatcher) (req : InferenceRequest) (threshold : Int)
    (wf : d.WellFormed) (taken : d.step (.select req threshold) = some d') (id : Nat) :
    Effect d.nowMs (d.view id) (d.actOn id (.select req threshold)) (d'.view id) := by
  cases selected : selectEndpoint req threshold d.nowMs d.pool.endpoints d.pool.heap with
  | mk chosen after =>
    obtain ⟨scanned, touched, rest⟩ := selectEndpoint_spec _ _ _ _ _ _ _ selected
    simp only [step, selected, Option.some.injEq] at taken
    subst taken
    simp only [actOn, selected]
    rcases rest with ⟨rfl, rfl⟩ | ⟨winner, _, rfl, ready, rfl⟩
    · exact touched_effect d wf after id _ (touched id) rfl
    · -- the scan touches every candidate, and the dispatch then counts on the winner
      by_cases same : id = winner
      · subst same
        rw [if_pos rfl]
        have before := touched_effect d wf
          (Function.update scanned id (dispatch (scanned id))) id _ (touched id)
          (by simp [dispatch])
        have after := Effect.dispatched _ _ before ready
        simpa [view, outstandingOn, probesOn, setHeap] using after
      · have other : ¬ winner = id := fun equal => same equal.symm
        rw [if_neg (by simpa using other)]
        have before := touched_effect d wf
          (Function.update scanned winner (dispatch (scanned winner))) id _ (touched id)
          (by simp [same])
        simpa [view, outstandingOn, probesOn, setHeap, same, other] using before

/-- Removing one attempt from the outstanding ones. -/
private theorem countP_eraseIdx (l : List Attempt) (slot : Nat) (a : Attempt)
    (found : l[slot]? = some a) (p : Attempt → Bool) :
    l.countP p = (l.eraseIdx slot).countP p + (p a).toNat := by
  induction l generalizing slot with
  | nil => simp at found
  | cons first rest ih =>
    cases slot with
    | zero =>
      simp only [List.getElem?_cons_zero, Option.some.injEq] at found
      subst found
      cases hold : p first <;> simp [hold]
    | succ slot =>
      have later := ih slot (by simpa using found)
      simp only [List.eraseIdx_cons_succ, List.countP_cons, later]
      omega

private theorem complete_effect (d d' : Dispatcher) (slot : Nat) (th : Thresholds) (ok : Bool)
    (latencyMs : Int) (taken : d.step (.complete slot th ok latencyMs) = some d') (id : Nat) :
    Effect d.nowMs (d.view id) (d.actOn id (.complete slot th ok latencyMs)) (d'.view id) := by
  cases found : d.outstanding[slot]? with
  | none => simp [step, found] at taken
  | some a =>
    simp only [step, found, Option.map_some, Option.some.injEq] at taken
    subst taken
    have counted := countP_eraseIdx d.outstanding slot a found
    simp only [actOn, found]
    by_cases same : a.endpoint = id
    · -- the attempt leaves both counts, the second only if it is a probe
      subst same
      rw [if_pos rfl]
      have effect := @Effect.reported d.nowMs (d.pool.heap a.endpoint)
        ((d.outstanding.eraseIdx slot).countP fun b => b.endpoint == a.endpoint)
        ((d.outstanding.eraseIdx slot).countP
          fun b => b.endpoint == a.endpoint && b.era == d.eras a.endpoint)
        (a.era == d.eras a.endpoint) th ok latencyMs
      simpa [view, outstandingOn, probesOn, setHeap, counted] using effect
    · rw [if_neg same]
      have other : ¬ id = a.endpoint := fun equal => same equal.symm
      have elsewhere : (a.endpoint == id) = false := by simpa using same
      have effect := @Effect.same d.nowMs (d.view id)
      simpa [view, outstandingOn, probesOn, setHeap, counted, elsewhere, other] using effect

/-- What a step does to an object: a transition of it, or its creation by a reload. -/
theorem step_effect (d d' : Dispatcher) (e : Event) (wf : d.WellFormed)
    (taken : d.step e = some d') (id : Nat) :
    Effect d.nowMs (d.view id) (d.actOn id e) (d'.view id) ∨
      (d.pool.next ≤ id ∧ id < d'.pool.next ∧ Idle (d'.pool.heap id) ∧ d'.outstandingOn id = 0 ∧
        d'.probesOn id = 0) := by
  cases e with
  | select req threshold => exact Or.inl (select_effect d d' req threshold wf taken id)
  | complete slot th ok latencyMs =>
    exact Or.inl (complete_effect d d' slot th ok latencyMs taken id)
  | health other th ok latencyMs =>
    left
    simp only [step] at taken
    split at taken
    · cases taken
      by_cases same : other = id
      · subst same
        simpa [actOn, view, outstandingOn, probesOn, setHeap] using
          @Effect.checked d.nowMs (d.view other) th ok latencyMs
      · have different : ¬ id = other := fun equal => same equal.symm
        simpa [actOn, same, view, outstandingOn, probesOn, setHeap, different] using
          @Effect.same d.nowMs (d.view id)
    · cases taken
  | reload body =>
    simp only [step] at taken
    split at taken
    next pool reloaded =>
      cases taken
      rcases reloadConfig_cases d.pool pool body d.nowMs reloaded with
        ⟨_, heap, _, _⟩ | ⟨_, eps, fresh, committed⟩
      · left
        simpa [actOn, view, outstandingOn, probesOn, heap] using
          @Effect.same d.nowMs (d.view id)
      · by_cases made : d.pool.next ≤ id ∧ id < pool.next
        · right
          obtain ⟨ep, member, equal⟩ := committed.made id made.1 made.2
          -- no attempt can be on an object that was not there before
          have absent (p : Attempt → Bool) (on : ∀ a, p a = true → a.endpoint = id) :
              d.outstanding.countP p = 0 := by
            rw [List.countP_eq_zero]
            intro a among holds
            have bound := wf.allocated a among
            rw [on a holds] at bound
            omega
          refine ⟨made.1, made.2, ?_, absent _ (by simp), absent _ (by simp; tauto)⟩
          rw [equal]
          exact carryRuntime_idle _ ep (fresh ep member).idle
        · left
          have heap : pool.heap id = d.pool.heap id := by
            by_cases early : id < d.pool.next
            · exact committed.kept id early
            · exact committed.beyond id (by omega)
          simpa [actOn, view, outstandingOn, probesOn, heap] using
            @Effect.same d.nowMs (d.view id)
    · cases taken
      exact Or.inl (Effect.same (d.view id))
  | advance ms =>
    cases taken
    exact Or.inl (Effect.same (d.view id))

/-- An object that is there before the step makes one of its own transitions. -/
theorem step_effect_of_lt (d d' : Dispatcher) (e : Event) (wf : d.WellFormed)
    (taken : d.step e = some d') {id : Nat} (inside : id < d.pool.next) :
    Effect d.nowMs (d.view id) (d.actOn id e) (d'.view id) := by
  rcases step_effect d d' e wf taken id with effect | ⟨unallocated, _⟩
  · exact effect
  · exact absurd inside (Nat.not_lt.mpr unallocated)

/-- What a step leaves alone, unless it is a reload that names endpoints. -/
theorem step_frame (d d' : Dispatcher) (e : Event) (taken : d.step e = some d') :
    (d'.pool.next = d.pool.next ∧ d'.pool.endpoints = d.pool.endpoints ∧ d.nowMs ≤ d'.nowMs) ∨
      ∃ body eps, e = .reload body ∧ hasEndpointReloadConfig body = true ∧
        reloadConfig d.pool body d.nowMs = .ok d'.pool ∧ d'.nowMs = d.nowMs ∧
        Committed (oldByKey d.pool.heap d.pool.endpoints) { d.pool with endpoints := [] } eps
          d'.pool := by
  cases e with
  | select req threshold =>
    simp only [step, Option.some.injEq] at taken
    subst taken
    exact Or.inl ⟨rfl, rfl, Int.le_refl _⟩
  | complete slot th ok latencyMs =>
    simp only [step, Option.map_eq_some_iff] at taken
    obtain ⟨_, _, rfl⟩ := taken
    exact Or.inl ⟨rfl, rfl, Int.le_refl _⟩
  | health other th ok latencyMs =>
    simp only [step] at taken
    split at taken <;> cases taken
    exact Or.inl ⟨rfl, rfl, Int.le_refl _⟩
  | reload body =>
    simp only [step] at taken
    split at taken
    next pool reloaded =>
      cases taken
      rcases reloadConfig_cases d.pool pool body d.nowMs reloaded with
        ⟨_, _, next, endpoints⟩ | ⟨changed, eps, _, committed⟩
      · exact Or.inl ⟨next, endpoints, Int.le_refl _⟩
      · exact Or.inr ⟨body, eps, rfl, changed, reloaded, rfl, committed⟩
    · cases taken
      exact Or.inl ⟨rfl, rfl, Int.le_refl _⟩
  | advance ms =>
    cases taken
    refine Or.inl ⟨rfl, rfl, ?_⟩
    dsimp only
    omega

/-- Objects are never freed, and the clock does not go back. -/
theorem step_monotone (d d' : Dispatcher) (e : Event) (taken : d.step e = some d') :
    d.pool.next ≤ d'.pool.next ∧ d.nowMs ≤ d'.nowMs := by
  rcases step_frame d d' e taken with ⟨next, _, later⟩ | ⟨_, _, _, _, _, now, committed⟩
  · exact ⟨Nat.le_of_eq next.symm, later⟩
  · have grown := committed.next
    exact ⟨grown ▸ Nat.le_add_right _ _, Int.le_of_eq now.symm⟩

/-- Attempts are only added by a dispatch to a listed object, in its current era, and an era
does not go back. -/
theorem step_attempts (d d' : Dispatcher) (e : Event) (taken : d.step e = some d') (a : Attempt)
    (member : a ∈ d'.outstanding) :
    (a ∈ d.outstanding ∧ d.eras a.endpoint ≤ d'.eras a.endpoint) ∨
      (a.endpoint ∈ d.pool.endpoints ∧ a.era = d'.eras a.endpoint) := by
  cases e with
  | select req threshold =>
    cases selected : selectEndpoint req threshold d.nowMs d.pool.endpoints d.pool.heap with
    | mk chosen after =>
      obtain ⟨_, _, rest⟩ := selectEndpoint_spec _ _ _ _ _ _ _ selected
      simp only [step, selected, Option.some.injEq] at taken
      subst taken
      have later := le_enter d after a.endpoint
      rcases rest with ⟨rfl, _⟩ | ⟨winner, listed, rfl, _, _⟩
      · exact Or.inl ⟨member, later⟩
      · rcases List.mem_cons.mp member with rfl | old
        · exact Or.inr ⟨listed, rfl⟩
        · exact Or.inl ⟨old, later⟩
  | complete slot th ok latencyMs =>
    simp only [step, Option.map_eq_some_iff] at taken
    obtain ⟨_, _, rfl⟩ := taken
    exact Or.inl ⟨List.mem_of_mem_eraseIdx member, Nat.le_refl _⟩
  | health other th ok latencyMs =>
    simp only [step] at taken
    split at taken <;> cases taken
    exact Or.inl ⟨member, Nat.le_refl _⟩
  | reload body =>
    simp only [step] at taken
    split at taken <;> cases taken <;> exact Or.inl ⟨member, Nat.le_refl _⟩
  | advance ms =>
    cases taken
    exact Or.inl ⟨member, Nat.le_refl _⟩

theorem step_wellFormed (d d' : Dispatcher) (e : Event) (wf : d.WellFormed)
    (taken : d.step e = some d') : d'.WellFormed := by
  have grown := (step_monotone d d' e taken).1
  refine ⟨fun a member => ?_, fun a member => ?_, fun id member => ?_⟩
  · rcases step_attempts d d' e taken a member with ⟨old, _⟩ | ⟨listed, _⟩
    · exact Nat.lt_of_lt_of_le (wf.allocated a old) grown
    · exact Nat.lt_of_lt_of_le (wf.listed _ listed) grown
  · rcases step_attempts d d' e taken a member with ⟨old, later⟩ | ⟨_, current⟩
    · exact Nat.le_trans (wf.begun a old) later
    · exact Nat.le_of_eq current
  · rcases step_frame d d' e taken with ⟨next, endpoints, _⟩ | ⟨_, eps, _, _, _, _, committed⟩
    · rw [next]
      exact wf.listed id (endpoints ▸ member)
    · -- the objects of the new list are the ones that were just made
      have among : id ∈ List.range' d.pool.next eps.length := by
        simpa [committed.endpoints] using member
      rw [committed.next]
      exact (List.mem_range'_1.mp among).2

theorem step_static (d d' : Dispatcher) (e : Event) (wf : d.WellFormed)
    (taken : d.step e = some d') (id : Nat) (allocated : id < d.pool.next) :
    endpointRuntimeKey (d'.pool.heap id) = endpointRuntimeKey (d.pool.heap id) ∧
      (d'.pool.heap id).maxConcurrency = (d.pool.heap id).maxConcurrency := by
  rcases step_effect d d' e wf taken id with effect | ⟨unallocated, _⟩
  · exact effect.static
  · omega

theorem step_backend (d d' : Dispatcher) (e : Event) (wf : d.WellFormed)
    (taken : d.step e = some d') (id : Nat) (allocated : id < d.pool.next) :
    (d'.pool.heap id).baseUrl = (d.pool.heap id).baseUrl ∧
      (d'.pool.heap id).servedModel = (d.pool.heap id).servedModel := by
  rcases step_effect d d' e wf taken id with effect | ⟨unallocated, _⟩
  · exact effect.backend
  · omega

/-- `endpoints_` is written by a reload that names endpoints, and by nothing else. -/
theorem step_endpoints (d d' : Dispatcher) (e : Event) (taken : d.step e = some d') :
    d'.pool.endpoints = d.pool.endpoints ∨
      ∃ body, e = .reload body ∧ hasEndpointReloadConfig body = true ∧
        reloadConfig d.pool body d.nowMs = .ok d'.pool := by
  rcases step_frame d d' e taken with ⟨_, same, _⟩ | ⟨body, _, reload, changed, reloaded, _⟩
  · exact Or.inl same
  · exact Or.inr ⟨body, reload, changed, reloaded⟩

theorem start_wellFormed (env : Environment) (body : Json) (pool : Pool) (nowMs : Int)
    (loaded : loadModel env body = .ok pool) : (start pool nowMs).WellFormed :=
  ⟨by simp [start], by simp [start], (loadModel_fresh env body pool loaded).listed⟩

end Dispatcher

end VllmRoute.Scheduler
