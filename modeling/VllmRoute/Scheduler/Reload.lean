import Mathlib.Order.Lattice
import VllmRoute.Scheduler.Config

/-!
# What loading and reloading do to the endpoint objects

A load creates idle objects. A reload leaves every existing object alone: it
either keeps `endpoints_` or replaces it by objects at fresh identities.
-/
namespace VllmRoute.Scheduler

/-- An object that no attempt has been dispatched to. -/
structure Idle (ep : VllmEndpoint) : Prop where
  inflight : ep.inflight = 0
  halfOpenInflight : ep.halfOpenInflight = 0
  capacity : 1 ≤ ep.maxConcurrency

/-- An object that nothing has been reported on either. -/
structure Unworn (ep : VllmEndpoint) : Prop where
  idle : Idle ep
  healthy : ep.healthy = true
  closed : ep.circuitState = .closed
  consecutiveFailures : ep.consecutiveFailures = 0
  consecutiveSuccesses : ep.consecutiveSuccesses = 0
  successCount : ep.successCount = 0
  failureCount : ep.failureCount = 0
  circuitOpenCount : ep.circuitOpenCount = 0

theorem unworn_default : Unworn {} := ⟨⟨rfl, rfl, by decide⟩, rfl, rfl, rfl, rfl, rfl, rfl, rfl⟩

theorem buildEndpointItem_unworn (item : Json) (index : Nat) (defaultModel defaultApiKey : String)
    (mockMode : Bool) (ep : VllmEndpoint)
    (built : buildEndpointItem item index defaultModel defaultApiKey mockMode = .ok ep) :
    Unworn ep := by
  unfold buildEndpointItem at built
  dsimp only at built
  split at built
  · cases built
  · split at built
    · cases built
    · cases built
      exact ⟨⟨rfl, rfl, le_max_left _ _⟩, rfl, rfl, rfl, rfl, rfl, rfl, rfl⟩

theorem buildEndpointItems_forall {holds : VllmEndpoint → Prop}
    (defaultModel defaultApiKey : String) (mockMode strictItems : Bool)
    (each : ∀ item index ep,
      buildEndpointItem item index defaultModel defaultApiKey mockMode = .ok ep → holds ep)
    (items : List Json) (index : Nat) (eps : List VllmEndpoint)
    (built :
      buildEndpointItems defaultModel defaultApiKey mockMode strictItems items index = .ok eps) :
    ∀ ep ∈ eps, holds ep := by
  induction items generalizing index eps with
  | nil =>
    cases built
    simp
  | cons item rest ih =>
    simp only [buildEndpointItems] at built
    split at built
    · obtain ⟨ep, first, built⟩ := (bind_ok_iff _ _ _).mp built
      obtain ⟨others, later, built⟩ := (bind_ok_iff _ _ _).mp built
      cases built
      intro other member
      rcases List.mem_cons.mp member with rfl | member
      · exact each item index other first
      · exact ih (index + 1) others later other member
    · -- an item that is no object is an error or is skipped
      split at built
      · cases built
      · exact ih index eps built

theorem checkBaseUrls_ok_iff (mockMode : Bool) (eps checked : List VllmEndpoint) :
    checkBaseUrls mockMode eps = .ok checked ↔
      checked = eps ∧ (mockMode = false → ∀ ep ∈ eps, ep.baseUrl ≠ "") := by
  unfold checkBaseUrls
  split
  next missing =>
    simp only [Bool.and_eq_true, Bool.not_eq_true', List.any_eq_true, decide_eq_true_eq] at missing
    obtain ⟨real, ep, member, empty⟩ := missing
    exact ⟨nofun, fun ⟨_, based⟩ => absurd empty (based real ep member)⟩
  next based =>
    simp only [Bool.and_eq_true, Bool.not_eq_true', List.any_eq_true, decide_eq_true_eq, not_and,
      not_exists] at based
    refine ⟨fun equal => ⟨(Except.ok.inj equal).symm, based⟩, ?_⟩
    rintro ⟨rfl, _⟩
    rfl

/-- What holds of every item and of the default endpoint holds of all endpoints. -/
theorem buildEndpointsFromConfig_forall (holds : VllmEndpoint → Prop) (body : Json)
    (defaultModel defaultBaseUrl defaultApiKey : String) (mockMode strictItems : Bool)
    (each : ∀ item index ep,
      buildEndpointItem item index defaultModel defaultApiKey mockMode = .ok ep → holds ep)
    (default : holds (defaultEndpoint defaultModel defaultBaseUrl defaultApiKey))
    (eps : List VllmEndpoint)
    (built : buildEndpointsFromConfig body defaultModel defaultBaseUrl defaultApiKey mockMode
      strictItems = .ok eps) :
    ∀ ep ∈ eps, holds ep := by
  unfold buildEndpointsFromConfig at built
  obtain ⟨items, _, built⟩ := (bind_ok_iff _ _ _).mp built
  obtain ⟨found, parsed, built⟩ := (bind_ok_iff _ _ _).mp built
  obtain ⟨rfl, _⟩ := (checkBaseUrls_ok_iff _ _ _).mp built
  split
  · -- without a usable item there is one endpoint, from the defaults
    intro ep member
    rw [List.mem_singleton] at member
    subst member
    exact default
  · exact buildEndpointItems_forall _ _ _ _ each _ _ _ parsed

theorem buildEndpointsFromConfig_unworn (body : Json)
    (defaultModel defaultBaseUrl defaultApiKey : String) (mockMode strictItems : Bool)
    (eps : List VllmEndpoint)
    (built : buildEndpointsFromConfig body defaultModel defaultBaseUrl defaultApiKey mockMode
      strictItems = .ok eps) :
    ∀ ep ∈ eps, Unworn ep :=
  buildEndpointsFromConfig_forall Unworn body _ _ _ _ _
    (fun item index ep built => buildEndpointItem_unworn item index _ _ _ ep built)
    ⟨⟨rfl, rfl, le_refl 1⟩, rfl, rfl, rfl, rfl, rfl, rfl, rfl⟩ eps built

theorem fillDefaultFallbackChain_ne_nil (chain : List String) (model : String)
    (eps : List VllmEndpoint) : fillDefaultFallbackChain chain model eps ≠ [] := by
  unfold fillDefaultFallbackChain
  split
  · have grows (eps : List VllmEndpoint) (chain : List String) (some : chain ≠ []) :
        eps.foldl (fun chain ep => if chain.contains ep.servedModel then chain
          else chain ++ [ep.servedModel]) chain ≠ [] := by
      -- the chain only grows
      induction eps generalizing chain with
      | nil => exact some
      | cons ep eps ih =>
        refine ih _ ?_
        dsimp only
        split
        · exact some
        · simp
    exact grows eps [model] (by simp)
  next given => simpa using given

theorem fillDefaultFallbackChain_given {chain : List String} (given : chain ≠ []) (model : String)
    (eps : List VllmEndpoint) : fillDefaultFallbackChain chain model eps = chain := by
  rw [fillDefaultFallbackChain, if_neg (by simpa using given)]

/-! ### Loading -/

/-- A pool as `load_model` leaves it. -/
structure FreshPool (pool : Pool) : Prop where
  idle : ∀ id, Idle (pool.heap id)
  closed : ∀ id, (pool.heap id).circuitState = .closed
  listed : ∀ id ∈ pool.endpoints, id < pool.next
  published : ∀ entry ∈ pool.globalEndpoints, entry.2 < pool.next

/-- What holds of all objects and of a configured endpoint holds of all objects that are
shared then, if an object that takes over the configuration keeps it. -/
theorem shareEndpointRuntime_forall (holds : VllmEndpoint → Prop) {pool : Pool}
    {configured : VllmEndpoint} (all : ∀ id, holds (pool.heap id)) (own : holds configured)
    (adopted : ∀ ep, holds ep → holds (adoptConfiguration ep configured)) :
    ∀ id, holds ((shareEndpointRuntime pool configured).heap id) := by
  unfold shareEndpointRuntime
  split
  · exact (Function.forall_update_iff _ fun _ ep => holds ep).mpr
      ⟨adopted _ (all _), fun other _ => all other⟩
  · exact (Function.forall_update_iff _ fun _ ep => holds ep).mpr ⟨own, fun other _ => all other⟩

theorem shareEndpointRuntime_fresh (pool : Pool) (configured : VllmEndpoint)
    (fresh : FreshPool pool) (unworn : Unworn configured) :
    FreshPool (shareEndpointRuntime pool configured) := by
  -- an object that is taken over keeps its counters and its circuit
  refine ⟨shareEndpointRuntime_forall Idle fresh.idle unworn.idle fun _ before =>
      ⟨before.inflight, before.halfOpenInflight, unworn.idle.capacity⟩,
    shareEndpointRuntime_forall (fun ep => ep.circuitState = .closed) fresh.closed unworn.closed
      fun _ before => before, ?_, ?_⟩
  · unfold shareEndpointRuntime
    split
    next id found =>
      have known : id < pool.next := by
        obtain ⟨pre, post, equal, _⟩ := List.lookup_eq_some_iff.mp found
        exact fresh.published (endpointRuntimeKey configured, id) (by simp [equal])
      intro other member
      rcases List.mem_append.mp member with old | new
      · exact fresh.listed other old
      · exact List.mem_singleton.mp new ▸ known
    next =>
      intro other member
      rcases List.mem_append.mp member with old | new
      · exact Nat.lt_succ_of_lt (fresh.listed other old)
      · exact List.mem_singleton.mp new ▸ Nat.lt_succ_self _
  · unfold shareEndpointRuntime
    split
    · exact fresh.published
    · -- the first entry with its key is published as a new object
      intro entry member
      rcases List.mem_cons.mp member with rfl | old
      · exact Nat.lt_succ_self _
      · exact Nat.lt_succ_of_lt (fresh.published entry old)

private theorem share_all_fresh (eps : List VllmEndpoint) (pool : Pool) (fresh : FreshPool pool)
    (each : ∀ ep ∈ eps, Unworn ep) : FreshPool (eps.foldl shareEndpointRuntime pool) := by
  induction eps generalizing pool with
  | nil => exact fresh
  | cons ep eps ih =>
    exact ih _ (shareEndpointRuntime_fresh pool ep fresh (each ep (by simp)))
      (fun other member => each other (by simp [member]))

/-- The objects of a loaded pool. -/
theorem loadModel_shared (env : Environment) (body : Json) (pool : Pool)
    (loaded : loadModel env body = .ok pool) : ∃ cfg cfg' eps,
    buildEndpointsFromConfig body cfg.model cfg.baseUrl cfg.apiKey cfg.mockMode false = .ok eps ∧
    pool = { eps.foldl shareEndpointRuntime
      { cfg := cfg, heap := fun _ => {}, next := 0, endpoints := [], globalEndpoints := [] } with
      cfg := cfg' } := by
  unfold loadModel at loaded
  dsimp only at loaded
  split at loaded
  · cases loaded
  · obtain ⟨profiles, _, loaded⟩ := (bind_ok_iff _ _ _).mp loaded
    obtain ⟨eps, built, loaded⟩ := (bind_ok_iff _ _ _).mp loaded
    cases loaded
    exact ⟨_, _, eps, built, rfl⟩

theorem loadModel_fresh (env : Environment) (body : Json) (pool : Pool)
    (loaded : loadModel env body = .ok pool) : FreshPool pool := by
  obtain ⟨cfg, cfg', eps, built, rfl⟩ := loadModel_shared env body pool loaded
  have whole := share_all_fresh eps
    { cfg := cfg, heap := fun _ => {}, next := 0, endpoints := [], globalEndpoints := [] }
    ⟨fun _ => unworn_default.idle, fun _ => rfl, by simp, by simp⟩
    (buildEndpointsFromConfig_unworn _ _ _ _ _ _ _ built)
  exact ⟨whole.idle, whole.closed, whole.listed, whole.published⟩

/-- No object has reported anything after a load. -/
theorem loadModel_unworn (env : Environment) (body : Json) (pool : Pool)
    (loaded : loadModel env body = .ok pool) : ∀ id, Unworn (pool.heap id) := by
  obtain ⟨cfg, cfg', eps, built, rfl⟩ := loadModel_shared env body pool loaded
  have shared (pool : Pool) (eps : List VllmEndpoint) (all : ∀ id, Unworn (pool.heap id))
      (each : ∀ ep ∈ eps, Unworn ep) :
      ∀ id, Unworn ((eps.foldl shareEndpointRuntime pool).heap id) := by
    induction eps generalizing pool with
    | nil => exact all
    | cons ep eps ih =>
      have own := each ep (by simp)
      refine ih _ (shareEndpointRuntime_forall Unworn all own fun _ before => ?_)
        fun other member => each other (by simp [member])
      exact { before with
        idle := ⟨before.idle.inflight, before.idle.halfOpenInflight, own.idle.capacity⟩ }
  exact shared _ eps (fun _ => unworn_default)
    (buildEndpointsFromConfig_unworn _ _ _ _ _ _ _ built)

/-! ### Reloading -/

/-- What the commit leaves of the pool it started from, after some of the
configured endpoints. -/
structure Committed (old : String → Option VllmEndpoint) (start : Pool)
    (configured : List VllmEndpoint) (pool : Pool) : Prop where
  next : pool.next = start.next + configured.length
  endpoints : pool.endpoints = start.endpoints ++ List.range' start.next configured.length
  kept : ∀ id < start.next, pool.heap id = start.heap id
  listed : (List.range' start.next configured.length).map pool.heap =
    configured.map (carryRuntime old)
  beyond : ∀ id, pool.next ≤ id → pool.heap id = start.heap id

/-- Every new object was made for one of the configured endpoints. -/
theorem Committed.made {old : String → Option VllmEndpoint} {start pool : Pool}
    {configured : List VllmEndpoint} (committed : Committed old start configured pool) (id : Nat)
    (low : start.next ≤ id) (high : id < pool.next) :
    ∃ ep ∈ configured, pool.heap id = carryRuntime old ep := by
  have bound : id < start.next + configured.length := committed.next ▸ high
  have member : pool.heap id ∈ configured.map (carryRuntime old) := by
    rw [← committed.listed]
    exact List.mem_map_of_mem (List.mem_range'_1.mpr ⟨low, bound⟩)
  obtain ⟨ep, among, made⟩ := List.mem_map.mp member
  exact ⟨ep, among, made.symm⟩

theorem commitEndpoint_committed (old : String → Option VllmEndpoint) (start pool : Pool)
    (done : List VllmEndpoint) (configured : VllmEndpoint)
    (committed : Committed old start done pool) :
    Committed old start (done ++ [configured]) (commitEndpoint old pool configured) := by
  have bound : start.next ≤ pool.next := by rw [committed.next]; exact Nat.le_add_right _ _
  constructor
  · simp only [commitEndpoint, committed.next, List.length_append, List.length_singleton]
    omega
  · simp only [commitEndpoint, committed.endpoints, committed.next, List.length_append,
      List.length_singleton, List.append_assoc, List.range'_concat]
    simp
  · intro id before
    have other : id ≠ pool.next := by omega
    simpa [commitEndpoint, other] using committed.kept id before
  · -- the objects made so far are not written again
    have earlier :
        (List.range' start.next done.length).map (commitEndpoint old pool configured).heap =
        (List.range' start.next done.length).map pool.heap := by
      refine List.map_congr_left fun id member => ?_
      have inside := List.mem_range'_1.mp member
      have other : id ≠ pool.next := by rw [committed.next]; omega
      simp [commitEndpoint, other]
    rw [List.length_append, List.length_singleton, List.range'_concat, List.map_append, earlier,
      committed.listed, List.map_append, Nat.one_mul, ← committed.next]
    simp [commitEndpoint]
  · intro id after
    have other : id ≠ pool.next := by simp only [commitEndpoint] at after; omega
    have later : pool.next ≤ id := by simp only [commitEndpoint] at after; omega
    simpa [commitEndpoint, other] using committed.beyond id later

theorem commitReloadedEndpointsLocked_committed (pool : Pool) (configured : List VllmEndpoint) :
    Committed (oldByKey pool.heap pool.endpoints) { pool with endpoints := [] } configured
      (commitReloadedEndpointsLocked pool configured) := by
  generalize oldIs : oldByKey pool.heap pool.endpoints = old
  -- the loop over `configured`, from any point of it
  have loop (rest done : List VllmEndpoint) (mid : Pool)
      (committed : Committed old { pool with endpoints := [] } done mid) :
      Committed old { pool with endpoints := [] } (done ++ rest)
        (rest.foldl (commitEndpoint old) mid) := by
    induction rest generalizing done mid with
    | nil => simpa using committed
    | cons ep rest ih =>
      have next := ih (done ++ [ep]) _ (commitEndpoint_committed old _ mid done ep committed)
      simpa using next
  have initial : Committed old { pool with endpoints := [] } [] { pool with endpoints := [] } :=
    ⟨rfl, rfl, fun _ _ => rfl, rfl, fun _ _ => rfl⟩
  simpa [commitReloadedEndpointsLocked, oldIs] using loop configured [] _ initial

/-- A new object starts with no attempt on it, whatever its predecessor had. -/
theorem carryRuntime_idle (old : String → Option VllmEndpoint) (ep : VllmEndpoint)
    (idle : Idle ep) : Idle (carryRuntime old ep) := by
  unfold carryRuntime
  split
  · exact ⟨rfl, rfl, idle.capacity⟩
  · exact idle

theorem carryRuntime_key (old : String → Option VllmEndpoint) (ep : VllmEndpoint) :
    endpointRuntimeKey (carryRuntime old ep) = endpointRuntimeKey ep := by
  unfold carryRuntime
  split <;> rfl

/-- The predecessor of a new object, when its key stands for one old object only. -/
theorem carryRuntime_oldByKey {heap : Heap} {endpoints : List Nat} {ep : VllmEndpoint} {id : Nat}
    (member : id ∈ endpoints) (same : endpointRuntimeKey (heap id) = endpointRuntimeKey ep)
    (only : ∀ other ∈ endpoints,
      endpointRuntimeKey (heap other) = endpointRuntimeKey ep → other = id) :
    carryRuntime (oldByKey heap endpoints) ep = copyEndpointRuntimeFields ep (heap id) := by
  have found : oldByKey heap endpoints (endpointRuntimeKey ep) = some (heap id) := by
    unfold oldByKey
    cases search : endpoints.reverse.find? fun id =>
        endpointRuntimeKey (heap id) = endpointRuntimeKey ep with
    | none =>
      have none := List.find?_eq_none.mp search id (by simpa using member)
      simp [same] at none
    | some other =>
      -- whichever object with the key is found last, it is `id`
      have key := List.find?_some search
      have listed := List.mem_of_find?_eq_some search
      rw [only other (by simpa using listed) (by simpa using key)]
      rfl
  rw [carryRuntime, found]

/-- When a reload succeeds, and the pool that it leaves. -/
theorem reloadConfig_ok_iff (pool pool' : Pool) (body : Json) (nowMs : Int) :
    reloadConfig pool body nowMs = .ok pool' ↔
      body.isObject = true ∧ validateStaticReloadFields body pool.cfg = .ok () ∧ ∃ profiles,
        reloadProfiles body pool.cfg = .ok profiles ∧
        if hasEndpointReloadConfig body then
          ∃ eps, buildEndpointsFromConfig body pool.cfg.model (reloadBaseUrl body pool.cfg)
              pool.cfg.apiKey pool.cfg.mockMode true = .ok eps ∧
            pool' = { commitReloadedEndpointsLocked pool eps with
              cfg := committedConfig (reloadScalars body pool.cfg) (reloadBaseUrl body pool.cfg)
                profiles eps nowMs }
        else pool' = { pool with
          cfg := committedConfig (reloadScalars body pool.cfg) pool.cfg.baseUrl profiles
            (pool.endpoints.map pool.heap) nowMs } := by
  unfold reloadConfig
  cases body.isObject with
  | false => exact ⟨nofun, nofun⟩
  | true =>
    simp only [Bool.not_true, Bool.false_eq_true, if_false, true_and, bind_ok_iff]
    -- the checks of the static fields leave nothing behind
    refine ⟨fun ⟨_, valid, profiles, read, ends⟩ => ⟨valid, profiles, read, ?_⟩,
      fun ⟨valid, profiles, read, ends⟩ => ⟨(), valid, profiles, read, ?_⟩⟩
    · split at ends
      next changed =>
        obtain ⟨eps, built, ends⟩ := (bind_ok_iff _ _ _).mp ends
        rw [if_pos changed]
        exact ⟨eps, built, (Except.ok.inj ends).symm⟩
      next unchanged =>
        rw [if_neg unchanged]
        exact (Except.ok.inj ends).symm
    · split at ends
      next changed =>
        obtain ⟨eps, built, rfl⟩ := ends
        rw [if_pos changed]
        exact (bind_ok_iff _ _ _).mpr ⟨eps, built, rfl⟩
      next unchanged =>
        rw [if_neg unchanged, ends]
        rfl

/-- The configuration of a reload that succeeds. -/
theorem reloadConfig_cfg (pool pool' : Pool) (body : Json) (nowMs : Int)
    (reloaded : reloadConfig pool body nowMs = .ok pool') :
    ∃ baseUrl profiles eps,
      pool'.cfg = committedConfig (reloadScalars body pool.cfg) baseUrl profiles eps nowMs := by
  obtain ⟨_, _, profiles, _, ends⟩ := (reloadConfig_ok_iff pool pool' body nowMs).mp reloaded
  split at ends
  · obtain ⟨eps, _, rfl⟩ := ends
    exact ⟨_, _, _, rfl⟩
  · rw [ends]
    exact ⟨_, _, _, rfl⟩

/-- The two ways a reload can succeed, as far as the endpoint objects go. -/
theorem reloadConfig_cases (pool pool' : Pool) (body : Json) (nowMs : Int)
    (reloaded : reloadConfig pool body nowMs = .ok pool') :
    (hasEndpointReloadConfig body = false ∧ pool'.heap = pool.heap ∧ pool'.next = pool.next ∧
      pool'.endpoints = pool.endpoints) ∨
    (hasEndpointReloadConfig body = true ∧ ∃ eps : List VllmEndpoint,
      (∀ ep ∈ eps, Unworn ep) ∧
      Committed (oldByKey pool.heap pool.endpoints) { pool with endpoints := [] } eps pool') := by
  obtain ⟨_, _, profiles, _, ends⟩ := (reloadConfig_ok_iff pool pool' body nowMs).mp reloaded
  split at ends
  next changed =>
    obtain ⟨eps, built, rfl⟩ := ends
    have committed := commitReloadedEndpointsLocked_committed pool eps
    exact Or.inr ⟨changed, eps, buildEndpointsFromConfig_unworn _ _ _ _ _ _ _ built,
      ⟨committed.next, committed.endpoints, committed.kept, committed.listed, committed.beyond⟩⟩
  next unchanged =>
    rw [ends]
    exact Or.inl ⟨by simpa using unchanged, rfl, rfl, rfl⟩

end VllmRoute.Scheduler
