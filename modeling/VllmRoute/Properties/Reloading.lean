import VllmRoute.Scheduler.Sharing
import VllmRoute.Scheduler.Task

/-!
# Atomicity and repetition of a reload

A reload that fails leaves the scheduler as it was. One that succeeds counts
itself once, leaves the static fields, the queue and the records alone, and
hands the history of each endpoint on to its successor. The same reload once
more changes nothing but the counters.
-/
namespace VllmRoute.Scheduler

/-- What an endpoint object has gone through. -/
structure SameHistory (new old : VllmEndpoint) : Prop where
  healthy : new.healthy = old.healthy
  circuitState : new.circuitState = old.circuitState
  circuitOpenUntilMs : new.circuitOpenUntilMs = old.circuitOpenUntilMs
  consecutiveFailures : new.consecutiveFailures = old.consecutiveFailures
  consecutiveSuccesses : new.consecutiveSuccesses = old.consecutiveSuccesses
  successCount : new.successCount = old.successCount
  failureCount : new.failureCount = old.failureCount
  timeoutCount : new.timeoutCount = old.timeoutCount
  circuitOpenCount : new.circuitOpenCount = old.circuitOpenCount

/-- Every new endpoint whose key occurs once in the old list has the history of the
endpoint with that key. -/
def KeepsHistory (pool pool' : Pool) : Prop :=
  ∀ id' ∈ pool'.endpoints, ∀ id ∈ pool.endpoints,
    endpointRuntimeKey (pool.heap id) = endpointRuntimeKey (pool'.heap id') →
    (pool.endpoints.map fun id => endpointRuntimeKey (pool.heap id)).count
      (endpointRuntimeKey (pool'.heap id')) = 1 →
    SameHistory (pool'.heap id') (pool.heap id)

/-- What a reload that succeeds does to a task. -/
structure Task.Reloaded (t t' : Task) : Prop where
  configVersion : t'.pool.cfg.configVersion = t.pool.cfg.configVersion + 1
  configUpdateCount : t'.pool.cfg.configUpdateCount = t.pool.cfg.configUpdateCount + 1
  model : t'.pool.cfg.model = t.pool.cfg.model
  responseFormat : t'.pool.cfg.responseFormat = t.pool.cfg.responseFormat
  endpoint : t'.pool.cfg.endpoint = t.pool.cfg.endpoint
  workerCount : t'.pool.cfg.workerCount = t.pool.cfg.workerCount
  mockMode : t'.pool.cfg.mockMode = t.pool.cfg.mockMode
  apiKey : t'.pool.cfg.apiKey = t.pool.cfg.apiKey
  queue : t'.queue = t.queue
  records : t'.records = t.records
  history : KeepsHistory t.pool t'.pool

theorem eq_of_countP_eq_one {α : Type} {l : List α} {p : α → Bool} (once : l.countP p = 1)
    {x y : α} (hx : x ∈ l) (hy : y ∈ l) (px : p x = true) (py : p y = true) : x = y := by
  rw [List.countP_eq_length_filter] at once
  obtain ⟨z, only⟩ := List.length_eq_one_iff.mp once
  have unique (w : α) (hw : w ∈ l) (pw : p w = true) : w = z := by
    have member : w ∈ l.filter p := List.mem_filter.mpr ⟨hw, pw⟩
    rw [only, List.mem_singleton] at member
    exact member
  rw [unique x hx px, unique y hy py]

theorem reloadConfig_keepsHistory (pool pool' : Pool) (body : Json) (nowMs : Int)
    (reloaded : reloadConfig pool body nowMs = .ok pool') : KeepsHistory pool pool' := by
  intro id' member' id member same once
  have only : ∀ other ∈ pool.endpoints, endpointRuntimeKey (pool.heap other) =
      endpointRuntimeKey (pool'.heap id') → other = id :=
    fun other listed key => eq_of_countP_eq_one (List.countP_map.symm.trans once) listed member
      (by simpa using key) (by simpa using same)
  rcases reloadConfig_cases pool pool' body nowMs reloaded with
    ⟨_, heap, _, endpoints⟩ | ⟨_, eps, _, committed⟩
  · -- the endpoints stay, so the new endpoint is the old one
    rw [endpoints] at member'
    rw [heap] at only ⊢
    rw [only id' member' rfl]
    constructor <;> rfl
  · -- the new endpoint is a copy with the history of the old one
    have range : id' ∈ List.range' pool.next eps.length := by
      simpa [committed.endpoints] using member'
    have bounds := List.mem_range'_1.mp range
    have next := committed.next
    obtain ⟨ep, _, made⟩ := committed.made id' bounds.1 (by rw [next]; exact bounds.2)
    rw [made, carryRuntime_key] at only same
    rw [made, carryRuntime_oldByKey member same only]
    constructor <;> rfl

/-- A reload takes effect as a whole or not at all. -/
theorem Task.reload_atomic (body : Json) (nowMs : Int) (t : Task) :
    match (Task.reload body nowMs).run t with
    | .ok _ t' => t.Reloaded t'
    | .error _ t' => t' = t := by
  have computes := Task.reload_computes body nowMs t
  cases reloaded : reloadConfig t.pool body nowMs with
  | error message =>
    rw [reloaded] at computes
    have run : (Task.reload body nowMs).run t = .error message t := computes
    rw [run]
  | ok pool' =>
    rw [reloaded] at computes
    have run : (Task.reload body nowMs).run t = .ok () (t.setPool pool') := computes
    rw [run]
    obtain ⟨baseUrl, profiles, eps, cfg⟩ := reloadConfig_cfg t.pool pool' body nowMs reloaded
    have history := reloadConfig_keepsHistory t.pool pool' body nowMs reloaded
    -- the static fields are those that `committedConfig` does not write
    constructor
    case history => exact history
    case queue => rfl
    case records => rfl
    all_goals
      rw [Task.setPool, cfg]
      rfl

/-! ### The same reload twice -/

/-- An endpoint as it is built from the configuration has no history. -/
theorem buildEndpointsFromConfig_configuration (body : Json)
    (defaultModel defaultBaseUrl defaultApiKey : String) (mockMode strictItems : Bool)
    (eps : List VllmEndpoint)
    (built : buildEndpointsFromConfig body defaultModel defaultBaseUrl defaultApiKey mockMode
      strictItems = .ok eps) :
    ∀ ep ∈ eps, configuration ep = ep := by
  refine buildEndpointsFromConfig_forall (fun ep => configuration ep = ep) body _ _ _ _ _
    (fun item index ep built => ?_) rfl eps built
  unfold buildEndpointItem at built
  dsimp only at built
  split at built
  · cases built
  · split at built
    · cases built
    · cases built
      rfl

theorem oldByKey_eq (heap : Heap) (endpoints : List Nat) (key : String) :
    oldByKey heap endpoints key =
      (endpoints.map heap).reverse.find? fun ep => endpointRuntimeKey ep = key := by
  rw [oldByKey, ← List.map_reverse, List.find?_map]
  rfl

/-- The successor of an object that has a history takes over the same one again. -/
theorem carryRuntime_again {old : String → Option VllmEndpoint} {eps : List VllmEndpoint}
    (built : ∀ ep ∈ eps, configuration ep = ep) {heap : Heap} {endpoints : List Nat}
    (listed : endpoints.map heap = eps.map (carryRuntime old)) :
    eps.map (carryRuntime (oldByKey heap endpoints)) = eps.map (carryRuntime old) := by
  refine List.map_congr_left fun ep member => ?_
  have search := oldByKey_eq heap endpoints (endpointRuntimeKey ep)
  rw [listed] at search
  cases found : oldByKey heap endpoints (endpointRuntimeKey ep) with
  | none =>
    -- its own successor is there
    rw [found, eq_comm, List.find?_eq_none] at search
    have here : carryRuntime old ep ∈ (eps.map (carryRuntime old)).reverse :=
      List.mem_reverse.mpr (List.mem_map_of_mem member)
    exact absurd (decide_eq_true (carryRuntime_key old ep)) (search _ here)
  | some source =>
    rw [found, eq_comm] at search
    obtain ⟨last, among, rfl⟩ :=
      List.mem_map.mp (List.mem_reverse.mp (List.mem_of_find?_eq_some search))
    have key : endpointRuntimeKey last = endpointRuntimeKey ep := by
      simpa [carryRuntime_key] using List.find?_some search
    rw [carryRuntime, found]
    dsimp only
    unfold carryRuntime
    rw [key]
    cases old (endpointRuntimeKey ep) with
    | some source => rfl
    | none =>
      dsimp only
      rw [← built ep member, ← built last among]
      rfl

/-- A configuration that was committed once more. -/
def TaskConfig.counted (cfg : TaskConfig) (nowMs : Int) : TaskConfig :=
  { cfg with
    configVersion := cfg.configVersion + 1
    configUpdateCount := cfg.configUpdateCount + 1
    lastConfigUpdateMs := nowMs }

/-- A chain that was filled in is given from then on. -/
theorem fillDefaultFallbackChain_again (given : Bool) (new old : List String) (model : String)
    (eps : List VllmEndpoint) :
    fillDefaultFallbackChain (if given then new else fillDefaultFallbackChain
        (if given then new else old) model eps) model eps =
      fillDefaultFallbackChain (if given then new else old) model eps := by
  cases given with
  | true => rfl
  | false => exact fillDefaultFallbackChain_given (fillDefaultFallbackChain_ne_nil _ _ _) model eps

theorem committedConfig_again (body : Json) (cfg : TaskConfig) (baseUrl : String)
    (profiles : List ModelProfile) (eps : List VllmEndpoint) (t₁ t₂ : Int) :
    let once := committedConfig (reloadScalars body cfg) baseUrl profiles eps t₁
    committedConfig (reloadScalars body once) baseUrl profiles eps t₂ = once.counted t₂ := by
  simp only [committedConfig, reloadScalars, jsonIntValue_again, jsonStringValue_again,
    jsonBoolValue_again, fillDefaultFallbackChain_again, TaskConfig.counted]

theorem reloadBaseUrl_again {body : Json} {cfg once : TaskConfig}
    (kept : once.baseUrl = reloadBaseUrl body cfg) : reloadBaseUrl body once = once.baseUrl := by
  rw [kept]
  unfold reloadBaseUrl at kept ⊢
  rw [kept]
  unfold jsonStringValue
  cases body.get? "vllm_base_url" with
  | none => exact trimRightSlash_idem _
  | some value =>
    cases value with
    | str text => rfl
    | _ => exact trimRightSlash_idem _

theorem reloadProfiles_again {body : Json} {cfg once : TaskConfig} {profiles : List ModelProfile}
    (read : reloadProfiles body cfg = .ok profiles) (model : once.model = cfg.model)
    (kept : once.modelProfiles = profiles) : reloadProfiles body once = .ok profiles := by
  unfold reloadProfiles at read ⊢
  split
  next given => rwa [if_pos given, ← model] at read
  next => rw [kept]

/-- The fields that a reload checks are not among those that it writes. -/
theorem validateStaticReloadFields_again (body : Json) (cfg : TaskConfig) (baseUrl : String)
    (profiles : List ModelProfile) (eps : List VllmEndpoint) (nowMs : Int) :
    validateStaticReloadFields body
        (committedConfig (reloadScalars body cfg) baseUrl profiles eps nowMs) =
      validateStaticReloadFields body cfg := by
  simp only [validateStaticReloadFields, committedConfig, reloadScalars]
  rfl

/-- A body that was accepted is accepted again. The configuration, the
chain, the profiles and the endpoints with their histories stay as the first reload left
them; only the counters and the time move. -/
theorem reloadConfig_idempotent (pool pool₁ : Pool) (body : Json) (t₁ t₂ : Int)
    (reloaded : reloadConfig pool body t₁ = .ok pool₁) :
    ∃ pool₂, reloadConfig pool₁ body t₂ = .ok pool₂ ∧ pool₂.cfg = pool₁.cfg.counted t₂ ∧
      pool₂.listed = pool₁.listed := by
  obtain ⟨object, valid, profiles, read, ends⟩ :=
    (reloadConfig_ok_iff pool pool₁ body t₁).mp reloaded
  split at ends
  next changed =>
    obtain ⟨eps, built, rfl⟩ := ends
    let cfg₁ := committedConfig (reloadScalars body pool.cfg) (reloadBaseUrl body pool.cfg)
      profiles eps t₁
    let pool₁ := { commitReloadedEndpointsLocked pool eps with cfg := cfg₁ }
    -- the second reload builds the same endpoints, from the same base URL
    have base : reloadBaseUrl body cfg₁ = reloadBaseUrl body pool.cfg := reloadBaseUrl_again rfl
    have plain := buildEndpointsFromConfig_configuration _ _ _ _ _ _ _ built
    have again : buildEndpointsFromConfig body cfg₁.model (reloadBaseUrl body cfg₁) cfg₁.apiKey
        cfg₁.mockMode true = .ok eps := by
      have static : cfg₁.model = pool.cfg.model ∧ cfg₁.apiKey = pool.cfg.apiKey ∧
        cfg₁.mockMode = pool.cfg.mockMode := ⟨rfl, rfl, rfl⟩
      rw [base, static.1, static.2.1, static.2.2, built]
    have first := commitReloadedEndpointsLocked_committed pool eps
    have second := commitReloadedEndpointsLocked_committed pool₁ eps
    have valid : validateStaticReloadFields body cfg₁ = .ok () :=
      (validateStaticReloadFields_again ..).trans valid
    have read : reloadProfiles body cfg₁ = .ok profiles := reloadProfiles_again read rfl rfl
    have reloads := (reloadConfig_ok_iff pool₁ _ body t₂).mpr ⟨object, valid, profiles, read,
      (if_pos changed).mpr ⟨eps, again, rfl⟩⟩
    have cfg : committedConfig (reloadScalars body cfg₁) (reloadBaseUrl body cfg₁) profiles eps t₂ =
        cfg₁.counted t₂ := by
      rw [base]
      exact committedConfig_again ..
    -- the endpoints of both are the built ones with their histories
    have listed : pool₁.listed = eps.map (carryRuntime (oldByKey pool.heap pool.endpoints)) := by
      rw [← first.listed]
      exact congrArg _ first.endpoints
    have kept : (commitReloadedEndpointsLocked pool₁ eps).listed = pool₁.listed := by
      rw [listed, ← carryRuntime_again plain listed, ← second.listed]
      exact congrArg _ second.endpoints
    exact ⟨_, reloads, cfg, kept⟩
  next unchanged =>
    subst ends
    exact ⟨_, (reloadConfig_ok_iff _ _ body t₂).mpr ⟨object,
      (validateStaticReloadFields_again ..).trans valid, profiles,
      reloadProfiles_again read rfl rfl, (if_neg unchanged).mpr rfl⟩, committedConfig_again .., rfl⟩

/-- A reload that moves a mock to another base URL, twice. -/
theorem reloadConfig_idempotent_baseUrl :
    let body : Json := .obj [("vllm_base_url", .str "http://a/"), ("max_queue_size", .int (-1))]
    ∃ pool₁ pool₂, reloadConfig (emptyPool {}) body 1 = .ok pool₁ ∧
      reloadConfig pool₁ body 2 = .ok pool₂ ∧ pool₂.cfg.baseUrl = "http://a" ∧
      pool₂.cfg.configVersion = 3 ∧ pool₂.listed = pool₁.listed := by
  intro body
  have facts : (reloadConfig (emptyPool {}) body 1).toOption.map (fun pool =>
      (pool.cfg.baseUrl, pool.cfg.configVersion)) = some ("http://a", 2) := by decide +kernel
  cases once : reloadConfig (emptyPool {}) body 1 with
  | error message =>
    rw [once] at facts
    cases facts
  | ok pool₁ =>
    rw [once] at facts
    obtain ⟨base, version⟩ := Prod.mk.inj (Option.some.inj facts)
    obtain ⟨pool₂, twice, cfg, listed⟩ := reloadConfig_idempotent _ pool₁ body 1 2 once
    refine ⟨pool₁, pool₂, rfl, twice, ?_, ?_, listed⟩
    · rw [cfg]
      exact base
    · rw [cfg, TaskConfig.counted, version]
      rfl

end VllmRoute.Scheduler
