import VllmRoute.Properties.Reapplying
import VllmRoute.Scheduler.Dispatch
import VllmRoute.Scheduler.Report

/-!
# Reloading what is reported

`taskinfo` reports the configuration under the names that `reload_config` reads.
Sent back, a report is always accepted. It leaves the configuration of the
scheduler as it is exactly if nothing in it is of the kind that a report leaves
out, or a reload rewrites.
-/
namespace VllmRoute.Scheduler

open Lib Dispatcher

/-! ### Numbers -/

/-- The values of `int`. -/
def InInt (n : Int) : Prop := intMin ≤ n ∧ n ≤ intMax

theorem InInt.toInt32 {n : Int} (fits : InInt n) : toInt32 n = n :=
  toInt32_eq_self fits.1 fits.2

theorem inInt_stoi {s : Bytes} {n : Int} (read : stoi s = some n) : InInt n := by
  unfold stoi at read
  dsimp only at read
  rw [Option.ite_none_left_eq_some, Option.ite_none_right_eq_some] at read
  obtain ⟨_, fits, same⟩ := read
  exact Option.some.inj same ▸ fits

theorem inInt_jsonIntValue {default : Int} (fits : InInt default) (body : Json) (key : String) :
    InInt (jsonIntValue body key default) := by
  unfold jsonIntValue
  split
  · exact ⟨intMin_le_toInt32 _, toInt32_le_intMax _⟩
  next s _ =>
    cases read : stoi (lit s) with
    | none => exact fits
    | some n => exact inInt_stoi read
  · exact fits

theorem InInt.max {m n : Int} (first : InInt m) (second : InInt n) : InInt (max m n) := by
  unfold InInt at *
  omega

/-! ### Profiles -/

/-- What `build_model_profiles_from_config` sees to. -/
structure ModelProfile.Built (profile : ModelProfile) : Prop where
  actions : profile.actions ≠ []
  primaryModel : profile.primaryModel ≠ ""
  maxContextLen : InInt profile.maxContextLen
  defaultMaxTokens : InInt profile.defaultMaxTokens
  defaultTimeoutMs : InInt profile.defaultTimeoutMs
  defaultDeadlineMs : InInt profile.defaultDeadlineMs
  defaultPriority : InInt profile.defaultPriority

theorem buildModelProfile_built (item : Json) {model : String} (named : model ≠ "") :
    (buildModelProfile item model).Built := by
  have zero : InInt 0 := ⟨by decide, by decide⟩
  have minusOne : InInt (-1) := ⟨by decide, by decide⟩
  constructor
  · unfold buildModelProfile
    dsimp only
    split
    · exact List.cons_ne_nil _ _
    next given => simpa using given
  · unfold buildModelProfile
    dsimp only
    split
    · exact named
    next given => exact given
  · exact inInt_jsonIntValue zero _ _
  · exact inInt_jsonIntValue zero _ _
  · exact inInt_jsonIntValue zero _ _
  · exact inInt_jsonIntValue zero _ _
  · exact inInt_jsonIntValue minusOne _ _

theorem buildModelProfiles_built {body : Json} {model : String} (named : model ≠ "")
    {profiles : List ModelProfile}
    (built : buildModelProfilesFromConfig body model = .ok profiles) :
    ∀ profile ∈ profiles, profile.Built := by
  unfold buildModelProfilesFromConfig at built
  split at built
  · cases built
    exact List.forall_mem_nil _
  · cases built
    intro profile member
    obtain ⟨item, _, rfl⟩ := List.mem_map.mp member
    exact buildModelProfile_built item named
  · cases built

/-- A profile comes back as it was reported, with a name if it had none. -/
theorem buildModelProfile_json {profile : ModelProfile} (built : profile.Built) (model : String) :
    buildModelProfile (modelProfileJson profile) model =
      { profile with
        name := if profile.name = "" then profile.primaryModel else profile.name } := by
  obtain ⟨actions, primary, contextLen, tokens, timeout, deadline, priority⟩ := built
  simp [buildModelProfile, modelProfileJson, jsonStringValue, jsonStringArrayValue, jsonIntValue,
    jsonBoolValue, Json.get?, List.lookup_cons, stringArray, actions, primary,
    contextLen.toInt32, tokens.toInt32, timeout.toInt32, deadline.toInt32, priority.toInt32]

theorem buildModelProfiles_json {profiles : List ModelProfile}
    (built : ∀ profile ∈ profiles, profile.Built) (model : String) :
    (((profiles.map modelProfileJson).filter Json.isObject).map (buildModelProfile · model) =
      profiles) ↔ ∀ profile ∈ profiles, profile.name ≠ "" := by
  induction profiles with
  | nil => simp
  | cons profile profiles ih =>
    obtain ⟨first, rest⟩ := List.forall_mem_cons.mp built
    have object : (modelProfileJson profile).isObject = true := rfl
    rw [List.map_cons, List.filter_cons_of_pos object, List.map_cons, List.cons.injEq, ih rest,
      List.forall_mem_cons, buildModelProfile_json first]
    apply and_congr_left
    intro _
    constructor
    · intro same unnamed
      have renamed := congrArg ModelProfile.name same
      rw [if_pos unnamed, unnamed] at renamed
      exact first.primaryModel renamed
    · intro named
      rw [if_neg named]

/-! ### Endpoints -/

/-- What `build_endpoints_from_config` sees to. -/
structure VllmEndpoint.Built (mockMode : Bool) (ep : VllmEndpoint) : Prop where
  trimmed : trimRightSlash ep.baseUrl = ep.baseUrl
  baseUrl : ep.baseUrl = "" → mockMode = true
  servedModel : ep.servedModel ≠ ""
  logicalModels : ep.logicalModels ≠ []
  weight : InInt ep.weight
  maxContextLen : InInt ep.maxContextLen
  capacity : 1 ≤ ep.maxConcurrency
  maxConcurrency : InInt ep.maxConcurrency

theorem withModel_ne_nil (models : List String) (model : String) :
    (if models.contains model then models else models ++ [model]) ≠ [] := by
  split
  next listed =>
    rintro rfl
    cases listed
  next => exact List.append_ne_nil_of_right_ne_nil _ (List.cons_ne_nil _ _)

theorem buildEndpointItem_built {item : Json} {index : Nat} {model apiKey : String}
    {mockMode : Bool} {ep : VllmEndpoint}
    (made : buildEndpointItem item index model apiKey mockMode = .ok ep) : ep.Built mockMode := by
  have zero : InInt 0 := ⟨by decide, by decide⟩
  have one : InInt 1 := ⟨by decide, by decide⟩
  unfold buildEndpointItem at made
  dsimp only at made
  split at made
  · cases made
  next based =>
    split at made
    · cases made
    next served =>
      cases made
      constructor
      · exact trimRightSlash_idem _
      · simpa using based
      · exact served
      · exact withModel_ne_nil _ _
      · apply inInt_jsonIntValue
        split <;> exact ⟨by decide, by decide⟩
      · exact inInt_jsonIntValue zero _ _
      · exact Int.le_max_left _ _
      · exact one.max (inInt_jsonIntValue one _ _)

theorem defaultEndpoint_built {model baseUrl apiKey : String} {mockMode : Bool}
    (named : model ≠ "") (trimmed : trimRightSlash baseUrl = baseUrl)
    (based : baseUrl = "" → mockMode = true) :
    (defaultEndpoint model baseUrl apiKey).Built mockMode := by
  have hundred : InInt 100 := ⟨by decide, by decide⟩
  have zero : InInt 0 := ⟨by decide, by decide⟩
  have one : InInt 1 := ⟨by decide, by decide⟩
  exact ⟨trimmed, based, named, List.cons_ne_nil _ _, hundred, zero, Int.le_refl 1, one⟩

theorem buildEndpoints_built {body : Json} {model baseUrl apiKey : String}
    {mockMode strictItems : Bool} {eps : List VllmEndpoint} (named : model ≠ "")
    (trimmed : trimRightSlash baseUrl = baseUrl)
    (made : buildEndpointsFromConfig body model baseUrl apiKey mockMode strictItems = .ok eps) :
    eps ≠ [] ∧ ∀ ep ∈ eps, ep.Built mockMode := by
  unfold buildEndpointsFromConfig at made
  obtain ⟨items, _, made⟩ := (bind_ok_iff _ _ _).mp made
  obtain ⟨found, parsed, made⟩ := (bind_ok_iff _ _ _).mp made
  obtain ⟨rfl, based⟩ := (checkBaseUrls_ok_iff _ _ _).mp made
  have each : ∀ ep ∈ found, ep.Built mockMode :=
    buildEndpointItems_forall _ _ _ _ (fun item index ep => buildEndpointItem_built) _ _ _ parsed
  cases found with
  | nil =>
    refine ⟨List.cons_ne_nil _ _, List.forall_mem_singleton.mpr ?_⟩
    apply defaultEndpoint_built named trimmed
    intro empty
    by_contra real
    exact based (by simpa using real) _ (List.mem_singleton_self _) empty
  | cons ep found => exact ⟨List.cons_ne_nil _ _, each⟩

/-- The endpoint that a reload makes of a reported one. -/
def VllmEndpoint.reported (apiKey : String) (ep : VllmEndpoint) : VllmEndpoint :=
  { configuration ep with
    healthPath := "/health"
    apiKey := apiKey
    logicalModels := if ep.logicalModels.contains ep.servedModel then ep.logicalModels
      else ep.logicalModels ++ [ep.servedModel] }

theorem buildEndpointItem_json {mockMode : Bool} {ep : VllmEndpoint} (built : ep.Built mockMode)
    (index : Nat) (model apiKey : String) :
    buildEndpointItem (endpointJson ep) index model apiKey mockMode = .ok (ep.reported apiKey) := by
  have based : (decide (ep.baseUrl = "") && !mockMode) = false := by
    cases mockMode with
    | true => exact Bool.and_false _
    | false => simpa using fun empty => by simpa using built.baseUrl empty
  have capacity : max 1 ep.maxConcurrency = ep.maxConcurrency := Int.max_eq_right built.capacity
  simp [buildEndpointItem, endpointJson, jsonStringValue, jsonStringArrayValue, jsonIntValue,
    Json.get?, List.lookup_cons, stringArray, VllmEndpoint.reported, configuration, built.trimmed,
    based, built.servedModel, built.logicalModels, built.weight.toInt32, capacity,
    built.maxContextLen.toInt32, built.maxConcurrency.toInt32]

theorem buildEndpointItems_json {mockMode : Bool} {eps : List VllmEndpoint}
    (built : ∀ ep ∈ eps, ep.Built mockMode) (model apiKey : String) (strictItems : Bool)
    (index : Nat) :
    buildEndpointItems model apiKey mockMode strictItems (eps.map endpointJson) index =
      .ok (eps.map (VllmEndpoint.reported apiKey)) := by
  induction eps generalizing index with
  | nil => rfl
  | cons ep eps ih =>
    obtain ⟨first, rest⟩ := List.forall_mem_cons.mp built
    have object : (endpointJson ep).isObject = true := rfl
    rw [List.map_cons, buildEndpointItems, if_pos object, buildEndpointItem_json first,
      ih rest]
    rfl

/-! ### The configuration -/

/-- The numbers that are reported and read again, as a load or a reload leaves them. -/
structure TaskConfig.Built (cfg : TaskConfig) : Prop where
  model : cfg.model ≠ ""
  trimmed : trimRightSlash cfg.baseUrl = cfg.baseUrl
  fallbackChain : cfg.fallbackChain ≠ []
  profiles : ∀ profile ∈ cfg.modelProfiles, profile.Built
  workerCount : InInt cfg.workerCount
  endpointWaitMs : InInt cfg.endpointWaitMs
  maxQueueSize : InInt cfg.maxQueueSize
  lowPriorityDropThreshold : InInt cfg.lowPriorityDropThreshold
  highPriorityThreshold : InInt cfg.highPriorityThreshold
  healthCheckIntervalMs : InInt cfg.healthCheckIntervalMs
  healthCheckTimeoutMs : InInt cfg.healthCheckTimeoutMs
  unhealthyThreshold : InInt cfg.unhealthyThreshold
  recoveryThreshold : InInt cfg.recoveryThreshold
  circuitFailureThreshold : InInt cfg.circuitFailureThreshold
  circuitOpenMs : InInt cfg.circuitOpenMs

/-- No number is below the least one that a reload sets. -/
structure TaskConfig.Clamped (cfg : TaskConfig) : Prop where
  endpointWaitMs : 0 ≤ cfg.endpointWaitMs
  maxQueueSize : 0 ≤ cfg.maxQueueSize
  lowPriorityDropThreshold : 0 ≤ cfg.lowPriorityDropThreshold
  highPriorityThreshold : 0 ≤ cfg.highPriorityThreshold
  healthCheckIntervalMs : 1 ≤ cfg.healthCheckIntervalMs
  healthCheckTimeoutMs : 1 ≤ cfg.healthCheckTimeoutMs
  unhealthyThreshold : 1 ≤ cfg.unhealthyThreshold
  recoveryThreshold : 1 ≤ cfg.recoveryThreshold
  circuitFailureThreshold : 1 ≤ cfg.circuitFailureThreshold
  circuitOpenMs : 1 ≤ cfg.circuitOpenMs

/-- The numbers of a configuration after a reload that leaves them out. -/
def TaskConfig.clamp (cfg : TaskConfig) : TaskConfig :=
  { cfg with
    endpointWaitMs := max 0 cfg.endpointWaitMs
    maxQueueSize := max 0 cfg.maxQueueSize
    lowPriorityDropThreshold := max 0 cfg.lowPriorityDropThreshold
    highPriorityThreshold := max 0 cfg.highPriorityThreshold
    healthCheckIntervalMs := max 1 cfg.healthCheckIntervalMs
    healthCheckTimeoutMs := max 1 cfg.healthCheckTimeoutMs
    unhealthyThreshold := max 1 cfg.unhealthyThreshold
    recoveryThreshold := max 1 cfg.recoveryThreshold
    circuitFailureThreshold := max 1 cfg.circuitFailureThreshold
    circuitOpenMs := max 1 cfg.circuitOpenMs }

section Taskinfo

variable {pool : Pool} (view : TaskView)

theorem reloadScalars_taskinfo (built : pool.cfg.Built) :
    reloadScalars (taskinfo pool view) pool.cfg = pool.cfg.clamp := by
  simp [reloadScalars, taskinfo, TaskConfig.clamp, jsonStringValue, jsonIntValue, jsonBoolValue,
    jsonStringArrayValue, Json.get?, Json.contains, List.lookup_cons, stringArray,
    built.endpointWaitMs.toInt32, built.maxQueueSize.toInt32,
    built.lowPriorityDropThreshold.toInt32, built.highPriorityThreshold.toInt32,
    built.healthCheckIntervalMs.toInt32, built.healthCheckTimeoutMs.toInt32,
    built.unhealthyThreshold.toInt32, built.recoveryThreshold.toInt32,
    built.circuitFailureThreshold.toInt32, built.circuitOpenMs.toInt32]

theorem validateStaticReloadFields_taskinfo (built : pool.cfg.Built) :
    validateStaticReloadFields (taskinfo pool view) pool.cfg = .ok () := by
  rw [validateStaticReloadFields_ok_iff]
  simp [taskinfo, jsonStringValue, jsonIntValue, jsonBoolValue, Json.get?, List.lookup_cons,
    built.workerCount.toInt32]

theorem reloadProfiles_taskinfo :
    reloadProfiles (taskinfo pool view) pool.cfg =
      .ok (((pool.cfg.modelProfiles.map modelProfileJson).filter Json.isObject).map
        (buildModelProfile · pool.cfg.model)) := by
  simp [reloadProfiles, buildModelProfilesFromConfig, taskinfo, modelProfilesJsonUnlocked,
    Json.get?, Json.contains, List.lookup_cons]

/-- The report has no member `vllm_base_url`: its `base_url` is the one of the first endpoint. -/
theorem reloadBaseUrl_taskinfo (built : pool.cfg.Built) :
    reloadBaseUrl (taskinfo pool view) pool.cfg = pool.cfg.baseUrl := by
  have missing : (taskinfo pool view).get? "vllm_base_url" = none := by
    simp [taskinfo, Json.get?, List.lookup_cons]
  rw [reloadBaseUrl, jsonStringValue, missing]
  exact built.trimmed

end Taskinfo

/-! ### Pools -/

/-- What `build_endpoints_from_config` returns. -/
def AllBuilt (mockMode : Bool) (eps : List VllmEndpoint) : Prop :=
  eps ≠ [] ∧ ∀ ep ∈ eps, ep.Built mockMode

structure Pool.Built (pool : Pool) : Prop where
  cfg : pool.cfg.Built
  endpoints : AllBuilt pool.cfg.mockMode pool.listed

theorem buildEndpoints_taskinfo {pool : Pool} (built : pool.Built) (view : TaskView) :
    buildEndpointsFromConfig (taskinfo pool view) pool.cfg.model
        (reloadBaseUrl (taskinfo pool view) pool.cfg) pool.cfg.apiKey pool.cfg.mockMode true =
      .ok (pool.listed.map (VllmEndpoint.reported pool.cfg.apiKey)) := by
  obtain ⟨some, each⟩ := built.endpoints
  have items : endpointArray (taskinfo pool view) = .ok (pool.listed.map endpointJson) := by
    simp [endpointArray, taskinfo, Json.get?, List.lookup_cons, Pool.listed]
  have full : (pool.listed.map (VllmEndpoint.reported pool.cfg.apiKey)).isEmpty = false := by
    simpa using some
  rw [buildEndpointsFromConfig, items]
  change (buildEndpointItems _ _ _ _ _ _ >>= _) = _
  rw [buildEndpointItems_json each]
  change checkBaseUrls _ (if _ then _ else _) = _
  rw [full, if_neg Bool.false_ne_true, checkBaseUrls_ok_iff]
  refine ⟨rfl, ?_⟩
  intro real ep member empty
  obtain ⟨old, listed, rfl⟩ := List.mem_map.mp member
  have mocked := (each old listed).baseUrl empty
  rw [real] at mocked
  cases mocked

/-! ### Loads -/

/-- All objects are built, and `endpoints_` and `global_endpoints_` name objects only. -/
structure SharedBuilt (mockMode : Bool) (pool : Pool) : Prop where
  objects : ∀ id < pool.next, (pool.heap id).Built mockMode
  listed : ∀ id ∈ pool.endpoints, id < pool.next
  published : ∀ key id, pool.globalEndpoints.lookup key = some id → id < pool.next

/-- The base URL and the model stay those of the object that is found. -/
theorem VllmEndpoint.Built.adopt {mockMode : Bool} {existing configured : VllmEndpoint}
    (old : existing.Built mockMode) (own : configured.Built mockMode) :
    (adoptConfiguration existing configured).Built mockMode :=
  ⟨old.trimmed, old.baseUrl, old.servedModel, own.logicalModels, own.weight, own.maxContextLen,
    own.capacity, own.maxConcurrency⟩

theorem SharedBuilt.share {mockMode : Bool} {pool : Pool} {ep : VllmEndpoint}
    (before : SharedBuilt mockMode pool) (own : ep.Built mockMode) :
    SharedBuilt mockMode (shareEndpointRuntime pool ep) := by
  unfold shareEndpointRuntime
  split
  next id found =>
    have known := before.published _ id found
    constructor
    · intro other inside
      dsimp only at inside ⊢
      by_cases same : other = id
      · subst same
        rw [Function.update_self]
        exact (before.objects other inside).adopt own
      · rw [Function.update_of_ne same]
        exact before.objects other inside
    · intro other member
      rcases List.mem_append.mp member with old | new
      · exact before.listed other old
      · exact List.mem_singleton.mp new ▸ known
    · exact before.published
  next =>
    constructor
    · intro other inside
      dsimp only at inside ⊢
      by_cases same : other = pool.next
      · subst same
        rw [Function.update_self]
        exact own
      · rw [Function.update_of_ne same]
        exact before.objects other (Nat.lt_of_le_of_ne (Nat.le_of_lt_succ inside) same)
    · intro other member
      rcases List.mem_append.mp member with old | new
      · exact Nat.lt_succ_of_lt (before.listed other old)
      · exact List.mem_singleton.mp new ▸ Nat.lt_succ_self _
    · intro key other found
      rw [List.lookup_cons] at found
      split at found
      · cases found
        exact Nat.lt_succ_self _
      · exact Nat.lt_succ_of_lt (before.published key other found)

theorem length_shareEndpointRuntime (pool : Pool) (ep : VllmEndpoint) :
    (shareEndpointRuntime pool ep).endpoints.length = pool.endpoints.length + 1 := by
  unfold shareEndpointRuntime
  split <;> exact List.length_append

theorem sharedEndpoints_built {mockMode : Bool} {eps : List VllmEndpoint}
    (built : AllBuilt mockMode eps) : AllBuilt mockMode (sharedEndpoints eps) := by
  have loop (eps : List VllmEndpoint) (each : ∀ ep ∈ eps, ep.Built mockMode) (pool : Pool)
      (before : SharedBuilt mockMode pool) :
      SharedBuilt mockMode (eps.foldl shareEndpointRuntime pool) ∧
        (eps.foldl shareEndpointRuntime pool).endpoints.length =
          pool.endpoints.length + eps.length := by
    induction eps generalizing pool with
    | nil => exact ⟨before, rfl⟩
    | cons ep eps ih =>
      obtain ⟨own, rest⟩ := List.forall_mem_cons.mp each
      obtain ⟨shared, length⟩ := ih rest _ (before.share own)
      refine ⟨shared, ?_⟩
      rw [List.foldl_cons, length, length_shareEndpointRuntime, List.length_cons]
      omega
  have initial : SharedBuilt mockMode (emptyPool {}) :=
    ⟨fun _ inside => absurd inside (Nat.not_lt_zero _), List.forall_mem_nil _, nofun⟩
  obtain ⟨shared, length⟩ := loop eps built.2 _ initial
  constructor
  · have positive := List.length_pos_of_ne_nil built.1
    apply List.ne_nil_of_length_pos
    rw [sharedEndpoints, List.length_map, length]
    exact Nat.lt_add_left _ positive
  · intro ep member
    obtain ⟨id, listed, rfl⟩ := List.mem_map.mp member
    exact shared.objects id (shared.listed id listed)

theorem loadModel_built {env : Environment} {body : Json} {pool : Pool}
    (loaded : loadModel env body = .ok pool) : pool.Built := by
  obtain ⟨named, profiles, eps, read, made, listed, cfg⟩ := loadModel_ok env body pool loaded
  have trimmed : trimRightSlash (loadedConfig env body).baseUrl = (loadedConfig env body).baseUrl :=
    trimRightSlash_idem _
  have small {n : Int} (least : 0 ≤ n) (most : n ≤ 30000) (key : String) :
      InInt (jsonIntValue body key n) :=
    inInt_jsonIntValue ⟨Int.le_trans (by decide) least, Int.le_trans most (by decide)⟩ body key
  have zero : InInt 0 := ⟨by decide, by decide⟩
  have one : InInt 1 := ⟨by decide, by decide⟩
  have queue : InInt (jsonIntValue body "max_queue_size" 64) := small (by decide) (by decide) _
  refine ⟨?_, ?_⟩
  · rw [cfg]
    exact
      { model := named
        trimmed := trimmed
        fallbackChain := fillDefaultFallbackChain_ne_nil _ _ _
        profiles := buildModelProfiles_built named read
        workerCount := one.max (small (by decide) (by decide) _)
        endpointWaitMs := zero.max (small (by decide) (by decide) _)
        maxQueueSize := queue
        lowPriorityDropThreshold := by
          -- the default follows the size of the queue
          apply inInt_jsonIntValue
          exact zero.max ⟨intMin_le_toInt32 _, toInt32_le_intMax _⟩
        highPriorityThreshold := small (by decide) (by decide) _
        healthCheckIntervalMs := small (by decide) (by decide) _
        healthCheckTimeoutMs := small (by decide) (by decide) _
        unhealthyThreshold := small (by decide) (by decide) _
        recoveryThreshold := small (by decide) (by decide) _
        circuitFailureThreshold := small (by decide) (by decide) _
        circuitOpenMs := small (by decide) (by decide) _ }
  · rw [listed, cfg]
    exact sharedEndpoints_built (buildEndpoints_built named trimmed made)

/-! ### Reloads and runs -/

theorem built_configuration {mockMode : Bool} {ep : VllmEndpoint} :
    (configuration ep).Built mockMode ↔ ep.Built mockMode := by
  constructor
  · rintro ⟨trimmed, based, served, models, weight, context, capacity, concurrency⟩
    exact ⟨trimmed, based, served, models, weight, context, capacity, concurrency⟩
  · rintro ⟨trimmed, based, served, models, weight, context, capacity, concurrency⟩
    exact ⟨trimmed, based, served, models, weight, context, capacity, concurrency⟩

theorem AllBuilt.of_configuration {mockMode : Bool} {eps eps' : List VllmEndpoint}
    (built : AllBuilt mockMode eps) (same : eps'.map configuration = eps.map configuration) :
    AllBuilt mockMode eps' := by
  constructor
  · rintro rfl
    exact built.1 (List.map_eq_nil_iff.mp same.symm)
  · intro ep member
    have found : configuration ep ∈ eps.map configuration := same ▸ List.mem_map_of_mem member
    obtain ⟨old, listed, equal⟩ := List.mem_map.mp found
    rw [← built_configuration, ← equal, built_configuration]
    exact built.2 old listed

theorem committedConfig_built {cfg : TaskConfig} (built : cfg.Built) (body : Json)
    {baseUrl : String} {profiles : List ModelProfile} {eps : List VllmEndpoint} (nowMs : Int)
    (trimmed : trimRightSlash baseUrl = baseUrl) (each : ∀ profile ∈ profiles, profile.Built) :
    (committedConfig (reloadScalars body cfg) baseUrl profiles eps nowMs).Built := by
  have zero {n : Int} (fits : InInt n) (key : String) :
      InInt (max 0 (jsonIntValue body key n)) :=
    InInt.max ⟨by decide, by decide⟩ (inInt_jsonIntValue fits body key)
  have one {n : Int} (fits : InInt n) (key : String) :
      InInt (max 1 (jsonIntValue body key n)) :=
    InInt.max ⟨by decide, by decide⟩ (inInt_jsonIntValue fits body key)
  exact
    { model := built.model
      trimmed := trimmed
      fallbackChain := fillDefaultFallbackChain_ne_nil _ _ _
      profiles := each
      workerCount := built.workerCount
      endpointWaitMs := zero built.endpointWaitMs _
      maxQueueSize := zero built.maxQueueSize _
      lowPriorityDropThreshold := zero built.lowPriorityDropThreshold _
      highPriorityThreshold := zero built.highPriorityThreshold _
      healthCheckIntervalMs := one built.healthCheckIntervalMs _
      healthCheckTimeoutMs := one built.healthCheckTimeoutMs _
      unhealthyThreshold := one built.unhealthyThreshold _
      recoveryThreshold := one built.recoveryThreshold _
      circuitFailureThreshold := one built.circuitFailureThreshold _
      circuitOpenMs := one built.circuitOpenMs _ }

theorem reloadConfig_built {pool pool' : Pool} {body : Json} {nowMs : Int} (built : pool.Built)
    (reloaded : reloadConfig pool body nowMs = .ok pool') : pool'.Built := by
  obtain ⟨_, _, profiles, read, ends⟩ := (reloadConfig_ok_iff pool pool' body nowMs).mp reloaded
  have each : ∀ profile ∈ profiles, profile.Built := by
    unfold reloadProfiles at read
    split at read
    · exact buildModelProfiles_built built.cfg.model read
    · cases read
      exact built.cfg.profiles
  split at ends
  next =>
    obtain ⟨eps, made, rfl⟩ := ends
    have trimmed : trimRightSlash (reloadBaseUrl body pool.cfg) = reloadBaseUrl body pool.cfg :=
      trimRightSlash_idem _
    have new : AllBuilt pool.cfg.mockMode eps := buildEndpoints_built built.cfg.model trimmed made
    exact ⟨committedConfig_built built.cfg body nowMs trimmed each,
      new.of_configuration (configuration_committed pool eps)⟩
  next =>
    subst ends
    exact ⟨committedConfig_built built.cfg body nowMs built.cfg.trimmed each, built.endpoints⟩

theorem configuration_countFailure (th : Thresholds) (nowMs : Int) (ep : VllmEndpoint) :
    configuration (countFailure th nowMs ep) = configuration ep := by
  unfold countFailure
  dsimp only
  split <;> split <;> rfl

theorem configuration_countSuccess (th : Thresholds) (close : CircuitState → CircuitState)
    (ep : VllmEndpoint) : configuration (countSuccess th close ep) = configuration ep := by
  unfold countSuccess
  dsimp only
  split <;> rfl

theorem configuration_updateEndpointResult (th : Thresholds) (nowMs : Int) (ok : Bool)
    (latencyMs : Int) (ep : VllmEndpoint) :
    configuration (updateEndpointResult th nowMs ok latencyMs ep) = configuration ep := by
  unfold updateEndpointResult
  dsimp only
  split
  · rw [configuration_countSuccess]
    rfl
  · rw [configuration_countFailure]
    rfl

theorem configuration_updateEndpointHealth (th : Thresholds) (nowMs : Int) (ok : Bool)
    (latencyMs : Int) (ep : VllmEndpoint) :
    configuration (updateEndpointHealth th nowMs ok latencyMs ep) = configuration ep := by
  unfold updateEndpointHealth
  dsimp only
  split
  · rw [configuration_countSuccess]
    rfl
  · rw [configuration_countFailure]
    rfl

/-- No transition of an object writes what was configured. -/
theorem Effect.configuration {nowMs : Int} {v w : View} {act : Act}
    (effect : Effect nowMs v act w) :
    Scheduler.configuration w.ep = Scheduler.configuration v.ep := by
  induction effect with
  | same | reopened => rfl
  | dispatched v w _ _ ih => exact ih
  | reported ep n p probe th ok latencyMs => exact configuration_updateEndpointResult ..
  | checked v th ok latencyMs => exact configuration_updateEndpointHealth ..

/-- A step is a reload that succeeds, or leaves the configuration as it is. -/
theorem step_configuration {d d' : Dispatcher} {e : Event} (wf : d.WellFormed)
    (taken : d.step e = some d') :
    (∃ body, reloadConfig d.pool body d.nowMs = .ok d'.pool) ∨
      (d'.pool.cfg = d.pool.cfg ∧
        d'.pool.listed.map configuration = d.pool.listed.map configuration) := by
  have listed (endpoints : d'.pool.endpoints = d.pool.endpoints) :
      d'.pool.listed.map configuration = d.pool.listed.map configuration := by
    unfold Pool.listed
    rw [endpoints, List.map_map, List.map_map]
    apply List.map_congr_left
    intro id member
    exact (step_effect_of_lt d d' e wf taken (wf.listed id member)).configuration
  cases e with
  | select req threshold =>
    simp only [step, Option.some.injEq] at taken
    subst taken
    exact Or.inr ⟨rfl, listed rfl⟩
  | complete slot th ok latencyMs =>
    simp only [step, Option.map_eq_some_iff] at taken
    obtain ⟨_, _, rfl⟩ := taken
    exact Or.inr ⟨rfl, listed rfl⟩
  | health other th ok latencyMs =>
    simp only [step] at taken
    split at taken <;> cases taken
    exact Or.inr ⟨rfl, listed rfl⟩
  | reload body =>
    simp only [step] at taken
    split at taken
    next pool reloaded =>
      cases taken
      exact Or.inl ⟨body, reloaded⟩
    next =>
      cases taken
      exact Or.inr ⟨rfl, rfl⟩
  | advance ms =>
    cases taken
    exact Or.inr ⟨rfl, rfl⟩

theorem step_built {d d' : Dispatcher} {e : Event} (taken : d.step e = some d')
    (before : d.WellFormed ∧ d.pool.Built) : d'.WellFormed ∧ d'.pool.Built := by
  obtain ⟨wf, built⟩ := before
  refine ⟨step_wellFormed d d' e wf taken, ?_⟩
  rcases step_configuration wf taken with ⟨body, reloaded⟩ | ⟨cfg, listed⟩
  · exact reloadConfig_built built reloaded
  · constructor
    · rw [cfg]
      exact built.cfg
    · rw [cfg]
      exact built.endpoints.of_configuration listed

/-! ### The report as a body -/

theorem reported_eq_iff (apiKey : String) (ep : VllmEndpoint) :
    ep.reported apiKey = configuration ep ↔
      ep.healthPath = "/health" ∧ ep.apiKey = apiKey ∧ ep.servedModel ∈ ep.logicalModels := by
  constructor
  · intro same
    refine ⟨(congrArg VllmEndpoint.healthPath same).symm,
      (congrArg VllmEndpoint.apiKey same).symm, ?_⟩
    have models : (if ep.logicalModels.contains ep.servedModel then ep.logicalModels
        else ep.logicalModels ++ [ep.servedModel]) = ep.logicalModels :=
      congrArg VllmEndpoint.logicalModels same
    by_contra missing
    rw [if_neg (by simpa using missing)] at models
    simpa using congrArg List.length models
  · rintro ⟨path, key, listed⟩
    unfold VllmEndpoint.reported
    rw [if_pos (by simpa using listed), ← path, ← key]
    rfl

/-- The reload of a report, up to what the fields were. -/
theorem reloadConfig_taskinfo {pool : Pool} (built : pool.Built) (view : TaskView) (nowMs : Int) :
    ∃ pool', reloadConfig pool (taskinfo pool view) nowMs = .ok pool' ∧
      pool'.cfg = { pool.cfg.clamp.counted nowMs with
        modelProfiles := ((pool.cfg.modelProfiles.map modelProfileJson).filter Json.isObject).map
          (buildModelProfile · pool.cfg.model) } ∧
      pool'.listed.map configuration =
        pool.listed.map (VllmEndpoint.reported pool.cfg.apiKey) := by
  have named : hasEndpointReloadConfig (taskinfo pool view) = true := by
    simp [hasEndpointReloadConfig, taskinfo, Json.contains, Json.get?, List.lookup_cons]
  refine ⟨_, (reloadConfig_ok_iff _ _ _ _).mpr ⟨rfl,
    validateStaticReloadFields_taskinfo view built.cfg, _, reloadProfiles_taskinfo view,
    (if_pos named).mpr ⟨_, buildEndpoints_taskinfo built view, rfl⟩⟩, ?_, ?_⟩
  · have chain (eps : List VllmEndpoint) :
        fillDefaultFallbackChain pool.cfg.fallbackChain pool.cfg.model eps =
          pool.cfg.fallbackChain :=
      fillDefaultFallbackChain_given built.cfg.fallbackChain _ _
    rw [reloadScalars_taskinfo view built.cfg, reloadBaseUrl_taskinfo view built.cfg]
    simp only [committedConfig, TaskConfig.clamp, TaskConfig.counted, chain]
  · have committed := configuration_committed pool
      (pool.listed.map (VllmEndpoint.reported pool.cfg.apiKey))
    rw [List.map_map] at committed
    exact committed

theorem clamp_eq_iff {cfg : TaskConfig} {profiles : List ModelProfile} (nowMs : Int) :
    { cfg.clamp.counted nowMs with modelProfiles := profiles } = cfg.counted nowMs ↔
      cfg.Clamped ∧ profiles = cfg.modelProfiles := by
  constructor
  · intro same
    have least (field : TaskConfig → Int) {low n : Int} (clamped : field
        { cfg.clamp.counted nowMs with modelProfiles := profiles } = max low n)
        (kept : field (cfg.counted nowMs) = n) : low ≤ n := by
      rw [← kept, ← same, clamped]
      exact Int.le_max_left _ _
    exact
      ⟨{ endpointWaitMs := least TaskConfig.endpointWaitMs rfl rfl
         maxQueueSize := least TaskConfig.maxQueueSize rfl rfl
         lowPriorityDropThreshold := least TaskConfig.lowPriorityDropThreshold rfl rfl
         highPriorityThreshold := least TaskConfig.highPriorityThreshold rfl rfl
         healthCheckIntervalMs := least TaskConfig.healthCheckIntervalMs rfl rfl
         healthCheckTimeoutMs := least TaskConfig.healthCheckTimeoutMs rfl rfl
         unhealthyThreshold := least TaskConfig.unhealthyThreshold rfl rfl
         recoveryThreshold := least TaskConfig.recoveryThreshold rfl rfl
         circuitFailureThreshold := least TaskConfig.circuitFailureThreshold rfl rfl
         circuitOpenMs := least TaskConfig.circuitOpenMs rfl rfl },
        congrArg TaskConfig.modelProfiles same⟩
  · rintro ⟨clamped, rfl⟩
    have kept : cfg.clamp = cfg := by
      simp only [TaskConfig.clamp, Int.max_eq_right clamped.endpointWaitMs,
        Int.max_eq_right clamped.maxQueueSize, Int.max_eq_right clamped.lowPriorityDropThreshold,
        Int.max_eq_right clamped.highPriorityThreshold,
        Int.max_eq_right clamped.healthCheckIntervalMs,
        Int.max_eq_right clamped.healthCheckTimeoutMs,
        Int.max_eq_right clamped.unhealthyThreshold, Int.max_eq_right clamped.recoveryThreshold,
        Int.max_eq_right clamped.circuitFailureThreshold, Int.max_eq_right clamped.circuitOpenMs]
    rw [kept]
    rfl

/-- A reload of the report leaves the configuration as it is, if and only if the numbers are not
below their least values, every profile has a name, and every endpoint has the default health
path, the API key of the scheduler and its own model among those that it serves. -/
theorem reloadConfig_taskinfo_iff {pool : Pool} (built : pool.Built) (view : TaskView)
    (nowMs : Int) :
    ∃ pool', reloadConfig pool (taskinfo pool view) nowMs = .ok pool' ∧
      (pool'.cfg = pool.cfg.counted nowMs ∧
          pool'.listed.map configuration = pool.listed.map configuration ↔
        pool.cfg.Clamped ∧ (∀ profile ∈ pool.cfg.modelProfiles, profile.name ≠ "") ∧
          ∀ ep ∈ pool.listed, ep.healthPath = "/health" ∧ ep.apiKey = pool.cfg.apiKey ∧
            ep.servedModel ∈ ep.logicalModels) := by
  obtain ⟨pool', reloaded, cfg, listed⟩ := reloadConfig_taskinfo built view nowMs
  refine ⟨pool', reloaded, ?_⟩
  rw [cfg, listed, clamp_eq_iff, buildModelProfiles_json built.cfg.profiles, and_assoc,
    List.map_inj_left]
  simp only [reported_eq_iff]

theorem built_of_run {env : Environment} {body : Json} {pool : Pool} {nowMs : Int}
    {events : List Event} {d : Dispatcher} (loaded : loadModel env body = .ok pool)
    (reached : run Dispatcher.step (start pool nowMs) events = some d) : d.pool.Built :=
  (run_invariant Dispatcher.step (fun d => d.WellFormed ∧ d.pool.Built)
    (fun _ _ _ taken before => step_built taken before) _ _ events reached
    ⟨start_wellFormed env body pool nowMs loaded, loadModel_built loaded⟩).2

end VllmRoute.Scheduler
