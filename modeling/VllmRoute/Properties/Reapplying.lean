import VllmRoute.Properties.Overriding
import VllmRoute.Properties.Reloading

/-!
# A configuration on itself

A reload with the body that was loaded. A load rewrites two of the static
fields before it stores them, and a reload compares the values as they are
written with what is stored.
-/
namespace VllmRoute.Scheduler

/-! ### The static fields -/

theorem check_ok_iff {failed : Prop} [Decidable failed] {message : String}
    {rest : Except String Unit} :
    (if failed then .error message else rest) = .ok () ↔ ¬ failed ∧ rest = .ok () := by
  by_cases fails : failed
  · simp [fails]
  · simp [fails]

theorem default_of_absent {body : Json} {key : String} (absent : body.contains key = false) :
    (∀ value, jsonStringValue body key value = value) ∧
      (∀ value, jsonIntValue body key value = value) ∧
      ∀ value, jsonBoolValue body key value = value := by
  rw [Json.contains, Option.isSome_eq_false_iff, Option.isNone_iff_eq_none] at absent
  simp only [jsonStringValue, jsonIntValue, jsonBoolValue, absent, implies_true, and_self]

/-- A member that is not given cannot differ. -/
theorem not_differs_iff {α : Type} [DecidableEq α] {given : Bool} {value current : α}
    (absent : given = false → value = current) :
    ¬ (given && decide (value ≠ current)) = true ↔ value = current := by
  cases given with
  | true => simp
  | false => simp [absent rfl]

/-- The five checks of `validate_static_reload_fields`. -/
theorem validateStaticReloadFields_ok_iff (body : Json) (cfg : TaskConfig) :
    validateStaticReloadFields body cfg = .ok () ↔
      jsonStringValue body "model" cfg.model = cfg.model ∧
      jsonStringValue body "response_format" cfg.responseFormat = cfg.responseFormat ∧
      jsonStringValue body "endpoint" cfg.endpoint = cfg.endpoint ∧
      jsonIntValue body "worker_count" cfg.workerCount = cfg.workerCount ∧
      jsonBoolValue body "mock" cfg.mockMode = cfg.mockMode := by
  unfold validateStaticReloadFields
  simp only [check_ok_iff, not_differs_iff fun absent => (default_of_absent absent).1 _,
    not_differs_iff fun absent => (default_of_absent absent).2.1 _,
    not_differs_iff fun absent => (default_of_absent absent).2.2 _, and_true]

/-- The endpoint path and the worker count are stored as the body has them. -/
structure StoredAsWritten (body : Json) : Prop where
  endpoint : jsonStringValue body "endpoint" "" = "" ∨
    (jsonStringValue body "endpoint" "").toList.head? = some '/'
  workerCount : 1 ≤ jsonIntValue body "worker_count" 1

theorem endpoint_again_iff (env : Environment) (body : Json) :
    jsonStringValue body "endpoint" (loadedConfig env body).endpoint =
        (loadedConfig env body).endpoint ↔
      jsonStringValue body "endpoint" "" = "" ∨
        (jsonStringValue body "endpoint" "").toList.head? = some '/' := by
  have stored : (loadedConfig env body).endpoint =
      let text := jsonStringValue body "endpoint" "/v1/chat/completions"
      if text ≠ "" && text.toList.head? ≠ some '/' then "/" ++ text else text := rfl
  rw [stored]
  dsimp only
  unfold jsonStringValue
  cases found : body.get? "endpoint" with
  | none => simp
  | some value =>
    cases value with
    | str text =>
      dsimp only
      split
      next relative =>
        -- a slash was put in front
        simp only [Bool.and_eq_true, decide_eq_true_eq] at relative
        refine ⟨fun same => ?_, fun rooted => ?_⟩
        · have length := congrArg String.length same
          rw [String.length_append] at length
          have one : "/".length = 1 := by decide
          omega
        · exact absurd rooted (not_or.mpr relative)
      next rooted =>
        simp only [Bool.and_eq_true, decide_eq_true_eq, not_and_or, not_not] at rooted
        exact ⟨fun _ => rooted, fun _ => rfl⟩
    | _ => simp

theorem workerCount_again_iff (env : Environment) (body : Json) :
    jsonIntValue body "worker_count" (loadedConfig env body).workerCount =
        (loadedConfig env body).workerCount ↔ 1 ≤ jsonIntValue body "worker_count" 1 := by
  have stored : (loadedConfig env body).workerCount =
    max 1 (jsonIntValue body "worker_count" 2) := rfl
  rw [stored, jsonIntValue_eq, jsonIntValue_eq, jsonIntValue_eq]
  cases jsonInt? body "worker_count" with
  | none => simp
  | some n =>
    simp only [Option.getD_some]
    omega

/-- The other static fields are the same when they are read again. -/
theorem validate_loaded_iff {env : Environment} {body : Json} {cfg : TaskConfig}
    {profiles : List ModelProfile} {eps : List VllmEndpoint}
    (loaded : cfg = committedLoad (loadedConfig env body) profiles eps) :
    validateStaticReloadFields body cfg = .ok () ↔ StoredAsWritten body := by
  subst loaded
  rw [validateStaticReloadFields_ok_iff]
  have model := jsonStringValue_again body "model" ""
  have format := jsonStringValue_again body "response_format" "llm.utf-8"
  have endpoint := endpoint_again_iff env body
  have workers := workerCount_again_iff env body
  constructor
  · rintro ⟨_, _, path, count, _⟩
    exact ⟨endpoint.mp path, workers.mp count⟩
  · rintro ⟨path, count⟩
    exact ⟨model, format, endpoint.mpr path, workers.mpr count, jsonBoolValue_again body "mock" _⟩

/-! ### The endpoints -/

theorem buildEndpointItems_strict (model apiKey : String) (mockMode : Bool) (items : List Json)
    (index : Nat) (objects : ∀ item ∈ items, item.isObject = true) :
    buildEndpointItems model apiKey mockMode true items index =
      buildEndpointItems model apiKey mockMode false items index := by
  induction items generalizing index with
  | nil => rfl
  | cons item rest ih =>
    obtain ⟨first, others⟩ := List.forall_mem_cons.mp objects
    simp only [buildEndpointItems, first, if_true, ih (index + 1) others]

/-- The items of the endpoint array are objects. -/
def ObjectItems (body : Json) : Prop :=
  ∀ items, endpointArray body = .ok items → ∀ item ∈ items, item.isObject = true

theorem buildEndpointsFromConfig_strict {body : Json} (objects : ObjectItems body)
    (model baseUrl apiKey : String) (mockMode : Bool) :
    buildEndpointsFromConfig body model baseUrl apiKey mockMode true =
      buildEndpointsFromConfig body model baseUrl apiKey mockMode false := by
  unfold buildEndpointsFromConfig
  cases array : endpointArray body with
  | error message => rfl
  | ok items =>
    have same := buildEndpointItems_strict model apiKey mockMode items 0 (objects items array)
    simp only [bind, Except.bind, same]

section Loaded

variable {env : Environment} {body : Json} {pool : Pool} {profiles : List ModelProfile}
  {eps : List VllmEndpoint}

theorem reloadBaseUrl_loaded
    (loaded : pool.cfg = committedLoad (loadedConfig env body) profiles (sharedEndpoints eps)) :
    reloadBaseUrl body pool.cfg = (loadedConfig env body).baseUrl := by
  have stored : pool.cfg.baseUrl = trimRightSlash (jsonStringValue body "vllm_base_url"
      env.vllmBaseUrl) := by
    rw [loaded]
    rfl
  have again : reloadBaseUrl body pool.cfg = pool.cfg.baseUrl :=
    @reloadBaseUrl_again body { pool.cfg with baseUrl := env.vllmBaseUrl } pool.cfg stored
  rw [again, loaded]
  rfl

/-- The reload goes on with the endpoints that the load has built. -/
theorem reloadedEndpoints_loaded (objects : ObjectItems body)
    (built : loadedEndpoints env body = .ok eps) (listed : pool.listed = sharedEndpoints eps)
    (loaded : pool.cfg = committedLoad (loadedConfig env body) profiles (sharedEndpoints eps)) :
    reloadedEndpoints pool body =
      .ok (if hasEndpointReloadConfig body then eps else sharedEndpoints eps) := by
  unfold reloadedEndpoints
  split
  · rw [buildEndpointsFromConfig_strict objects, reloadBaseUrl_loaded loaded, ← built, loaded]
    rfl
  · rw [listed]

/-- Without endpoints in the body there is one endpoint. -/
theorem keys_nodup_of_default (unchanged : hasEndpointReloadConfig body = false)
    (built : loadedEndpoints env body = .ok eps) : (eps.map endpointRuntimeKey).Nodup := by
  simp only [hasEndpointReloadConfig, Json.contains, Bool.or_eq_false_iff,
    Option.isSome_eq_false_iff, Option.isNone_iff_eq_none] at unchanged
  obtain ⟨⟨endpoints, vllmEndpoints⟩, _⟩ := unchanged
  have none : endpointArray body = .ok [] := by
    unfold endpointArray
    rw [endpoints, vllmEndpoints]
  unfold loadedEndpoints buildEndpointsFromConfig at built
  simp only [none] at built
  obtain ⟨rfl, _⟩ := (checkBaseUrls_ok_iff _ _ _).mp built
  simp

/-- The chain is read again as it was, or was filled in and is given now. -/
theorem fallbackChain_loaded {nowMs : Int} {baseUrl : String}
    (loaded : pool.cfg = committedLoad (loadedConfig env body) profiles eps) :
    (committedConfig (reloadScalars body pool.cfg) baseUrl profiles eps nowMs).fallbackChain =
      pool.cfg.fallbackChain := by
  have model : pool.cfg.model = (loadedConfig env body).model := by
    rw [loaded]
    rfl
  have stored : pool.cfg.fallbackChain = fillDefaultFallbackChain
      (jsonStringArrayValue (degradePolicy body) "fallback_chain") pool.cfg.model eps := by
    rw [model, loaded]
    rfl
  change fillDefaultFallbackChain (if (degradePolicy body).contains "fallback_chain" then
    jsonStringArrayValue (degradePolicy body) "fallback_chain" else pool.cfg.fallbackChain)
      pool.cfg.model eps = _
  split
  · exact stored.symm
  · apply fillDefaultFallbackChain_given
    rw [stored]
    exact fillDefaultFallbackChain_ne_nil _ _ _

theorem reloadProfiles_loaded
    (read : buildModelProfilesFromConfig body (loadedConfig env body).model = .ok profiles)
    (loaded : pool.cfg = committedLoad (loadedConfig env body) profiles (sharedEndpoints eps)) :
    reloadProfiles body pool.cfg = .ok profiles := by
  unfold reloadProfiles
  split
  · rw [loaded]
    exact read
  · rw [loaded]
    rfl

end Loaded

/-! ### The reload -/

/-- The static fields, the chain, the profiles and the configured fields of the endpoints. -/
structure SameConfiguration (pool pool' : Pool) : Prop where
  model : pool'.cfg.model = pool.cfg.model
  responseFormat : pool'.cfg.responseFormat = pool.cfg.responseFormat
  endpoint : pool'.cfg.endpoint = pool.cfg.endpoint
  workerCount : pool'.cfg.workerCount = pool.cfg.workerCount
  mockMode : pool'.cfg.mockMode = pool.cfg.mockMode
  fallbackChain : pool'.cfg.fallbackChain = pool.cfg.fallbackChain
  modelProfiles : pool'.cfg.modelProfiles = pool.cfg.modelProfiles
  endpoints : pool'.listed.map configuration = pool.listed.map configuration

theorem reloadConfig_of_built {pool : Pool} {body : Json} {profiles : List ModelProfile}
    {eps : List VllmEndpoint} (nowMs : Int) (object : body.isObject = true)
    (valid : validateStaticReloadFields body pool.cfg = .ok ())
    (read : reloadProfiles body pool.cfg = .ok profiles)
    (built : reloadedEndpoints pool body = .ok eps) :
    ∃ pool' baseUrl, reloadConfig pool body nowMs = .ok pool' ∧
      pool'.cfg = committedConfig (reloadScalars body pool.cfg) baseUrl profiles eps nowMs ∧
      pool'.listed.map configuration = eps.map configuration := by
  have ok_iff := fun pool' => reloadConfig_ok_iff pool pool' body nowMs
  unfold reloadedEndpoints at built
  by_cases changed : hasEndpointReloadConfig body = true
  · rw [if_pos changed] at built
    have reloads := (ok_iff _).mpr ⟨object, valid, profiles, read,
      (if_pos changed).mpr ⟨eps, built, rfl⟩⟩
    exact ⟨_, _, reloads, rfl, configuration_committed pool eps⟩
  · rw [if_neg changed, Except.ok.injEq] at built
    subst built
    have reloads := (ok_iff _).mpr ⟨object, valid, profiles, read, (if_neg changed).mpr rfl⟩
    exact ⟨_, _, reloads, rfl, rfl⟩

/-- A body that was loaded, with objects for the items of its endpoint array that differ in base
URL or served model, can be reloaded and leaves the configuration as it is, if and only if the
endpoint path begins with a slash where one is given, the number of workers is positive where
one is given, and the endpoints differ in their keys. -/
theorem reload_same_iff (env : Environment) (body : Json) (pool : Pool) (nowMs : Int)
    (loaded : loadModel env body = .ok pool) (objects : ObjectItems body)
    (eps : List VllmEndpoint) (built : loadedEndpoints env body = .ok eps)
    (distinct : (eps.map identity).Nodup) :
    (∃ pool', reloadConfig pool body nowMs = .ok pool' ∧ SameConfiguration pool pool') ↔
      StoredAsWritten body ∧ (eps.map endpointRuntimeKey).Nodup := by
  obtain ⟨named, profiles, eps', read, built', listed, cfg⟩ := loadModel_ok env body pool loaded
  obtain rfl : eps = eps' := Except.ok.inj (built.symm.trans built')
  have next := reloadedEndpoints_loaded objects built listed cfg
  have static := validate_loaded_iff cfg
  constructor
  · rintro ⟨pool', reloaded, same⟩
    obtain ⟨_, valid, _⟩ := (reloadConfig_ok_iff pool pool' body nowMs).mp reloaded
    refine ⟨static.mp valid, ?_⟩
    obtain ⟨_, _, eps', _, goesOn, settings⟩ := reloadConfig_ok pool pool' body nowMs reloaded
    cases changed : hasEndpointReloadConfig body with
    | false => exact keys_nodup_of_default changed built
    | true =>
      rw [next, if_pos changed, Except.ok.injEq] at goesOn
      subst goesOn
      -- the reload has separate objects, so the load had, too
      have separate : pool'.listed.map configuration = eps.map configuration :=
        congrArg Settings.endpoints settings
      apply nodup_of_sharedEndpoints distinct
      rw [← listed, ← same.endpoints, separate]
  · rintro ⟨written, keys⟩
    have shared := sharedEndpoints_of_nodup keys
    have profiled := reloadProfiles_loaded read cfg
    rw [shared] at cfg listed next
    rw [ite_self] at next
    obtain ⟨pool', baseUrl, reloads, committed, same⟩ := reloadConfig_of_built nowMs
      (isObject_of_named named) (static.mpr written) profiled next
    refine ⟨pool', reloads, ?_⟩
    constructor
    case fallbackChain =>
      rw [committed]
      exact fallbackChain_loaded cfg
    case modelProfiles =>
      rw [committed, cfg]
      rfl
    case endpoints => rw [same, listed]
    all_goals
      rw [committed]
      rfl

/-- Two backends, one of them written with a slash at the end. -/
def twoBackends : Json :=
  .obj [("model", .str "m"), ("worker_count", .int 2), ("endpoints", .arr
    [.obj [("base_url", .str "http://a/")], .obj [("base_url", .str "http://b")]])]

theorem twoBackends_objects : ObjectItems twoBackends := by
  intro items array
  cases array
  intro item member
  simp only [List.mem_cons, List.not_mem_nil, or_false] at member
  rcases member with rfl | rfl <;> rfl

theorem reload_same_iff_twoBackends : ∃ pool pool', loadModel {} twoBackends = .ok pool ∧
    reloadConfig pool twoBackends 1 = .ok pool' ∧ SameConfiguration pool pool' := by
  have loads : (loadModel {} twoBackends).toOption.isSome = true := by decide +kernel
  have apart : (loadedEndpoints {} twoBackends).toOption.map (fun eps =>
      decide ((eps.map identity).Nodup ∧ (eps.map endpointRuntimeKey).Nodup)) = some true := by
    decide +kernel
  cases loaded : loadModel {} twoBackends with
  | error message =>
    rw [loaded] at loads
    cases loads
  | ok pool =>
    cases built : loadedEndpoints {} twoBackends with
    | error message =>
      rw [built] at apart
      cases apart
    | ok eps =>
      rw [built] at apart
      obtain ⟨identities, keys⟩ := of_decide_eq_true (Option.some.inj apart)
      obtain ⟨pool', reloads, same⟩ := (reload_same_iff {} twoBackends pool 1 loaded
        twoBackends_objects eps built identities).mpr
        ⟨⟨by decide +kernel, by decide +kernel⟩, keys⟩
      exact ⟨pool, pool', rfl, reloads, same⟩

/-- A path without its slash, and no workers. -/
def relativePath : Json :=
  .obj [("model", .str "m"), ("mock", .bool true), ("endpoint", .str "v1/chat")]

def noWorkers : Json := .obj [("model", .str "m"), ("mock", .bool true), ("worker_count", .int 0)]

/-- Both are loaded, and refused on a reload. -/
theorem loaded_config_refused :
    (∃ pool, loadModel {} relativePath = .ok pool ∧
      reloadConfig pool relativePath 1 =
        .error "endpoint path cannot be changed by reload_config") ∧
    ∃ pool, loadModel {} noWorkers = .ok pool ∧
      reloadConfig pool noWorkers 1 = .error "worker_count cannot be changed by reload_config" :=
  ⟨⟨_, rfl, rfl⟩, _, rfl, rfl⟩

end VllmRoute.Scheduler
