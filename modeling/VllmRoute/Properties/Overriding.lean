import VllmRoute.Scheduler.Sharing

/-!
# Reload against load

A reload with the body `c1` after a load of `c0`, compared with one load of `c0`
overridden member by member with `c1`. The two read the same keys, but a reload
starts from values that were already derived from others and clamped, and looks
for the endpoints and the degrade policy in `c1` alone.
-/
namespace VllmRoute

/-! ### Members -/

/-- `body` with the members of `changes` in place of its own. -/
def Json.override : Json → Json → Json
  | .obj members, .obj changes =>
    .obj (changes ++ members.filter fun member => (changes.lookup member.1).isNone)
  | body, _ => body

theorem Json.get?_override (members changes : List (String × Json)) (key : String) :
    (Json.override (.obj members) (.obj changes)).get? key =
      ((Json.obj changes).get? key).or ((Json.obj members).get? key) := by
  simp only [Json.override, Json.get?, List.lookup_append]
  -- the changes come first; the filter takes away only what they hide
  cases given : changes.lookup key with
  | some value => rfl
  | none =>
    simp only [Option.none_or]
    induction members with
    | nil => rfl
    | cons member rest ih =>
      obtain ⟨name, value⟩ := member
      by_cases same : key = name
      · subst same
        simp [given]
      · have other : (key == name) = false := by simpa using same
        rw [List.lookup_cons, other, List.filter_cons]
        split
        · rw [List.lookup_cons, other]
          exact ih
        · exact ih

end VllmRoute

namespace VllmRoute.Scheduler

/-! ### The two ways to a configuration -/

/-- What is compared: the fields that a reload writes, and the configured fields of the
endpoints. -/
@[ext] structure Settings where
  baseUrl : String
  routingStrategy : String
  endpointWaitMs : Int
  maxQueueSize : Int
  lowPriorityDropThreshold : Int
  highPriorityThreshold : Int
  healthCheckIntervalMs : Int
  healthCheckTimeoutMs : Int
  unhealthyThreshold : Int
  recoveryThreshold : Int
  circuitFailureThreshold : Int
  circuitOpenMs : Int
  allowModelFallback : Bool
  fallbackChain : List String
  modelProfiles : List ModelProfile
  endpoints : List VllmEndpoint

def TaskConfig.settings (cfg : TaskConfig) (endpoints : List VllmEndpoint) : Settings :=
  { baseUrl := cfg.baseUrl
    routingStrategy := cfg.routingStrategy
    endpointWaitMs := cfg.endpointWaitMs
    maxQueueSize := cfg.maxQueueSize
    lowPriorityDropThreshold := cfg.lowPriorityDropThreshold
    highPriorityThreshold := cfg.highPriorityThreshold
    healthCheckIntervalMs := cfg.healthCheckIntervalMs
    healthCheckTimeoutMs := cfg.healthCheckTimeoutMs
    unhealthyThreshold := cfg.unhealthyThreshold
    recoveryThreshold := cfg.recoveryThreshold
    circuitFailureThreshold := cfg.circuitFailureThreshold
    circuitOpenMs := cfg.circuitOpenMs
    allowModelFallback := cfg.allowModelFallback
    fallbackChain := cfg.fallbackChain
    modelProfiles := cfg.modelProfiles
    endpoints := endpoints.map configuration }

def Pool.settings (pool : Pool) : Settings := pool.cfg.settings pool.listed

/-- The configuration that a load reads. -/
def loadedConfig (env : Environment) (body : Json) : TaskConfig :=
  normalizeConfig (readConfig env body)

/-- The endpoints that a load builds. -/
def loadedEndpoints (env : Environment) (body : Json) : Except String (List VllmEndpoint) :=
  let cfg := loadedConfig env body
  buildEndpointsFromConfig body cfg.model cfg.baseUrl cfg.apiKey cfg.mockMode false

/-- The configuration that a load commits. -/
def committedLoad (cfg : TaskConfig) (profiles : List ModelProfile)
    (endpoints : List VllmEndpoint) : TaskConfig :=
  { cfg with
    modelProfiles := profiles
    fallbackChain := fillDefaultFallbackChain cfg.fallbackChain cfg.model endpoints }

theorem loadModel_ok (env : Environment) (body : Json) (pool : Pool)
    (loaded : loadModel env body = .ok pool) :
    (loadedConfig env body).model ≠ "" ∧ ∃ profiles eps,
      buildModelProfilesFromConfig body (loadedConfig env body).model = .ok profiles ∧
      loadedEndpoints env body = .ok eps ∧ pool.listed = sharedEndpoints eps ∧
      pool.cfg = committedLoad (loadedConfig env body) profiles (sharedEndpoints eps) := by
  unfold loadModel at loaded
  dsimp only at loaded
  split at loaded
  · cases loaded
  next named =>
    obtain ⟨profiles, read, loaded⟩ := (bind_ok_iff _ _ _).mp loaded
    obtain ⟨eps, built, loaded⟩ := (bind_ok_iff _ _ _).mp loaded
    have listed := listed_shared (normalizeConfig (readConfig env body)) eps
    cases loaded
    refine ⟨named, profiles, eps, read, built, listed, ?_⟩
    rw [← listed]
    rfl

theorem loadModel_of_built (env : Environment) (body : Json) (profiles : List ModelProfile)
    (eps : List VllmEndpoint) (named : (loadedConfig env body).model ≠ "")
    (read : buildModelProfilesFromConfig body (loadedConfig env body).model = .ok profiles)
    (built : loadedEndpoints env body = .ok eps) :
    ∃ pool, loadModel env body = .ok pool := by
  unfold loadedEndpoints loadedConfig at built
  unfold loadedConfig at named read
  dsimp only at built
  unfold loadModel
  dsimp only
  rw [if_neg named, read, built]
  exact ⟨_, rfl⟩

/-- The endpoints that a reload goes on with. -/
def reloadedEndpoints (pool : Pool) (body : Json) : Except String (List VllmEndpoint) :=
  if hasEndpointReloadConfig body then
    buildEndpointsFromConfig body pool.cfg.model (reloadBaseUrl body pool.cfg) pool.cfg.apiKey
      pool.cfg.mockMode true
  else .ok pool.listed

theorem configuration_carryRuntime (old : String → Option VllmEndpoint) (ep : VllmEndpoint) :
    configuration (carryRuntime old ep) = configuration ep := by
  unfold carryRuntime
  split <;> rfl

/-- The history that is carried over is no part of the configuration. -/
theorem configuration_committed (pool : Pool) (eps : List VllmEndpoint) :
    (commitReloadedEndpointsLocked pool eps).listed.map configuration =
      eps.map configuration := by
  have committed := commitReloadedEndpointsLocked_committed pool eps
  unfold Pool.listed
  rw [committed.endpoints, List.nil_append, committed.listed]
  simp [Function.comp_def, configuration_carryRuntime]

theorem reloadConfig_ok (pool pool' : Pool) (body : Json) (nowMs : Int)
    (reloaded : reloadConfig pool body nowMs = .ok pool') :
    body.isObject = true ∧ ∃ profiles eps,
      reloadProfiles body pool.cfg = .ok profiles ∧ reloadedEndpoints pool body = .ok eps ∧
      pool'.settings = (committedConfig (reloadScalars body pool.cfg)
        (if hasEndpointReloadConfig body then reloadBaseUrl body pool.cfg else pool.cfg.baseUrl)
        profiles eps nowMs).settings eps := by
  obtain ⟨object, _, profiles, read, ends⟩ :=
    (reloadConfig_ok_iff pool pool' body nowMs).mp reloaded
  refine ⟨object, profiles, ?_⟩
  unfold reloadedEndpoints
  split at ends
  next changed =>
    obtain ⟨eps, built, rfl⟩ := ends
    refine ⟨eps, read, by rw [if_pos changed]; exact built, ?_⟩
    have listed := configuration_committed pool eps
    unfold Pool.listed at listed
    rw [if_pos changed]
    simp only [Pool.settings, Pool.listed, TaskConfig.settings, listed]
  next unchanged =>
    rw [ends]
    refine ⟨pool.listed, read, by rw [if_neg unchanged], ?_⟩
    rw [if_neg unchanged]
    rfl

/-! ### The bodies of a reload -/

/-- The keys with numbers. -/
def numberKeys : List String :=
  ["endpoint_wait_ms", "max_queue_size", "low_priority_drop_threshold", "high_priority_threshold",
    "health_check_interval_ms", "health_check_timeout_ms", "unhealthy_threshold",
    "recovery_threshold", "circuit_failure_threshold", "circuit_open_ms"]

def reloadableKeys : List String :=
  numberKeys ++ ["routing_strategy", "degrade_policy", "allow_model_fallback", "fallback_chain",
    "model_profiles", "endpoints", "vllm_endpoints", "vllm_base_url", "observability",
    "observability_enabled"]

/-- A body that names nothing but what can be reloaded, with well-typed positive values. -/
structure Reloadable (model : String) (body : Json) : Prop where
  keys : ∀ key, body.contains key = true → key ∈ reloadableKeys
  numbers : ∀ key ∈ numberKeys, ∀ value, body.get? key = some value →
    ∃ n, value = .int n ∧ 1 ≤ n ∧ n ≤ intMax
  texts : ∀ key ∈ ["routing_strategy", "vllm_base_url"], ∀ value, body.get? key = some value →
    ∃ text, value = .str text
  flag : ∀ value, body.get? "allow_model_fallback" = some value → ∃ b, value = .bool b
  policy : ∀ value, body.get? "degrade_policy" = some value → value.isObject = true ∧
    ∀ flag, value.get? "allow_model_fallback" = some flag → ∃ b, flag = .bool b
  endpoints : ∀ key ∈ ["endpoints", "vllm_endpoints"], ∀ value, body.get? key = some value →
    ∃ items, value = .arr items ∧ (∀ item ∈ items, item.isObject = true) ∧
      (items.map (itemIdentity model)).Nodup

/-! ### When they agree -/

/-- Where `allow_model_fallback` and `fallback_chain` are read. -/
def degradePolicy (body : Json) : Json :=
  match body.get? "degrade_policy" with
  | some (.obj members) => .obj members
  | _ => body

def hasDegradePolicy (body : Json) : Bool :=
  ((body.get? "degrade_policy").map Json.isObject).getD false

/-- The numbers that a reload clamps and a load does not, with the bound and the default. -/
def clampedKeys : List (String × Int × Int) :=
  [("max_queue_size", 0, 64), ("high_priority_threshold", 0, 7),
    ("health_check_interval_ms", 1, 5000), ("health_check_timeout_ms", 1, 2000),
    ("unhealthy_threshold", 1, 3), ("recovery_threshold", 1, 2),
    ("circuit_failure_threshold", 1, 5), ("circuit_open_ms", 1, 30000)]

/-- A number that `c1` leaves alone was in range in `c0`. -/
def NumbersAgree (c0 c1 : Json) : Prop :=
  ∀ limit ∈ clampedKeys,
    c1.contains limit.1 = true ∨ limit.2.1 ≤ jsonIntValue c0 limit.1 limit.2.2

/-- The default of `low_priority_drop_threshold`. -/
def derivedDropThreshold (maxQueueSize : Int) : Int := max 0 (toInt32 (maxQueueSize - 16))

/-- The threshold is given, or its default does not move with the queue size. -/
def DropThresholdAgrees (c0 c1 : Json) : Prop :=
  c1.contains "low_priority_drop_threshold" = true ∨
    match jsonInt? c0 "low_priority_drop_threshold" with
    | some given => 0 ≤ given
    | none =>
      let maxQueueSize := jsonIntValue c0 "max_queue_size" 64
      derivedDropThreshold maxQueueSize =
        derivedDropThreshold (jsonIntValue c1 "max_queue_size" maxQueueSize)

/-- A new degrade policy says whether models may be replaced, and none is hidden behind the
old one. -/
def FallbackAgrees (c0 c1 : Json) (allowModelFallback : Bool) : Prop :=
  if c1.contains "degrade_policy" then
    (degradePolicy c1).contains "allow_model_fallback" = true ∨ allowModelFallback = true
  else hasDegradePolicy c0 = true →
    jsonBoolValue c1 "allow_model_fallback" allowModelFallback = allowModelFallback

/-- The chain is one that was given, in the place where a load looks for it, or the default
chain is still the one of the endpoints. -/
def ChainAgrees (c0 c1 : Json) (cfg : TaskConfig) (endpoints : List VllmEndpoint) : Prop :=
  let fill chain := fillDefaultFallbackChain chain cfg.model endpoints
  let old := jsonStringArrayValue (degradePolicy c0) "fallback_chain"
  if (degradePolicy c1).contains "fallback_chain" then
    (c1.contains "degrade_policy" = false ∧ hasDegradePolicy c0 = true) →
      fill (jsonStringArrayValue (degradePolicy c1) "fallback_chain") = fill old
  else if c1.contains "degrade_policy" then cfg.fallbackChain = fill []
  else old = [] → cfg.fallbackChain = fill []

/-- A load of both takes its endpoint array from `c0`. -/
def arrayHidden (c0 c1 : Json) : Bool :=
  !c1.contains "endpoints" &&
    (c0.contains "endpoints" || (!c1.contains "vllm_endpoints" && c0.contains "vllm_endpoints"))

/-- The endpoints of `c1` come out of a load as they are: they have keys and, unless it is a
mock, base URLs. Those that a load takes from `c0` instead are the same. -/
def EndpointsAgree (env : Environment) (c0 c1 : Json) (pool : Pool)
    (endpoints : List VllmEndpoint) : Prop :=
  let mockMode := (loadedConfig env (c0.override c1)).mockMode
  if arrayHidden c0 c1 then
    ∃ eps, buildEndpointsFromConfig c0 pool.cfg.model (reloadBaseUrl c1 pool.cfg) pool.cfg.apiKey
        mockMode false = .ok eps ∧
      (sharedEndpoints eps).map configuration = endpoints.map configuration
  else (endpoints.map endpointRuntimeKey).Nodup ∧
    (mockMode = false → ∀ ep ∈ endpoints, ep.baseUrl ≠ "")

structure Compatible (env : Environment) (c0 c1 : Json) (pool : Pool) : Prop where
  numbers : NumbersAgree c0 c1
  dropThreshold : DropThresholdAgrees c0 c1
  fallback : FallbackAgrees c0 c1 pool.cfg.allowModelFallback
  chain : ∀ eps, reloadedEndpoints pool c1 = .ok eps → ChainAgrees c0 c1 pool.cfg eps
  endpoints : hasEndpointReloadConfig c1 = true →
    ∀ eps, reloadedEndpoints pool c1 = .ok eps → EndpointsAgree env c0 c1 pool eps

/-! ### Reading the overridden body -/

section Reading

variable {m c0 c1 : Json} {model key : String}

/-- `m` has the members of `c1`, and of `c0` where `c1` has none. -/
def Overrides (m c0 c1 : Json) : Prop := ∀ key, m.get? key = (c1.get? key).or (c0.get? key)

theorem overrides_override (object0 : c0.isObject = true) (object1 : c1.isObject = true) :
    Overrides (c0.override c1) c0 c1 := by
  cases c0 with
  | obj members =>
    cases c1 with
    | obj changes => exact Json.get?_override members changes
    | _ => cases object1
  | _ => cases object0

theorem Overrides.kept (overrides : Overrides m c0 c1) (absent : c1.get? key = none) :
    m.get? key = c0.get? key := by
  rw [overrides key, absent, Option.none_or]

theorem Overrides.given (overrides : Overrides m c0 c1) {value : Json}
    (present : c1.get? key = some value) : m.get? key = some value := by
  rw [overrides key, present, Option.some_or]

theorem Reloadable.lacks (reloadable : Reloadable model c1) (static : key ∉ reloadableKeys) :
    c1.get? key = none := by
  cases found : c1.get? key with
  | none => rfl
  | some value => exact absurd (reloadable.keys key (by simp [Json.contains, found])) static

theorem Overrides.string (overrides : Overrides m c0 c1)
    (typed : ∀ value, c1.get? key = some value → ∃ text, value = .str text)
    (defaultValue : String) :
    jsonStringValue m key defaultValue =
      jsonStringValue c1 key (jsonStringValue c0 key defaultValue) := by
  cases found : c1.get? key with
  | none => simp only [jsonStringValue, overrides.kept found, found]
  | some value =>
    obtain ⟨text, rfl⟩ := typed value found
    simp only [jsonStringValue, overrides.given found, found]

theorem Overrides.number (overrides : Overrides m c0 c1) (reloadable : Reloadable model c1)
    (listed : key ∈ numberKeys) (defaultValue : Int) :
    jsonIntValue m key defaultValue = jsonIntValue c1 key (jsonIntValue c0 key defaultValue) := by
  cases found : c1.get? key with
  | none => simp only [jsonIntValue, overrides.kept found, found]
  | some value =>
    obtain ⟨n, rfl, _, _⟩ := reloadable.numbers key listed value found
    simp only [jsonIntValue, overrides.given found, found]

/-- A reload keeps a number that it finds unless it is out of range. -/
theorem Reloadable.clamped (reloadable : Reloadable model c1) (listed : key ∈ numberKeys)
    {bound old : Int} (small : bound ≤ 1) :
    jsonIntValue c1 key old = max bound (jsonIntValue c1 key old) ↔
      c1.contains key = true ∨ bound ≤ old := by
  cases found : c1.get? key with
  | none =>
    simp only [jsonIntValue, Json.contains, found, Option.isSome_none, Bool.false_eq_true, false_or]
    omega
  | some value =>
    obtain ⟨n, rfl, low, high⟩ := reloadable.numbers key listed value found
    -- in range, so that the conversion to `int` does nothing
    have same : toInt32 n = n := by
      unfold toInt32
      have high : n ≤ 2147483647 := high
      exact Int.bmod_eq_of_le (by omega) (by omega)
    simp only [jsonIntValue, Json.contains, found, same, Option.isSome_some, true_or, iff_true]
    omega

end Reading

/-! ### The parts -/

section Parts

variable {env : Environment} {m c0 c1 : Json} {pool : Pool} {model : String}

theorem endpointArray_of_override (overrides : Overrides m c0 c1) :
    endpointArray m = if arrayHidden c0 c1 then endpointArray c0 else endpointArray c1 := by
  unfold endpointArray arrayHidden Json.contains
  rw [overrides "endpoints", overrides "vllm_endpoints"]
  -- `endpoints` of either body hides `vllm_endpoints` of both
  cases c1.get? "endpoints" with
  | some value => cases value <;> rfl
  | none =>
    cases c0.get? "endpoints" with
    | some value => cases value <;> simp
    | none =>
      cases c1.get? "vllm_endpoints" <;> cases c0.get? "vllm_endpoints" <;> simp

/-- Building looks at the array of a body only. -/
theorem buildEndpointsFromConfig_congr {body body' : Json}
    (same : endpointArray body = endpointArray body') (model baseUrl apiKey : String)
    (mockMode strictItems : Bool) :
    buildEndpointsFromConfig body model baseUrl apiKey mockMode strictItems =
      buildEndpointsFromConfig body' model baseUrl apiKey mockMode strictItems := by
  unfold buildEndpointsFromConfig
  rw [same]

theorem fillDefaultFallbackChain_congr {eps eps' : List VllmEndpoint}
    (same : eps.map configuration = eps'.map configuration) (chain : List String) (model : String) :
    fillDefaultFallbackChain chain model eps = fillDefaultFallbackChain chain model eps' := by
  -- the chain depends on the served models only
  have served : eps.map VllmEndpoint.servedModel = eps'.map VllmEndpoint.servedModel := by
    have projected := congrArg (List.map VllmEndpoint.servedModel) same
    simpa [Function.comp_def, configuration] using projected
  have fold (eps : List VllmEndpoint) : fillDefaultFallbackChain chain model eps =
      if chain.isEmpty then (eps.map VllmEndpoint.servedModel).foldl (fun chain served =>
        if chain.contains served then chain else chain ++ [served]) [model] else chain := by
    rw [fillDefaultFallbackChain, List.foldl_map]
  rw [fold, fold, served]

theorem numbers_iff (overrides : Overrides m c0 c1) (reloadable : Reloadable model c1) :
    (∀ limit ∈ clampedKeys, jsonIntValue m limit.1 limit.2.2 =
      max limit.2.1 (jsonIntValue c1 limit.1 (jsonIntValue c0 limit.1 limit.2.2))) ↔
      NumbersAgree c0 c1 := by
  refine forall₂_congr fun limit member => ?_
  -- a positive number is above each of the bounds
  have known : ∀ limit ∈ clampedKeys, limit.1 ∈ numberKeys ∧ limit.2.1 ≤ 1 := by decide
  obtain ⟨listed, small⟩ := known limit member
  rw [overrides.number reloadable listed]
  exact reloadable.clamped listed small

theorem dropThreshold_iff (overrides : Overrides m c0 c1) (reloadable : Reloadable model c1) :
    jsonIntValue m "low_priority_drop_threshold"
        (derivedDropThreshold (jsonIntValue m "max_queue_size" 64)) =
      max 0 (jsonIntValue c1 "low_priority_drop_threshold"
        (jsonIntValue c0 "low_priority_drop_threshold"
          (derivedDropThreshold (jsonIntValue c0 "max_queue_size" 64)))) ↔
      DropThresholdAgrees c0 c1 := by
  have listed : "low_priority_drop_threshold" ∈ numberKeys := by decide
  rw [overrides.number reloadable listed, overrides.number reloadable (by decide)]
  unfold DropThresholdAgrees
  -- a given threshold decides; otherwise the old value meets the new default
  by_cases given : c1.contains "low_priority_drop_threshold" = true
  · have number (old old' : Int) : jsonIntValue c1 "low_priority_drop_threshold" old =
        jsonIntValue c1 "low_priority_drop_threshold" old' := by
      obtain ⟨value, found⟩ := Option.isSome_iff_exists.mp given
      obtain ⟨n, rfl, _⟩ := reloadable.numbers _ listed value found
      simp only [jsonIntValue, found]
    simp only [given, true_or, iff_true]
    exact (number _ _).trans ((reloadable.clamped listed (by decide)).mpr (Or.inl given))
  · have absent : c1.get? "low_priority_drop_threshold" = none := by
      simpa [Json.contains] using given
    have kept (old : Int) : jsonIntValue c1 "low_priority_drop_threshold" old = old := by
      simp only [jsonIntValue, absent]
    simp only [kept, given, Bool.false_eq_true, false_or,
      jsonIntValue_eq c0 "low_priority_drop_threshold"]
    cases jsonInt? c0 "low_priority_drop_threshold" with
    | some low =>
      simp only [Option.getD_some]
      omega
    | none =>
      simp only [Option.getD_none, derivedDropThreshold]
      omega

theorem degradePolicy_new (overrides : Overrides m c0 c1) {policy : Json}
    (found : c1.get? "degrade_policy" = some policy) (object : policy.isObject = true) :
    degradePolicy m = policy ∧ degradePolicy c1 = policy := by
  cases policy with
  | obj members => simp only [degradePolicy, overrides.given found, found, and_self]
  | _ => cases object

theorem degradePolicy_old (overrides : Overrides m c0 c1)
    (absent : c1.get? "degrade_policy" = none) :
    degradePolicy c1 = c1 ∧
      degradePolicy m = if hasDegradePolicy c0 then degradePolicy c0 else m := by
  refine ⟨by simp only [degradePolicy, absent], ?_⟩
  unfold degradePolicy hasDegradePolicy
  rw [overrides.kept absent]
  cases c0.get? "degrade_policy" with
  | none => rfl
  | some value => cases value <;> rfl

theorem degradePolicy_plain (plain : hasDegradePolicy c0 = false) : degradePolicy c0 = c0 := by
  unfold degradePolicy
  unfold hasDegradePolicy at plain
  split
  next members found =>
    rw [found] at plain
    cases plain
  · rfl

theorem fallback_iff (overrides : Overrides m c0 c1) (reloadable : Reloadable model c1)
    {allow : Bool} (old : allow = jsonBoolValue (degradePolicy c0) "allow_model_fallback" true) :
    jsonBoolValue (degradePolicy m) "allow_model_fallback" true =
      jsonBoolValue (degradePolicy c1) "allow_model_fallback" allow ↔
    FallbackAgrees c0 c1 allow := by
  unfold FallbackAgrees
  cases found : c1.get? "degrade_policy" with
  | some policy =>
    -- a new policy replaces the old one in a load, and completes it in a reload
    obtain ⟨object, typed⟩ := reloadable.policy policy found
    obtain ⟨merged, new⟩ := degradePolicy_new overrides found object
    rw [if_pos (by simp [Json.contains, found]), merged, new]
    cases given : policy.get? "allow_model_fallback" with
    | some flag =>
      obtain ⟨b, rfl⟩ := typed flag given
      simp [jsonBoolValue, Json.contains, given]
    | none => simp [jsonBoolValue, Json.contains, given, eq_comm]
  | none =>
    -- without one, an old policy hides what `c1` says at the top
    obtain ⟨new, merged⟩ := degradePolicy_old overrides found
    rw [if_neg (by simp [Json.contains, found]), merged, new]
    cases policy : hasDegradePolicy c0 with
    | true =>
      rw [if_pos rfl, ← old]
      simp [eq_comm]
    | false =>
      rw [degradePolicy_plain policy] at old
      have same : jsonBoolValue m "allow_model_fallback" true =
          jsonBoolValue c1 "allow_model_fallback" allow := by
        cases given : c1.get? "allow_model_fallback" with
        | none => simp only [old, jsonBoolValue, overrides.kept given, given]
        | some flag =>
          obtain ⟨b, rfl⟩ := reloadable.flag flag given
          simp only [jsonBoolValue, overrides.given given, given]
      simp [same]

/-- `cfg` is what the load of `c0` left, with the endpoints `eps0`. -/
theorem chain_iff (overrides : Overrides m c0 c1) (reloadable : Reloadable model c1)
    {cfg : TaskConfig} {eps0 : List VllmEndpoint} (eps : List VllmEndpoint)
    (old : cfg.fallbackChain = fillDefaultFallbackChain
      (jsonStringArrayValue (degradePolicy c0) "fallback_chain") cfg.model eps0) :
    fillDefaultFallbackChain (jsonStringArrayValue (degradePolicy m) "fallback_chain") cfg.model
        eps =
      fillDefaultFallbackChain (if (degradePolicy c1).contains "fallback_chain"
        then jsonStringArrayValue (degradePolicy c1) "fallback_chain" else cfg.fallbackChain)
        cfg.model eps ↔ ChainAgrees c0 c1 cfg eps := by
  -- what a load left is never empty, so that a reload fills nothing in
  have some : cfg.fallbackChain ≠ [] := old ▸ fillDefaultFallbackChain_ne_nil _ _ _
  have stays := fillDefaultFallbackChain_given some cfg.model eps
  -- a chain that a load finds in `c0` again
  have again : fillDefaultFallbackChain (jsonStringArrayValue (degradePolicy c0) "fallback_chain")
      cfg.model eps = cfg.fallbackChain ↔
        (jsonStringArrayValue (degradePolicy c0) "fallback_chain" = [] →
          cfg.fallbackChain = fillDefaultFallbackChain [] cfg.model eps) := by
    by_cases given : jsonStringArrayValue (degradePolicy c0) "fallback_chain" = []
    · simp [given, eq_comm]
    · rw [fillDefaultFallbackChain_given given] at old ⊢
      simp [given, old]
  unfold ChainAgrees
  dsimp only
  cases found : c1.get? "degrade_policy" with
  | some policy =>
    obtain ⟨object, _⟩ := reloadable.policy policy found
    obtain ⟨merged, new⟩ := degradePolicy_new overrides found object
    have present : c1.contains "degrade_policy" = true := by simp [Json.contains, found]
    rw [merged, new]
    split
    · simp [present]
    next missing =>
      have none : jsonStringArrayValue policy "fallback_chain" = [] := by
        have absent : policy.get? "fallback_chain" = none := by simpa [Json.contains] using missing
        simp only [jsonStringArrayValue, absent]
      rw [stays, none]
      exact eq_comm
  | none =>
    obtain ⟨new, merged⟩ := degradePolicy_old overrides found
    have missing : c1.contains "degrade_policy" = false := by simp [Json.contains, found]
    rw [merged, new]
    cases policy : hasDegradePolicy c0 with
    | true =>
      rw [if_pos rfl]
      split
      · simp [missing, eq_comm]
      · rw [stays, missing]
        exact again
    | false =>
      rw [if_neg (by decide)]
      split
      next given =>
        obtain ⟨value, chain⟩ := Option.isSome_iff_exists.mp given
        have same : jsonStringArrayValue m "fallback_chain" =
            jsonStringArrayValue c1 "fallback_chain" := by
          simp only [jsonStringArrayValue, overrides.given chain, chain]
        simp [same]
      next absent =>
        have absent : c1.get? "fallback_chain" = none := by simpa [Json.contains] using absent
        have same : jsonStringArrayValue m "fallback_chain" =
            jsonStringArrayValue (degradePolicy c0) "fallback_chain" := by
          rw [degradePolicy_plain policy]
          simp only [jsonStringArrayValue, overrides.kept absent]
        rw [stays, same, missing]
        exact again

theorem baseUrl_override (overrides : Overrides m c0 c1) (reloadable : Reloadable model c1) :
    (loadedConfig env m).baseUrl = reloadBaseUrl c1 (loadedConfig env c0) := by
  have read := overrides.string (reloadable.texts "vllm_base_url" (by decide)) env.vllmBaseUrl
  change trimRightSlash (jsonStringValue m "vllm_base_url" env.vllmBaseUrl) =
    trimRightSlash (jsonStringValue c1 "vllm_base_url"
      (trimRightSlash (jsonStringValue c0 "vllm_base_url" env.vllmBaseUrl)))
  rw [read]
  unfold jsonStringValue
  split
  · rfl
  · exact (trimRightSlash_idem _).symm

theorem model_override (overrides : Overrides m c0 c1) (reloadable : Reloadable model c1) :
    (loadedConfig env m).model = (loadedConfig env c0).model := by
  have kept := overrides.kept (reloadable.lacks (show "model" ∉ reloadableKeys by decide))
  change jsonStringValue m "model" "" = jsonStringValue c0 "model" ""
  simp only [jsonStringValue, kept]

theorem apiKey_override (overrides : Overrides m c0 c1) (reloadable : Reloadable model c1) :
    (loadedConfig env m).apiKey = (loadedConfig env c0).apiKey := by
  have kept := overrides.kept (reloadable.lacks (show "api_key" ∉ reloadableKeys by decide))
  change jsonStringValue m "api_key" env.vllmApiKey = jsonStringValue c0 "api_key" env.vllmApiKey
  simp only [jsonStringValue, kept]

/-- The settings agree, part by part, when the endpoints do. -/
theorem settings_iff (overrides : Overrides m c0 c1) (reloadable : Reloadable model c1)
    {profiles0 profiles : List ModelProfile} {eps0 epsM eps : List VllmEndpoint} {cfg : TaskConfig}
    (loaded : cfg = committedLoad (loadedConfig env c0) profiles0 eps0)
    (same : epsM.map configuration = eps.map configuration) (nowMs : Int) :
    (committedLoad (loadedConfig env m) profiles epsM).settings epsM =
      (committedConfig (reloadScalars c1 cfg) (reloadBaseUrl c1 cfg) profiles eps nowMs).settings
        eps ↔
      NumbersAgree c0 c1 ∧ DropThresholdAgrees c0 c1 ∧
        FallbackAgrees c0 c1 cfg.allowModelFallback ∧ ChainAgrees c0 c1 cfg eps := by
  subst loaded
  have routing := overrides.string (reloadable.texts "routing_strategy" (by decide))
    "weighted_least_queue"
  have waiting : max 0 (jsonIntValue m "endpoint_wait_ms" 2000) =
      max 0 (jsonIntValue c1 "endpoint_wait_ms"
        (max 0 (jsonIntValue c0 "endpoint_wait_ms" 2000))) := by
    rw [overrides.number reloadable (by decide), jsonIntValue_eq c1, jsonIntValue_eq c1]
    cases jsonInt? c1 "endpoint_wait_ms" with
    | some n => rfl
    | none =>
      simp only [Option.getD_none]
      omega
  have numbers := numbers_iff overrides reloadable
  simp only [clampedKeys, List.forall_mem_cons, List.not_mem_nil, false_implies, implies_true,
    and_true] at numbers
  have fallbacks : _ ↔ FallbackAgrees c0 c1
      (committedLoad (loadedConfig env c0) profiles0 eps0).allowModelFallback :=
    fallback_iff overrides reloadable rfl
  have chain : _ ↔ ChainAgrees c0 c1 (committedLoad (loadedConfig env c0) profiles0 eps0) eps :=
    chain_iff overrides reloadable eps rfl
  have chains : fillDefaultFallbackChain (loadedConfig env m).fallbackChain
      (loadedConfig env m).model epsM =
        fillDefaultFallbackChain (loadedConfig env m).fallbackChain (loadedConfig env c0).model
          eps := by
    rw [fillDefaultFallbackChain_congr same, model_override overrides reloadable]
  -- field by field; the fields that always agree are added on the way back
  rw [Settings.ext_iff, ← numbers, ← dropThreshold_iff overrides reloadable,
    ← fallbacks, ← chain]
  constructor
  · rintro ⟨_, _, _, queue, drop, high, interval, timeout, unhealthy, recovery, failures, opened,
      fallback, given, _, _⟩
    exact ⟨⟨queue, high, interval, timeout, unhealthy, recovery, failures, opened⟩, drop, fallback,
      chains.symm.trans given⟩
  · rintro ⟨⟨queue, high, interval, timeout, unhealthy, recovery, failures, opened⟩, drop, fallback,
      given⟩
    exact ⟨baseUrl_override overrides reloadable, routing, waiting, queue, drop, high, interval,
      timeout, unhealthy, recovery, failures, opened, fallback, chains.trans given, rfl, same⟩

/-- The array of a reloadable body. -/
theorem Reloadable.array (reloadable : Reloadable model c1) :
    ∃ items, endpointArray c1 = .ok items ∧ (∀ item ∈ items, item.isObject = true) ∧
      (items.map (itemIdentity model)).Nodup := by
  unfold endpointArray
  cases first : c1.get? "endpoints" with
  | some value =>
    obtain ⟨items, rfl, objects, distinct⟩ := reloadable.endpoints _ (by decide) value first
    exact ⟨items, rfl, objects, distinct⟩
  | none =>
    cases second : c1.get? "vllm_endpoints" with
    | some value =>
      obtain ⟨items, rfl, objects, distinct⟩ := reloadable.endpoints _ (by decide) value second
      exact ⟨items, rfl, objects, distinct⟩
    | none => exact ⟨[], rfl, by simp, by simp⟩

/-- A body that leaves the endpoints alone leaves them alone in a load, too. -/
theorem loadedEndpoints_kept (overrides : Overrides m c0 c1) (reloadable : Reloadable model c1)
    (unchanged : hasEndpointReloadConfig c1 = false) :
    loadedEndpoints env m = loadedEndpoints env c0 := by
  simp only [hasEndpointReloadConfig, Json.contains, Bool.or_eq_false_iff,
    Option.isSome_eq_false_iff, Option.isNone_iff_eq_none] at unchanged
  obtain ⟨⟨endpoints, vllmEndpoints⟩, baseUrl⟩ := unchanged
  have array : endpointArray m = endpointArray c0 := by
    unfold endpointArray
    rw [overrides.kept endpoints, overrides.kept vllmEndpoints]
  have base : jsonStringValue m "vllm_base_url" env.vllmBaseUrl =
      jsonStringValue c0 "vllm_base_url" env.vllmBaseUrl := by
    simp only [jsonStringValue, overrides.kept baseUrl]
  have mock : (loadedConfig env m).mockMode = (loadedConfig env c0).mockMode := by
    have kept := overrides.kept (reloadable.lacks (show "mock" ∉ reloadableKeys by decide))
    simp only [loadedConfig, normalizeConfig, readConfig, base, Json.contains, jsonBoolValue, kept,
      overrides.kept endpoints, overrides.kept vllmEndpoints]
  unfold loadedEndpoints
  dsimp only
  rw [buildEndpointsFromConfig_congr array, mock, model_override overrides reloadable,
    apiKey_override overrides reloadable]
  exact congrArg (buildEndpointsFromConfig c0 _ · _ _ false) (congrArg trimRightSlash base)

theorem isObject_of_named (named : (loadedConfig env c0).model ≠ "") : c0.isObject = true := by
  cases c0 with
  | obj members => rfl
  | _ => exact absurd rfl named

theorem profiles_override (overrides : Overrides m c0 c1) {model' : String} {cfg : TaskConfig}
    {profiles : List ModelProfile} (named : cfg.model = model')
    (old : buildModelProfilesFromConfig c0 model' = .ok cfg.modelProfiles)
    (read : reloadProfiles c1 cfg = .ok profiles) :
    buildModelProfilesFromConfig m model' = .ok profiles := by
  unfold reloadProfiles at read
  cases found : c1.get? "model_profiles" with
  | some value =>
    rw [if_pos (by simp [Json.contains, found]), named] at read
    rw [← read]
    simp only [buildModelProfilesFromConfig, overrides.given found, found]
  | none =>
    rw [if_neg (by simp [Json.contains, found])] at read
    rw [← read, ← old]
    simp only [buildModelProfilesFromConfig, overrides.kept found]

/-- Without a base URL in the body, a trimmed one stays. -/
theorem reloadBaseUrl_kept {cfg : TaskConfig} (unchanged : hasEndpointReloadConfig c1 = false)
    (trimmed : trimRightSlash cfg.baseUrl = cfg.baseUrl) : reloadBaseUrl c1 cfg = cfg.baseUrl := by
  simp only [hasEndpointReloadConfig, Json.contains, Bool.or_eq_false_iff,
    Option.isSome_eq_false_iff, Option.isNone_iff_eq_none] at unchanged
  simp only [reloadBaseUrl, jsonStringValue, unchanged.2]
  exact trimmed

end Parts

section Whole

variable {env : Environment} {c0 c1 : Json} {pool : Pool}

/-- A load of both builds the same endpoints. -/
theorem endpoints_iff (overrides : Overrides (c0.override c1) c0 c1)
    (reloadable : Reloadable pool.cfg.model c1)
    {profiles0 : List ModelProfile} {eps0 eps : List VllmEndpoint}
    (loaded : pool.cfg = committedLoad (loadedConfig env c0) profiles0 (sharedEndpoints eps0))
    (built : loadedEndpoints env c0 = .ok eps0) (listed : pool.listed = sharedEndpoints eps0)
    (next : reloadedEndpoints pool c1 = .ok eps) :
    (∃ epsM, loadedEndpoints env (c0.override c1) = .ok epsM ∧
      (sharedEndpoints epsM).map configuration = eps.map configuration) ↔
      (hasEndpointReloadConfig c1 = true → EndpointsAgree env c0 c1 pool eps) := by
  have baseUrl : (loadedConfig env (c0.override c1)).baseUrl = reloadBaseUrl c1 pool.cfg := by
    rw [loaded]
    exact baseUrl_override overrides reloadable
  have modelKept : (loadedConfig env (c0.override c1)).model = pool.cfg.model := by
    rw [loaded]
    exact model_override overrides reloadable
  have keyKept : (loadedConfig env (c0.override c1)).apiKey = pool.cfg.apiKey := by
    rw [loaded]
    exact apiKey_override overrides reloadable
  have array := endpointArray_of_override overrides
  unfold reloadedEndpoints at next
  split at next
  next changed =>
    simp only [changed, true_implies]
    unfold EndpointsAgree loadedEndpoints
    dsimp only
    rw [modelKept, baseUrl, keyKept]
    split
    -- the load does not see the array of `c1`
    next hidden =>
      rw [if_pos hidden] at array
      rw [buildEndpointsFromConfig_congr array]
    -- both build the array of `c1`, but only the load shares objects and skips items
    next shown =>
      rw [if_neg shown] at array
      rw [buildEndpointsFromConfig_congr array]
      obtain ⟨items, read, objects, distinct⟩ := reloadable.array
      obtain ⟨made, served, identities, accepts⟩ := buildEndpointsFromConfig_accepts c1
        pool.cfg.model (reloadBaseUrl c1 pool.cfg) pool.cfg.apiKey items read objects distinct
      obtain ⟨rfl, _, allServed⟩ := (accepts _ _ _).mp next
      constructor
      · rintro ⟨epsM, accepted, same⟩
        obtain ⟨rfl, based, _⟩ := (accepts _ _ _).mp accepted
        exact ⟨nodup_of_sharedEndpoints identities same, based⟩
      · rintro ⟨keys, based⟩
        refine ⟨eps, (accepts _ _ _).mpr ⟨rfl, based, allServed⟩, ?_⟩
        rw [sharedEndpoints_of_nodup keys]
  next unchanged =>
    simp only [unchanged, Bool.false_eq_true, false_implies, iff_true]
    obtain rfl : pool.listed = eps := Except.ok.inj next
    refine ⟨eps0, ?_, by rw [listed]⟩
    rw [loadedEndpoints_kept overrides reloadable (by simpa using unchanged), built]

/-- A reload with `c1` after a load of `c0` gives the settings of one load of both exactly
when the bodies are compatible. -/
theorem reload_agrees_iff (env : Environment) (c0 c1 : Json) (pool pool' : Pool) (nowMs : Int)
    (loaded : loadModel env c0 = .ok pool) (reloadable : Reloadable pool.cfg.model c1)
    (reloaded : reloadConfig pool c1 nowMs = .ok pool') :
    (∃ merged, loadModel env (c0.override c1) = .ok merged ∧ merged.settings = pool'.settings) ↔
      Compatible env c0 c1 pool := by
  obtain ⟨named, profiles0, eps0, read0, built0, listed0, cfg0⟩ := loadModel_ok env c0 pool loaded
  obtain ⟨object, profiles, eps, read, next, settings⟩ :=
    reloadConfig_ok pool pool' c1 nowMs reloaded
  have overrides := overrides_override (isObject_of_named named) object
  -- profiles come from `c1`, or are still those of `c0`
  have readM : buildModelProfilesFromConfig (c0.override c1)
      (loadedConfig env (c0.override c1)).model = .ok profiles := by
    rw [model_override overrides reloadable]
    refine profiles_override overrides ?_ ?_ read
    · rw [cfg0]
      rfl
    · rw [cfg0]
      exact read0
  -- trimming twice is trimming once
  have base : (if hasEndpointReloadConfig c1 then reloadBaseUrl c1 pool.cfg else pool.cfg.baseUrl) =
      reloadBaseUrl c1 pool.cfg := by
    split
    · rfl
    next unchanged =>
      have trimmed : trimRightSlash pool.cfg.baseUrl = pool.cfg.baseUrl := by
        rw [cfg0]
        exact trimRightSlash_idem _
      exact (reloadBaseUrl_kept (by simpa using unchanged) trimmed).symm
  rw [base] at settings
  have endpoints := endpoints_iff overrides reloadable cfg0 built0 listed0 next
  constructor
  · rintro ⟨merged, loadedM, agree⟩
    obtain ⟨_, profilesM, epsM, readM', builtM, listedM, cfgM⟩ := loadModel_ok env _ merged loadedM
    obtain rfl : profiles = profilesM := Except.ok.inj (readM.symm.trans readM')
    rw [settings, Pool.settings, cfgM, listedM] at agree
    have same : (sharedEndpoints epsM).map configuration = eps.map configuration :=
      congrArg Settings.endpoints agree
    obtain ⟨numbers, drop, fallback, chain⟩ :=
      (settings_iff overrides reloadable cfg0 same nowMs).mp agree
    have shown := endpoints.mp ⟨epsM, builtM, same⟩
    -- there is only one list that the reload builds
    have only (eps' : List VllmEndpoint) (next' : reloadedEndpoints pool c1 = .ok eps') :
        eps' = eps := Except.ok.inj (next'.symm.trans next)
    exact ⟨numbers, drop, fallback, fun eps' next' => only eps' next' ▸ chain,
      fun changed eps' next' => only eps' next' ▸ shown changed⟩
  · rintro ⟨numbers, drop, fallback, chain, shown⟩
    obtain ⟨epsM, builtM, same⟩ := endpoints.mpr fun changed => shown changed eps next
    obtain ⟨merged, loadedM⟩ := loadModel_of_built env _ profiles epsM
      (by rw [model_override overrides reloadable]; exact named) readM builtM
    refine ⟨merged, loadedM, ?_⟩
    obtain ⟨_, profilesM, epsM', readM', builtM', listedM, cfgM⟩ :=
      loadModel_ok env _ merged loadedM
    obtain rfl : profiles = profilesM := Except.ok.inj (readM.symm.trans readM')
    obtain rfl : epsM = epsM' := Except.ok.inj (builtM.symm.trans builtM')
    rw [settings, Pool.settings, cfgM, listedM]
    exact (settings_iff overrides reloadable cfg0 same nowMs).mpr
      ⟨numbers, drop, fallback, chain eps next⟩

end Whole

/-- A body with one number. -/
theorem reloadable_number (model key : String) (listed : key ∈ numberKeys) (n : Int) (low : 1 ≤ n)
    (high : n ≤ intMax) : Reloadable model (.obj [(key, .int n)]) := by
  have only (other : String) (value : Json)
      (found : (Json.obj [(key, .int n)]).get? other = some value) :
      other = key ∧ value = .int n := by
    simp only [Json.get?, List.lookup_cons, List.lookup_nil] at found
    split at found
    next same => exact ⟨by simpa using same, (Option.some.inj found).symm⟩
    · cases found
  have foreign (other : String) (unlisted : other ∉ numberKeys) (value : Json) :
      (Json.obj [(key, .int n)]).get? other ≠ some value :=
    fun found => unlisted ((only other value found).1 ▸ listed)
  constructor
  · intro other present
    obtain ⟨value, found⟩ := Option.isSome_iff_exists.mp present
    rw [(only other value found).1]
    exact List.mem_append_left _ listed
  · intro other _ value found
    exact ⟨n, (only other value found).2, low, high⟩
  · intro other text value found
    have unlisted : ∀ other ∈ ["routing_strategy", "vllm_base_url"], other ∉ numberKeys := by decide
    exact absurd found (foreign other (unlisted other text) value)
  · exact fun value found => absurd found (foreign _ (by decide) value)
  · exact fun value found => absurd found (foreign _ (by decide) value)
  · intro other array value found
    have unlisted : ∀ other ∈ ["endpoints", "vllm_endpoints"], other ∉ numberKeys := by decide
    exact absurd found (foreign other (unlisted other array) value)

/-- A body with nothing but a model. -/
def modelOnly : Json := .obj [("model", .str "m")]

/-- A new breaker threshold reloads as it loads. -/
theorem reload_agrees_threshold :
    ∃ pool pool' merged, loadModel {} modelOnly = .ok pool ∧
      reloadConfig pool (.obj [("unhealthy_threshold", .int 4)]) 0 = .ok pool' ∧
      loadModel {} (modelOnly.override (.obj [("unhealthy_threshold", .int 4)])) = .ok merged ∧
      merged.settings = pool'.settings := by
  have reloadable := reloadable_number "m" "unhealthy_threshold" (by decide) 4 (by decide)
    (by decide)
  obtain ⟨merged, loaded, same⟩ := (reload_agrees_iff {} modelOnly
    (.obj [("unhealthy_threshold", .int 4)]) _ _ 0 rfl reloadable rfl).mpr
    { numbers := by unfold NumbersAgree; decide
      dropThreshold := Or.inr rfl
      fallback := nofun
      chain := by
        rintro eps next -
        cases next
        rfl
      endpoints := nofun }
  exact ⟨_, _, merged, rfl, rfl, loaded, same⟩

/-- The default of the drop threshold stays with the old queue size. -/
theorem reload_freezes_drop_threshold :
    ∃ pool pool' merged, loadModel {} modelOnly = .ok pool ∧
      Reloadable pool.cfg.model (.obj [("max_queue_size", .int 1000)]) ∧
      reloadConfig pool (.obj [("max_queue_size", .int 1000)]) 0 = .ok pool' ∧
      loadModel {} (modelOnly.override (.obj [("max_queue_size", .int 1000)])) = .ok merged ∧
      pool'.cfg.lowPriorityDropThreshold = 48 ∧ merged.cfg.lowPriorityDropThreshold = 984 ∧
      merged.settings ≠ pool'.settings := by
  refine ⟨_, _, _, rfl, reloadable_number _ _ (by decide) 1000 (by decide) (by decide), rfl, rfl,
    rfl, rfl, fun same => ?_⟩
  have thresholds := congrArg Settings.lowPriorityDropThreshold same
  exact absurd thresholds (show (984 : Int) ≠ 48 by decide)

end VllmRoute.Scheduler
