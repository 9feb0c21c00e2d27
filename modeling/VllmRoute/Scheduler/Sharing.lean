import Mathlib.Data.List.Nodup
import VllmRoute.Scheduler.Reload

/-!
# The endpoints that a load makes

`build_endpoints_from_config` accepts an endpoint with a base URL, or any for a
mock. A load then gives the endpoints of one key one object, which has the
configured fields of the last and the base URL and model of the first.
-/
namespace VllmRoute.Scheduler

/-! ### Endpoints of a load -/

/-- The configured fields of an endpoint. -/
def configuration (ep : VllmEndpoint) : VllmEndpoint :=
  { name := ep.name, baseUrl := ep.baseUrl, servedModel := ep.servedModel, role := ep.role
    healthPath := ep.healthPath, apiKey := ep.apiKey, logicalModels := ep.logicalModels
    weight := ep.weight, maxContextLen := ep.maxContextLen, maxConcurrency := ep.maxConcurrency }

/-- A scheduler before its endpoints are built. -/
def emptyPool (cfg : TaskConfig) : Pool :=
  { cfg := cfg, heap := fun _ => {}, next := 0, endpoints := [], globalEndpoints := [] }

/-- The objects that a load makes of the built endpoints: those with one key share one. -/
def sharedEndpoints (eps : List VllmEndpoint) : List VllmEndpoint :=
  let pool := eps.foldl shareEndpointRuntime (emptyPool {})
  pool.endpoints.map pool.heap

def Pool.listed (pool : Pool) : List VllmEndpoint := pool.endpoints.map pool.heap

/-- Sharing does not look at the configuration. -/
theorem shareEndpointRuntime_cfg (cfg : TaskConfig) (eps : List VllmEndpoint) (pool : Pool) :
    eps.foldl shareEndpointRuntime { pool with cfg := cfg } =
      { eps.foldl shareEndpointRuntime pool with cfg := cfg } := by
  induction eps generalizing pool with
  | nil => rfl
  | cons ep eps ih =>
    have one : shareEndpointRuntime { pool with cfg := cfg } ep =
        { shareEndpointRuntime pool ep with cfg := cfg } := by
      unfold shareEndpointRuntime
      split <;> rename_i found <;> simp only [found]
    rw [List.foldl_cons, one, ih]
    rfl

theorem listed_shared (cfg : TaskConfig) (eps : List VllmEndpoint) :
    (eps.foldl shareEndpointRuntime (emptyPool cfg)).listed = sharedEndpoints eps := by
  have moved := shareEndpointRuntime_cfg cfg eps (emptyPool {})
  change (eps.foldl shareEndpointRuntime { emptyPool {} with cfg := cfg }).listed = _
  rw [moved]
  rfl

/-- Endpoints with keys of their own get objects of their own. -/
structure Separate (done : List VllmEndpoint) (pool : Pool) : Prop where
  listed : pool.listed = done
  bounded : ∀ id ∈ pool.endpoints, id < pool.next
  published : ∀ key id, pool.globalEndpoints.lookup key = some id →
    key ∈ done.map endpointRuntimeKey

theorem Separate.share {done : List VllmEndpoint} {pool : Pool} {ep : VllmEndpoint}
    (separate : Separate done pool) (new : endpointRuntimeKey ep ∉ done.map endpointRuntimeKey) :
    Separate (done ++ [ep]) (shareEndpointRuntime pool ep) := by
  have missing : pool.globalEndpoints.lookup (endpointRuntimeKey ep) = none := by
    cases found : pool.globalEndpoints.lookup (endpointRuntimeKey ep) with
    | none => rfl
    | some id => exact absurd (separate.published _ id found) new
  unfold shareEndpointRuntime
  rw [missing]
  refine ⟨?_, ?_, ?_⟩
  · -- the new object is beyond the listed ones
    have kept : pool.endpoints.map (Function.update pool.heap pool.next ep) =
        pool.endpoints.map pool.heap := by
      refine List.map_congr_left fun id member => ?_
      have other := Nat.ne_of_lt (separate.bounded id member)
      simp [other]
    have before := separate.listed
    unfold Pool.listed at before ⊢
    simp [kept, before]
  · intro id member
    rcases List.mem_append.mp member with old | last
    · exact Nat.lt_succ_of_lt (separate.bounded id old)
    · rw [List.mem_singleton.mp last]
      exact Nat.lt_succ_self _
  · intro key id found
    rw [List.map_append, List.mem_append]
    by_cases same : key = endpointRuntimeKey ep
    · exact Or.inr (by simp [same])
    · have other : (key == endpointRuntimeKey ep) = false := by simpa using same
      rw [List.lookup_cons, other] at found
      exact Or.inl (separate.published key id found)

theorem sharedEndpoints_of_nodup {eps : List VllmEndpoint}
    (distinct : (eps.map endpointRuntimeKey).Nodup) : sharedEndpoints eps = eps := by
  -- the loop over `eps`, with `done` for the endpoints that it has passed
  have loop (rest done : List VllmEndpoint) (pool : Pool) (separate : Separate done pool)
      (distinct : ((done ++ rest).map endpointRuntimeKey).Nodup) :
      Separate (done ++ rest) (rest.foldl shareEndpointRuntime pool) := by
    induction rest generalizing done pool with
    | nil => simpa using separate
    | cons ep rest ih =>
      have new : endpointRuntimeKey ep ∉ done.map endpointRuntimeKey := by
        rw [List.map_append, List.map_cons, List.nodup_append] at distinct
        exact fun member => distinct.2.2 _ member _ (by simp) rfl
      have next := ih (done ++ [ep]) _ (separate.share new) (by simpa using distinct)
      simpa using next
  have initial : Separate [] (emptyPool {}) := ⟨rfl, by simp [emptyPool], by simp [emptyPool]⟩
  exact (loop eps [] _ initial (by simpa using distinct)).listed

/-- The object of an endpoint is the one that `global_endpoints_` has for its key. -/
def Published (done : List VllmEndpoint) (pool : Pool) : Prop :=
  done.map (fun ep => pool.globalEndpoints.lookup (endpointRuntimeKey ep)) =
    pool.endpoints.map some

theorem Published.share {done : List VllmEndpoint} {pool : Pool} (ep : VllmEndpoint)
    (published : Published done pool) :
    Published (done ++ [ep]) (shareEndpointRuntime pool ep) := by
  unfold shareEndpointRuntime
  split
  next id found =>
    unfold Published at published ⊢
    simp [published, found]
  next missing =>
    have kept : done.map (fun other => List.lookup (endpointRuntimeKey other)
          ((endpointRuntimeKey ep, pool.next) :: pool.globalEndpoints)) =
        done.map fun other => pool.globalEndpoints.lookup (endpointRuntimeKey other) := by
      refine List.map_congr_left fun other member => ?_
      -- the earlier endpoints have an entry, so their keys are others
      have entry : pool.globalEndpoints.lookup (endpointRuntimeKey other) ∈
          pool.endpoints.map some := by
        rw [← published]
        exact List.mem_map_of_mem member
      have different : (endpointRuntimeKey other == endpointRuntimeKey ep) = false := by
        rw [beq_eq_false_iff_ne]
        intro same
        rw [same, missing] at entry
        simp at entry
      rw [List.lookup_cons, different]
    unfold Published at published ⊢
    simp only [List.map_append, kept, published]
    simp

/-- What an endpoint is recognised by. -/
def identity (ep : VllmEndpoint) : String × String := (ep.baseUrl, ep.servedModel)

/-- If a load keeps apart what differs in base URL or model, the keys differ. -/
theorem nodup_of_sharedEndpoints {eps : List VllmEndpoint} (distinct : (eps.map identity).Nodup)
    (same : (sharedEndpoints eps).map configuration = eps.map configuration) :
    (eps.map endpointRuntimeKey).Nodup := by
  have loop (rest done : List VllmEndpoint) (pool : Pool) (published : Published done pool) :
      Published (done ++ rest) (rest.foldl shareEndpointRuntime pool) := by
    induction rest generalizing done pool with
    | nil => simpa using published
    | cons ep rest ih => simpa using ih (done ++ [ep]) _ (published.share ep)
  have published := loop eps [] (emptyPool {}) rfl
  rw [List.nil_append] at published
  generalize shared : eps.foldl shareEndpointRuntime (emptyPool {}) = pool at published
  -- the identity is a function of the key
  let found (key : String) : Option (String × String) :=
    (pool.globalEndpoints.lookup key).map fun id => identity (pool.heap id)
  have identities : (eps.map endpointRuntimeKey).map found = (eps.map identity).map some := by
    have listed : sharedEndpoints eps = pool.endpoints.map pool.heap := by
      rw [← shared]
      rfl
    calc (eps.map endpointRuntimeKey).map found
        = (eps.map fun ep => pool.globalEndpoints.lookup (endpointRuntimeKey ep)).map
            (Option.map fun id => identity (pool.heap id)) := by
          simp [found, Function.comp_def]
      _ = (pool.endpoints.map some).map (Option.map fun id => identity (pool.heap id)) := by
          rw [published]
      _ = (((sharedEndpoints eps).map configuration).map identity).map some := by
          rw [listed]
          simp [Function.comp_def, identity, configuration]
      _ = (eps.map identity).map some := by
          rw [same]
          simp [Function.comp_def, identity, configuration]
  have nodup : ((eps.map endpointRuntimeKey).map found).Nodup := by
    rw [identities]
    exact distinct.map fun _ _ => Option.some.inj
  exact nodup.of_map found

/-! ### Building endpoints in and out of mock mode -/

/-- The base URL and the model that an endpoint item names. -/
def itemIdentity (model : String) (item : Json) : String × String :=
  (trimRightSlash (jsonStringValue item "base_url" ""),
    jsonStringValue item "served_model" (jsonStringValue item "model" model))

/-- An endpoint that is accepted when it has a base URL or is for a mock. -/
theorem buildEndpointItem_accepts (item : Json) (index : Nat) (model apiKey : String) :
    ∃ made : VllmEndpoint, identity made = itemIdentity model item ∧
      ∀ mockMode ep, buildEndpointItem item index model apiKey mockMode = .ok ep ↔
        ep = made ∧ (mockMode = false → made.baseUrl ≠ "") ∧ made.servedModel ≠ "" := by
  -- the endpoint is filled in before the two checks, and mock mode only weakens the first
  obtain ⟨made, checks, named⟩ : ∃ made : VllmEndpoint,
      (∀ mockMode, buildEndpointItem item index model apiKey mockMode =
        if made.baseUrl = "" && !mockMode then .error ("endpoint missing base_url: " ++ made.name)
        else if made.servedModel = "" then .error ("endpoint missing served_model: " ++ made.name)
        else .ok made) ∧ identity made = itemIdentity model item :=
    ⟨_, fun _ => rfl, rfl⟩
  refine ⟨made, named, fun mockMode ep => ?_⟩
  rw [checks]
  split
  next missing =>
    simp only [Bool.and_eq_true, decide_eq_true_eq, Bool.not_eq_true'] at missing
    exact ⟨nofun, fun ⟨_, based, _⟩ => absurd missing.1 (based missing.2)⟩
  next based =>
    simp only [Bool.and_eq_true, decide_eq_true_eq, Bool.not_eq_true', not_and'] at based
    split
    next unserved => exact ⟨nofun, fun ⟨_, _, served⟩ => absurd unserved served⟩
    next served =>
      refine ⟨fun equal => ⟨(Except.ok.inj equal).symm, based, served⟩, ?_⟩
      rintro ⟨rfl, _, _⟩
      rfl

theorem buildEndpointItems_accepts (model apiKey : String) (items : List Json) (index : Nat)
    (objects : ∀ item ∈ items, item.isObject = true) :
    ∃ made : List VllmEndpoint, made.map identity = items.map (itemIdentity model) ∧
      ∀ mockMode strictItems eps,
        buildEndpointItems model apiKey mockMode strictItems items index = .ok eps ↔
          eps = made ∧ (mockMode = false → ∀ ep ∈ made, ep.baseUrl ≠ "") ∧
            ∀ ep ∈ made, ep.servedModel ≠ "" := by
  induction items generalizing index with
  | nil =>
    refine ⟨[], rfl, fun mockMode strictItems eps => ?_⟩
    simp only [buildEndpointItems, Except.ok.injEq, List.not_mem_nil, false_implies, implies_true,
      and_true]
    exact eq_comm
  | cons item rest ih =>
    obtain ⟨first, named, accepts⟩ := buildEndpointItem_accepts item index model apiKey
    obtain ⟨others, identities, acceptsOthers⟩ :=
      ih (index + 1) fun other member => objects other (by simp [member])
    refine ⟨first :: others, by simp [named, identities], fun mockMode strictItems eps => ?_⟩
    rw [buildEndpointItems, if_pos (objects item (by simp)), bind_ok_iff]
    simp only [accepts, bind_ok_iff, acceptsOthers, List.forall_mem_cons]
    constructor
    · rintro ⟨_, ⟨rfl, based, served⟩, _, ⟨rfl, allBased, allServed⟩, equal⟩
      exact ⟨(Except.ok.inj equal).symm, fun real => ⟨based real, allBased real⟩, served, allServed⟩
    · rintro ⟨rfl, based, served, allServed⟩
      exact ⟨first, ⟨rfl, fun real => (based real).1, served⟩, others,
        ⟨rfl, fun real => (based real).2, allServed⟩, rfl⟩

/-- The endpoints of an array of objects are the same in and out of mock mode, where they are
accepted. -/
theorem buildEndpointsFromConfig_accepts (body : Json) (model baseUrl apiKey : String)
    (items : List Json) (array : endpointArray body = .ok items)
    (objects : ∀ item ∈ items, item.isObject = true)
    (distinct : (items.map (itemIdentity model)).Nodup) :
    ∃ (made : List VllmEndpoint) (served : Prop), (made.map identity).Nodup ∧
      ∀ mockMode strictItems eps,
        buildEndpointsFromConfig body model baseUrl apiKey mockMode strictItems = .ok eps ↔
          eps = made ∧ (mockMode = false → ∀ ep ∈ made, ep.baseUrl ≠ "") ∧ served := by
  obtain ⟨built, identities, accepts⟩ :=
    buildEndpointItems_accepts model apiKey items 0 objects
  generalize made : (if built.isEmpty then [defaultEndpoint model baseUrl apiKey] else built) = eps
  refine ⟨eps, ∀ ep ∈ built, ep.servedModel ≠ "", ?_, fun mockMode strictItems out => ?_⟩
  · subst made
    split
    · simp
    · rw [identities]
      exact distinct
  · unfold buildEndpointsFromConfig
    rw [bind_ok_iff]
    simp only [array, Except.ok.injEq, exists_eq_left', bind_ok_iff, accepts,
      checkBaseUrls_ok_iff]
    constructor
    · rintro ⟨_, ⟨rfl, _, served⟩, equal, based⟩
      rw [made] at equal based
      exact ⟨equal, based, served⟩
    · rintro ⟨rfl, based, served⟩
      refine ⟨built, ⟨rfl, fun real ep member => ?_, served⟩, made.symm, made ▸ based⟩
      -- the default endpoint is used only when nothing was built
      have some : built.isEmpty = false := by
        cases built with
        | nil => cases member
        | cons first rest => rfl
      rw [some] at made
      exact based real ep (made ▸ member)

end VllmRoute.Scheduler
