import VllmRoute.Scheduler.Queue
import VllmRoute.Scheduler.Reload

/-!
# `reload_config` on the state of the task

The same function in the order of its reads and writes, on the fields of a
`vllm_task`. An early return keeps what was written before it, so that nothing
but the code makes it leave the fields alone. `reload_computes` says that it
computes `reloadConfig`.
-/
namespace VllmRoute.Scheduler

/-- The fields of a `vllm_task`, and the process-wide map in `pool`. -/
structure Task where
  pool : Pool
  queue : Queue := {}
  records : List RequestRecord := []

/-- Code that reads and writes the fields; `throw` is the early return with its message. -/
abbrev TaskM := EStateM String Task

/-- An endpoint of `out_endpoints`: an object of its own, or one of `global_endpoints_`. -/
inductive Configured where
  | own (ep : VllmEndpoint)
  | shared (id : Nat)

def Configured.deref (heap : Heap) : Configured → VllmEndpoint
  | .own ep => ep
  | .shared id => heap id

namespace Task

def ofExcept {α : Type} : Except String α → TaskM α
  | .ok a => pure a
  | .error message => throw message

def setPool (t : Task) (pool : Pool) : Task := { t with pool := pool }

/-- `share_endpoint_runtime`: the object in `global_endpoints_`, new or adopted. -/
def shareRuntime (configured : VllmEndpoint) : TaskM Nat := do
  let pool := (← get).pool
  match pool.globalEndpoints.lookup (endpointRuntimeKey configured) with
  | some id =>
    modify (·.setPool { pool with
      heap := Function.update pool.heap id (adoptConfiguration (pool.heap id) configured) })
    return id
  | none =>
    modify (·.setPool { pool with
      heap := Function.update pool.heap pool.next configured
      next := pool.next + 1
      globalEndpoints := (endpointRuntimeKey configured, pool.next) :: pool.globalEndpoints })
    return pool.next

/-- `share_runtime ? share_endpoint_runtime(ep) : ep` -/
def pushBack (share : Bool) (ep : VllmEndpoint) : TaskM Configured :=
  if share then return .shared (← shareRuntime ep) else return .own ep

/-- The loop of `build_endpoints_from_config`. -/
def buildItems (defaultModel defaultApiKey : String) (mockMode share strictItems : Bool) :
    List Json → Nat → TaskM (List Configured)
  | [], _ => return []
  | item :: rest, index =>
    if item.isObject then do
      let ep ← ofExcept (buildEndpointItem item index defaultModel defaultApiKey mockMode)
      let first ← pushBack share ep
      let others ←
        buildItems defaultModel defaultApiKey mockMode share strictItems rest (index + 1)
      return first :: others
    else if strictItems then throw "endpoint item must be an object"
    else buildItems defaultModel defaultApiKey mockMode share strictItems rest index

def orDefault (share : Bool) (ep : VllmEndpoint) (built : List Configured) :
    TaskM (List Configured) :=
  if built.isEmpty then return [← pushBack share ep] else return built

/-- `build_endpoints_from_config` -/
def buildEndpoints (body : Json) (defaultModel defaultBaseUrl defaultApiKey : String)
    (mockMode share strictItems : Bool) : TaskM (List Configured) := do
  let items ← ofExcept (endpointArray body)
  let built ← buildItems defaultModel defaultApiKey mockMode share strictItems items 0
  let endpoints ←
    orDefault share (defaultEndpoint defaultModel defaultBaseUrl defaultApiKey) built
  let heap := (← get).pool.heap
  let _ ← ofExcept (checkBaseUrls mockMode (endpoints.map (·.deref heap)))
  return endpoints

/-- `next_endpoints` of `reload_config` -/
def nextEndpoints (body : Json) (next : TaskConfig) : TaskM (List Configured) :=
  if hasEndpointReloadConfig body then
    buildEndpoints body next.model (reloadBaseUrl body next) next.apiKey next.mockMode false true
  else return (← get).pool.endpoints.map .shared

/-- The writes under `config_mtx_` and `endpoints_mtx_`. -/
def commit (body : Json) (next : TaskConfig) (profiles : List ModelProfile)
    (endpoints : List VllmEndpoint) (nowMs : Int) : TaskM Unit := do
  let changed := hasEndpointReloadConfig body
  let baseUrl := if changed then reloadBaseUrl body next else next.baseUrl
  modify fun t => t.setPool
    { t.pool with cfg := committedConfig next baseUrl profiles endpoints nowMs }
  if changed then modify fun t => t.setPool (commitReloadedEndpointsLocked t.pool endpoints)

/-- `reload_config`; it returns `true` when it returns. -/
def reload (body : Json) (nowMs : Int) : TaskM Unit :=
  if !body.isObject then throw "reload_config data must be a json object"
  else do
    let cfg := (← get).pool.cfg
    ofExcept (validateStaticReloadFields body cfg)
    let next := reloadScalars body cfg
    let profiles ← ofExcept (reloadProfiles body next)
    let configured ← nextEndpoints body next
    let heap := (← get).pool.heap
    commit body next profiles (configured.map (·.deref heap)) nowMs

/-! ### What the code computes -/

/-- The code has the outcome `x`: a result and the fields after it, or an error that leaves
the fields alone. -/
def Computes {α : Type} (m : TaskM α) (t : Task) : Except String (α × Task) → Prop
  | .ok (a, t') => m.run t = .ok a t'
  | .error message => m.run t = .error message t

/-- The code has the outcome `x` and leaves the fields alone. -/
def Reads {α : Type} (m : TaskM α) (t : Task) (x : Except String α) : Prop :=
  Computes m t ((fun a => (a, t)) <$> x)

section

variable {α β γ : Type} {t : Task}

theorem reads_given (x : Except String α) : Reads (ofExcept x) t (id <$> x) := by
  cases x <;> rfl

/-- The outcome of the first part may be known as a function of another one. -/
theorem Reads.then {m : TaskM β} {x : Except String α} {h : α → β} {f : β → TaskM γ}
    {g : α → Except String (γ × Task)} (first : Reads m t (h <$> x))
    (next : ∀ a, Computes (f (h a)) t (g a)) : Computes (m >>= f) t (x >>= g) := by
  cases x with
  | ok a =>
    have run : (m >>= f).run t = (f (h a)).run t := by
      rw [EStateM.run_bind, show m.run t = .ok (h a) t from first]
    change Computes (m >>= f) t (g a)
    have next := next a
    revert next
    rcases g a with message | ⟨c, t'⟩ <;> exact run.trans
  | error message =>
    change (m >>= f).run t = _
    rw [EStateM.run_bind, show m.run t = .error message t from first]

theorem Reads.bind {m : TaskM β} {x : Except String α} {h : α → β} {f : β → TaskM γ}
    {g : α → Except String γ} (first : Reads m t (h <$> x))
    (next : ∀ a, Reads (f (h a)) t (g a)) : Reads (m >>= f) t (x >>= g) := by
  rw [Reads, map_bind]
  exact first.then next

theorem reads_buildItems (defaultModel defaultApiKey : String) (mockMode strictItems : Bool)
    (items : List Json) (index : Nat) :
    Reads (buildItems defaultModel defaultApiKey mockMode false strictItems items index) t
      (List.map Configured.own <$>
        buildEndpointItems defaultModel defaultApiKey mockMode strictItems items index) := by
  induction items generalizing index with
  | nil => rfl
  | cons item rest ih =>
    unfold buildItems buildEndpointItems
    split
    · rw [map_bind]
      refine (reads_given _).bind fun ep => ?_
      rw [map_bind]
      exact (ih (index + 1)).bind fun _ => rfl
    · split
      · rfl
      · exact ih index

theorem deref_own (heap : Heap) (eps : List VllmEndpoint) :
    (eps.map Configured.own).map (·.deref heap) = eps := by
  simp [Function.comp_def, Configured.deref]

theorem deref_shared (heap : Heap) (ids : List Nat) :
    (ids.map Configured.shared).map (·.deref heap) = ids.map heap := by
  simp [Function.comp_def, Configured.deref]

/-- Without sharing, building the endpoints reads the configuration and nothing else. -/
theorem reads_buildEndpoints (body : Json) (defaultModel defaultBaseUrl defaultApiKey : String)
    (mockMode strictItems : Bool) :
    Reads (buildEndpoints body defaultModel defaultBaseUrl defaultApiKey mockMode false strictItems)
      t (List.map Configured.own <$>
        buildEndpointsFromConfig body defaultModel defaultBaseUrl defaultApiKey mockMode
          strictItems) := by
  unfold buildEndpoints buildEndpointsFromConfig
  rw [map_bind]
  refine (reads_given _).bind fun items => ?_
  rw [map_bind]
  refine (reads_buildItems _ _ _ _ items 0).bind fun built => ?_
  generalize defaultEndpoint defaultModel defaultBaseUrl defaultApiKey = ep
  -- without sharing, the default endpoint is pushed without a write
  have chosen : orDefault false ep (built.map .own) =
      pure ((if built.isEmpty then [ep] else built).map .own) := by
    cases built <;> rfl
  rw [chosen]
  generalize (if built.isEmpty then [ep] else built) = eps
  change Reads (ofExcept (checkBaseUrls mockMode
    ((eps.map Configured.own).map (·.deref t.pool.heap))) >>= fun _ => pure _) t _
  rw [deref_own, map_eq_pure_bind]
  cases checked : checkBaseUrls mockMode eps with
  | error message => rfl
  | ok passed =>
    obtain ⟨rfl, _⟩ := (checkBaseUrls_ok_iff mockMode eps passed).mp checked
    rfl

/-- The commit of the endpoints does not look at the configuration. -/
theorem commitReloadedEndpointsLocked_cfg (pool : Pool) (cfg : TaskConfig)
    (configured : List VllmEndpoint) :
    commitReloadedEndpointsLocked { pool with cfg := cfg } configured =
      { commitReloadedEndpointsLocked pool configured with cfg := cfg } := by
  have loop (old : String → Option VllmEndpoint) (rest : List VllmEndpoint) (pool : Pool) :
      rest.foldl (commitEndpoint old) { pool with cfg := cfg } =
        { rest.foldl (commitEndpoint old) pool with cfg := cfg } := by
    induction rest generalizing pool with
    | nil => rfl
    | cons ep rest ih => exact ih (commitEndpoint old pool ep)
  exact loop _ configured { pool with endpoints := [] }

theorem commit_run (body : Json) (next : TaskConfig) (profiles : List ModelProfile)
    (endpoints : List VllmEndpoint) (nowMs : Int) :
    (commit body next profiles endpoints nowMs).run t = .ok () (t.setPool
      (if hasEndpointReloadConfig body then
        { commitReloadedEndpointsLocked t.pool endpoints with
          cfg := committedConfig next (reloadBaseUrl body next) profiles endpoints nowMs }
      else
        { t.pool with cfg := committedConfig next next.baseUrl profiles endpoints nowMs })) := by
  unfold commit
  cases hasEndpointReloadConfig body with
  | false => rfl
  | true =>
    -- the code writes the configuration first, `reloadConfig` writes it last
    rw [if_pos rfl, ← commitReloadedEndpointsLocked_cfg]
    rfl

/-- The code in its order of reads and writes computes `reloadConfig`, and an early return
leaves every field as it was. -/
theorem reload_computes (body : Json) (nowMs : Int) (t : Task) :
    Computes (reload body nowMs) t
      ((fun pool => ((), t.setPool pool)) <$> reloadConfig t.pool body nowMs) := by
  unfold reload reloadConfig
  split
  · rfl
  · -- each part that can fail reads only, and the commit that writes cannot fail
    change Computes (ofExcept (validateStaticReloadFields body t.pool.cfg) >>= _) t _
    rw [map_bind]
    refine (reads_given _).then fun _ => ?_
    dsimp only
    rw [map_bind]
    refine (reads_given _).then fun profiles => ?_
    generalize reloadScalars body t.pool.cfg = next
    unfold nextEndpoints
    split
    next changed =>
      rw [map_bind]
      refine (reads_buildEndpoints _ _ _ _ _ _).then fun eps => ?_
      change (commit body next profiles ((eps.map Configured.own).map (·.deref t.pool.heap))
        nowMs).run t = _
      rw [commit_run, if_pos changed, deref_own]
    next unchanged =>
      change (commit body next profiles
        ((t.pool.endpoints.map Configured.shared).map (·.deref t.pool.heap)) nowMs).run t = _
      rw [commit_run, if_neg unchanged, deref_shared]

end

end Task

end VllmRoute.Scheduler
