import VllmRoute.Observability.Service
import VllmRoute.Properties.Reporting

/-!
# Reports that are sent back

The report of `taskinfo` has what the metrics service says about itself. A reload
reads that, too, and configures the service with it: whatever the report says,
the service is stopped and started again, and a field of its configuration that
is not reported falls back to its default.
-/
namespace VllmRoute.Observability

open Lib Scheduler

/-! ### The configuration of the metrics service -/

/-- The numbers of a configuration that was read from JSON. -/
structure ObservabilityConfig.Built (config : ObservabilityConfig) : Prop where
  flushIntervalMs : InInt config.flushIntervalMs ∧ 100 ≤ config.flushIntervalMs
  memtableLimitBytes : InInt config.memtableLimitBytes ∧ 1048576 ≤ config.memtableLimitBytes
  blockCacheBytes : InInt config.blockCacheBytes ∧ 1024 ≤ config.blockCacheBytes
  maxSamplesPerSeries : 1 ≤ config.maxSamplesPerSeries

theorem ObservabilityConfig.Built.switched {config : ObservabilityConfig} (built : config.Built)
    (b : Bool) : ObservabilityConfig.Built { config with enabled := b } :=
  ⟨built.flushIntervalMs, built.memtableLimitBytes, built.blockCacheBytes,
    built.maxSamplesPerSeries⟩

theorem default_built : ObservabilityConfig.Built {} := by
  constructor
  case maxSamplesPerSeries => decide
  all_goals exact ⟨⟨by decide, by decide⟩, by decide⟩

theorem configFromObject_built (source : Json) : (configFromObject source).Built := by
  have clamped (low n : Int) (within : 0 ≤ low ∧ low ≤ n) (most : n ≤ 4194304) (key : String) :
      InInt (max low (jsonIntValue source key n)) := by
    refine InInt.max ⟨?_, ?_⟩ (inInt_jsonIntValue ⟨?_, ?_⟩ source key)
    all_goals
      simp only [intMin, intMax]
      omega
  have cache := clamped 1024 524288 (by decide) (by decide) "block_cache_bytes"
  constructor
  case flushIntervalMs => exact ⟨clamped 100 1000 (by decide) (by decide) _, Int.le_max_left _ _⟩
  case memtableLimitBytes =>
    exact ⟨clamped 1048576 4194304 (by decide) (by decide) _, Int.le_max_left _ _⟩
  case blockCacheBytes =>
    unfold configFromObject
    dsimp only
    rw [Int.toNat_of_nonneg (by omega)]
    exact ⟨cache, by omega⟩
  case maxSamplesPerSeries =>
    unfold configFromObject
    dsimp only
    omega

theorem observabilityConfigFromJson_built (body : Json) :
    (observabilityConfigFromJson body).Built := by
  unfold observabilityConfigFromJson
  apply ObservabilityConfig.Built.switched
  split
  · exact configFromObject_built _
  all_goals exact default_built.switched _

/-- `configure` leaves such numbers as they are. -/
theorem ObservabilityConfig.Built.normalized {config : ObservabilityConfig}
    (built : config.Built) : config.normalized = config := by
  obtain ⟨⟨_, flush⟩, ⟨_, limit⟩, ⟨_, cache⟩, samples⟩ := built
  simp only [ObservabilityConfig.normalized]
  rw [if_neg (by omega), if_neg (by omega), if_neg (by omega), if_neg (by omega)]

/-- The configuration that a call is about to set. -/
def Control.config? : Control → Option ObservabilityConfig
  | .disable next | .halt next | .join next | .flushing _ next | .close next | .stopped next =>
    next
  | .limit config | .reset config | .checkDir config | .openEngine config => some config
  | _ => none

namespace Service

/-- Everything that the service is configured with, or about to be, was read from JSON. -/
structure Configured (s : Service) : Prop where
  config : s.config.Built
  calls : ∀ call ∈ s.calls, ∀ config ∈ call.config?, config.Built

variable {s s' : Service} {call : Control} {rest : Option Control}

theorem controlStep_config {answer : Answer} (built : s.config.Built)
    (own : ∀ config ∈ call.config?, config.Built)
    (taken : s.controlStep answer call = some (s', rest)) :
    s'.config.Built ∧ ∀ call' ∈ rest, ∀ config ∈ call'.config?, config.Built := by
  cases call with
  | flushing flush next =>
    obtain ⟨_, _, _, _, _, _, config, _⟩ := s.flushOnce_frame answer flush
    simp only [controlStep, Option.some.injEq, Prod.mk.injEq] at taken
    obtain ⟨rfl, rfl⟩ := taken
    refine ⟨config ▸ built, ?_⟩
    cases (s.flushOnce answer flush).2 with
    | none =>
      rintro _ ⟨⟩
      exact own
    | some flush =>
      rintro _ ⟨⟩
      exact own
  | stopped next =>
    cases taken
    refine ⟨built, ?_⟩
    cases next with
    | none => simp
    | some config =>
      have fine : config.Built := own config rfl
      rintro _ ⟨⟩ _ ⟨⟩
      rw [fine.normalized]
      exact fine
  | reset config =>
    have fine : config.Built := own config rfl
    cases taken
    refine ⟨fine, ?_⟩
    split
    · rintro _ ⟨⟩
      exact own
    · simp
  | checkDir config =>
    cases taken
    refine ⟨built, ?_⟩
    rintro _ ⟨⟩
    split
    · simp [Control.config?]
    · exact own
  | join next =>
    simp only [controlStep] at taken
    split at taken <;> cases taken
    all_goals
      refine ⟨built, ?_⟩
      rintro _ ⟨⟩
      exact own
  | openEngine config =>
    simp only [controlStep] at taken
    split at taken <;> cases taken <;> exact ⟨built, by simp [Control.config?]⟩
  | spawn =>
    simp only [controlStep] at taken
    split at taken
    · split at taken <;> cases taken <;> exact ⟨built, by simp [Control.config?]⟩
    · cases taken
      exact ⟨built, by simp [Control.config?]⟩
  | disable | halt | close | limit =>
    cases taken
    refine ⟨built, ?_⟩
    rintro _ ⟨⟩
    exact own
  | enable | run | started | undoEnable | undoRun | failed =>
    cases taken
    exact ⟨built, by simp [Control.config?]⟩

theorem Configured.begins (configured : s.Configured) {next : Option ObservabilityConfig}
    (fine : ∀ config ∈ next, config.Built) :
    Configured { s with calls := s.calls ++ [.disable next] } := by
  refine ⟨configured.config, ?_⟩
  intro call member
  rcases List.mem_append.mp member with old | new
  · exact configured.calls call old
  · rw [List.mem_singleton.mp new]
    exact fine

/-- The calls of `configure` that loads and reloads make. -/
def FromJson : Event → Prop
  | .configure config => ∃ body, config = observabilityConfigFromJson body
  | _ => True

theorem Configured.step (configured : s.Configured) {e : Event} (made : FromJson e)
    (taken : s.step e = some s') : s'.Configured := by
  unfold Service.step at taken
  split at taken
  · cases taken
  cases e with
  | configure config =>
    cases taken
    obtain ⟨body, rfl⟩ := made
    apply configured.begins
    rintro _ ⟨⟩
    exact observabilityConfigFromJson_built body
  | stop =>
    cases taken
    exact configured.begins (by simp)
  | control k answer =>
    obtain ⟨⟨s₁, rest⟩, moved, rfl⟩ := Option.map_eq_some_iff.mp taken
    obtain ⟨call, found, stepped⟩ := Option.bind_eq_some_iff.mp moved
    have calls := controlStep_calls stepped
    obtain ⟨config, left⟩ := controlStep_config configured.config
      (configured.calls call (List.mem_of_getElem? found)) stepped
    refine ⟨config, ?_⟩
    intro other member
    unfold goOn at member
    cases rest with
    | none =>
      have old : other ∈ s₁.calls := List.mem_of_mem_eraseIdx member
      exact configured.calls other (calls ▸ old)
    | some call' =>
      rcases List.mem_or_eq_of_mem_set member with old | rfl
      · exact configured.calls other (calls ▸ old)
      · exact left other rfl
  | work answer =>
    obtain ⟨w, _, moved⟩ := Option.bind_eq_some_iff.mp taken
    obtain ⟨config, calls⟩ := workerLoop_config moved
    exact ⟨config ▸ configured.config, calls ▸ configured.calls⟩
  | observe observation =>
    simp only [stepLive, Option.some.injEq] at taken
    subst taken
    split
    · exact ⟨configured.config, configured.calls⟩
    · exact configured
  | add k =>
    obtain ⟨observation, _, rfl⟩ := Option.map_eq_some_iff.mp taken
    exact ⟨configured.config, configured.calls⟩

theorem configured_of_run {events : List Event} (reached : run step {} events = some s)
    (made : ∀ e ∈ events, FromJson e) : s.Configured :=
  run_invariant_along step (fun _ e _ => FromJson e) Configured
    (fun _ _ _ taken made configured => configured.step made taken) {} s events reached
    (along_of_forall _ _ _ events made) ⟨default_built, by simp⟩

/-- What a reload reads from the report of a service. The limit of the samples is not in it, and
`enabled` is what the service has come to, not what it was configured with. -/
theorem configFromObject_snapshot (built : s.config.Built) (lastError : Json) :
    configFromObject (s.snapshot lastError) =
      { s.config with enabled := s.enabled, maxSamplesPerSeries := 4096 } := by
  obtain ⟨⟨flush, flushes⟩, ⟨limit, limits⟩, ⟨cache, caches⟩, _⟩ := built
  have largest : max 1024 (s.config.blockCacheBytes : Int) = s.config.blockCacheBytes := by omega
  unfold snapshot
  cases s.lastError.isEmpty <;>
    simp [configFromObject, jsonBoolValue, jsonStringValue, jsonIntValue, Json.get?,
      List.lookup_cons, flush.toInt32, limit.toInt32, cache.toInt32, Int.max_eq_right flushes,
      Int.max_eq_right limits, largest]

end Service

end VllmRoute.Observability

namespace VllmRoute.Scheduler

open Lib Dispatcher Observability

/-! ### The whole report -/

theorem reloadObservability_of_object {report : Json} {members : List (String × Json)}
    (found : report.get? "observability" = some (.obj members))
    (alone : report.get? "observability_enabled" = none) :
    reloadObservability report = some (configFromObject (.obj members)) := by
  simp [reloadObservability, Json.contains, found, observabilityConfigFromJson, alone,
    jsonBoolValue]

theorem reloadObservability_taskinfo {pool : Pool} {view : TaskView} {service : Service}
    (built : service.config.Built) (lastError : Json) :
    reloadObservability
        (taskinfo pool { view with observability := service.snapshot lastError }) =
      some { service.config with enabled := service.enabled, maxSamplesPerSeries := 4096 } := by
  have found : (taskinfo pool { view with observability := service.snapshot lastError }).get?
      "observability" = some (service.snapshot lastError) := by
    simp [taskinfo, Json.get?, List.lookup_cons]
  have alone : (taskinfo pool { view with observability := service.snapshot lastError }).get?
      "observability_enabled" = none := by
    simp [taskinfo, Json.get?, List.lookup_cons]
  rw [← Service.configFromObject_snapshot built lastError]
  exact reloadObservability_of_object found alone

/-- At any time after a load, `reload_config` accepts what `taskinfo` reports, counts one more
update and configures the metrics service anew. Apart from that it leaves the configuration of
both as it is, if and only if the numbers are not below their least values, every profile has a
name, every endpoint has the default health path, the API key of the scheduler and its own model
among those that it serves, and the metrics service runs as configured, with the default limit of
samples. -/
theorem taskinfo_reload_iff (env : Environment) (body : Json) (pool : Pool) (nowMs : Int)
    (events : List Event) (d : Dispatcher) (loaded : loadModel env body = .ok pool)
    (reached : run Dispatcher.step (start pool nowMs) events = some d)
    (calls : List Service.Event) (service : Service)
    (ran : run Service.step {} calls = some service) (made : ∀ e ∈ calls, Service.FromJson e)
    (view : TaskView) (lastError : Json) :
    let report := taskinfo d.pool { view with observability := service.snapshot lastError }
    ∃ pool' config, reloadConfig d.pool report d.nowMs = .ok pool' ∧
      reloadObservability report = some config ∧
      (pool'.cfg = d.pool.cfg.counted d.nowMs ∧
          pool'.listed.map configuration = d.pool.listed.map configuration ∧
          config.normalized = service.config ↔
        d.pool.cfg.Clamped ∧ (∀ profile ∈ d.pool.cfg.modelProfiles, profile.name ≠ "") ∧
          (∀ ep ∈ d.pool.listed, ep.healthPath = "/health" ∧ ep.apiKey = d.pool.cfg.apiKey ∧
            ep.servedModel ∈ ep.logicalModels) ∧
          service.enabled = service.config.enabled ∧
          service.config.maxSamplesPerSeries = 4096) := by
  intro report
  have configured := (Service.configured_of_run ran made).config
  obtain ⟨pool', reloaded, same⟩ :=
    reloadConfig_taskinfo_iff (built_of_run loaded reached)
      { view with observability := service.snapshot lastError } d.nowMs
  have read : reloadObservability report = some _ :=
    reloadObservability_taskinfo configured lastError
  have kept : ObservabilityConfig.normalized
      { service.config with enabled := service.enabled, maxSamplesPerSeries := 4096 } =
        service.config ↔ service.enabled = service.config.enabled ∧
          service.config.maxSamplesPerSeries = 4096 := by
    have built : ObservabilityConfig.Built
        { service.config with enabled := service.enabled, maxSamplesPerSeries := 4096 } :=
      ⟨configured.flushIntervalMs, configured.memtableLimitBytes, configured.blockCacheBytes,
        Nat.succ_pos 4095⟩
    rw [built.normalized]
    constructor
    · intro equal
      exact ⟨congrArg ObservabilityConfig.enabled equal,
        (congrArg ObservabilityConfig.maxSamplesPerSeries equal).symm⟩
    · rintro ⟨enabled, samples⟩
      rw [enabled, ← samples]
  refine ⟨pool', _, reloaded, read, ?_⟩
  rw [kept, ← and_assoc, same]
  simp only [and_assoc]

/-- A health check of the first of two backends fails before the report, and the metrics service
was started by the load. -/
theorem taskinfo_reload_iff_failed :
    let failed : Event := .health 0 ⟨2, 3, 5, 30000⟩ false 0
    let calls := .configure { enabled := true } :: List.replicate 14 (.control 0 {})
    ∃ pool d service, loadModel {} twoBackends = .ok pool ∧
      run Dispatcher.step (start pool 0) [failed] = some d ∧
      run Service.step {} calls = some service ∧ service.enabled = true ∧
      ∃ pool' config,
        reloadConfig d.pool (taskinfo d.pool { observability := service.snapshot .null }) d.nowMs =
          .ok pool' ∧
        reloadObservability (taskinfo d.pool { observability := service.snapshot .null }) =
          some config ∧
        pool'.cfg = d.pool.cfg.counted d.nowMs ∧
        pool'.listed.map configuration = d.pool.listed.map configuration ∧
        config.normalized = service.config := by
  intro failed calls
  have started : (run Service.step {} calls).map
      (fun s => (s.enabled, s.config.enabled, s.config.maxSamplesPerSeries)) =
        some (true, true, 4096) := by
    decide +kernel
  obtain ⟨service, ran, ends⟩ := Option.map_eq_some_iff.mp started
  obtain ⟨on, configured, samples⟩ : service.enabled = true ∧ service.config.enabled = true ∧
      service.config.maxSamplesPerSeries = 4096 := by simpa using ends
  have made : ∀ e ∈ calls, Service.FromJson e := by
    intro e member
    rcases List.mem_cons.mp member with rfl | later
    · exact ⟨.obj [("observability", .bool true)], rfl⟩
    · rw [List.eq_of_mem_replicate later]
      trivial
  refine ⟨_, _, service, rfl, rfl, ran, on, ?_⟩
  obtain ⟨pool', config, reloads, read, same⟩ :=
    taskinfo_reload_iff {} twoBackends _ 0 [failed] _ rfl rfl calls service ran made {} .null
  refine ⟨pool', config, reloads, read, same.mpr ⟨?_, ?_, ?_, on.trans configured.symm, samples⟩⟩
  · constructor <;> decide
  · exact List.forall_mem_nil _
  · exact List.forall_mem_cons.mpr ⟨⟨rfl, rfl, List.mem_singleton_self _⟩,
      List.forall_mem_singleton.mpr ⟨rfl, rfl, List.mem_singleton_self _⟩⟩

end VllmRoute.Scheduler
