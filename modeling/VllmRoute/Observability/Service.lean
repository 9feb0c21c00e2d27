import VllmRoute.Json
import VllmRoute.Observability.Metrics

/-!
# The metrics service

The threads around the buffered series: any number of calls of `configure` and
`stop`, which no mutex keeps apart; the worker that flushes in intervals; and any
number of calls that observe something. Each thread stands before its next
access to an atomic flag, to a part of the object that a mutex guards, to the
store or to another thread. What the store and the clock answer is part of the
event.

A `wait_for` can time out at any moment, so `wake_cv_` is not modelled.
-/
namespace VllmRoute.Observability

/-! ### Configuration -/

structure ObservabilityConfig where
  enabled : Bool := false
  dbDir : String := "runtime/observability-tsdb"
  flushIntervalMs : Int := 1000
  syncWal : Bool := false
  memtableLimitBytes : Int := 4194304
  blockCacheBytes : Nat := 524288
  maxSamplesPerSeries : Nat := 4096
  deriving DecidableEq

/-- The first part of `configure`. -/
def ObservabilityConfig.normalized (config : ObservabilityConfig) : ObservabilityConfig :=
  { config with
    flushIntervalMs := if config.flushIntervalMs < 100 then 100 else config.flushIntervalMs
    memtableLimitBytes :=
      if config.memtableLimitBytes ≤ 0 then 4194304 else config.memtableLimitBytes
    blockCacheBytes := if config.blockCacheBytes = 0 then 524288 else config.blockCacheBytes
    maxSamplesPerSeries :=
      if config.maxSamplesPerSeries = 0 then 4096 else config.maxSamplesPerSeries }

/-- The object under `observability`. -/
def configFromObject (source : Json) : ObservabilityConfig :=
  { enabled := jsonBoolValue source "enabled" false
    dbDir := jsonStringValue source "db_dir" "runtime/observability-tsdb"
    flushIntervalMs := max 100 (jsonIntValue source "flush_interval_ms" 1000)
    syncWal := jsonBoolValue source "sync_wal" false
    memtableLimitBytes := max 1048576 (jsonIntValue source "memtable_limit_bytes" 4194304)
    blockCacheBytes := (max 1024 (jsonIntValue source "block_cache_bytes" 524288)).toNat
    maxSamplesPerSeries := (max 1 (jsonIntValue source "max_samples_per_series" 4096)).toNat }

def observabilityConfigFromJson (configBody : Json) : ObservabilityConfig :=
  let config : ObservabilityConfig :=
    match configBody.get? "observability" with
    | some (.obj members) => configFromObject (.obj members)
    | some (.bool b) => { enabled := b }
    | some (.int n) => { enabled := toInt32 n != 0 }
    | some (.str s) => { enabled := parseBoolString s false }
    | _ => {}
  { config with enabled := jsonBoolValue configBody "observability_enabled" config.enabled }

/-- The last part of `reload_config`: the argument of the call of `configure`, if there is one. -/
def reloadObservability (configBody : Json) : Option ObservabilityConfig :=
  if configBody.contains "observability" || configBody.contains "observability_enabled" then
    some (observabilityConfigFromJson configBody)
  else none

/-! ### Threads -/

/-- `flush_once`, before it takes the series, writes the batch and counts it. -/
inductive Flush where
  | swap
  | write (batch : List Point) (timestampMs : Int)
  | record (batch : List Point) (timestampMs : Int) (error : Option Bytes)

/-- The worker, before it tests `running_` at the head of its loop or after its wait, or in a
flush. After the last flush it returns. -/
inductive Worker where
  | top
  | waiting
  | flushing (flush : Flush) (last : Bool)
  | returned

/-- A call of `stop` or `configure`. A `configure` goes through `stop` first. -/
inductive Control where
  | disable (next : Option ObservabilityConfig)
  | halt (next : Option ObservabilityConfig)
  | join (next : Option ObservabilityConfig)
  | flushing (flush : Flush) (next : Option ObservabilityConfig)
  | close (next : Option ObservabilityConfig)
  | stopped (next : Option ObservabilityConfig)
  | limit (config : ObservabilityConfig)
  | reset (config : ObservabilityConfig)
  | checkDir (config : ObservabilityConfig)
  | openEngine (config : ObservabilityConfig)
  | enable
  | run
  | spawn
  | started
  -- the handlers of an exception
  | undoEnable (message : Bytes)
  | undoRun (message : Bytes)
  | failed (message : Bytes)

/-- `last_status_` -/
inductive Status where
  | disabled
  | starting
  | running
  | stopped
  | error
  deriving DecidableEq

def Status.text : Status → String
  | .disabled => "disabled"
  | .starting => "starting"
  | .running => "running"
  | .stopped => "stopped"
  | .error => "error"

/-- `accepted` and `refused` are the points that the store took and the batches that it did
not take since the counters were last reset. -/
structure Service where
  enabled : Bool := false
  running : Bool := false
  maxSamplesPerSeries : Nat := 4096
  config : ObservabilityConfig := {}
  lastFlushMs : Int := 0
  lastFlushPoints : Nat := 0
  totalFlushPoints : Nat := 0
  flushFailures : Nat := 0
  lastStatus : Status := .disabled
  lastError : Bytes := []
  series : SeriesMap := []
  /-- `engine_` is there -/
  opened : Bool := false
  worker : Option Worker := none
  /-- the calls of `configure` and `stop` that have not returned -/
  calls : List Control := []
  /-- `std::terminate` was called -/
  terminated : Bool := false
  /-- observations whose calls have found `enabled_` -/
  observing : List Observation := []
  accepted : List Point := []
  refused : Nat := 0

/-- What the world answers: the clock, and the errors of the store, of opening it and of
starting a thread. -/
structure Answer where
  timestampMs : Int := 0
  writeError : Option Bytes := none
  engineError : Option Bytes := none
  threadError : Option Bytes := none

namespace Service

/-- `snapshot`. The text of the last error, which need not be UTF-8, is a value of the caller. -/
def snapshot (s : Service) (lastError : Json) : Json :=
  .obj ([("enabled", .bool s.enabled), ("configured", .bool s.config.enabled),
    ("db_dir", .str s.config.dbDir), ("flush_interval_ms", .int s.config.flushIntervalMs),
    ("sync_wal", .bool s.config.syncWal),
    ("memtable_limit_bytes", .int s.config.memtableLimitBytes),
    ("block_cache_bytes", .int s.config.blockCacheBytes),
    ("buffered_series", .int s.series.length), ("last_flush_ms", .int s.lastFlushMs),
    ("last_flush_points", .int s.lastFlushPoints),
    ("total_flush_points", .int s.totalFlushPoints), ("flush_failures", .int s.flushFailures),
    ("status", .str s.lastStatus.text)] ++
      if s.lastError.isEmpty then [] else [("last_error", lastError)])

/-- One step of `flush_once`, and what is left of it. -/
def flushOnce (s : Service) (answer : Answer) : Flush → Service × Option Flush
  | .swap =>
    if s.series.isEmpty then (s, none)
    else
      let batch := batchOf answer.timestampMs s.series
      ({ s with series := [] },
        if batch.isEmpty then none else some (.write batch answer.timestampMs))
  | .write batch timestampMs =>
    match (if s.opened then answer.writeError
      else some (lit "observability store is not open")) with
    | none =>
      ({ s with accepted := s.accepted ++ batch }, some (.record batch timestampMs none))
    | some error =>
      ({ s with refused := s.refused + 1 }, some (.record batch timestampMs (some error)))
  | .record batch timestampMs error =>
    let s := { s with lastFlushMs := timestampMs, lastFlushPoints := batch.length }
    match error with
    | none =>
      ({ s with
        totalFlushPoints := s.totalFlushPoints + batch.length
        lastStatus := .running
        lastError := [] }, none)
    | some error =>
      ({ s with
        flushFailures := s.flushFailures + 1
        lastStatus := .error
        lastError := error }, none)

/-- One step of `worker_loop`. -/
def workerLoop (s : Service) (answer : Answer) : Worker → Option Service
  | .top =>
    some { s with worker := some (if s.running then .waiting else .flushing .swap true) }
  | .waiting => some { s with worker := some (.flushing .swap !s.running) }
  | .flushing flush last =>
    let (s, rest) := s.flushOnce answer flush
    some { s with worker := some (match rest with
      | some flush => .flushing flush last
      | none => if last then .returned else .top) }
  | .returned => none

/-- One step of a call of `stop` or `configure`, and what is left of it. -/
def controlStep (s : Service) (answer : Answer) : Control → Option (Service × Option Control)
  | .disable next => some ({ s with enabled := false }, some (.halt next))
  | .halt next => some ({ s with running := false }, some (.join next))
  | .join next =>
    -- of two calls that join at once, which is undefined, the second finds no thread here
    match s.worker with
    | none | some .returned => some ({ s with worker := none }, some (.flushing .swap next))
    | some _ => none
  | .flushing flush next =>
    let (s, rest) := s.flushOnce answer flush
    some (s, match rest with
      | some flush => some (.flushing flush next)
      | none => some (.close next))
  | .close next => some ({ s with opened := false }, some (.stopped next))
  | .stopped next =>
    some ({ s with lastStatus := if s.config.enabled then .stopped else .disabled },
      next.map fun config => .limit config.normalized)
  | .limit config =>
    some ({ s with maxSamplesPerSeries := config.maxSamplesPerSeries }, some (.reset config))
  | .reset config =>
    some ({ s with
      config := config
      lastFlushMs := 0
      lastFlushPoints := 0
      totalFlushPoints := 0
      flushFailures := 0
      lastError := []
      lastStatus := if config.enabled then .starting else .disabled
      accepted := []
      refused := 0 }, if config.enabled then some (.checkDir config) else none)
  | .checkDir config =>
    some (s, some (if config.dbDir = "" then .failed (lit "observability db_dir is empty")
      else .openEngine config))
  | .openEngine _ =>
    match answer.engineError with
    | none => some ({ s with opened := true }, some .enable)
    | some message => some (s, some (.undoEnable message))
  | .enable => some ({ s with enabled := true }, some .run)
  | .run => some ({ s with running := true }, some .spawn)
  | .spawn =>
    match answer.threadError with
    | none =>
      -- a thread that was not joined must not be overwritten
      if s.worker.isSome then some ({ s with terminated := true }, none)
      else some ({ s with worker := some .top }, some .started)
    -- the store stays open
    | some message => some (s, some (.undoEnable message))
  | .started => some ({ s with lastStatus := .running }, none)
  | .undoEnable message => some ({ s with enabled := false }, some (.undoRun message))
  | .undoRun message => some ({ s with running := false }, some (.failed message))
  | .failed message => some ({ s with lastStatus := .error, lastError := message }, none)

inductive Event where
  | configure (config : ObservabilityConfig)
  | stop
  /-- the `k`-th of the calls that go on makes its next step -/
  | control (k : Nat) (answer : Answer)
  | work (answer : Answer)
  /-- an `observe_*` function tests `enabled_` -/
  | observe (observation : Observation)
  /-- the `k`-th of the observations that go on adds its samples -/
  | add (k : Nat)

/-- The `k`-th call after its step. -/
def goOn (s : Service) (k : Nat) (rest : Option Control) : Service :=
  { s with calls := match rest with
    | some call => s.calls.set k call
    | none => s.calls.eraseIdx k }

def stepLive (s : Service) : Event → Option Service
  | .configure config => some { s with calls := s.calls ++ [.disable (some config)] }
  | .stop => some { s with calls := s.calls ++ [.disable none] }
  | .control k answer =>
    (s.calls[k]?.bind (s.controlStep answer)).map fun (s', rest) => s'.goOn k rest
  | .work answer => s.worker.bind (s.workerLoop answer)
  | .observe observation =>
    some (if s.enabled then { s with observing := s.observing ++ [observation] } else s)
  | .add k => s.observing[k]?.map fun observation =>
      { s with
        observing := s.observing.eraseIdx k
        series := observation.samples.foldl (addLocked s.maxSamplesPerSeries) s.series }

/-- After `std::terminate` there are no steps. -/
def step (s : Service) (e : Event) : Option Service :=
  if s.terminated then none else s.stepLive e

/-! ### What the steps leave alone -/

variable {s s' : Service} {answer : Answer}

theorem flushOnce_frame (s : Service) (answer : Answer) (flush : Flush) :
    let s' := (s.flushOnce answer flush).1
    s'.enabled = s.enabled ∧ s'.running = s.running ∧ s'.opened = s.opened ∧
      s'.worker = s.worker ∧ s'.calls = s.calls ∧ s'.terminated = s.terminated ∧
      s'.config = s.config ∧
      (s'.lastStatus = s.lastStatus ∨ s'.lastStatus = .running ∨ s'.lastStatus = .error) := by
  cases flush with
  | swap =>
    rw [flushOnce]
    split <;> exact ⟨rfl, rfl, rfl, rfl, rfl, rfl, rfl, .inl rfl⟩
  | write batch timestampMs =>
    rw [flushOnce]
    split <;> exact ⟨rfl, rfl, rfl, rfl, rfl, rfl, rfl, .inl rfl⟩
  | record batch timestampMs error =>
    cases error with
    | none => exact ⟨rfl, rfl, rfl, rfl, rfl, rfl, rfl, .inr (.inl rfl)⟩
    | some error => exact ⟨rfl, rfl, rfl, rfl, rfl, rfl, rfl, .inr (.inr rfl)⟩

/-- A step of a call leaves the other calls alone. -/
theorem controlStep_calls {call : Control} {rest : Option Control}
    (taken : s.controlStep answer call = some (s', rest)) : s'.calls = s.calls := by
  cases call with
  | flushing flush next =>
    obtain ⟨_, _, _, _, calls, _⟩ := s.flushOnce_frame answer flush
    simp only [controlStep, Option.some.injEq, Prod.mk.injEq] at taken
    obtain ⟨rfl, _⟩ := taken
    exact calls
  | join | openEngine | spawn =>
    simp only [controlStep] at taken
    repeat' split at taken
    all_goals cases taken
    all_goals rfl
  | _ =>
    cases taken
    rfl

/-- So does a step of the worker, which does not touch the configuration either. -/
theorem workerLoop_config {w : Worker} (taken : s.workerLoop answer w = some s') :
    s'.config = s.config ∧ s'.calls = s.calls := by
  cases w with
  | top | waiting =>
    cases taken
    exact ⟨rfl, rfl⟩
  | flushing flush last =>
    obtain ⟨_, _, _, _, calls, _, config, _⟩ := s.flushOnce_frame answer flush
    cases taken
    exact ⟨config, calls⟩
  | returned => cases taken

end Service

end VllmRoute.Observability
