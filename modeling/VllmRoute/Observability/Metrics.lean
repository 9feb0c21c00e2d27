import Mathlib.Algebra.Order.Round
import Mathlib.Data.List.Sort
import Mathlib.Data.Rat.Floor
import VllmRoute.Base
import VllmRoute.Lib.Keyed

/-!
# Metric series (`observability_metrics`)

Each `observe_*` call adds samples to the buffered series under `series_mtx_`;
`flush_once` swaps the buffered series out under the same lock and writes one
point for each of them to the store, outside of it. A flush is therefore two
events, and any number of calls can come between them.

A `double` is a rational number and a counter a natural one. The flags, the
counters of `snapshot` and the query side are left out, as is the refusal of a
closed store: every write here reaches the store.
-/
namespace VllmRoute.Observability

open Lib (alter)

/-! ## Series -/

inductive SeriesMode where
  | sum
  | avg
  | max
  | last
  | p95
  deriving DecidableEq, Repr

structure SeriesState where
  mode : SeriesMode := .last
  sum : ℚ := 0
  count : Nat := 0
  max : ℚ := 0
  last : ℚ := 0
  samples : List ℚ := []

namespace SeriesState

/-- The test by which the `add_*_locked` functions know a series without samples. -/
def fresh (series : SeriesState) : Bool := series.count == 0 && series.samples.isEmpty

/-- The common beginning of the `add_*_locked` functions. -/
def enter (mode : SeriesMode) (series : SeriesState) : SeriesState :=
  let series := if series.fresh then { series with mode := mode } else series
  if series.mode ≠ mode then { mode := mode } else series

/-- The second test of `enter` succeeds: the samples so far are thrown away. -/
def Resets (mode : SeriesMode) (series : SeriesState) : Prop :=
  series.fresh = false ∧ series.mode ≠ mode

def addSumLocked (value : ℚ) (series : SeriesState) : SeriesState :=
  let series := series.enter .sum
  { series with sum := series.sum + value, count := series.count + 1 }

def addAvgLocked (value : ℚ) (series : SeriesState) : SeriesState :=
  let series := series.enter .avg
  { series with sum := series.sum + value, count := series.count + 1 }

-- The source declares it and never calls it.
def addMaxLocked (value : ℚ) (series : SeriesState) : SeriesState :=
  let series := if series.fresh then { series with mode := .max, max := value } else series
  let series := if series.mode ≠ .max then { mode := .max, max := value } else series
  let series :=
    if series.count == 0 || series.max < value then { series with max := value } else series
  { series with count := series.count + 1 }

def addLastLocked (value : ℚ) (series : SeriesState) : SeriesState :=
  let series := series.enter .last
  { series with last := value, count := series.count + 1 }

def addP95Locked (sampleLimit : Nat) (value : ℚ) (series : SeriesState) : SeriesState :=
  let series := series.enter .p95
  let samples :=
    if series.samples.length < sampleLimit then series.samples ++ [value] else series.samples
  { series with samples := samples, count := series.count + 1 }

end SeriesState

/-- The value a series is flushed with. -/
def seriesFlushValue (state : SeriesState) : Option ℚ :=
  if state.fresh then none
  else match state.mode with
    | .sum => some state.sum
    | .avg => if state.count == 0 then none else some (state.sum / state.count)
    | .max => some state.max
    | .last => some state.last
    | .p95 =>
      if state.samples.isEmpty then none
      else
        let sorted := state.samples.insertionSort (· ≤ ·)
        -- the product with the double 0.95 rounds to the exact one where that is whole
        let index := 95 * (sorted.length - 1) / 100
        sorted[if index ≥ sorted.length then sorted.length - 1 else index]?

/-! ## Names and values as text -/

def sanitizeByte (ch : UInt8) : UInt8 :=
  if (chr 'a' ≤ ch && ch ≤ chr 'z') || (chr 'A' ≤ ch && ch ≤ chr 'Z')
      || (chr '0' ≤ ch && ch ≤ chr '9') || ch == chr '_' || ch == chr '-' then ch
  else chr '_'

def sanitizeSegment (value : Bytes) : Bytes :=
  let out := value.map sanitizeByte
  if out.isEmpty then lit "unknown" else out

/-- `std::round`: halves go away from zero. -/
def roundAway (value : ℚ) : Int :=
  if 0 ≤ value then ⌊value + 1 / 2⌋ else -⌊-value + 1 / 2⌋

/-- `std::fixed` with three decimals. -/
def fixedThree (value : ℚ) : Bytes :=
  let scaled := |value| * 1000
  let below := ⌊scaled⌋
  let rest := scaled - below
  let thousandths :=
    if rest < 1 / 2 || (rest == 1 / 2 && below % 2 == 0) then below else below + 1
  let decimals := decimal (thousandths % 1000)
  (if value < 0 then lit "-" else []) ++ decimal (thousandths / 1000) ++ lit "." ++
    List.replicate (3 - decimals.length) (chr '0') ++ decimals

/-- The text of a value. It is exact here: a `double` that stands for a quotient can be on the
other side of a tie, or of the millionth. -/
def formatValue (value : ℚ) : Bytes :=
  let rounded := roundAway value
  if |value - rounded| < 1 / 1000000 then decimal rounded else fixedThree value

/-! ## Observations -/

structure RequestMetricsEvent where
  action : Bytes
  endpoint : Bytes
  ok : Bool := false
  timeout : Bool := false
  degraded : Bool := false
  errorCode : Int := 0
  totalLatencyMs : Int := -1
  queueWaitMs : Int := -1
  firstTokenLatencyMs : Int := -1

structure QueueMetricsEvent where
  pending : Int := 0
  high : Int := 0
  normal : Int := 0
  background : Int := 0
  maxQueueSize : Int := 0

structure EndpointMetricsEvent where
  endpoint : Bytes
  inflight : Int := 0
  availableCapacity : Int := 0
  avgLatencyMs : ℚ := 0
  healthy : Bool := false
  circuitState : Int := 0
  successCount : Nat := 0
  failureCount : Nat := 0
  timeoutCount : Nat := 0
  circuitOpenCount : Nat := 0

/-- One call of an `add_*_locked` function. -/
structure Sample where
  mode : SeriesMode
  measurement : Bytes
  value : ℚ

def observeRequestFinish (event : RequestMetricsEvent) : List Sample :=
  let action := sanitizeSegment event.action
  let endpoint := sanitizeSegment event.endpoint
  [⟨.sum, lit "llm.request.count.action." ++ action, 1⟩] ++
  (if event.ok then [⟨.sum, lit "llm.request.success.count.action." ++ action, 1⟩]
    else [⟨.sum, lit "llm.request.error.count.action." ++ (action ++ (lit ".code." ++
        sanitizeSegment (decimal event.errorCode))), 1⟩] ++
      if event.timeout then [⟨.sum, lit "llm.request.timeout.count.action." ++ action, 1⟩]
      else []) ++
  (if event.degraded then [⟨.sum, lit "llm.request.degraded.count.action." ++ action, 1⟩]
    else []) ++
  (if event.totalLatencyMs ≥ 0 then
    [⟨.avg, lit "llm.request.latency.avg_ms.action." ++ action, event.totalLatencyMs⟩,
      ⟨.p95, lit "llm.request.latency.p95_ms.action." ++ action, event.totalLatencyMs⟩]
    else []) ++
  (if event.queueWaitMs ≥ 0 then
    [⟨.avg, lit "llm.request.queue_wait.avg_ms.action." ++ action, event.queueWaitMs⟩,
      ⟨.p95, lit "llm.request.queue_wait.p95_ms.action." ++ action, event.queueWaitMs⟩]
    else []) ++
  (if event.firstTokenLatencyMs ≥ 0 then
    [⟨.avg, lit "llm.request.ttft.avg_ms.action." ++ action, event.firstTokenLatencyMs⟩,
      ⟨.p95, lit "llm.request.ttft.p95_ms.action." ++ action, event.firstTokenLatencyMs⟩]
    else []) ++
  if endpoint ≠ lit "unknown" then
    [⟨.sum, lit "llm.endpoint.request.count." ++ endpoint, 1⟩,
      ⟨.sum, lit "llm.endpoint.request." ++
        ((if event.ok then lit "success.count." else lit "error.count.") ++ endpoint), 1⟩]
  else []

def observeQueueReject (action : Bytes) : List Sample :=
  [⟨.sum, lit "llm.queue.reject.count.action." ++ sanitizeSegment action, 1⟩]

def observeQueueSnapshot (event : QueueMetricsEvent) : List Sample :=
  [⟨.last, lit "llm.queue.pending", event.pending⟩,
    ⟨.last, lit "llm.queue.high", event.high⟩,
    ⟨.last, lit "llm.queue.normal", event.normal⟩,
    ⟨.last, lit "llm.queue.background", event.background⟩,
    ⟨.last, lit "llm.queue.max_size", event.maxQueueSize⟩]

def observeEndpoint (event : EndpointMetricsEvent) : List Sample :=
  let endpoint := sanitizeSegment event.endpoint
  [⟨.last, lit "llm.endpoint.inflight." ++ endpoint, event.inflight⟩,
    ⟨.last, lit "llm.endpoint.available_capacity." ++ endpoint, event.availableCapacity⟩,
    ⟨.last, lit "llm.endpoint.avg_latency_ms." ++ endpoint, event.avgLatencyMs⟩,
    ⟨.last, lit "llm.endpoint.healthy." ++ endpoint, if event.healthy then 1 else 0⟩,
    ⟨.last, lit "llm.endpoint.circuit_state." ++ endpoint, event.circuitState⟩,
    ⟨.last, lit "llm.endpoint.success.total." ++ endpoint, event.successCount⟩,
    ⟨.last, lit "llm.endpoint.failure.total." ++ endpoint, event.failureCount⟩,
    ⟨.last, lit "llm.endpoint.timeout.total." ++ endpoint, event.timeoutCount⟩,
    ⟨.last, lit "llm.endpoint.circuit_open.total." ++ endpoint, event.circuitOpenCount⟩]

/-- A call that observes something. -/
inductive Observation where
  | requestFinish (event : RequestMetricsEvent)
  | queueReject (action : Bytes)
  | queueSnapshot (event : QueueMetricsEvent)
  | endpoint (event : EndpointMetricsEvent)

def Observation.samples : Observation → List Sample
  | .requestFinish event => observeRequestFinish event
  | .queueReject action => observeQueueReject action
  | .queueSnapshot event => observeQueueSnapshot event
  | .endpoint event => observeEndpoint event

/-! ## The component -/

abbrev SeriesMap := List (Bytes × SeriesState)

/-- The `add_*_locked` function of a sample, on its series. -/
def Sample.addTo (sampleLimit : Nat) (sample : Sample) : SeriesState → SeriesState :=
  match sample.mode with
  | .sum => SeriesState.addSumLocked sample.value
  | .avg => SeriesState.addAvgLocked sample.value
  | .max => SeriesState.addMaxLocked sample.value
  | .last => SeriesState.addLastLocked sample.value
  | .p95 => SeriesState.addP95Locked sampleLimit sample.value

/-- One `add_*_locked` call: `series_[measurement]` makes the series if need be. -/
def addLocked (sampleLimit : Nat) (series : SeriesMap) (sample : Sample) : SeriesMap :=
  alter sample.measurement {} (sample.addTo sampleLimit) series

/-- A `Put` of the write batch: `text` is what the store is given for `value`. -/
structure Point where
  measurement : Bytes
  timestampMs : Int
  value : ℚ
  text : Bytes

/-- The write batch made of a snapshot. -/
def batchOf (timestampMs : Int) (snapshot : SeriesMap) : List Point :=
  snapshot.filterMap fun item => (seriesFlushValue item.2).map fun value =>
    { measurement := item.1, timestampMs := timestampMs, value := value,
      text := formatValue value }

/-- The buffered series, the snapshots of the flushes under way, and what the store got. -/
structure Metrics where
  enabled : Bool := false
  series : SeriesMap := []
  flushing : List SeriesMap := []
  written : List Point := []

inductive Event where
  | observe (observation : Observation)
  /-- `flush_once` up to the end of its locked part -/
  | swap
  /-- the rest of the `index`-th flush under way -/
  | write (index : Nat) (timestampMs : Int)

def observe (sampleLimit : Nat) (metrics : Metrics) (observation : Observation) : Metrics :=
  if !metrics.enabled then metrics
  else { metrics with series := observation.samples.foldl (addLocked sampleLimit) metrics.series }

def swapSeries (metrics : Metrics) : Metrics :=
  if metrics.series.isEmpty then metrics
  else { metrics with series := [], flushing := metrics.flushing ++ [metrics.series] }

def writeBatch (metrics : Metrics) (index : Nat) (timestampMs : Int) : Option Metrics :=
  metrics.flushing[index]?.map fun snapshot =>
    { metrics with flushing := metrics.flushing.eraseIdx index,
                   written := metrics.written ++ batchOf timestampMs snapshot }

def step (sampleLimit : Nat) (metrics : Metrics) : Event → Option Metrics
  | .observe observation => some (observe sampleLimit metrics observation)
  | .swap => some (swapSeries metrics)
  | .write index timestampMs => writeBatch metrics index timestampMs

end VllmRoute.Observability
