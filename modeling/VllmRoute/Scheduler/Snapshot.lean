import Mathlib.Data.List.Sort
import Mathlib.Data.Rat.Defs
import VllmRoute.Scheduler.Records

/-!
# What the metrics report

`MetricsCollector::snapshot`. The rate is that of the last minute, counted from
the times that `on_request_accepted` has kept.
-/
namespace VllmRoute.Scheduler.Metrics

/-- The members of the JSON object. -/
structure Snapshot where
  totalRequests : Nat
  successRequests : Nat
  failedRequests : Nat
  timeoutRequests : Nat
  degradedRequests : Nat
  queueRejectCount : Nat
  qps1m : ℚ
  queueSize : Int
  maxQueueSize : Int
  avgLatencyMs : Int
  p95LatencyMs : Int
  queueWaitAvgMs : Int
  queueWaitP95Ms : Int
  firstTokenAvgMs : Int
  firstTokenP95Ms : Int

def averageLocked (values : List Int) : Int :=
  if values.isEmpty then 0
  else
    let sum := values.foldl (fun sum v => sum + v) 0
    sum.tdiv values.length

/-- `percentile_locked` for 0.95, where the product with the double rounds to the exact one if
that is whole. -/
def percentileLocked (values : List Int) : Int :=
  if values.isEmpty then 0
  else
    let sorted := values.insertionSort (· ≤ ·)
    let index := 95 * (sorted.length - 1) / 100
    sorted.getD (if index ≥ sorted.length then sorted.length - 1 else index) 0

/-- The loop over `request_times_`. -/
def recentCount (requestTimes : List Int) (currentMs : Int) : Nat :=
  requestTimes.foldl (fun count t => if currentMs - t ≤ 60000 then count + 1 else count) 0

def snapshot (m : Metrics) (currentMs queueSize maxQueueSize : Int) : Snapshot where
  totalRequests := m.totalRequests
  successRequests := m.successRequests
  failedRequests := m.failedRequests
  timeoutRequests := m.timeoutRequests
  degradedRequests := m.degradedRequests
  queueRejectCount := m.queueRejectCount
  qps1m := recentCount m.requestTimes currentMs / 60
  queueSize := queueSize
  maxQueueSize := maxQueueSize
  avgLatencyMs := averageLocked m.latencies
  p95LatencyMs := percentileLocked m.latencies
  queueWaitAvgMs := averageLocked m.queueWaits
  queueWaitP95Ms := percentileLocked m.queueWaits
  firstTokenAvgMs := averageLocked m.firstTokenLatencies
  firstTokenP95Ms := percentileLocked m.firstTokenLatencies

theorem recentCount_eq_countP (requestTimes : List Int) (currentMs : Int) :
    recentCount requestTimes currentMs =
      requestTimes.countP fun t => currentMs - t ≤ 60000 := by
  have counted (n : Nat) :
      requestTimes.foldl (fun count t => if currentMs - t ≤ 60000 then count + 1 else count) n =
        n + requestTimes.countP fun t => currentMs - t ≤ 60000 := by
    induction requestTimes generalizing n with
    | nil => rfl
    | cons t times ih =>
      rw [List.foldl_cons, ih, List.countP_cons]
      by_cases recent : currentMs - t ≤ 60000
      · simp only [recent, if_true, decide_true]
        omega
      · simp [recent]
  rw [recentCount, counted, Nat.zero_add]

end VllmRoute.Scheduler.Metrics
