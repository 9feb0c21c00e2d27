import Mathlib.Data.List.Nodup
import VllmRoute.Scheduler.Types

/-!
# Request records and counters

`records_` with `record_pending` and `update_record`, and the counters of
`MetricsCollector`.
-/
namespace VllmRoute.Scheduler

/-- `record_pending`, with the trimming to `max_task_records_`. -/
def recordPending (maxTaskRecords : Nat) (req : InferenceRequest) (records : List RequestRecord) :
    List RequestRecord :=
  let records := records ++ [{
    taskId := req.taskId, requestId := req.requestId, workId := req.workId, action := req.action
    profileName := req.profileName, logicalModel := req.logicalModel, priority := req.priority
    status := .pending, createdMs := req.createdMs }]
  records.drop (records.length - maxTaskRecords)

/-- The fields that `update_record` overwrites. -/
def overwriteRecord (req : InferenceRequest) (status : RequestStatus) (errorMessage : Bytes)
    (record : RequestRecord) : RequestRecord :=
  { record with
    action := req.action
    profileName := req.profileName
    logicalModel := req.logicalModel
    servedModel := req.servedModel
    endpointName := req.endpointName
    status := status
    priority := req.priority
    retryCount := req.retryCount
    degraded := req.degraded
    errorMessage := errorMessage
    startedMs := req.startedMs
    finishedMs := req.finishedMs
    queueWaitMs := req.queueWaitMs
    firstTokenLatencyMs := req.firstTokenLatencyMs
    totalLatencyMs := req.totalLatencyMs }

/-- Overwrites the first record of the task, and no other. -/
def overwriteFirst (req : InferenceRequest) (status : RequestStatus) (errorMessage : Bytes) :
    List RequestRecord → List RequestRecord
  | [] => []
  | record :: rest =>
    if record.taskId ≠ req.taskId then record :: overwriteFirst req status errorMessage rest
    else overwriteRecord req status errorMessage record :: rest

/-- `update_record`, which searches from the newest record. -/
def updateRecord (req : InferenceRequest) (status : RequestStatus) (errorMessage : Bytes)
    (records : List RequestRecord) : List RequestRecord :=
  (overwriteFirst req status errorMessage records.reverse).reverse

section Records

variable {req : InferenceRequest} {status : RequestStatus} {errorMessage : Bytes}
  {records : List RequestRecord} {record : RequestRecord}

theorem overwriteFirst_taskIds :
    (overwriteFirst req status errorMessage records).map RequestRecord.taskId =
      records.map RequestRecord.taskId := by
  induction records with
  | nil => rfl
  | cons first rest ih =>
    unfold overwriteFirst
    split
    · simp [ih]
    · simp [overwriteRecord]

/-- With distinct tasks, the first record of the task is its only one. -/
theorem mem_overwriteFirst (distinct : (records.map RequestRecord.taskId).Nodup)
    (member : record ∈ overwriteFirst req status errorMessage records) :
    (record.taskId = req.taskId ∧ record.status = status) ∨
      (record.taskId ≠ req.taskId ∧ record ∈ records) := by
  induction records with
  | nil => cases member
  | cons first rest ih =>
    rw [List.map_cons, List.nodup_cons] at distinct
    unfold overwriteFirst at member
    split at member
    next other =>
      rcases List.mem_cons.mp member with rfl | later
      · exact Or.inr ⟨other, List.mem_cons_self⟩
      · rcases ih distinct.2 later with own | ⟨foreign, old⟩
        · exact Or.inl own
        · exact Or.inr ⟨foreign, List.mem_cons_of_mem _ old⟩
    next own =>
      -- the record of the task is overwritten, and the rest has no other one
      have own := not_not.mp own
      rcases List.mem_cons.mp member with rfl | later
      · exact Or.inl ⟨own, rfl⟩
      · refine Or.inr ⟨fun same => distinct.1 ?_, List.mem_cons_of_mem _ later⟩
        rw [own, ← same]
        exact List.mem_map_of_mem later

theorem updateRecord_taskIds :
    (updateRecord req status errorMessage records).map RequestRecord.taskId =
      records.map RequestRecord.taskId := by
  rw [updateRecord, List.map_reverse, overwriteFirst_taskIds, List.map_reverse,
    List.reverse_reverse]

theorem mem_updateRecord (distinct : (records.map RequestRecord.taskId).Nodup)
    (member : record ∈ updateRecord req status errorMessage records) :
    (record.taskId = req.taskId ∧ record.status = status) ∨
      (record.taskId ≠ req.taskId ∧ record ∈ records) := by
  have reversed : (records.reverse.map RequestRecord.taskId).Nodup := by
    rw [List.map_reverse]
    exact List.nodup_reverse.mpr distinct
  simpa using mem_overwriteFirst reversed (List.mem_reverse.mp member)

theorem mem_recordPending {maxTaskRecords : Nat}
    (member : record ∈ recordPending maxTaskRecords req records) :
    record ∈ records ∨ (record.taskId = req.taskId ∧ record.status = .pending) := by
  rcases List.mem_append.mp (List.mem_of_mem_drop member) with old | new
  · exact Or.inl old
  · rw [List.mem_singleton.mp new]
    exact Or.inr ⟨rfl, rfl⟩

theorem recordPending_distinct {maxTaskRecords : Nat}
    (distinct : (records.map RequestRecord.taskId).Nodup)
    (fresh : req.taskId ∉ records.map RequestRecord.taskId) :
    ((recordPending maxTaskRecords req records).map RequestRecord.taskId).Nodup := by
  -- the trimming drops the oldest records, so it is enough before it
  refine List.Nodup.sublist ((List.drop_sublist _ _).map RequestRecord.taskId) ?_
  rw [List.map_append]
  refine List.nodup_append.mpr ⟨distinct, List.nodup_singleton _, ?_⟩
  intro task old other new same
  have own : task = req.taskId := same.trans (List.mem_singleton.mp new)
  exact fresh (own ▸ old)

end Records

structure Metrics where
  totalRequests : Nat := 0
  successRequests : Nat := 0
  failedRequests : Nat := 0
  timeoutRequests : Nat := 0
  degradedRequests : Nat := 0
  queueRejectCount : Nat := 0
  requestTimes : List Int := []
  latencies : List Int := []
  queueWaits : List Int := []
  firstTokenLatencies : List Int := []

namespace Metrics

def kMaxSamples : Nat := 1024

def pushSampleLocked (values : List Int) (value : Int) : List Int :=
  if value < 0 then values
  else
    let values := values ++ [value]
    values.drop (values.length - kMaxSamples)

def trimTimesLocked (times : List Int) (currentMs : Int) : List Int :=
  times.dropWhile fun time => currentMs - time > 60000

def onRequestAccepted (m : Metrics) (timeMs : Int) : Metrics :=
  { m with
    totalRequests := m.totalRequests + 1
    requestTimes := trimTimesLocked (m.requestTimes ++ [timeMs]) timeMs }

def onQueueReject (m : Metrics) : Metrics :=
  { m with queueRejectCount := m.queueRejectCount + 1, failedRequests := m.failedRequests + 1 }

def onRequestFinish (m : Metrics) (ok timeout degraded : Bool)
    (totalLatencyMs queueWaitMs firstTokenLatencyMs : Int) : Metrics :=
  { m with
    successRequests := if ok then m.successRequests + 1 else m.successRequests
    timeoutRequests := if !ok && timeout then m.timeoutRequests + 1 else m.timeoutRequests
    failedRequests := if ok then m.failedRequests else m.failedRequests + 1
    degradedRequests := if degraded then m.degradedRequests + 1 else m.degradedRequests
    latencies := pushSampleLocked m.latencies totalLatencyMs
    queueWaits := pushSampleLocked m.queueWaits queueWaitMs
    firstTokenLatencies :=
      if firstTokenLatencyMs ≥ 0 then pushSampleLocked m.firstTokenLatencies firstTokenLatencyMs
      else m.firstTokenLatencies }

end Metrics

end VllmRoute.Scheduler
