import VllmRoute.Lib.Window
import VllmRoute.Properties.Recording
import VllmRoute.Scheduler.Report
import VllmRoute.Scheduler.Snapshot

/-!
# What is reported of the past

The scheduler keeps the last records and the last samples only. In every run, what
it reports is what an unbounded log of the operations of its threads would show,
cut to its end.
-/
namespace VllmRoute.Scheduler

open Lib

/-! ### The operations of a run -/

/-- The operation that an event makes. -/
def System.operation (s : System) : SystemEvent → Option Op
  | .call i _ => s.calls[i]?.bind fun c => match c.prog with
    | .op o _ => some o
    | .pure _ => none
  | .work i _ => s.workers[i]?.bind fun w => match w.prog with
    | .op o _ => some o
    | .pure _ => none
  | _ => none

def System.operations (codec : Codec) (cfg : TaskConfig) (s : System) (events : List SystemEvent) :
    List Op :=
  (history (System.step codec cfg) s events).filterMap fun moment => moment.1.operation moment.2

/-- The record that `record_pending` makes. -/
def pendingRecord (req : InferenceRequest) : RequestRecord :=
  { taskId := req.taskId, requestId := req.requestId, workId := req.workId, action := req.action
    profileName := req.profileName, logicalModel := req.logicalModel, priority := req.priority
    status := .pending, createdMs := req.createdMs }

/-- An operation on all records that were ever made, the newest first. -/
def enter (records : List RequestRecord) : Op → List RequestRecord
  | .recordPending req => pendingRecord req :: records
  | .updateRecord req status errorMessage => overwriteFirst req status errorMessage records
  | _ => records

def ledger (ops : List Op) : List RequestRecord := ops.foldl enter []

/-- The three series of samples. -/
inductive Sampled where
  | latency
  | queueWait
  | firstToken

namespace Sampled

/-- The sample that an operation adds. -/
def sample : Sampled → Op → Option Int
  | .latency, .onRequestFinish _ _ _ totalLatencyMs _ _ =>
    if totalLatencyMs < 0 then none else some totalLatencyMs
  | .queueWait, .onRequestFinish _ _ _ _ queueWaitMs _ =>
    if queueWaitMs < 0 then none else some queueWaitMs
  | .firstToken, .onRequestFinish _ _ _ _ _ firstTokenLatencyMs =>
    if firstTokenLatencyMs < 0 then none else some firstTokenLatencyMs
  | _, _ => none

def kept (m : Metrics) : Sampled → List Int
  | .latency => m.latencies
  | .queueWait => m.queueWaits
  | .firstToken => m.firstTokenLatencies

def average (snapshot : Metrics.Snapshot) : Sampled → Int
  | .latency => snapshot.avgLatencyMs
  | .queueWait => snapshot.queueWaitAvgMs
  | .firstToken => snapshot.firstTokenAvgMs

def p95 (snapshot : Metrics.Snapshot) : Sampled → Int
  | .latency => snapshot.p95LatencyMs
  | .queueWait => snapshot.queueWaitP95Ms
  | .firstToken => snapshot.firstTokenP95Ms

end Sampled

/-! ### One operation -/

section Operations

variable {choice : Choice} {s s' : Shared} {o : Op} {r : o.Resp}

/-- `max_task_records_` is not among the fields that a reload writes. -/
theorem step_maxTaskRecords {d d' : Dispatcher} {e : Event} (taken : d.step e = some d') :
    d'.pool.cfg.maxTaskRecords = d.pool.cfg.maxTaskRecords := by
  cases e with
  | select req threshold =>
    simp only [Dispatcher.step, Option.some.injEq] at taken
    subst taken
    rfl
  | complete slot th ok latencyMs =>
    simp only [Dispatcher.step, Option.map_eq_some_iff] at taken
    obtain ⟨_, _, rfl⟩ := taken
    rfl
  | health id th ok latencyMs =>
    simp only [Dispatcher.step] at taken
    split at taken <;> cases taken
    rfl
  | reload body =>
    simp only [Dispatcher.step] at taken
    split at taken
    next pool reloaded =>
      cases taken
      obtain ⟨_, _, profiles, _, ends⟩ := (reloadConfig_ok_iff _ _ _ _).mp reloaded
      split at ends
      · obtain ⟨eps, _, rfl⟩ := ends
        rfl
      · subst ends
        rfl
    next =>
      cases taken
      rfl
  | advance ms =>
    cases taken
    rfl

/-- The operations on the endpoints and on the queue. -/
def Op.routes : Op → Bool
  | .selectEndpoint _ | .updateEndpointResult .. | .popNextRequest | .enqueue _ => true
  | _ => false

theorem exec_routes (routes : o.routes = true)
    (executed : exec choice s o = some (r, s')) :
    s'.records = s.records ∧ s'.metrics = s.metrics ∧
      s'.dispatcher.pool.cfg.maxTaskRecords = s.dispatcher.pool.cfg.maxTaskRecords := by
  cases o with
  | selectEndpoint req =>
    simp only [exec, Option.map_eq_some_iff] at executed
    obtain ⟨d, taken, same⟩ := executed
    cases same
    exact ⟨rfl, rfl, step_maxTaskRecords taken⟩
  | updateEndpointResult attempt ok latencyMs =>
    obtain ⟨_, d, taken, rfl⟩ := exec_updateEndpointResult executed
    exact ⟨rfl, rfl, step_maxTaskRecords taken⟩
  | popNextRequest =>
    rcases exec_popNextRequest executed with ⟨_, _, _, _, _, rfl⟩ | ⟨_, _, rfl, _⟩
    · exact ⟨rfl, rfl, rfl⟩
    · exact ⟨rfl, rfl, rfl⟩
  | enqueue req =>
    simp only [exec, Option.map_eq_some_iff] at executed
    obtain ⟨_, _, same⟩ := executed
    cases same
    exact ⟨rfl, rfl, rfl⟩
  | _ => cases routes

theorem exec_maxTaskRecords (executed : exec choice s o = some (r, s')) :
    s'.dispatcher.pool.cfg.maxTaskRecords = s.dispatcher.pool.cfg.maxTaskRecords := by
  cases o with
  | selectEndpoint | updateEndpointResult | popNextRequest | enqueue =>
    exact (exec_routes rfl executed).2.2
  | _ =>
    cases executed
    rfl

theorem take_overwriteFirst (req : InferenceRequest) (status : RequestStatus) (message : Bytes)
    (records : List RequestRecord) (n : Nat) :
    (overwriteFirst req status message records).take n =
      overwriteFirst req status message (records.take n) := by
  induction records generalizing n with
  | nil => simp [overwriteFirst]
  | cons record records ih =>
    cases n with
    | zero => rfl
    | succ n =>
      rw [List.take_succ_cons, overwriteFirst, overwriteFirst]
      split
      · rw [List.take_succ_cons, ih]
      · rfl

/-- What the newest records become depends on the newest records only. -/
theorem take_enter (records : List RequestRecord) (n : Nat) (o : Op) :
    (enter (records.take n) o).take n = (enter records o).take n := by
  cases o with
  | recordPending req =>
    cases n with
    | zero => rfl
    | succ n => simp [enter, List.take_take]
  | updateRecord req status message => simp [enter, take_overwriteFirst, List.take_take]
  | _ => simp [enter, List.take_take]

theorem recordPending_reverse (n : Nat) (req : InferenceRequest) (records : List RequestRecord) :
    (recordPending n req records).reverse = (pendingRecord req :: records.reverse).take n := by
  change (recent n (records ++ [pendingRecord req])).reverse = _
  rw [reverse_recent, List.reverse_append]
  rfl

theorem exec_records (executed : exec choice s o = some (r, s')) {n : Nat}
    (limit : s.dispatcher.pool.cfg.maxTaskRecords = n)
    (short : s.records.reverse = s.records.reverse.take n) :
    s'.records.reverse = (enter s.records.reverse o).take n := by
  cases o with
  | recordPending req =>
    cases executed
    rw [← limit]
    exact recordPending_reverse _ req s.records
  | updateRecord req status message =>
    cases executed
    rw [enter, take_overwriteFirst, ← short, updateRecord, List.reverse_reverse]
  | selectEndpoint | updateEndpointResult | popNextRequest | enqueue =>
    rw [(exec_routes rfl executed).1]
    exact short
  | _ =>
    cases executed
    exact short

theorem pushSampleLocked_eq (samples : List Int) (value : Int) :
    Metrics.pushSampleLocked samples value =
      ((if value < 0 then none else some value).elim samples fun sample =>
        recent Metrics.kMaxSamples (samples ++ [sample])) := by
  by_cases negative : value < 0
  · rw [Metrics.pushSampleLocked, if_pos negative, if_pos negative]
    rfl
  · rw [Metrics.pushSampleLocked, if_neg negative, if_neg negative, Option.elim_some, recent]

theorem exec_samples (executed : exec choice s o = some (r, s')) (series : Sampled) :
    series.kept s'.metrics = (series.sample o).elim (series.kept s.metrics) fun sample =>
      recent Metrics.kMaxSamples (series.kept s.metrics ++ [sample]) := by
  cases o with
  | onRequestFinish ok timeout degraded totalLatencyMs queueWaitMs firstTokenLatencyMs =>
    cases executed
    cases series with
    | latency => exact pushSampleLocked_eq _ _
    | queueWait => exact pushSampleLocked_eq _ _
    | firstToken =>
      -- the one series with a test of its own before the push
      change (if firstTokenLatencyMs ≥ 0 then _ else _) = _
      rw [pushSampleLocked_eq]
      by_cases negative : firstTokenLatencyMs < 0
      · simp [Sampled.sample, Sampled.kept, negative]
      · simp [Sampled.sample, Sampled.kept, negative, Int.not_lt.mp negative]
  | selectEndpoint | updateEndpointResult | popNextRequest | enqueue =>
    rw [(exec_routes rfl executed).2.1]
    cases series <;> rfl
  | _ =>
    cases executed
    cases series <;> rfl

end Operations

/-! ### Runs -/

/-- The state has what the operations so far end with. -/
structure Remembers (maxTaskRecords : Nat) (ops : List Op) (s : Shared) : Prop where
  limit : s.dispatcher.pool.cfg.maxTaskRecords = maxTaskRecords
  records : s.records.reverse = (ledger ops).take maxTaskRecords
  samples : ∀ series : Sampled,
    series.kept s.metrics = recent Metrics.kMaxSamples (ops.filterMap series.sample)

theorem Remembers.exec {choice : Choice} {s s' : Shared} {o : Op} {r : o.Resp} {n : Nat}
    {ops : List Op} (before : Remembers n ops s)
    (executed : Scheduler.exec choice s o = some (r, s')) : Remembers n (ops ++ [o]) s' := by
  constructor
  · rw [exec_maxTaskRecords executed, before.limit]
  · have short : s.records.reverse = s.records.reverse.take n := by
      rw [before.records, List.take_take, Nat.min_self]
    rw [exec_records executed before.limit short, before.records, take_enter, ledger, ledger,
      List.foldl_append]
    rfl
  · intro series
    rw [exec_samples executed, before.samples series, List.filterMap_append]
    cases found : series.sample o with
    | none => simp [found]
    | some sample => simp [found, recent_recent_append]

theorem Remembers.step {codec : Codec} {cfg : TaskConfig} {s s' : System} {e : SystemEvent}
    {n : Nat} {ops : List Op} (before : Remembers n ops s.shared)
    (taken : s.step codec cfg e = some s') :
    Remembers n (ops ++ (s.operation e).toList) s'.shared := by
  have live := System.stepLive_of_step taken
  have outside {d : Dispatcher} {event : Event} (moved : s.shared.dispatcher.step event = some d) :
      Remembers n ops (s.setDispatcher d).shared :=
    ⟨(step_maxTaskRecords moved).trans before.limit, before.records, before.samples⟩
  cases e with
  | call i choice =>
    obtain ⟨c, o, k, r, shared, found, prog, executed, rfl⟩ := System.stepLive_call live
    have made : s.operation (.call i choice) = some o := by
      simp only [System.operation, found, Option.bind_some, prog]
    rw [made]
    exact before.exec executed
  | work i choice =>
    obtain ⟨w, w', shared, found, moved, rfl⟩ := System.stepLive_work live
    rcases Thread.step_cases moved with ⟨pt, p, prog, _, _, rfl⟩ | ⟨o, k, r, prog, executed, _⟩
    · have made : s.operation (.work i choice) = none := by
        simp only [System.operation, found, Option.bind_some, prog]
      rw [made, Option.toList_none, List.append_nil]
      exact before
    · have made : s.operation (.work i choice) = some o := by
        simp only [System.operation, found, Option.bind_some, prog]
      rw [made]
      exact before.exec executed
  | arrive req =>
    cases live
    exact (List.append_nil ops).symm ▸ ⟨before.limit, before.records, before.samples⟩
  | stop =>
    cases live
    exact (List.append_nil ops).symm ▸ ⟨before.limit, before.records, before.samples⟩
  | health | reload | advance =>
    simp only [System.stepLive, Option.map_eq_some_iff] at live
    obtain ⟨d, moved, rfl⟩ := live
    exact (List.append_nil ops).symm ▸ outside moved

theorem run_remembers {codec : Codec} {cfg : TaskConfig} {pool : Pool} {nowMs : Int} {n : Nat}
    {events : List SystemEvent} {s : System}
    (reached : run (System.step codec cfg) (System.start pool nowMs n) events = some s) :
    Remembers pool.cfg.maxTaskRecords
      (System.operations codec cfg (System.start pool nowMs n) events) s.shared := by
  let made (past : List (System × SystemEvent)) : List Op :=
    past.filterMap fun moment => moment.1.operation moment.2
  have last (past : List (System × SystemEvent)) (s : System) (e : SystemEvent) :
      made (past ++ [(s, e)]) = made past ++ (s.operation e).toList := by
    cases found : s.operation e <;> simp [made, found]
  have initial :
      Remembers pool.cfg.maxTaskRecords (made []) (System.start pool nowMs n).shared := by
    constructor
    · rfl
    · exact List.take_nil.symm
    · intro series
      change _ = recent Metrics.kMaxSamples []
      rw [recent_nil]
      cases series <;> rfl
  exact run_history_invariant (System.step codec cfg) (fun _ _ _ => True)
    (fun past s => Remembers pool.cfg.maxTaskRecords (made past) s.shared)
    (fun past s e s' taken _ before => last past s e ▸ before.step taken)
    [] _ s events reached (along_true _ _ _) initial

/-! ### The reports -/

theorem collectRecords_eq (query : Json) (records : List RequestRecord) (emitted : Int) :
    collectRecords query records emitted =
      (records.filter fun record => !skipsRecord query record).take
        (queryLimit query - emitted).toNat := by
  induction records generalizing emitted with
  | nil => simp [collectRecords]
  | cons record records ih =>
    unfold collectRecords
    split
    next room =>
      split
      next skipped => rw [ih, List.filter_cons_of_neg (by simpa using skipped)]
      next listed =>
        have more : (queryLimit query - emitted).toNat =
            (queryLimit query - (emitted + 1)).toNat + 1 := by omega
        rw [ih, List.filter_cons_of_pos (by simpa using listed), more, List.take_succ_cons]
    next full =>
      have none : (queryLimit query - emitted).toNat = 0 := by omega
      rw [none, List.take_zero]

/-- `recent_tasks` is, in every run, what the ledger of all requests shows of the newest
`max_task_records_` of them: those that the query asks for, the newest first. -/
theorem recent_tasks_from_ledger (codec : Codec) (cfg : TaskConfig) (pool : Pool) (nowMs : Int)
    (n : Nat) (events : List SystemEvent) (s : System)
    (reached : run (System.step codec cfg) (System.start pool nowMs n) events = some s)
    (query : Json) :
    recordsJson query s.shared.records =
      (((ledger (System.operations codec cfg (System.start pool nowMs n) events)).take
        pool.cfg.maxTaskRecords).filter fun record => !skipsRecord query record).take
          (queryLimit query).toNat := by
  rw [recordsJson, (run_remembers reached).records, collectRecords_eq, Int.sub_zero]

/-- One endpoint, and room for one record. -/
def oneRecord : Json :=
  .obj [("model", .str "m"), ("max_task_records", .int 1),
    ("endpoints", .arr [.obj [("base_url", .str "http://a")]])]

/-- Of two requests the ledger has both, and the report the newer one. -/
theorem recent_tasks_from_ledger_trimmed : ∃ pool s, loadModel {} oneRecord = .ok pool ∧
    run (System.step oneDelta {}) (System.start pool 0 1) twoArrivals = some s ∧
    (ledger (System.operations oneDelta {} (System.start pool 0 1) twoArrivals)).map
      RequestRecord.taskId = [2, 1] ∧
    (recordsJson (.obj []) s.shared.records).map RequestRecord.taskId = [2] ∧
    recordsJson (.obj []) s.shared.records =
      (((ledger (System.operations oneDelta {} (System.start pool 0 1) twoArrivals)).take
        pool.cfg.maxTaskRecords).filter fun record => !skipsRecord (.obj []) record).take
          (queryLimit (.obj [])).toNat := by
  obtain ⟨pool, s, loaded, ran, both, newer⟩ : ∃ pool s, loadModel {} oneRecord = .ok pool ∧
      run (System.step oneDelta {}) (System.start pool 0 1) twoArrivals = some s ∧
      (ledger (System.operations oneDelta {} (System.start pool 0 1) twoArrivals)).map
        RequestRecord.taskId = [2, 1] ∧
      (recordsJson (.obj []) s.shared.records).map RequestRecord.taskId = [2] :=
    ⟨_, _, rfl, rfl, rfl, rfl⟩
  exact ⟨pool, s, loaded, ran, both, newer,
    recent_tasks_from_ledger oneDelta {} pool 0 1 twoArrivals s ran (.obj [])⟩

theorem percentileLocked_spec {samples : List Int} (some : samples ≠ []) :
    Metrics.percentileLocked samples ∈ samples ∧
      samples.countP (· < Metrics.percentileLocked samples) ≤ 95 * (samples.length - 1) / 100 ∧
      95 * (samples.length - 1) / 100 < samples.countP (· ≤ Metrics.percentileLocked samples) := by
  have positive := List.length_pos_of_ne_nil some
  have perm := List.perm_insertionSort (· ≤ ·) samples
  have inside : 95 * (samples.length - 1) / 100 < (samples.insertionSort (· ≤ ·)).length := by
    rw [perm.length_eq]
    omega
  have read : Metrics.percentileLocked samples =
      (samples.insertionSort (· ≤ ·))[95 * (samples.length - 1) / 100] := by
    rw [Metrics.percentileLocked, if_neg (by simpa using some)]
    dsimp only
    rw [perm.length_eq, if_neg (by rw [← perm.length_eq]; omega)]
    rw [List.getD_eq_getElem?_getD, List.getElem?_eq_getElem inside, Option.getD_some]
  rw [read]
  refine ⟨perm.mem_iff.mp (List.getElem_mem inside), ?_⟩
  have counted := countP_sorted (List.pairwise_insertionSort (· ≤ ·) samples) inside
  rwa [perm.countP_eq, perm.countP_eq] at counted

theorem averageLocked_eq {samples : List Int} (some : samples ≠ []) :
    Metrics.averageLocked samples = (samples.foldl (· + ·) 0).tdiv samples.length := by
  rw [Metrics.averageLocked, if_neg (by simpa using some)]

/-- The averages and percentiles of a snapshot are, in every run, those of the last 1024 samples
that the requests have left. -/
theorem snapshot_of_recent_samples (codec : Codec) (cfg : TaskConfig) (pool : Pool) (nowMs : Int)
    (n : Nat) (events : List SystemEvent) (s : System)
    (reached : run (System.step codec cfg) (System.start pool nowMs n) events = some s)
    (series : Sampled) (currentMs queueSize maxQueueSize : Int) :
    let ops := System.operations codec cfg (System.start pool nowMs n) events
    let samples := recent 1024 (ops.filterMap series.sample)
    let snapshot := s.shared.metrics.snapshot currentMs queueSize maxQueueSize
    (samples = [] → series.average snapshot = 0 ∧ series.p95 snapshot = 0) ∧
    (samples ≠ [] → series.average snapshot = (samples.foldl (· + ·) 0).tdiv samples.length ∧
      series.p95 snapshot ∈ samples ∧
      samples.countP (· < series.p95 snapshot) ≤ 95 * (samples.length - 1) / 100 ∧
      95 * (samples.length - 1) / 100 < samples.countP (· ≤ series.p95 snapshot)) := by
  intro ops samples snapshot
  have kept : series.kept s.shared.metrics = samples := (run_remembers reached).samples series
  have average : series.average snapshot = Metrics.averageLocked samples := by
    rw [← kept]
    cases series <;> rfl
  have p95 : series.p95 snapshot = Metrics.percentileLocked samples := by
    rw [← kept]
    cases series <;> rfl
  clear_value samples
  rw [average, p95]
  constructor
  · intro none
    rw [none]
    exact ⟨rfl, rfl⟩
  · intro some
    exact ⟨averageLocked_eq some, percentileLocked_spec some⟩

/-- Two mock requests, one after the other. Time passes while the second is served. -/
def twoMocks : List SystemEvent :=
  twoArrivals ++ List.replicate 14 (.work 0 smooth) ++ [.advance 40] ++
    List.replicate 6 (.work 0 smooth)

theorem snapshot_of_recent_samples_mock : ∃ pool s, loadModel {} oneBackend = .ok pool ∧
    run (System.step oneDelta { mockMode := true }) (System.start pool 0 1) twoMocks = some s ∧
    (System.operations oneDelta { mockMode := true } (System.start pool 0 1) twoMocks).filterMap
      Sampled.latency.sample = [0, 40] ∧
    let ops := System.operations oneDelta { mockMode := true } (System.start pool 0 1) twoMocks
    let samples := recent 1024 (ops.filterMap Sampled.latency.sample)
    let snapshot := s.shared.metrics.snapshot 0 0 1
    Sampled.latency.average snapshot = (samples.foldl (· + ·) 0).tdiv samples.length ∧
      Sampled.latency.p95 snapshot ∈ samples ∧
      samples.countP (· < Sampled.latency.p95 snapshot) ≤ 95 * (samples.length - 1) / 100 ∧
      95 * (samples.length - 1) / 100 < samples.countP (· ≤ Sampled.latency.p95 snapshot) := by
  obtain ⟨pool, s, loaded, ran, sampled⟩ : ∃ pool s, loadModel {} oneBackend = .ok pool ∧
      run (System.step oneDelta { mockMode := true }) (System.start pool 0 1) twoMocks = some s ∧
      (System.operations oneDelta { mockMode := true } (System.start pool 0 1) twoMocks).filterMap
        Sampled.latency.sample = [0, 40] :=
    ⟨_, _, rfl, rfl, rfl⟩
  have reported :=
    snapshot_of_recent_samples oneDelta { mockMode := true } pool 0 1 twoMocks s ran .latency 0 0 1
  refine ⟨pool, s, loaded, ran, sampled, reported.2 ?_⟩
  rw [sampled]
  decide

end VllmRoute.Scheduler
