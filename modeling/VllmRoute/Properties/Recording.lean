import VllmRoute.Properties.Termination
import VllmRoute.Scheduler.Places

/-!
# The records of requests

The record of a task follows its place, as long as no worker updates the record
before `record_pending` has made it. `inference` makes the request visible to
the workers first and records it after, so the code does not rule that out.
-/
namespace VllmRoute.Scheduler

open Lib

/-! ### One step of the system -/

/-- What a step of the system does to the places and the records. -/
structure Advances (place : Int → Place) (s : System) (place' : Int → Place) (s' : System) :
    Prop where
  placed : Placed place' s'
  steps : ∀ task, (place task).Step (place' task)
  records : ∀ record ∈ s'.shared.records, (place record.taskId).status = none ∨
    ∃ old ∈ s.shared.records, old.taskId = record.taskId

theorem exec_quiet {choice : Choice} {s s' : Shared} {o : Op} {r : o.Resp}
    (quiet : o.quiet = true) (executed : exec choice s o = some (r, s')) :
    s'.records = s.records ∧ s'.drain.queue = s.drain.queue ∧
      s'.taskIdCounter = s.taskIdCounter := by
  cases o with
  | popNextRequest | updateRecord | enqueue | recordPending => cases quiet
  | selectEndpoint req =>
    obtain ⟨d, rfl⟩ := exec_selectEndpoint executed
    exact ⟨rfl, rfl, rfl⟩
  | updateEndpointResult attempt ok latencyMs =>
    obtain ⟨_, d, _, rfl⟩ := exec_updateEndpointResult executed
    exact ⟨rfl, rfl, rfl⟩
  | _ =>
    cases executed
    exact ⟨rfl, rfl, rfl⟩

/-- The updates of a worker are those of its terminal `update_record`s. -/
theorem mem_updates_logOp {o : Op} {r : o.Resp} {log : WorkerLog} {update : Int × RequestStatus}
    (member : update ∈ (logOp o r log).updates) :
    update ∈ log.updates ∨ ∃ req status message, o = .updateRecord req status message ∧
      status.terminal = true ∧ update = (req.taskId, status) := by
  obtain ⟨tallies, drained⟩ := log
  cases o with
  | popNextRequest =>
    cases r with
    | none => exact Or.inl member
    | some req =>
      left
      simpa [logOp, WorkerLog.updates] using member
  | updateRecord req status message =>
    cases tallies with
    | nil => cases member
    | cons t done =>
      cases terminal : status.terminal with
      | false =>
        left
        simpa [logOp, noteCurrent, Tally.note, terminal] using member
      | true =>
        simp only [logOp, noteCurrent, Tally.note, terminal, if_true, WorkerLog.updates,
          List.flatMap_cons, List.mem_append, List.mem_singleton] at member ⊢
        rcases member with (old | rfl) | old
        · exact Or.inl (Or.inl old)
        · exact Or.inr ⟨req, status, message, rfl, terminal, rfl⟩
        · exact Or.inl (Or.inr old)
  | loadStopping | selectEndpoint =>
    cases tallies <;> cases r <;> exact Or.inl member
  | _ =>
    cases tallies <;> exact Or.inl member

section Steps

variable {place : Int → Place} {s : System}

theorem Placed.aside (placed : Placed place s) (s' : System)
    (records : s'.shared.records = s.shared.records)
    (queue : s'.shared.drain.queue = s.shared.drain.queue)
    (counter : s'.shared.taskIdCounter = s.shared.taskIdCounter) (calls : s'.calls = s.calls)
    (workers : s'.workers = s.workers) : Advances place s place s' := by
  refine ⟨⟨placed.ledger.frame records queue counter, ?_, ?_, ?_⟩, fun task => .stays _, ?_⟩
  · rw [calls]
    exact placed.calls
  · rw [calls]
    exact placed.owing
  · rw [workers]
    exact placed.workers
  · rw [records]
    exact fun record member => Or.inr ⟨record, member, rfl⟩

theorem Placed.arrive (placed : Placed place s) (s' : System) (req : InferenceRequest)
    (own : req.taskId = s.shared.taskIdCounter + 1)
    (records : s'.shared.records = s.shared.records)
    (queue : s'.shared.drain.queue = s.shared.drain.queue)
    (counter : s'.shared.taskIdCounter = s.shared.taskIdCounter + 1)
    (calls : s'.calls = s.calls ++ [⟨inference req, ()⟩]) (workers : s'.workers = s.workers) :
    Advances place s (Function.update place (s.shared.taskIdCounter + 1)
      (.called s.calls.length)) s' := by
  -- the next id is new, so no thread knows of it
  have unborn : place (s.shared.taskIdCounter + 1) = .unborn := placed.ledger.born _ (by omega)
  refine ⟨⟨placed.ledger.arrive _ records queue counter, fun i c found => ?_,
    fun i task owes => ?_, fun j w found => ?_⟩, Place.step_update (unborn ▸ .born _),
    fun record member => Or.inr ⟨record, records ▸ member, rfl⟩⟩
  · rw [calls] at found
    by_cases old : i < s.calls.length
    · rw [List.getElem?_append_left old] at found
      exact (placed.calls i c found).update (by simp [unborn, Place.call])
    · rw [List.getElem?_append_right (by omega)] at found
      obtain ⟨here, rfl⟩ : i - s.calls.length = 0 ∧ ⟨inference req, ()⟩ = c := by
        simpa [List.getElem?_singleton] using found
      obtain rfl : i = s.calls.length := by omega
      refine ⟨.fresh req.taskId, inference_calling req, ?_⟩
      rw [own]
      exact Function.update_self _ _ _
  · have different : task ≠ s.shared.taskIdCounter + 1 := by
      rintro rfl
      rw [Function.update_self] at owes
      cases owes
    rw [Function.update_of_ne different] at owes
    obtain ⟨c, found, calling⟩ := placed.owing i task owes
    rw [calls, List.getElem?_append_left (List.getElem?_eq_some_iff.mp found).1]
    exact ⟨c, found, calling⟩
  · rw [workers] at found
    exact (placed.workers j w found).update (by simp [unborn, Place.worker]) (by simp [unborn])

/-! A step of the call `i`, which leaves `c'` of its rest `c`. -/

variable {i : Nat} {c c' : Call} {shared : Shared}

/-- The call moves no task. -/
theorem Placed.call_stays (placed : Placed place s) (found : s.calls[i]? = some c)
    (callAt : CallAt place i c')
    (owing : ∀ task, Calling c.prog (.accepted task) → Calling c'.prog (.accepted task))
    (records : shared.records = s.shared.records)
    (queue : shared.drain.queue = s.shared.drain.queue)
    (counter : shared.taskIdCounter = s.shared.taskIdCounter) :
    Advances place s place { s with shared := shared, calls := s.calls.set i c' } := by
  have inside := (List.getElem?_eq_some_iff.mp found).1
  refine ⟨⟨placed.ledger.frame records queue counter,
    forall_getElem?_set placed.calls callAt fun _ _ _ at_ => at_, fun k task owes => ?_,
    placed.workers⟩, fun task => .stays _,
    fun record member => Or.inr ⟨record, records ▸ member, rfl⟩⟩
  obtain ⟨other, at_, calling⟩ := placed.owing k task owes
  by_cases mine : k = i
  · subst mine
    cases found.symm.trans at_
    exact ⟨c', by simp [inside], owing task calling⟩
  · exact ⟨other, by rwa [List.getElem?_set_ne (Ne.symm mine)], calling⟩

/-- The call moves one of its tasks. -/
theorem Placed.call_moves (placed : Placed place s) (found : s.calls[i]? = some c) {task : Int}
    {p : Place} (step : (place task).Step p) (mine : (place task).call = some i)
    (owes : ∀ k ≠ i, p.owes ≠ some k) (ledger : Ledger (Function.update place task p) shared)
    (callAt : CallAt (Function.update place task p) i c')
    (owing : ∀ other, (Function.update place task p other).owes = some i →
      Calling c'.prog (.accepted other))
    (workers : ∀ j w, WorkerAt place j w → WorkerAt (Function.update place task p) j w)
    (records : ∀ record ∈ shared.records, (place record.taskId).status = none ∨
      ∃ old ∈ s.shared.records, old.taskId = record.taskId) :
    Advances place s (Function.update place task p)
      { s with shared := shared, calls := s.calls.set i c' } := by
  have inside := (List.getElem?_eq_some_iff.mp found).1
  refine ⟨⟨ledger, ?_, fun k other owed => ?_, fun j w at_ => workers j w (placed.workers j w at_)⟩,
    Place.step_update step, records⟩
  · refine forall_getElem?_set placed.calls callAt fun k x different at_ => at_.update ?_
    rw [mine]
    exact fun same => different (Option.some.inj same).symm
  · by_cases own : k = i
    · subst own
      exact ⟨c', by simp [inside], owing other owed⟩
    · have different : other ≠ task := by
        rintro rfl
        rw [Function.update_self] at owed
        exact owes k own owed
      rw [Function.update_of_ne different] at owed
      obtain ⟨x, at_, calling⟩ := placed.owing k other owed
      exact ⟨x, by rwa [List.getElem?_set_ne (Ne.symm own)], calling⟩

variable {choice : Choice} {req : InferenceRequest}

theorem exec_enqueue {s s' : Shared} {r : (Op.enqueue req).Resp}
    (executed : exec choice s (.enqueue req) = some (r, s')) :
    s'.records = s.records ∧ s'.taskIdCounter = s.taskIdCounter ∧
      ((r = none ∧
          s'.drain.queue = { s.drain.queue with pending := s.drain.queue.pending ++ [req] }) ∨
        ((∃ error, r = some error) ∧ s'.drain.queue = s.drain.queue)) := by
  cases refused : rejection choice.limits s.drain.queue req with
  | some error =>
    simp only [exec, Drain.step, Scheduler.enqueue, refused, Option.map_some] at executed
    cases executed
    exact ⟨rfl, rfl, Or.inr ⟨⟨error, rfl⟩, rfl⟩⟩
  | none =>
    simp only [exec, Drain.step, Scheduler.enqueue, refused, Option.map_some] at executed
    cases executed
    exact ⟨rfl, rfl, Or.inl ⟨rfl, rfl⟩⟩

theorem Placed.enqueue {r : (Op.enqueue req).Resp} {k : (Op.enqueue req).Resp → Code Bool}
    (placed : Placed place s) (found : s.calls[i]? = some c)
    (prog : c.prog = .op (.enqueue req) k)
    (executed : exec choice s.shared (.enqueue req) = some (r, shared)) :
    ∃ place', Advances place s place'
      { s with shared := shared, calls := s.calls.set i ⟨k r, ()⟩ } := by
  obtain ⟨stage, calling, at_⟩ := placed.calls i c found
  rw [prog] at calling
  have rest := calling.2 r
  -- a call that is about to enqueue owes no record
  have accepted (task : Int) : ¬ Calling c.prog (.accepted task) := by
    intro owing
    rw [prog] at owing
    exact Calling.sound (owing.2 (none : Option (Int × String))) rfl
  obtain ⟨records, counter, ⟨rfl, queue⟩ | ⟨⟨error, rfl⟩, queue⟩⟩ := exec_enqueue executed
  · cases stage with
    -- accepted: the task waits in the queue, and its call owes the record
    | fresh task =>
      obtain rfl : req.taskId = task := by
        by_contra foreign
        exact Calling.sound rest (if_neg foreign)
      have here : place req.taskId = .called i := at_
      have owing : Calling (k none) (.accepted req.taskId) := by
        have next : Stage.next (.enqueue req) none (.fresh req.taskId) = .accepted req.taskId :=
          if_pos rfl
        exact next ▸ rest
      refine ⟨_, placed.call_moves found (p := .owed i) (here ▸ .admitted i) (by rw [here]; rfl) ?_
        (placed.ledger.enqueue here records counter queue) ?_ ?_ ?_ ?_⟩
      · exact fun other different same => different (Option.some.inj same).symm
      · exact ⟨.accepted req.taskId, owing, by simp [Stage.At, Place.owes]⟩
      · intro other owes
        by_cases same : other = req.taskId
        · exact same ▸ owing
        · rw [Function.update_of_ne same] at owes
          obtain ⟨x, at_, calling⟩ := placed.owing i other owes
          cases found.symm.trans at_
          exact absurd calling (accepted other)
      · exact fun j w workerAt => workerAt.update (by simp [here, Place.worker]) (by simp [here])
      · exact fun record member => Or.inr ⟨record, records ▸ member, rfl⟩
    | _ => exact absurd rfl (Calling.sound rest)
  · cases stage with
    -- refused: the call only answers the client
    | fresh task =>
      exact ⟨place, placed.call_stays found ⟨.finished, rest, trivial⟩
        (fun task owing => absurd owing (accepted task)) records queue counter⟩
    | _ => exact absurd rfl (Calling.sound rest)

/-- A task that is recorded while a worker has it. -/
theorem WorkerAt.recorded {task : Int} {j j' : Nat} {w : Worker} (workerAt : WorkerAt place j' w)
    (here : place task = .taken i j) : WorkerAt (Function.update place task (.popped j)) j' w := by
  obtain ⟨⟨phase, turn, at_⟩, ended⟩ := workerAt
  refine ⟨⟨phase, turn, ?_⟩, fun update member => ?_⟩
  · cases phase with
    | popped other =>
      by_cases same : other = task
      · subst same
        -- the phase allows the task to be recorded meanwhile
        left
        rcases at_ with at_ | ⟨call, at_⟩
        · cases here.symm.trans at_
        · cases here.symm.trans at_
          exact Function.update_self _ _ _
      · simpa only [Phase.At, Function.update_of_ne same] using at_
    | running other =>
      have different : other ≠ task := by
        rintro rfl
        cases here.symm.trans at_
      simpa only [Phase.At, Function.update_of_ne different] using at_
    | idle => trivial
    | finished => trivial
    | broken => trivial
  · have different : update.1 ≠ task := by
      rintro rfl
      cases here.symm.trans (ended update member).2
    rw [Function.update_of_ne different]
    exact ended update member

theorem Placed.recordPending {r : (Op.recordPending req).Resp}
    {k : (Op.recordPending req).Resp → Code Bool} (placed : Placed place s)
    (found : s.calls[i]? = some c) (prog : c.prog = .op (.recordPending req) k)
    (executed : exec choice s.shared (.recordPending req) = some (r, shared)) :
    ∃ place', Advances place s place'
      { s with shared := shared, calls := s.calls.set i ⟨k r, ()⟩ } := by
  obtain ⟨stage, calling, at_⟩ := placed.calls i c found
  rw [prog] at calling
  have rest := calling.2 r
  obtain ⟨records, queue, counter⟩ : shared.records = Scheduler.recordPending
      s.shared.dispatcher.pool.cfg.maxTaskRecords req s.shared.records ∧
      shared.drain.queue = s.shared.drain.queue ∧
      shared.taskIdCounter = s.shared.taskIdCounter := by
    cases executed
    exact ⟨rfl, rfl, rfl⟩
  cases stage with
  | accepted task =>
    obtain rfl : req.taskId = task := by
      by_contra foreign
      exact Calling.sound rest (if_neg foreign)
    have finished : Calling (k ()) .finished := by
      have next : Stage.next (.recordPending req) () (.accepted req.taskId) = .finished :=
        if_pos rfl
      exact next ▸ rest
    -- a call owes one task at most
    have only (other : Int) (owes : (place other).owes = some i) : other = req.taskId := by
      obtain ⟨x, at_, owing⟩ := placed.owing i other owes
      cases found.symm.trans at_
      rw [prog] at owing
      by_contra foreign
      exact Calling.sound (owing.2 ()) (if_neg (Ne.symm foreign))
    -- the two cases differ in where the task goes, and in nothing else
    have advance (p : Place) (step : (place req.taskId).Step p) (none : p.owes = none)
        (here : ∃ i, place req.taskId = .owed i ∧ p = .queued ∨
          ∃ j, place req.taskId = .taken i j ∧ p = .popped j)
        (workers : ∀ j w, WorkerAt place j w →
          WorkerAt (Function.update place req.taskId p) j w) :
        Advances place s (Function.update place req.taskId p)
          { s with shared := shared, calls := s.calls.set i ⟨k r, ()⟩ } := by
      refine placed.call_moves found step (Place.call_of_owes at_) (by simp [none])
        (placed.ledger.recordPending here records counter queue) ⟨.finished, finished, trivial⟩ ?_
        workers ?_
      · intro other owes
        by_cases same : other = req.taskId
        · rw [same, Function.update_self, none] at owes
          cases owes
        · rw [Function.update_of_ne same] at owes
          exact absurd (only other owes) same
      · rw [records]
        intro record member
        rcases mem_recordPending member with old | ⟨own, _⟩
        · exact Or.inr ⟨record, old, rfl⟩
        · left
          rw [own]
          obtain ⟨i, ⟨here, _⟩ | ⟨j, here, _⟩⟩ := here <;> rw [here] <;> rfl
    -- a worker may have taken the task already
    cases here : place req.taskId with
    | owed call =>
      refine ⟨_, advance .queued (here ▸ .recorded call) rfl ⟨call, Or.inl ⟨here, rfl⟩⟩ ?_⟩
      exact fun j w workerAt => workerAt.update (by simp [here, Place.worker]) (by simp [here])
    | taken call j =>
      refine ⟨_, advance (.popped j) (here ▸ .recordedLate call j) rfl
        ⟨call, Or.inr ⟨j, here, rfl⟩⟩ ?_⟩
      exact fun j' w workerAt => workerAt.recorded here
    | _ =>
      rw [Stage.At, here] at at_
      cases at_
  | _ => exact absurd rfl (Calling.sound rest)

theorem Placed.call {o : Op} {r : o.Resp} {k : o.Resp → Code Bool} (placed : Placed place s)
    (found : s.calls[i]? = some c) (prog : c.prog = .op o k)
    (executed : exec choice s.shared o = some (r, shared)) :
    ∃ place', Advances place s place'
      { s with shared := shared, calls := s.calls.set i ⟨k r, ()⟩ } := by
  cases o with
  | enqueue req => exact placed.enqueue found prog executed
  | recordPending req => exact placed.recordPending found prog executed
  | popNextRequest | updateRecord =>
    -- no call makes these
    obtain ⟨stage, calling, _⟩ := placed.calls i c found
    rw [prog] at calling
    exact absurd rfl (Calling.sound (calling.2 r))
  | _ =>
    obtain ⟨records, queue, counter⟩ := exec_quiet rfl executed
    obtain ⟨stage, calling, at_⟩ := placed.calls i c found
    rw [prog] at calling
    refine ⟨place, placed.call_stays found ⟨stage, calling.2 r, at_⟩ (fun task owing => ?_)
      records queue counter⟩
    rw [prog] at owing
    exact owing.2 r

/-! A step of the worker `j`, which leaves `w'` of its rest `w`. -/

variable {j : Nat} {w w' : Worker}

/-- The worker moves no task. -/
theorem Placed.work_stays (placed : Placed place s) (own : WorkerAt place j w')
    (records : shared.records = s.shared.records)
    (queue : shared.drain.queue = s.shared.drain.queue)
    (counter : shared.taskIdCounter = s.shared.taskIdCounter) :
    Advances place s place { s with shared := shared, workers := s.workers.set j w' } :=
  ⟨⟨placed.ledger.frame records queue counter, placed.calls, placed.owing,
    forall_getElem?_set placed.workers own fun _ _ _ at_ => at_⟩, fun _ => .stays _,
    fun record member => Or.inr ⟨record, records ▸ member, rfl⟩⟩

/-- The worker moves one task, which no other worker has. -/
theorem Placed.work_moves (placed : Placed place s) {task : Int} {p : Place}
    (step : (place task).Step p) (owes : p.owes = (place task).owes)
    (mine : ∀ other ≠ j, (place task).worker ≠ some other)
    (open_ : ∀ status, place task ≠ .finished status)
    (ledger : Ledger (Function.update place task p) shared)
    (own : WorkerAt (Function.update place task p) j w')
    (calls : ∀ i c, CallAt place i c → CallAt (Function.update place task p) i c)
    (records : ∀ record ∈ shared.records,
      ∃ old ∈ s.shared.records, old.taskId = record.taskId) :
    Advances place s (Function.update place task p)
      { s with shared := shared, workers := s.workers.set j w' } := by
  refine ⟨⟨ledger, fun i c found => calls i c (placed.calls i c found), fun i other owed => ?_, ?_⟩,
    Place.step_update step, fun record member => Or.inr (records record member)⟩
  -- what is owed does not depend on which worker has the task
  · refine placed.owing i other ?_
    by_cases same : other = task
    · rw [same, Function.update_self, owes] at owed
      rwa [same]
    · rwa [Function.update_of_ne same] at owed
  · exact forall_getElem?_set placed.workers own fun k x different at_ =>
      at_.update (mine k different) open_

/-- A task that a worker takes before it is recorded. -/
theorem CallAt.taken {task : Int} {i' : Nat} (callAt : CallAt place i' c)
    (here : place task = .owed i) : CallAt (Function.update place task (.taken i j)) i' c := by
  obtain ⟨stage, calling, at_⟩ := callAt
  refine ⟨stage, calling, ?_⟩
  cases stage with
  | fresh other =>
    have different : other ≠ task := by
      rintro rfl
      cases here.symm.trans at_
    simpa only [Stage.At, Function.update_of_ne different] using at_
  | accepted other =>
    by_cases same : other = task
    · subst same
      rw [Stage.At, here] at at_
      rw [Stage.At, Function.update_self]
      exact at_
    · simpa only [Stage.At, Function.update_of_ne same] using at_
  | finished => trivial
  | broken => trivial

/-- What an operation leaves of the worker's own updates. -/
theorem WorkerAt.ended_logOp {o : Op} {r : o.Resp} (workerAt : WorkerAt place j w)
    (quiet : ∀ req status message, o ≠ .updateRecord req status message) :
    ∀ update ∈ (logOp o r w.log).updates,
      update.2.terminal = true ∧ place update.1 = .finished update.2 := by
  intro update member
  rcases mem_updates_logOp member with old | ⟨req, status, message, same, _⟩
  · exact workerAt.ended update old
  · exact absurd same (quiet req status message)

theorem exec_pop {s s' : Shared} {r : Op.popNextRequest.Resp}
    (executed : exec choice s .popNextRequest = some (r, s')) :
    s'.records = s.records ∧ s'.taskIdCounter = s.taskIdCounter ∧
      ((r = none ∧ s'.drain.queue = s.drain.queue) ∨ ∃ req highPriorityThreshold queue,
        r = some req ∧ s'.drain.queue = queue ∧
        popNextRequest highPriorityThreshold s.drain.queue = some (req, queue)) := by
  rcases exec_popNextRequest executed with
    ⟨req, queue, rfl, popped, _, rfl⟩ | ⟨_, rfl, rfl, _⟩
  · exact ⟨rfl, rfl, Or.inr ⟨req, _, queue, rfl, rfl, popped⟩⟩
  · exact ⟨rfl, rfl, Or.inl ⟨rfl, rfl⟩⟩

theorem Placed.pop {r : Op.popNextRequest.Resp} {k : Op.popNextRequest.Resp → Code Point}
    (placed : Placed place s) (found : s.workers[j]? = some w)
    (prog : w.prog = .op .popNextRequest k)
    (executed : exec choice s.shared .popNextRequest = some (r, shared)) :
    ∃ place', Advances place s place' { s with
      shared := shared, workers := s.workers.set j ⟨k r, logOp .popNextRequest r w.log⟩ } := by
  have workerAt := placed.workers j w found
  obtain ⟨phase, turn, at_⟩ := workerAt.turn
  rw [prog] at turn
  have rest := turn.2 r
  have ended := workerAt.ended_logOp (o := .popNextRequest) (r := r) (by simp)
  obtain ⟨records, counter, ⟨rfl, queue⟩ | ⟨req, threshold, queue, rfl, taken, popped⟩⟩ :=
    exec_pop executed
  · exact ⟨place, placed.work_stays ⟨⟨phase, rest, at_⟩, ended⟩ records queue counter⟩
  · have member : req ∈ s.shared.drain.queue.pending :=
      (popNextRequest_perm _ _ _ _ placed.ledger.slot popped).1.mem_iff.mp List.mem_cons_self
    have advance (p : Place) (step : (place req.taskId).Step p)
        (owes : p.owes = (place req.taskId).owes) (idle : (place req.taskId).worker = none)
        (here : place req.taskId = .queued ∧ p = .popped j ∨
          ∃ i, place req.taskId = .owed i ∧ p = .taken i j)
        (calls : ∀ i c, CallAt place i c → CallAt (Function.update place req.taskId p) i c) :
        Advances place s (Function.update place req.taskId p) { s with
          shared := shared
          workers := s.workers.set j ⟨k (some req), logOp .popNextRequest (some req) w.log⟩ } := by
      have open_ (status : RequestStatus) : place req.taskId ≠ .finished status := by
        rcases here with ⟨here, _⟩ | ⟨i, here, _⟩ <;> simp [here]
      refine placed.work_moves step owes (by simp [idle]) open_
        (placed.ledger.pop popped here records counter taken) ⟨⟨.popped req.taskId, rest, ?_⟩, ?_⟩
        calls fun record old => ⟨record, records ▸ old, rfl⟩
      · rw [Phase.At, Function.update_self]
        rcases here with ⟨_, rfl⟩ | ⟨i, _, rfl⟩
        · exact Or.inl rfl
        · exact Or.inr ⟨i, rfl⟩
      · intro update old
        obtain ⟨terminal, finished⟩ := ended update old
        rw [Function.update_of_ne fun same => open_ _ (same ▸ finished)]
        exact ⟨terminal, finished⟩
    -- the request may come out of the queue before its call has recorded it
    rcases placed.ledger.waiting req member with here | ⟨i, here⟩
    · refine ⟨_, advance (.popped j) (here ▸ .taken j) (by rw [here]; rfl) (by rw [here]; rfl)
        (Or.inl ⟨here, rfl⟩) fun i c callAt => callAt.update (by simp [here, Place.call])⟩
    · refine ⟨_, advance (.taken i j) (here ▸ .takenEarly i j) (by rw [here]; rfl)
        (by rw [here]; rfl) (Or.inr ⟨i, here, rfl⟩) fun i' c callAt => callAt.taken here⟩

/-- The calls are past their `record_pending` of the task that the worker is about to update
the record of. -/
def UpdatesRecorded (s : System) : SystemEvent → Prop
  | .work j _ => ∀ w req status message k, s.workers[j]? = some w →
      w.prog = .op (.updateRecord req status message) k →
      ∀ c ∈ s.calls, Call.past c.prog req.taskId
  | _ => True

theorem Placed.updateRecord {status : RequestStatus} {message : Bytes}
    {r : (Op.updateRecord req status message).Resp}
    {k : (Op.updateRecord req status message).Resp → Code Point}
    (placed : Placed place s) (found : s.workers[j]? = some w)
    (prog : w.prog = .op (.updateRecord req status message) k)
    (recorded : ∀ c ∈ s.calls, Call.past c.prog req.taskId)
    (executed : exec choice s.shared (.updateRecord req status message) = some (r, shared)) :
    ∃ place', Advances place s place' { s with
      shared := shared
      workers := s.workers.set j ⟨k r, logOp (.updateRecord req status message) r w.log⟩ } := by
  have workerAt := placed.workers j w found
  obtain ⟨phase, turn, at_⟩ := workerAt.turn
  rw [prog] at turn
  have rest := turn.2 r
  obtain ⟨records, queue, counter⟩ : shared.records = Scheduler.updateRecord req status message
      s.shared.records ∧ shared.drain.queue = s.shared.drain.queue ∧
      shared.taskIdCounter = s.shared.taskIdCounter := by
    cases executed
    exact ⟨rfl, rfl, rfl⟩
  have advance (p : Place) (step : (place req.taskId).Step p) (free : p.owes = none)
      (written : p.status = some status)
      (here : place req.taskId = .popped j ∨ place req.taskId = .running j)
      (phase' : (phase.next (.updateRecord req status message) r).At
        (Function.update place req.taskId p) j)
      (terminal : status.terminal = true → p = .finished status) :
      Advances place s (Function.update place req.taskId p) { s with
        shared := shared
        workers := s.workers.set j ⟨k r, logOp (.updateRecord req status message) r w.log⟩ } := by
    have open_ (other : RequestStatus) : place req.taskId ≠ .finished other := by
      rcases here with here | here <;> simp [here]
    have mine : (place req.taskId).worker = some j := by
      rcases here with here | here <;> rw [here] <;> rfl
    have called : (place req.taskId).call = none := by
      rcases here with here | here <;> rw [here] <;> rfl
    have owes : (place req.taskId).owes = none := by
      rcases here with here | here <;> rw [here] <;> rfl
    refine placed.work_moves step (free.trans owes.symm) ?_ open_
      (placed.ledger.updateRecord here written records counter queue)
      ⟨⟨_, rest, phase'⟩, fun update member => ?_⟩
      (fun i c callAt => callAt.update (by simp [called])) fun record member => ?_
    · intro other different
      rw [mine]
      exact fun same => different (Option.some.inj same).symm
    · rcases mem_updates_logOp member with old | ⟨req', status', message', same, ended, rfl⟩
      · obtain ⟨terminal, finished⟩ := workerAt.ended update old
        rw [Function.update_of_ne fun same => open_ _ (same ▸ finished)]
        exact ⟨terminal, finished⟩
      · cases same
        rw [Function.update_self]
        exact ⟨ended, terminal ended⟩
    · have ids : record.taskId ∈ s.shared.records.map RequestRecord.taskId := by
        rw [← updateRecord_taskIds, ← records]
        exact List.mem_map_of_mem member
      exact List.mem_map.mp ids
  -- a worker writes `Running` first and a terminal status after that
  rcases Phase.next_updateRecord (InTurn.sound rest) with
    ⟨rfl, rfl, next⟩ | ⟨rfl, terminal, next⟩
  · rcases at_ with here | ⟨call, here⟩
    · refine ⟨_, advance (.running j) (here ▸ .started j) rfl rfl (Or.inl here) ?_
        (fun terminal => by cases terminal)⟩
      rw [next]
      exact Function.update_self _ _ _
    · -- the call still owes the record
      obtain ⟨c, called, owing⟩ := placed.owing call req.taskId (by rw [here]; rfl)
      exact absurd (recorded c (List.mem_of_getElem? called)) owing.not_past
  · have here : place req.taskId = .running j := at_
    refine ⟨_, advance (.finished status) (here ▸ .ended j status terminal) rfl rfl (Or.inr here) ?_
      (fun _ => rfl)⟩
    rw [next]
    trivial

theorem Placed.work {codec : Codec} {cfg : TaskConfig} (placed : Placed place s)
    (found : s.workers[j]? = some w)
    (moved : w.step (worker codec cfg) logOp (exec choice) s.shared = some (w', shared))
    (recorded : UpdatesRecorded s (.work j choice)) :
    ∃ place', Advances place s place'
      { s with shared := shared, workers := s.workers.set j w' } := by
  have workerAt := placed.workers j w found
  rcases Thread.step_cases moved with ⟨point, code, prog, entered, rfl, rfl⟩ |
    ⟨o, k, r, prog, executed, rfl⟩
  · obtain ⟨phase, turn, at_⟩ := workerAt.turn
    rw [prog] at turn
    exact ⟨place, placed.work_stays
      ⟨⟨phase, worker_inTurn codec cfg point code phase entered turn, at_⟩, workerAt.ended⟩
      rfl rfl rfl⟩
  · cases o with
    | popNextRequest => exact placed.pop found prog executed
    | updateRecord req status message =>
      exact placed.updateRecord found prog (recorded w req status message k found prog) executed
    | enqueue | recordPending =>
      -- no worker makes these
      obtain ⟨phase, turn, _⟩ := workerAt.turn
      rw [prog] at turn
      exact absurd rfl (InTurn.sound (turn.2 r))
    | _ =>
      obtain ⟨records, queue, counter⟩ := exec_quiet rfl executed
      obtain ⟨phase, turn, at_⟩ := workerAt.turn
      rw [prog] at turn
      exact ⟨place, placed.work_stays ⟨⟨phase, turn.2 r, at_⟩, workerAt.ended_logOp (by simp)⟩
        records queue counter⟩

end Steps

/-- What one step of the system preserves. -/
theorem Placed.step {codec : Codec} {cfg : TaskConfig} {place : Int → Place} {s s' : System}
    {e : SystemEvent} (placed : Placed place s) (taken : s.step codec cfg e = some s')
    (recorded : UpdatesRecorded s e) : ∃ place', Advances place s place' s' := by
  have live := System.stepLive_of_step taken
  cases e with
  | arrive req =>
    cases live
    exact ⟨_, placed.arrive _ _ rfl rfl rfl rfl rfl rfl⟩
  | call i choice =>
    obtain ⟨c, o, k, r, shared, found, prog, executed, rfl⟩ := System.stepLive_call live
    exact placed.call found prog executed
  | work j choice =>
    obtain ⟨w, w', shared, found, moved, rfl⟩ := System.stepLive_work live
    exact placed.work found moved recorded
  | stop =>
    cases live
    exact ⟨place, placed.aside _ rfl rfl rfl rfl rfl⟩
  | health | reload | advance =>
    simp only [System.stepLive, Option.map_eq_some_iff] at live
    obtain ⟨d, _, rfl⟩ := live
    exact ⟨place, placed.aside _ rfl rfl rfl rfl rfl⟩

/-! ### Runs -/

theorem start_placed (pool : Pool) (nowMs : Int) (n : Nat) :
    Placed (fun _ => .unborn) (System.start pool nowMs n) := by
  have slot : 0 < kScheduleSize := by decide
  refine ⟨⟨fun _ _ => rfl, by simp [System.start], List.nodup_nil, slot, List.nodup_nil,
    by simp [System.start]⟩, by simp [System.start], by simp [Place.owes], fun j w found => ?_⟩
  obtain ⟨_, rfl⟩ := List.mem_replicate.mp (List.mem_of_getElem? found)
  exact ⟨⟨.idle, Phase.noConfusion, trivial⟩, by simp [WorkerLog.updates]⟩

/-- In a run where no worker updates a record that is still to be made: a record is made as
pending, moves on to running and from there to a terminal status, and has the
terminal status of its task once a worker has written it. -/
theorem records_follow_requests (codec : Codec) (cfg : TaskConfig) (pool : Pool) (nowMs : Int)
    (n : Nat) (events : List SystemEvent) (s : System)
    (ran : run (System.step codec cfg) (System.start pool nowMs n) events = some s)
    (recorded : Along (System.step codec cfg) (fun s e _ => UpdatesRecorded s e)
      (System.start pool nowMs n) events) :
    (∀ e s', s.step codec cfg e = some s' → UpdatesRecorded s e →
      ∀ new ∈ s'.shared.records,
        (∀ old ∈ s.shared.records, old.taskId = new.taskId → old.status.Moves new.status) ∧
        ((∀ old ∈ s.shared.records, old.taskId ≠ new.taskId) → new.status = .pending)) ∧
    ∀ t ∈ s.tallies, ∀ update ∈ t.statuses, update.2.terminal = true ∧
      ∀ record ∈ s.shared.records, record.taskId = update.1 → record.status = update.2 := by
  -- the invariant is that there are places, which each step moves on
  obtain ⟨place, placed⟩ : ∃ place, Placed place s := by
    refine run_invariant_along (System.step codec cfg) _ (fun s => ∃ place, Placed place s) ?_
      (System.start pool nowMs n) s events ran recorded ⟨_, start_placed pool nowMs n⟩
    rintro s e s' taken here ⟨place, placed⟩
    obtain ⟨place', advances⟩ := placed.step taken here
    exact ⟨place', advances.placed⟩
  refine ⟨fun e s' taken here new member => ?_, fun t member update written => ?_⟩
  · obtain ⟨place', advances⟩ := placed.step taken here
    have after := advances.placed.ledger.records new member
    refine ⟨fun old among same => ?_, fun absent => ?_⟩
    · have before := placed.ledger.records old among
      rw [same] at before
      exact (advances.steps new.taskId).moves before after
    · rcases advances.records new member with fresh | ⟨old, among, same⟩
      · exact (advances.steps new.taskId).pending_of_new fresh after
      · exact absurd same (absent old among)
  · obtain ⟨w, among, own⟩ := List.mem_flatMap.mp member
    obtain ⟨j, found⟩ := List.mem_iff_getElem?.mp among
    obtain ⟨terminal, finished⟩ := (placed.workers j w found).ended update
      (List.mem_flatMap.mpr ⟨t, own, written⟩)
    refine ⟨terminal, fun record listed same => ?_⟩
    have status := placed.ledger.records record listed
    rw [same, finished] at status
    exact (Option.some.inj status).symm

/-- Once the calls have returned, workers may go on as they like. -/
theorem along_works (codec : Codec) (cfg : TaskConfig) (j : Nat) (choice : Choice) (k : Nat)
    (s : System) (returned : ∀ c ∈ s.calls, c.prog = .pure false) :
    Along (System.step codec cfg) (fun s e _ => UpdatesRecorded s e) s
      (List.replicate k (.work j choice)) := by
  -- a step of a worker leaves the calls alone
  induction k generalizing s with
  | zero => trivial
  | succ k ih =>
    intro s' taken
    refine ⟨fun w req status message rest _ _ c member => ?_, ih s' ?_⟩
    · rw [returned c member]
      trivial
    · obtain ⟨w, w', shared, _, _, rfl⟩ := System.stepLive_work (System.stepLive_of_step taken)
      exact returned

/-- A request that is recorded before a worker takes it ends with a successful record. -/
theorem records_follow_requests_mock : ∃ pool s, loadModel {} oneBackend = .ok pool ∧
    run (System.step oneDelta { mockMode := true }) (System.start pool 0 1)
      (oneArrival ++ List.replicate 10 (.work 0 smooth)) = some s ∧
    s.tallies.map Tally.statuses = [[(1, .success)]] ∧
    s.shared.records.map (fun record => (record.taskId, record.status)) = [(1, .success)] ∧
    ∀ t ∈ s.tallies, ∀ update ∈ t.statuses, update.2.terminal = true ∧
      ∀ record ∈ s.shared.records, record.taskId = update.1 → record.status = update.2 := by
  obtain ⟨pool, s₁, s, loaded, arrived, returned, worked, statuses, records⟩ : ∃ pool s₁ s,
      loadModel {} oneBackend = .ok pool ∧
      run (System.step oneDelta { mockMode := true }) (System.start pool 0 1) oneArrival = some s₁ ∧
      (∀ c ∈ s₁.calls, c.prog = .pure false) ∧
      run (System.step oneDelta { mockMode := true }) s₁ (List.replicate 10 (.work 0 smooth)) =
        some s ∧
      s.tallies.map Tally.statuses = [[(1, .success)]] ∧
      s.shared.records.map (fun record => (record.taskId, record.status)) = [(1, .success)] :=
    ⟨_, _, _, rfl, rfl, List.forall_mem_singleton.mpr rfl, rfl, rfl, rfl⟩
  have ran : run (System.step oneDelta { mockMode := true }) (System.start pool 0 1)
      (oneArrival ++ List.replicate 10 (.work 0 smooth)) = some s := by
    rw [run_append, arrived]
    exact worked
  refine ⟨pool, s, loaded, ran, statuses, records, (records_follow_requests oneDelta
    { mockMode := true } pool 0 1 _ s ran (along_append ?_ fun t reached => ?_)).2⟩
  · refine (along_of_forall _ (fun e => ∀ s, UpdatesRecorded s e) _ _ ?_).mono
      fun s e _ all => all s
    intro e member
    rcases List.mem_cons.mp member with rfl | call
    · exact fun _ => trivial
    · rw [List.eq_of_mem_replicate call]
      exact fun _ => trivial
  · cases arrived.symm.trans reached
    exact along_works _ _ _ _ _ _ returned

/-- The worker answers the request before its call of `inference` records it, and the record
stays pending. -/
theorem late_record_stays_pending : ∃ pool s, loadModel {} oneBackend = .ok pool ∧
    run (System.step oneDelta { mockMode := true }) (System.start pool 0 1)
      ([.arrive { outputUrl := lit "tcp://c" }, .call 0 smooth, .call 0 smooth] ++
        List.replicate 10 (.work 0 smooth) ++ [.call 0 smooth, .call 0 smooth]) = some s ∧
    (∀ c ∈ s.calls, c.prog = .pure false) ∧ (∀ t ∈ s.tallies, t.statuses = [(1, .success)]) ∧
    s.shared.sent.length = 3 ∧
    s.shared.records.map (fun record => (record.taskId, record.status)) = [(1, .pending)] :=
  ⟨_, _, rfl, rfl, List.forall_mem_singleton.mpr rfl, List.forall_mem_singleton.mpr rfl, rfl, rfl⟩

end VllmRoute.Scheduler
