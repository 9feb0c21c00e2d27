import Mathlib.Logic.Function.Basic
import VllmRoute.Scheduler.Lifecycle
import VllmRoute.Scheduler.System

/-!
# Where a task is

Each task is at one place: with its call of `inference`, in the queue, with a
worker, or over. A place says what the record of the task shows, and which
threads have something left to do for it. The threads, the queue and the
records of the scheduler agree on the places, and each operation on the queue
or the records moves one task.
-/
namespace VllmRoute.Scheduler

open Lib

/-- Where a task is. A worker can take a task that its call has not recorded yet. -/
inductive Place where
  | unborn
  | called (call : Nat)
  | owed (call : Nat)
  | taken (call worker : Nat)
  | queued
  | popped (worker : Nat)
  | running (worker : Nat)
  | finished (status : RequestStatus)

namespace Place

/-- The status of the record, if there is one. -/
def status : Place → Option RequestStatus
  | .queued => some .pending
  | .popped _ => some .pending
  | .running _ => some .running
  | .finished status => some status
  | _ => none

/-- The call that has something left to do for the task. -/
def call : Place → Option Nat
  | .called call => some call
  | .owed call => some call
  | .taken call _ => some call
  | _ => none

/-- The worker that has something left to do for the task. -/
def worker : Place → Option Nat
  | .taken _ worker => some worker
  | .popped worker => some worker
  | .running worker => some worker
  | _ => none

/-- The call that is still to record the task. -/
def owes : Place → Option Nat
  | .owed call => some call
  | .taken call _ => some call
  | _ => none

theorem call_of_owes {p : Place} {i : Nat} (owes : p.owes = some i) : p.call = some i := by
  cases p <;> first | exact owes | cases owes

inductive Step : Place → Place → Prop where
  | stays (p : Place) : Step p p
  | born (i : Nat) : Step .unborn (.called i)
  | admitted (i : Nat) : Step (.called i) (.owed i)
  | takenEarly (i j : Nat) : Step (.owed i) (.taken i j)
  | recordedLate (i j : Nat) : Step (.taken i j) (.popped j)
  | recorded (i : Nat) : Step (.owed i) .queued
  | taken (j : Nat) : Step .queued (.popped j)
  | started (j : Nat) : Step (.popped j) (.running j)
  | ended (j : Nat) (status : RequestStatus) (terminal : status.terminal = true) :
      Step (.running j) (.finished status)

end Place

/-- How the status of a record may move in one step. -/
inductive RequestStatus.Moves : RequestStatus → RequestStatus → Prop where
  | stays (status : RequestStatus) : Moves status status
  | starts : Moves .pending .running
  | ends (status : RequestStatus) (terminal : status.terminal = true) : Moves .running status

theorem Place.Step.moves {p p' : Place} (step : p.Step p') {old new : RequestStatus}
    (before : p.status = some old) (after : p'.status = some new) : old.Moves new := by
  cases step with
  | stays =>
    cases before.symm.trans after
    exact .stays old
  -- before its record is made, the task has no status to move from
  | born | admitted | takenEarly | recordedLate | recorded => cases before
  | taken =>
    cases before
    cases after
    exact .stays .pending
  | started =>
    cases before
    cases after
    exact .starts
  | ended j status terminal =>
    cases before
    cases after
    exact .ends new terminal

/-- A record is made for a task that had none, and is then pending. -/
theorem Place.Step.pending_of_new {p p' : Place} (step : p.Step p') {new : RequestStatus}
    (before : p.status = none) (after : p'.status = some new) : new = .pending := by
  cases step with
  | stays => cases before.symm.trans after
  | born | admitted | takenEarly => cases after
  | recordedLate | recorded =>
    cases after
    rfl
  | taken | started | ended => cases before

/-! ### The threads and the shared state, by place -/

def Stage.At (place : Int → Place) (call : Nat) : Stage → Prop
  | .fresh task => place task = .called call
  | .accepted task => (place task).owes = some call
  | _ => True

def Phase.At (place : Int → Place) (worker : Nat) : Phase → Prop
  | .popped task => place task = .popped worker ∨ ∃ call, place task = .taken call worker
  | .running task => place task = .running worker
  | _ => True

def CallAt (place : Int → Place) (i : Nat) (c : Call) : Prop :=
  ∃ stage, Calling c.prog stage ∧ stage.At place i

/-- The terminal updates that a worker has made. -/
def WorkerLog.updates (log : WorkerLog) : List (Int × RequestStatus) :=
  log.tallies.flatMap Tally.statuses

structure WorkerAt (place : Int → Place) (j : Nat) (w : Worker) : Prop where
  turn : ∃ phase, InTurn PhaseHead w.prog phase ∧ phase.At place j
  ended : ∀ update ∈ w.log.updates, update.2.terminal = true ∧ place update.1 = .finished update.2

structure Ledger (place : Int → Place) (s : Shared) : Prop where
  born : ∀ task, s.taskIdCounter < task → place task = .unborn
  records : ∀ record ∈ s.records, (place record.taskId).status = some record.status
  distinct : (s.records.map RequestRecord.taskId).Nodup
  slot : s.drain.queue.scheduleSlot < kScheduleSize
  pending : (s.drain.queue.pending.map InferenceRequest.taskId).Nodup
  waiting : ∀ req ∈ s.drain.queue.pending,
    place req.taskId = .queued ∨ ∃ call, place req.taskId = .owed call

/-- The tasks of the system are at these places. -/
structure Placed (place : Int → Place) (s : System) : Prop where
  ledger : Ledger place s.shared
  calls : ∀ i c, s.calls[i]? = some c → CallAt place i c
  owing : ∀ i task, (place task).owes = some i →
    ∃ c, s.calls[i]? = some c ∧ Calling c.prog (.accepted task)
  workers : ∀ j w, s.workers[j]? = some w → WorkerAt place j w

/-! ### One task moves -/

section Move

variable {place : Int → Place} {task : Int} {p : Place}

theorem Place.step_update (step : (place task).Step p) (other : Int) :
    (place other).Step (Function.update place task p other) := by
  by_cases same : other = task
  · subst same
    rwa [Function.update_self]
  · rw [Function.update_of_ne same]
    exact .stays _

theorem CallAt.update {i : Nat} {c : Call} (callAt : CallAt place i c)
    (foreign : (place task).call ≠ some i) : CallAt (Function.update place task p) i c := by
  obtain ⟨stage, calling, at_⟩ := callAt
  refine ⟨stage, calling, ?_⟩
  cases stage with
  -- the task that moves belongs to another call
  | fresh other =>
    have different : other ≠ task := by
      rintro rfl
      exact foreign (congrArg Place.call at_)
    simpa only [Stage.At, Function.update_of_ne different] using at_
  | accepted other =>
    have different : other ≠ task := by
      rintro rfl
      exact foreign (Place.call_of_owes at_)
    simpa only [Stage.At, Function.update_of_ne different] using at_
  | finished => trivial
  | broken => trivial

theorem WorkerAt.update {j : Nat} {w : Worker} (workerAt : WorkerAt place j w)
    (foreign : (place task).worker ≠ some j) (open_ : ∀ status, place task ≠ .finished status) :
    WorkerAt (Function.update place task p) j w := by
  obtain ⟨⟨phase, turn, at_⟩, ended⟩ := workerAt
  refine ⟨⟨phase, turn, ?_⟩, fun update member => ?_⟩
  · cases phase with
    -- the task that moves belongs to another worker
    | popped other =>
      have different : other ≠ task := by
        rintro rfl
        rcases at_ with at_ | ⟨call, at_⟩ <;> exact foreign (congrArg Place.worker at_)
      simpa only [Phase.At, Function.update_of_ne different] using at_
    | running other =>
      have different : other ≠ task := by
        rintro rfl
        exact foreign (congrArg Place.worker at_)
      simpa only [Phase.At, Function.update_of_ne different] using at_
    | idle => trivial
    | finished => trivial
    | broken => trivial
  -- what the worker has finished does not move again
  · have different : update.1 ≠ task := by
      rintro rfl
      exact open_ _ (ended update member).2
    rw [Function.update_of_ne different]
    exact ended update member

variable {s s' : Shared}

theorem Ledger.frame (ledger : Ledger place s) (records : s'.records = s.records)
    (queue : s'.drain.queue = s.drain.queue) (counter : s'.taskIdCounter = s.taskIdCounter) :
    Ledger place s' := by
  obtain ⟨born, recorded, distinct, slot, pending, waiting⟩ := ledger
  refine ⟨?_, ?_, ?_, ?_, ?_, ?_⟩
  · rwa [counter]
  · rwa [records]
  · rwa [records]
  · rwa [queue]
  · rwa [queue]
  · rwa [queue]

/-- A move that the records and the queue agree with. -/
theorem Ledger.move (ledger : Ledger place s) (alive : place task ≠ .unborn)
    (recorded : ∀ record ∈ s.records, record.taskId = task → p.status = some record.status)
    (queued : ∀ req ∈ s.drain.queue.pending, req.taskId = task →
      p = .queued ∨ ∃ call, p = .owed call) :
    Ledger (Function.update place task p) s := by
  refine ⟨fun other late => ?_, fun record member => ?_, ledger.distinct, ledger.slot,
    ledger.pending, fun req member => ?_⟩
  · have unborn := ledger.born other late
    have different : other ≠ task := by
      rintro rfl
      exact alive unborn
    rwa [Function.update_of_ne different]
  · by_cases same : record.taskId = task
    · rw [same, Function.update_self]
      exact recorded record member same
    · rw [Function.update_of_ne same]
      exact ledger.records record member
  · by_cases same : req.taskId = task
    · rw [same, Function.update_self]
      exact queued req member same
    · rw [Function.update_of_ne same]
      exact ledger.waiting req member

/-- A task without a status has no record. -/
theorem Ledger.unrecorded (ledger : Ledger place s) (none : (place task).status = none) :
    task ∉ s.records.map RequestRecord.taskId := by
  intro member
  obtain ⟨record, among, rfl⟩ := List.mem_map.mp member
  rw [ledger.records record among] at none
  cases none

/-- A task elsewhere is not in the queue. -/
theorem Ledger.unqueued (ledger : Ledger place s) (queued : place task ≠ .queued)
    (owed : ∀ call, place task ≠ .owed call) {req : InferenceRequest}
    (member : req ∈ s.drain.queue.pending) : req.taskId ≠ task := by
  rintro rfl
  rcases ledger.waiting req member with here | ⟨call, here⟩
  · exact queued here
  · exact owed call here

end Move

/-! ### The operations on the ledger -/

section Ledger

variable {place : Int → Place} {s s' : Shared} {req : InferenceRequest}

/-- The next task id goes to a call. -/
theorem Ledger.arrive (ledger : Ledger place s) (i : Nat) (records : s'.records = s.records)
    (queue : s'.drain.queue = s.drain.queue)
    (counter : s'.taskIdCounter = s.taskIdCounter + 1) :
    Ledger (Function.update place (s.taskIdCounter + 1) (.called i)) s' := by
  have unborn : place (s.taskIdCounter + 1) = .unborn := ledger.born _ (by omega)
  refine ⟨fun task late => ?_, ?_, by rw [records]; exact ledger.distinct,
    by rw [queue]; exact ledger.slot, by rw [queue]; exact ledger.pending, ?_⟩
  · rw [counter] at late
    rw [Function.update_of_ne (by omega)]
    exact ledger.born task (by omega)
  · rw [records]
    intro record member
    have different : record.taskId ≠ s.taskIdCounter + 1 := by
      intro same
      have recorded := ledger.records record member
      rw [same, unborn] at recorded
      cases recorded
    rw [Function.update_of_ne different]
    exact ledger.records record member
  · rw [queue]
    intro req member
    rw [Function.update_of_ne (ledger.unqueued (by simp [unborn]) (by simp [unborn]) member)]
    exact ledger.waiting req member

theorem Ledger.enqueue {i : Nat} (ledger : Ledger place s) (here : place req.taskId = .called i)
    (records : s'.records = s.records) (counter : s'.taskIdCounter = s.taskIdCounter)
    (queue : s'.drain.queue =
      { s.drain.queue with pending := s.drain.queue.pending ++ [req] }) :
    Ledger (Function.update place req.taskId (.owed i)) s' := by
  have absent := ledger.unrecorded (by rw [here]; rfl)
  have elsewhere : ∀ other ∈ s.drain.queue.pending, other.taskId ≠ req.taskId :=
    fun other member => ledger.unqueued (by simp [here]) (by simp [here]) member
  -- first the task moves in the old ledger, then the request joins the queue
  obtain ⟨born, recorded, distinct, slot, pending, waiting⟩ :=
    Ledger.move (p := .owed i) ledger (by simp [here])
      (fun record member same => absurd (same ▸ List.mem_map_of_mem member) absent)
      (fun other member same => absurd same (elsewhere other member))
  refine ⟨by rwa [counter], by rwa [records], by rwa [records], by rwa [queue], ?_, ?_⟩
  · rw [queue, List.map_append, List.nodup_append]
    refine ⟨pending, List.nodup_singleton _, ?_⟩
    rintro _ old _ new rfl
    obtain ⟨other, member, same⟩ := List.mem_map.mp old
    exact elsewhere other member (same.trans (List.mem_singleton.mp new))
  · rw [queue]
    intro other member
    rcases List.mem_append.mp member with old | new
    · exact waiting other old
    · rw [List.mem_singleton.mp new, Function.update_self]
      exact Or.inr ⟨i, rfl⟩

theorem Ledger.recordPending {p : Place} {maxTaskRecords : Nat} (ledger : Ledger place s)
    (here : ∃ i, place req.taskId = .owed i ∧ p = .queued ∨
      ∃ j, place req.taskId = .taken i j ∧ p = .popped j)
    (records : s'.records = Scheduler.recordPending maxTaskRecords req s.records)
    (counter : s'.taskIdCounter = s.taskIdCounter) (queue : s'.drain.queue = s.drain.queue) :
    Ledger (Function.update place req.taskId p) s' := by
  have none : (place req.taskId).status = none := by
    obtain ⟨i, ⟨here, _⟩ | ⟨j, here, _⟩⟩ := here <;> rw [here] <;> rfl
  have pending' : p.status = some .pending := by
    obtain ⟨i, ⟨_, rfl⟩ | ⟨j, _, rfl⟩⟩ := here <;> rfl
  -- there is no record yet, so the new one is the only one of its task
  have absent := ledger.unrecorded none
  obtain ⟨born, recorded, distinct, slot, pending, waiting⟩ :
      Ledger (Function.update place req.taskId p) s := by
    refine ledger.move ?_
      (fun record member same => absurd (same ▸ List.mem_map_of_mem member) absent) ?_
    · obtain ⟨i, ⟨here, _⟩ | ⟨j, here, _⟩⟩ := here <;> simp [here]
    · intro other member same
      obtain ⟨i, ⟨_, rfl⟩ | ⟨j, here, _⟩⟩ := here
      · exact Or.inl rfl
      · exact absurd same (ledger.unqueued (by simp [here]) (by simp [here]) member)
  refine ⟨by rwa [counter], ?_, ?_, by rwa [queue], by rwa [queue], by rwa [queue]⟩
  · rw [records]
    intro record member
    rcases mem_recordPending member with old | ⟨same, status⟩
    · exact recorded record old
    · rw [same, Function.update_self, status, pending']
  · rw [records]
    exact recordPending_distinct distinct absent

theorem Ledger.pop {p : Place} {j : Nat} {highPriorityThreshold : Int} {queue : Queue}
    (ledger : Ledger place s)
    (popped : popNextRequest highPriorityThreshold s.drain.queue = some (req, queue))
    (here : place req.taskId = .queued ∧ p = .popped j ∨
      ∃ i, place req.taskId = .owed i ∧ p = .taken i j)
    (records : s'.records = s.records) (counter : s'.taskIdCounter = s.taskIdCounter)
    (taken : s'.drain.queue = queue) :
    Ledger (Function.update place req.taskId p) s' := by
  obtain ⟨perm, slot⟩ := popNextRequest_perm _ _ _ _ ledger.slot popped
  have distinct : ((req :: queue.pending).map InferenceRequest.taskId).Nodup :=
    (perm.map InferenceRequest.taskId).nodup_iff.mpr ledger.pending
  rw [List.map_cons, List.nodup_cons] at distinct
  -- first the request leaves the queue, then its task moves
  have shorter : Ledger place s' := by
    refine ⟨by rw [counter]; exact ledger.born, by rw [records]; exact ledger.records,
      by rw [records]; exact ledger.distinct, by rwa [taken], by rw [taken]; exact distinct.2, ?_⟩
    rw [taken]
    exact fun other member => ledger.waiting other (perm.mem_iff.mp (List.mem_cons_of_mem _ member))
  refine shorter.move ?_ ?_ ?_
  · rcases here with ⟨here, _⟩ | ⟨i, here, _⟩ <;> simp [here]
  · intro record member same
    have status := shorter.records record member
    rw [same] at status
    rcases here with ⟨here, rfl⟩ | ⟨i, here, _⟩
    · rw [here] at status
      exact status
    · rw [here] at status
      cases status
  · rw [taken]
    exact fun other member same => absurd (same ▸ List.mem_map_of_mem member) distinct.1

theorem Ledger.updateRecord {p : Place} {j : Nat} {status : RequestStatus} {message : Bytes}
    (ledger : Ledger place s)
    (here : place req.taskId = .popped j ∨ place req.taskId = .running j)
    (written : p.status = some status)
    (records : s'.records = Scheduler.updateRecord req status message s.records)
    (counter : s'.taskIdCounter = s.taskIdCounter) (queue : s'.drain.queue = s.drain.queue) :
    Ledger (Function.update place req.taskId p) s' := by
  refine ⟨fun task late => ?_, ?_, ?_, by rw [queue]; exact ledger.slot,
    by rw [queue]; exact ledger.pending, ?_⟩
  · rw [counter] at late
    have unborn := ledger.born task late
    have different : task ≠ req.taskId := by
      rintro rfl
      rcases here with here | here <;> cases here.symm.trans unborn
    rwa [Function.update_of_ne different]
  · rw [records]
    intro record member
    -- records are distinct, so the update reaches the record of the task and no other
    rcases mem_updateRecord ledger.distinct member with ⟨own, new⟩ | ⟨foreign, old⟩
    · rw [own, Function.update_self, written, new]
    · rw [Function.update_of_ne foreign]
      exact ledger.records record old
  · rw [records, updateRecord_taskIds]
    exact ledger.distinct
  · rw [queue]
    intro other member
    have different : other.taskId ≠ req.taskId := by
      rcases here with here | here <;>
        exact ledger.unqueued (by simp [here]) (by simp [here]) member
    rw [Function.update_of_ne different]
    exact ledger.waiting other member

end Ledger

end VllmRoute.Scheduler
