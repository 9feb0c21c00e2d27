import VllmRoute.Lib.Rotation
import VllmRoute.Scheduler.Types

/-!
# The priority queue

`pending_` and `queue_schedule_slot_`, the critical section of `inference` that
admits a request and the one of `pop_next_request` that takes one. Both run
under `queue_mtx_`, with thresholds read before it.
-/
namespace VllmRoute.Scheduler

open Lib

structure Queue where
  pending : List InferenceRequest := []
  scheduleSlot : Nat := 0

def priorityClass (priority highPriorityThreshold : Int) : Nat :=
  if priority ≥ highPriorityThreshold then 0 else if priority ≥ 4 then 1 else 2

/-- The comparison of `find_best_request_in_class_locked`. -/
def InferenceRequest.precedes (it best : InferenceRequest) : Bool :=
  it.priority > best.priority || (it.priority == best.priority && it.taskId < best.taskId)

/-- One iteration of the search: the iterator is a request with its position. -/
def findBestStep (targetClass : Nat) (highPriorityThreshold : Int)
    (best : Option (InferenceRequest × Nat)) (it : InferenceRequest × Nat) :
    Option (InferenceRequest × Nat) :=
  if priorityClass it.1.priority highPriorityThreshold ≠ targetClass then best
  else match best with
    | none => some it
    -- the first of equals stays: task ids differ
    | some found => if it.1.precedes found.1 then some it else best

def findBestRequestInClassLocked (targetClass : Nat) (highPriorityThreshold : Int)
    (pending : List InferenceRequest) : Option (InferenceRequest × Nat) :=
  pending.zipIdx.foldl (findBestStep targetClass highPriorityThreshold) none

def kSchedule : List Nat := [0, 0, 0, 0, 0, 1, 1, 1, 2]

def kScheduleSize : Nat := 9

/-- The class that a position of the rotation names. -/
def scheduled (position : Nat) : Nat := kSchedule.getD (position % kScheduleSize) 0

/-- The loop over the schedule, with `n` iterations to go. -/
def scanSchedule (highPriorityThreshold : Int) (pending : List InferenceRequest) :
    Nat → Nat → Option (InferenceRequest × Nat) × Nat
  | 0, slot => (none, slot)
  | n + 1, slot =>
    match findBestRequestInClassLocked (scheduled slot) highPriorityThreshold pending with
    | some best => (some best, (slot + 1) % kScheduleSize)
    -- an empty class gives its turn away
    | none => scanSchedule highPriorityThreshold pending n ((slot + 1) % kScheduleSize)

/-- The critical section of `pop_next_request`; a worker waits on an empty queue. -/
def popNextRequest (highPriorityThreshold : Int) (q : Queue) : Option (InferenceRequest × Queue) :=
  match q.pending with
  | [] => none
  | first :: rest =>
    match scanSchedule highPriorityThreshold q.pending kScheduleSize q.scheduleSlot with
    | (some (req, i), slot) => some (req, ⟨q.pending.eraseIdx i, slot⟩)
    -- the source's fallback to `pending_.begin()`
    | (none, slot) => some (first, ⟨rest, slot⟩)

/-- The limits that admission reads under `config_mtx_`. -/
structure QueueLimits where
  maxQueueSize : Int := 64
  lowPriorityDropThreshold : Int := 48
  highPriorityThreshold : Int := 7

/-- The admission test of `inference`: the error code and text of a rejection. -/
def rejection (limits : QueueLimits) (q : Queue) (req : InferenceRequest) : Option (Int × String) :=
  let queueSize := toInt32 q.pending.length
  let overloadThreshold :=
    -- nine tenths, rounded down; zero switches the check off
    if limits.maxQueueSize > 0 then (limits.maxQueueSize * 9).tdiv 10 else 0
  -- the size before the request is added
  if limits.maxQueueSize > 0 ∧ queueSize ≥ limits.maxQueueSize then
    some (-40, "task queue full")
  else if overloadThreshold > 0 ∧ queueSize ≥ overloadThreshold ∧
      req.priority < limits.highPriorityThreshold then
    some (-43, "task queue is overloaded")
  else if limits.lowPriorityDropThreshold > 0 ∧ queueSize ≥ limits.lowPriorityDropThreshold ∧
      req.priority < 4 then
    some (-43, "background task rejected under queue pressure")
  else none

/-- The critical section of `inference`. -/
def enqueue (limits : QueueLimits) (q : Queue) (req : InferenceRequest) :
    Option (Int × String) × Queue :=
  match rejection limits q req with
  | some error => (some error, q)
  | none => (none, { q with pending := q.pending ++ [req] })

/-! ### Runs of the queue -/

/-- A pop that was made. -/
structure Pop where
  before : Queue
  taken : InferenceRequest
  after : Queue

/-- The queue with the log of its run. -/
structure Drain where
  queue : Queue := {}
  pushed : List InferenceRequest := []
  pops : List Pop := []

inductive QueueEvent where
  | push (limits : QueueLimits) (req : InferenceRequest)
  | pop

/-- One critical section under `queue_mtx_`. A pop of an empty queue waits. -/
def Drain.step (highPriorityThreshold : Int) (s : Drain) : QueueEvent → Option Drain
  | .push limits req =>
    let (error, queue) := enqueue limits s.queue req
    some { s with
      queue := queue
      pushed := if error.isNone then s.pushed ++ [req] else s.pushed }
  | .pop => (popNextRequest highPriorityThreshold s.queue).map fun (req, queue) =>
      { s with queue := queue, pops := s.pops ++ [⟨s.queue, req, queue⟩] }

/-! ### The search for the best request -/

section Best

variable (targetClass : Nat) (highPriorityThreshold : Int)

/-- `req` is popped before `other` within a class. -/
def InferenceRequest.firstOf (req other : InferenceRequest) : Prop :=
  other.priority < req.priority ∨ (other.priority = req.priority ∧ req.taskId ≤ other.taskId)

theorem InferenceRequest.precedes_iff (it best : InferenceRequest) :
    it.precedes best = true ↔ it.priority > best.priority ∨
      (it.priority = best.priority ∧ it.taskId < best.taskId) := by
  simp [precedes]

/-- The result of a search over the positions in `seen`. -/
def BestOf (seen : List (InferenceRequest × Nat)) : Option (InferenceRequest × Nat) → Prop
  | none => ∀ other ∈ seen, priorityClass other.1.priority highPriorityThreshold ≠ targetClass
  | some best => best ∈ seen ∧
      priorityClass best.1.priority highPriorityThreshold = targetClass ∧
      ∀ other ∈ seen, priorityClass other.1.priority highPriorityThreshold = targetClass →
        best.1.firstOf other.1

variable {targetClass highPriorityThreshold}

theorem findBestStep_bestOf {seen : List (InferenceRequest × Nat)}
    {best : Option (InferenceRequest × Nat)} (it : InferenceRequest × Nat)
    (before : BestOf targetClass highPriorityThreshold seen best) :
    BestOf targetClass highPriorityThreshold (seen ++ [it])
      (findBestStep targetClass highPriorityThreshold best it) := by
  unfold findBestStep
  split
  next other =>
    -- a request of another class changes nothing
    cases best with
    | none =>
      intro r member
      rcases List.mem_append.mp member with old | new
      · exact before r old
      · exact List.mem_singleton.mp new ▸ other
    | some found =>
      obtain ⟨member, ofClass, first⟩ := before
      refine ⟨List.mem_append_left _ member, ofClass, fun r among same => ?_⟩
      rcases List.mem_append.mp among with old | new
      · exact first r old same
      · exact absurd same (List.mem_singleton.mp new ▸ other)
  next ofClass =>
    have ofClass := not_not.mp ofClass
    have own : it ∈ seen ++ [it] := by simp
    cases best with
    | none =>
      refine ⟨own, ofClass, fun r among same => ?_⟩
      rcases List.mem_append.mp among with old | new
      · exact absurd same (before r old)
      · exact List.mem_singleton.mp new ▸ Or.inr ⟨rfl, Int.le_refl _⟩
    | some found =>
      obtain ⟨member, foundClass, first⟩ := before
      dsimp only
      split
      next ahead =>
        have ahead := (InferenceRequest.precedes_iff _ _).mp ahead
        refine ⟨own, ofClass, fun r among same => ?_⟩
        rcases List.mem_append.mp among with old | new
        · have behind := first r old same
          unfold InferenceRequest.firstOf at behind ⊢
          omega
        · exact List.mem_singleton.mp new ▸ Or.inr ⟨rfl, Int.le_refl _⟩
      next behind =>
        rw [InferenceRequest.precedes_iff] at behind
        refine ⟨List.mem_append_left _ member, foundClass, fun r among same => ?_⟩
        rcases List.mem_append.mp among with old | new
        · exact first r old same
        · rw [List.mem_singleton.mp new]
          unfold InferenceRequest.firstOf
          omega

private theorem findBest_foldl (its seen : List (InferenceRequest × Nat))
    (best : Option (InferenceRequest × Nat))
    (before : BestOf targetClass highPriorityThreshold seen best) :
    BestOf targetClass highPriorityThreshold (seen ++ its)
      (its.foldl (findBestStep targetClass highPriorityThreshold) best) := by
  induction its generalizing seen best with
  | nil => simpa using before
  | cons it its ih => simpa using ih _ _ (findBestStep_bestOf it before)

variable (targetClass highPriorityThreshold)

/-- `req` is the request of the class that is to be popped. -/
structure IsBest (pending : List InferenceRequest) (req : InferenceRequest) : Prop where
  member : req ∈ pending
  ofClass : priorityClass req.priority highPriorityThreshold = targetClass
  first : ∀ other ∈ pending, priorityClass other.priority highPriorityThreshold = targetClass →
    req.firstOf other

/-- The class has a request waiting. -/
def Waiting (highPriorityThreshold : Int) (pending : List InferenceRequest)
    (targetClass : Nat) : Prop :=
  ∃ req ∈ pending, priorityClass req.priority highPriorityThreshold = targetClass

theorem findBest_spec (pending : List InferenceRequest) :
    match findBestRequestInClassLocked targetClass highPriorityThreshold pending with
    | none => ¬ Waiting highPriorityThreshold pending targetClass
    | some (req, i) =>
      pending[i]? = some req ∧ IsBest targetClass highPriorityThreshold pending req := by
  have search : BestOf targetClass highPriorityThreshold pending.zipIdx
      (findBestRequestInClassLocked targetClass highPriorityThreshold pending) := by
    simpa [findBestRequestInClassLocked] using
      findBest_foldl pending.zipIdx [] none (by simp [BestOf])
  have position (req : InferenceRequest) (member : req ∈ pending) :
      ∃ i, (req, i) ∈ pending.zipIdx := by
    obtain ⟨i, at_⟩ := List.mem_iff_getElem?.mp member
    exact ⟨i, List.mem_zipIdx_iff_getElem?.mpr at_⟩
  split
  next absent =>
    rw [absent] at search
    rintro ⟨req, member, ofClass⟩
    obtain ⟨i, among⟩ := position req member
    exact search (req, i) among ofClass
  next req i found =>
    rw [found] at search
    obtain ⟨among, ofClass, first⟩ := search
    have at_ : pending[i]? = some req := List.mem_zipIdx_iff_getElem?.mp among
    refine ⟨at_, List.mem_of_getElem? at_, ofClass, fun other member same => ?_⟩
    obtain ⟨j, amongOther⟩ := position other member
    exact first (other, j) amongOther same

end Best

/-! ### One pop -/

theorem scheduled_mod (position : Nat) :
    scheduled (position % kScheduleSize) = scheduled position := by
  simp [scheduled]

/-- The loop over the schedule, from the absolute position `a`: a turn of the
rotation that ends at the class of the request it finds. -/
theorem scanSchedule_turn (highPriorityThreshold : Int) (pending : List InferenceRequest)
    (n a : Nat) :
    match scanSchedule highPriorityThreshold pending n (a % kScheduleSize) with
    | (none, _) => ∀ j < n, ¬ Waiting highPriorityThreshold pending (scheduled (a + j))
    | (some (req, i), slot) => ∃ b, Turn scheduled (Waiting highPriorityThreshold pending) a b ∧
        slot = b % kScheduleSize ∧ pending[i]? = some req ∧
        IsBest (scheduled (b - 1)) highPriorityThreshold pending req := by
  induction n generalizing a with
  | zero => simp [scanSchedule]
  | succ n ih =>
    have search := findBest_spec (scheduled a) highPriorityThreshold pending
    have next : (a % kScheduleSize + 1) % kScheduleSize = (a + 1) % kScheduleSize := by
      simp [Nat.add_mod]
    simp only [scanSchedule, scheduled_mod, next]
    cases found : findBestRequestInClassLocked (scheduled a) highPriorityThreshold pending with
    | some best =>
      rw [found] at search
      exact ⟨a + 1, ⟨Nat.lt_succ_self a, by omega⟩, rfl, search⟩
    | none =>
      rw [found] at search
      have rest := ih (a + 1)
      dsimp only
      split
      next _ _ scanned =>
        rw [scanned] at rest
        intro j below
        cases j with
        | zero => exact search
        | succ j =>
          have later := rest j (by omega)
          rwa [show a + 1 + j = a + (j + 1) by omega] at later
      next req i slot scanned =>
        rw [scanned] at rest
        obtain ⟨b, turn, slotEq, at_, best⟩ := rest
        have := turn.forward
        refine ⟨b, ⟨by omega, fun k low high => ?_⟩, slotEq, at_, best⟩
        by_cases here : k = a
        · exact here ▸ search
        · exact turn.passed k (by omega) high

/-- Every class is named in a full round of the schedule. -/
theorem scheduled_surjective (a : Nat) (priority highPriorityThreshold : Int) :
    ∃ j < kScheduleSize, scheduled (a + j) = priorityClass priority highPriorityThreshold := by
  have round : ∀ slot < 9, ∀ c < 3, ∃ j < 9, scheduled (slot + j) = c := by decide
  have small : priorityClass priority highPriorityThreshold < 3 := by
    unfold priorityClass
    split
    · decide
    · split <;> decide
  obtain ⟨j, below, named⟩ := round (a % 9) (Nat.mod_lt a (by decide)) _ small
  refine ⟨j, below, ?_⟩
  rw [← named, ← scheduled_mod (a + j), ← scheduled_mod (a % 9 + j)]
  simp [kScheduleSize]

/-- What a pop does: one turn of the rotation, which takes the best request of the
class it ends at. The fallback is not reached. -/
theorem popNextRequest_spec (highPriorityThreshold : Int) (q : Queue) (a : Nat)
    (slot : q.scheduleSlot = a % kScheduleSize) (nonempty : q.pending ≠ []) :
    ∃ req i b q', scanSchedule highPriorityThreshold q.pending kScheduleSize q.scheduleSlot =
        (some (req, i), q'.scheduleSlot) ∧
      popNextRequest highPriorityThreshold q = some (req, q') ∧
      q.pending[i]? = some req ∧ q'.pending = q.pending.eraseIdx i ∧
      q'.scheduleSlot = b % kScheduleSize ∧
      Turn scheduled (Waiting highPriorityThreshold q.pending) a b ∧
      IsBest (scheduled (b - 1)) highPriorityThreshold q.pending req := by
  obtain ⟨first, rest, pending⟩ := List.exists_cons_of_ne_nil nonempty
  have turn := scanSchedule_turn highPriorityThreshold q.pending kScheduleSize a
  rw [← slot] at turn
  split at turn
  next _ _ scanned =>
    obtain ⟨j, below, named⟩ := scheduled_surjective a first.priority highPriorityThreshold
    exact absurd ⟨first, by simp [pending], named.symm⟩ (turn j below)
  next req i after scanned =>
    obtain ⟨b, turn, slotEq, at_, best⟩ := turn
    refine ⟨req, i, b, ⟨q.pending.eraseIdx i, after⟩, scanned, ?_, at_, rfl, slotEq, turn, best⟩
    unfold popNextRequest
    split
    next empty => exact absurd empty nonempty
    next => rw [scanned]

theorem popNextRequest_nonempty (highPriorityThreshold : Int) (q q' : Queue)
    (req : InferenceRequest) (popped : popNextRequest highPriorityThreshold q = some (req, q')) :
    q.pending ≠ [] := by
  intro empty
  simp [popNextRequest, empty] at popped

/-- A pop takes one request off the queue. -/
theorem popNextRequest_perm (highPriorityThreshold : Int) (q q' : Queue) (req : InferenceRequest)
    (slot : q.scheduleSlot < kScheduleSize)
    (popped : popNextRequest highPriorityThreshold q = some (req, q')) :
    (req :: q'.pending).Perm q.pending ∧ q'.scheduleSlot < kScheduleSize := by
  obtain ⟨req', i, b, q'', _, popped', at_, erased, slot', _⟩ := popNextRequest_spec
    highPriorityThreshold q q.scheduleSlot (Nat.mod_eq_of_lt slot).symm
    (popNextRequest_nonempty highPriorityThreshold _ _ _ popped)
  cases popped.symm.trans popped'
  obtain ⟨below, rfl⟩ := List.getElem?_eq_some_iff.mp at_
  rw [erased, slot']
  exact ⟨List.getElem_cons_eraseIdx_perm below, Nat.mod_lt b (by decide)⟩

end VllmRoute.Scheduler
