import VllmRoute.Node.Locks

/-!
# A node without deadlocks

The mutexes of a node have an order that all of its functions keep: from the
control plane over the sessions and the reload down to the tables that are locked
for a moment. A thread comes after what is held where it is joined, and before
what it locks itself.
-/
namespace VllmRoute.Node.Locks

open Lib Locking

def Thread.rank : Thread → Nat
  | .evenLoop | .rpc => 0
  | .subscriber _ => 1
  | .worker _ _ | .healthWorker _ => 3
  | .observabilityWorker _ => 4

def TaskMutex.rank : TaskMutex → Nat
  | .reloadMtx => 3
  | .endpointWaitMtx => 4
  | .configMtx | .endpointsMtx | .queueMtx | .recordsMtx | .metricsMtx => 5
  | .wakeMtx => 6
  | .stateMtx | .seriesMtx | .engineMtx => 7

def Mutex.rank : Mutex → Nat
  | .zmqFunMtx => 1
  | .sessionsMtx => 2
  | .streamStatesMtx | .streamStateMtx _ => 3
  | .globalEndpointsMtx => 6
  | .ofTask _ mutex => mutex.rank
  | .running thread => thread.rank

theorem ordered_stop (task workers : Nat) :
    (VllmTask.stop task workers).ordered Mutex.rank 0 = true := by
  have joined : (block ((List.range workers).map fun i =>
      either skip (join (.worker task i)))).ordered Mutex.rank 0 = true :=
    ordered_block_map (fun _ => rfl) _
  rw [VllmTask.stop, ordered, ordered_block_cons, joined]
  rfl

theorem ordered_main (task workers : Nat) (channels : List Nat) :
    (Job.main task workers channels).code.ordered Mutex.rank 0 = true := by
  have released : (block (channels.map stopSubscriber)).ordered Mutex.rank 0 = true :=
    ordered_block_map (fun _ => rfl) channels
  have stopped := ordered_stop task workers
  have destroyed : (VllmLlm.destroy task channels workers).ordered Mutex.rank 0 = true := by
    simp [VllmLlm.destroy, ordered, released, stopped]
  have rounds : (block (channels.map fun channel =>
      block [join .evenLoop, StackFlow.sysReleaseUnit channel])).ordered Mutex.rank 0 = true :=
    ordered_block_map (fun _ => rfl) channels
  have destroyed' : (StackFlow.destroy channels).ordered Mutex.rank 0 = true := by
    rw [StackFlow.destroy, ordered_block_cons, rounds]
    rfl
  rw [Job.code, ordered_block_cons, ordered_block_cons, destroyed, ordered_block_cons, destroyed']
  rfl

theorem ordered_job (job : Job) : job.code.ordered Mutex.rank 0 = true := by
  cases job with
  | main task workers channels => exact ordered_main task workers channels
  | evenLoop events =>
    apply ordered_block_map
    intro event
    cases event <;> rfl
  | rpc calls =>
    apply ordered_block_map
    intro call
    cases call <;> rfl
  | subscriber channel messages => exact ordered_block_map (fun _ => rfl) messages
  | worker task index => rfl
  | healthWorker task => rfl
  | observabilityWorker task => rfl

/-- In every state that any threads of a node reach, they do not wait in a circle for mutexes and
for the ends of each other, and at the end of the chain of those that a thread waits for
there is one that is at none of these. -/
theorem node_never_deadlocks (jobs : List Job) (events : List (Nat × Bool))
    (threads : List (List (Frame Mutex)))
    (reached : run step (jobs.map fun job => [.code job.code]) events = some threads) :
    (∀ i, ¬ Relation.TransGen (Waits threads) i i) ∧
      ∀ (i : Nat) (frames : List (Frame Mutex)) (go : Bool), threads[i]? = some frames →
        frames ≠ [] → ∃ j, Relation.ReflTransGen (Waits threads) i j ∧
          (step threads (j, go)).isSome = true := by
  have ordered : ∀ code ∈ jobs.map Job.code, code.ordered Mutex.rank 0 = true := by
    intro code member
    obtain ⟨job, _, rfl⟩ := List.mem_map.mp member
    exact ordered_job job
  have started : jobs.map (fun job => [Frame.code job.code]) =
      (jobs.map Job.code).map fun code => [.code code] := by
    rw [List.map_map]
    rfl
  exact ordered_never_deadlocks Mutex.rank ordered (started ▸ reached)

/-- A reload that waits, with `reload_mtx_` and `zmq_fun_mtx_`, for the end of the worker of the
old observability. -/
theorem node_never_deadlocks_joining :
    let events := (1, false) :: List.replicate 35 (0, false)
    ∃ threads, run step ([Job.rpc [.reloadConfig 0], .observabilityWorker 0].map fun job =>
        [.code job.code]) events = some threads ∧
      threads.map held = [[.ofTask 0 .reloadMtx, .zmqFunMtx, .running .rpc],
        [.running (.observabilityWorker 0)]] ∧
      step threads (0, false) = none ∧ Waits threads 0 1 ∧
      ¬ Relation.TransGen (Waits threads) 1 0 := by
  intro events
  obtain ⟨threads, reached, holding, blocked, waits⟩ : ∃ threads,
      run step ([Job.rpc [.reloadConfig 0], .observabilityWorker 0].map fun job =>
        [.code job.code]) events = some threads ∧
      threads.map held = [[.ofTask 0 .reloadMtx, .zmqFunMtx, .running .rpc],
        [.running (.observabilityWorker 0)]] ∧
      step threads (0, false) = none ∧ Waits threads 0 1 := by
    refine ⟨_, rfl, rfl, rfl, _, _, _, _, .running (.observabilityWorker 0), rfl, rfl, ?_, ?_⟩
    · exact List.mem_cons_self
    · exact List.mem_cons_self
  refine ⟨threads, reached, holding, blocked, waits, fun back => ?_⟩
  exact (node_never_deadlocks _ events threads reached).1 0 (.head waits back)

end VllmRoute.Node.Locks
