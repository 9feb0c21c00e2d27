import Mathlib.Data.List.Nodup
import VllmRoute.Node.State

/-!
# The end of a node

The destructors of `vllm_llm` and `StackFlow`. The loop of the second one stops
and joins the event thread in every round, and takes one channel at a time out
of the map of live channels.
-/
namespace VllmRoute.Node

open Access

/-- What the destructors work on. `order` is the order in which `llm_task_channel_` is
iterated, and `released` are the arguments of `release_unit`. -/
structure StackFlow where
  node : VllmLlm
  order : List Int
  nodup : order.Nodup
  listed : ∀ num, num ∈ order ↔ (node.llmTaskChannel num).isSome = true
  exitFlage : Bool := false
  joinable : Bool := true
  released : List Bytes := []

/-- What can go wrong in the loop: a thread is joined twice, an entry is touched that the
map does not have any more, or a work id has no number. -/
inductive ShutdownFault where
  | joinFailed
  | danglingIterator
  | invalidWorkId
  deriving DecidableEq

/-- `stop_subscriber("")` for the channels of these sessions; a missing one is passed over. -/
def VllmLlm.stopSubscribers (node : VllmLlm) (workIds : List Int) : VllmLlm :=
  workIds.foldl (fun node num => (node.updateChannel num ({ · with subscribed := false })).2) node

theorem VllmLlm.stopSubscribers_isSome (node : VllmLlm) (workIds : List Int) (num : Int) :
    ((node.stopSubscribers workIds).llmTaskChannel num).isSome =
      (node.llmTaskChannel num).isSome := by
  unfold stopSubscribers
  induction workIds generalizing node with
  | nil => rfl
  | cons first workIds ih =>
    rw [List.foldl_cons, ih, updateChannel_channel]
    by_cases same : num = first <;> simp [same]

namespace StackFlow

/-- `llm_task_channel_.erase` -/
def eraseChannel (s : StackFlow) (num : Int) : StackFlow :=
  { s with
    node := { s.node with llmTaskChannel := Function.update s.node.llmTaskChannel num none }
    order := s.order.erase num
    nodup := s.nodup.erase num
    listed := fun other => by
      rw [s.nodup.mem_erase_iff, s.listed]
      by_cases same : other = num <;> simp [same] }

/-- `sys_release_unit`; without a result the number of the work id cannot be read. -/
def sysReleaseUnit (s : StackFlow) (workIdNum : Int) (workId : Bytes) : Option StackFlow :=
  let id := if workId.isEmpty then sampleGetWorkId workIdNum else workId
  let num := if workId.isEmpty then some workIdNum else sampleGetWorkIdNum workId
  num.map fun num =>
    { s with node := s.node.releaseUnit id, released := s.released ++ [id] }.eraseChannel num

/-- The destructor of `vllm_llm`, which runs first: the sessions go, their subscriptions and
the task. -/
def destroyVllmLlm (s : StackFlow) : StackFlow :=
  { s with
    node := { s.node with sessions := [], sharedTask := none }.stopSubscribers
      (s.node.sessions.map Prod.fst)
    listed := fun num => by
      rw [VllmLlm.stopSubscribers_isSome]
      exact s.listed num }

/-- One round of the loop of `~StackFlow`, and whether it is the last. With `tolerant`, the
access through the iterator of an erased entry goes unnoticed. -/
def destroyRound (tolerant : Bool) (s : StackFlow) : Except ShutdownFault (Bool × StackFlow) :=
  let s := { s with exitFlage := true }
  if !s.joinable then .error .joinFailed
  else
    let s := { s with joinable := false }
    match s.order with
    | [] => .ok (true, s)
    | num :: _ =>
      match s.sysReleaseUnit num [] with
      | none => .error .invalidWorkId
      | some s =>
        -- `iteam` is still used for the reset and the erase
        if num ∉ s.order ∧ !tolerant then .error .danglingIterator
        else .ok (false, s.eraseChannel num)

/-- At most `n` rounds. -/
def destroyStackFlow (tolerant : Bool) : Nat → StackFlow → Option (Except ShutdownFault StackFlow)
  | 0, _ => none
  | n + 1, s =>
    match destroyRound tolerant s with
    | .error fault => some (.error fault)
    | .ok (true, s) => some (.ok s)
    | .ok (false, s) => destroyStackFlow tolerant n s

end StackFlow

end VllmRoute.Node
