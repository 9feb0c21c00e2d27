import VllmRoute.Node.Shutdown

/-!
# Shutting a node down

The loop of `~StackFlow` does its one-time work in every round, so it gets
through only if there is no second one: if there are no live channels.
-/
namespace VllmRoute.Node

open Access

namespace StackFlow

variable {s : StackFlow}

/-- The release of a channel by its number: its unit is released, and its entry erased. -/
theorem sysReleaseUnit_number (s : StackFlow) (num : Int) :
    s.sysReleaseUnit num [] = some
      ({ s with
        node := s.node.releaseUnit (sampleGetWorkId num)
        released := s.released ++ [sampleGetWorkId num] }.eraseChannel num) := rfl

/-- Without a channel the first round is the last. -/
theorem destroyRound_empty (tolerant : Bool) (ready : s.joinable = true) (none : s.order = []) :
    destroyRound tolerant s = .ok (true, { s with exitFlage := true, joinable := false }) := by
  unfold destroyRound
  simp only [ready, Bool.not_true, Bool.false_eq_true, if_false]
  split
  next => rfl
  next num rest live =>
    rw [none] at live
    cases live

/-- The round for a live channel: the access after the release is noticed, or the loop goes
on with a thread that is joined already. -/
theorem destroyRound_channel (tolerant : Bool) (ready : s.joinable = true) {num : Int}
    {rest : List Int} (live : s.order = num :: rest) :
    destroyRound tolerant s = .error .danglingIterator ∨
      ∃ s', destroyRound tolerant s = .ok (false, s') ∧ s'.joinable = false := by
  unfold destroyRound
  simp only [ready, Bool.not_true, Bool.false_eq_true, if_false, live, sysReleaseUnit_number]
  split
  · exact Or.inl rfl
  · exact Or.inr ⟨_, rfl, rfl⟩

/-- The second join fails, whatever is left to do. -/
theorem destroyRound_joined (tolerant : Bool) (joined : s.joinable = false) :
    destroyRound tolerant s = .error .joinFailed := by
  unfold destroyRound
  simp [joined]

/-- With a live channel the loop ends in an error, in its first or its second round. -/
theorem destroyStackFlow_channel (tolerant : Bool) (ready : s.joinable = true) {num : Int}
    {rest : List Int} (live : s.order = num :: rest) (n : Nat) :
    ∃ fault, destroyStackFlow tolerant (n + 2) s = some (.error fault) := by
  rcases destroyRound_channel tolerant ready live with dangling | ⟨s', next, joined⟩
  · rw [destroyStackFlow, dangling]
    exact ⟨_, rfl⟩
  · rw [destroyStackFlow, next]
    dsimp only
    rw [destroyStackFlow, destroyRound_joined tolerant joined]
    exact ⟨_, rfl⟩

/-- One more round does not change the end. -/
theorem destroyStackFlow_mono {tolerant : Bool} {n : Nat} {ending : Except ShutdownFault StackFlow}
    (ended : destroyStackFlow tolerant n s = some ending) :
    destroyStackFlow tolerant (n + 1) s = some ending := by
  induction n generalizing s with
  | zero => cases ended
  | succ n ih =>
    rw [destroyStackFlow] at ended ⊢
    cases round : destroyRound tolerant s with
    | error fault =>
      rw [round] at ended
      exact ended
    | ok after =>
      obtain ⟨last, after⟩ := after
      rw [round] at ended
      cases last with
      | true => exact ended
      | false => exact ih ended

theorem destroyVllmLlm_frame (s : StackFlow) :
    s.destroyVllmLlm.order = s.order ∧ s.destroyVllmLlm.joinable = s.joinable ∧
      s.destroyVllmLlm.released = s.released := ⟨rfl, rfl, rfl⟩

end StackFlow

/-- For every set of live channels, and whether or not the access to an erased entry is
noticed: the destructors end without an error, after one `release_unit` for the
work id of each channel, if and only if there is no live channel. -/
theorem shutdown_releases_iff (tolerant : Bool) (s : StackFlow) (running : s.joinable = true) :
    (∃ n s' calls, s.destroyVllmLlm.destroyStackFlow tolerant n = some (.ok s') ∧
        s'.order = [] ∧ s'.released = s.released ++ calls ∧
        ∀ num ∈ s.order, calls.count (sampleGetWorkId num) = 1) ↔
      ∀ num, s.node.llmTaskChannel num = none := by
  obtain ⟨order, joinable, released⟩ := s.destroyVllmLlm_frame
  constructor
  · rintro ⟨n, s', _, ended, _⟩ num
    by_contra live
    have member : num ∈ s.order := (s.listed num).mpr (Option.isSome_iff_ne_none.mpr live)
    obtain ⟨first, rest, split⟩ := List.exists_cons_of_ne_nil (List.ne_nil_of_mem member)
    obtain ⟨fault, failed⟩ := StackFlow.destroyStackFlow_channel tolerant
      (joinable.trans running) (order.trans split) n
    have later := StackFlow.destroyStackFlow_mono (StackFlow.destroyStackFlow_mono ended)
    cases later.symm.trans failed
  · intro none
    have empty : s.order = [] := by
      apply List.eq_nil_iff_forall_not_mem.mpr
      intro num member
      have live := (s.listed num).mp member
      rw [none num] at live
      cases live
    have ended := StackFlow.destroyRound_empty tolerant (joinable.trans running)
      (order.trans empty)
    refine ⟨1, { s.destroyVllmLlm with exitFlage := true, joinable := false }, [], ?_,
      order.trans empty, ?_, ?_⟩
    · rw [StackFlow.destroyStackFlow, ended]
    · rw [List.append_nil]
      exact released
    · rw [empty]
      exact fun num member => absurd member List.not_mem_nil

/-- A node right after its start. -/
def idleNode : StackFlow where
  node := {}
  order := []
  nodup := List.nodup_nil
  listed := by simp

theorem shutdown_releases_iff_idle : ∃ n s',
    idleNode.destroyVllmLlm.destroyStackFlow false n = some (.ok s') ∧ s'.order = [] := by
  obtain ⟨n, s', _, ended, empty, _⟩ :=
    (shutdown_releases_iff false idleNode rfl).mpr fun _ => rfl
  exact ⟨n, s', ended, empty⟩

/-- A node with one channel, which no client has asked to exit. -/
def oneChannel : StackFlow where
  node := { llmTaskChannel := Function.update (fun _ => none) 1 (some {}) }
  order := [1]
  nodup := List.nodup_singleton 1
  listed := fun num => by
    by_cases same : num = 1 <;> simp [same]

/-- The first channel takes the node down: the iterator is used after its entry is gone, and
where that is not noticed the thread is joined once more. -/
theorem shutdown_with_channel_fails :
    (oneChannel.destroyVllmLlm.destroyStackFlow false 2).map Except.isOk = some false ∧
    (oneChannel.destroyVllmLlm.destroyStackFlow true 2).map Except.isOk = some false :=
  ⟨rfl, rfl⟩

end VllmRoute.Node
