import VllmRoute.Properties.Registry
import VllmRoute.Properties.WorkIds

/-!
# What an exit frees

Sessions and channels are found by the number of a work id, units by its text. The
two agree for the canonical work id of a number; other texts have the same number.
-/
namespace VllmRoute.Node

open Lib Access Channel Scheduler

/-! ### Runs of a node beside other units -/

/-- A message for the node, or a call of another unit to the registry. Calls of `sql_set` and
`sql_unset` are not among these: they can take the entry of a unit away. -/
inductive NodeEvent where
  | message (request : Request EventKind)
  | registry (call : UnitManager.RegistryCall)

namespace VllmLlm

variable {codec : Codec} {env : Environment}

def nodeStep (codec : Codec) (env : Environment) (s : VllmLlm) : NodeEvent → Option VllmLlm
  | .message request => s.handle codec env request
  | .registry call => (s.manager.step call).map fun manager => { s with manager := manager }

theorem performControl_sound (s : VllmLlm) (o : ControlOp) (sound : s.manager.Sound) :
    (performControl env {} s o).2.manager.Sound := by
  have updated (num : Int) (f : LlmChannelObj → LlmChannelObj) :
      (s.updateChannel num f).2.manager.Sound := by
    rw [updateChannel_eq]
    exact sound
  cases o with
  | registerUnit =>
    have allocated := sound.allocate unitName
    change s.registerUnit.2.manager.Sound
    unfold registerUnit
    split
    next found => rwa [found] at allocated
    next found => rwa [found] at allocated
  | releaseUnit workId => exact sound.release workId
  | setPushUrl num | setChannelIds num | subscribe num | stopSubscriber num => exact updated num _
  | admitSession num session configBody =>
    change (s.admitSession env num session configBody).2.manager.Sound
    unfold admitSession
    split_ifs
    · exact sound
    · exact sound
    · split
      · exact sound
      · split <;> exact sound
  | eraseSession num =>
    change (s.eraseSession num).2.manager.Sound
    unfold eraseSession
    split <;> exact sound
  | reloadConfig configBody =>
    change (s.reloadShared configBody _).2.manager.Sound
    unfold reloadShared
    split
    · exact sound
    · split <;> exact sound
  | _ => exact sound

theorem nodeStep_sound {s s' : VllmLlm} {event : NodeEvent}
    (taken : s.nodeStep codec env event = some s') (sound : s.manager.Sound) :
    s'.manager.Sound := by
  cases event with
  | message request =>
    have ends : (handleEvent codec request).complete (execControl env {}) s = some (false, s') := by
      change s.handle codec env request = some s' at taken
      unfold handle at taken
      split at taken
      next ends =>
        cases taken
        exact ends
      next => cases taken
    refine Prog.complete_invariant (fun s => s.manager.Sound) (fun s o r s' executed sound => ?_)
      ends sound
    obtain rfl := congrArg Prod.snd (Option.some.inj executed)
    exact s.performControl_sound o sound
  | registry call =>
    cases call with
    | allocate unit =>
      cases taken
      exact sound.allocate unit
    | release unit =>
      cases taken
      exact sound.release unit

/-! ### The state after an exit -/

/-- The session of a number, its channel, and the unit of that name with its ports are gone,
and nothing else has changed. -/
structure Freed (s s' : VllmLlm) (num : Int) : Prop where
  session : s'.hasSession num = false
  sessions : ∀ n, n ≠ num → s'.hasSession n = s.hasSession n
  channel : s'.llmTaskChannel num = none
  channels : ∀ n, n ≠ num → s'.llmTaskChannel n = s.llmTaskChannel n
  unit : s.manager.Freed s'.manager (sampleGetWorkId num)

variable {s : VllmLlm} {zmqUrl raw : Bytes} {num : Int} {workId : Bytes}

/-- The unit that `sys_release_unit` names. -/
def releasedUnit (workId : Bytes) : Bytes :=
  if workId.isEmpty then sampleGetWorkId (-1) else workId

theorem releasedUnit_given (given : workId ≠ []) : releasedUnit workId = workId :=
  if_neg (by simpa using given)

theorem exited_frame (s : VllmLlm) (zmqUrl raw : Bytes) (num : Int) (workId : Bytes) :
    let s' := (s.begin zmqUrl raw).exited num workId
    s'.manager = (s.manager.sysReleaseUnit (releasedUnit workId)).2 ∧
      s'.sessions = s.sessions.filter fun entry => entry.1 != num := by
  obtain ⟨sessions, manager, _⟩ := s.begin_frame zmqUrl raw
  have closed : ((s.begin zmqUrl raw).close num).manager = s.manager ∧
      ((s.begin zmqUrl raw).close num).sessions =
        s.sessions.filter fun entry => entry.1 != num := by
    simp [close, updateChannel_eq, manager, sessions]
  rw [← closed.1, ← closed.2]
  unfold exited release releasedUnit
  split <;> exact ⟨rfl, rfl⟩

theorem exited_channel
    (number : sampleGetWorkIdNum (sampleJsonStrGet raw (lit "work_id")) = some num) (n : Int) :
    ((s.begin zmqUrl raw).exited num workId).llmTaskChannel n =
      if n = (if workId.isEmpty then -1 else num) then none
      else if n = num then (s.llmTaskChannel num).map
        ({ · with outputUrl := zmqUrl, subscribed := false })
      else s.llmTaskChannel n := by
  have closed : ((s.begin zmqUrl raw).close num).llmTaskChannel n =
      if n = num then (s.llmTaskChannel num).map
        ({ · with outputUrl := zmqUrl, subscribed := false })
      else s.llmTaskChannel n := by
    unfold close begin
    rw [number]
    by_cases same : n = num
    · simp [updateChannel_eq, same, note, Function.comp_def]
    · simp [updateChannel_eq, same, note]
  rw [← closed]
  unfold exited release
  split <;> exact Function.update_apply ..

/-- With a work id, the session and its channel go. -/
theorem exited_freed (number : sampleGetWorkIdNum (sampleJsonStrGet raw (lit "work_id")) = some num)
    (given : workId ≠ [])
    (unit : s.manager.Freed (s.manager.sysReleaseUnit workId).2 (sampleGetWorkId num)) :
    s.Freed ((s.begin zmqUrl raw).exited num workId) num := by
  obtain ⟨manager, sessions⟩ := s.exited_frame zmqUrl raw num workId
  have named : workId.isEmpty = false := by simpa using given
  refine ⟨?_, fun n other => ?_, ?_, fun n other => ?_, ?_⟩
  · rw [hasSession, sessions]
    simp
  · rw [Bool.eq_iff_iff, hasSession_iff, hasSession_iff, sessions]
    simp [other]
  · rw [exited_channel number]
    simp [named]
  · rw [exited_channel number]
    simp [named, other]
  · rw [manager, releasedUnit_given given]
    exact unit

/-- An exit that removed a session freed its unit if it had the canonical work id, or if
neither of the two work ids is registered. -/
theorem exited_freed_iff (sound : s.manager.Sound) (channel : (s.llmTaskChannel num).isSome = true)
    (number : sampleGetWorkIdNum (sampleJsonStrGet raw (lit "work_id")) = some num) :
    s.Freed ((s.begin zmqUrl raw).exited num (sampleJsonStrGet raw (lit "work_id"))) num ↔
      sampleJsonStrGet raw (lit "work_id") = sampleGetWorkId num ∨
        (sampleJsonStrGet raw (lit "work_id") ≠ [] ∧
          ¬ Registered s.manager.keySql (sampleGetWorkId num) ∧
          ¬ Registered s.manager.keySql (sampleJsonStrGet raw (lit "work_id"))) := by
  set workId := sampleJsonStrGet raw (lit "work_id")
  constructor
  · intro freed
    by_cases canonical : workId = sampleGetWorkId num
    · exact Or.inl canonical
    have given : workId ≠ [] := by
      intro empty
      -- without a work id another channel is erased
      have none : num = workIdNone := by
        rw [empty] at number
        exact (Option.some.inj number).symm
      have kept := freed.channel
      rw [exited_channel number, empty, none] at kept
      have gone : s.llmTaskChannel num = .none := by
        rw [none]
        simpa [workIdNone] using kept
      rw [gone] at channel
      cases channel
    have registered := fun key => s.manager.registered_sysReleaseUnit workId key
    have unit := freed.unit
    rw [(s.exited_frame zmqUrl raw num workId).1, releasedUnit_given given] at unit
    refine Or.inr ⟨given, fun present => ?_, fun present => ?_⟩
    · exact unit.gone ((registered _).mpr ⟨present, Ne.symm canonical, fun _ =>
        workId_ne_outPortKey unitName workId num⟩)
    · -- the unit of the other work id went
      have kept : Registered (s.manager.sysReleaseUnit workId).2.keySql workId := by
        rwa [Registered, unit.others workId canonical]
      exact ((registered workId).mp kept).2.1 rfl
  · rintro (canonical | ⟨given, missing, missing'⟩)
    · refine exited_freed number (fun empty => ?_) ?_
      · have named := sampleGetWorkId_isEmpty num
        rw [← canonical, empty] at named
        cases named
      · rw [canonical]
        exact sound.release_frees _
    · have unknown : s.manager.sysReleaseUnit workId = (-1, s.manager) := by
        simp only [Registered, Bool.not_eq_true, Option.isSome_eq_false_iff,
          Option.isNone_iff_eq_none] at missing'
        rw [UnitManager.sysReleaseUnit, missing']
      refine exited_freed number given ?_
      rw [unknown]
      exact .of_missing missing

/-- In every state that a node reaches beside other units, an exit that is
answered with success has removed a session. It has freed the channel, the unit and the ports
of that session and nothing else exactly if its work id is the canonical one, or if neither
that unit nor one of the given name is registered. -/
theorem exit_frees_iff (codec : Codec) (env : Environment) (m : UnitManager) (fresh : m.Fresh)
    (inverts : m.zmqSFormat.Inverts) (events : List NodeEvent) (s s' : VllmLlm)
    (reached : run (nodeStep codec env) { manager := m } events = some s) (zmqUrl raw : Bytes)
    (handled : s.handle codec env ⟨.exit, zmqUrl, raw⟩ = some s') (address : Address)
    (reply : Reply) (answered : s'.sent = s.sent ++ [(address, reply)])
    (success : reply.code = 0) :
    ∃ num, sampleGetWorkIdNum (sampleJsonStrGet raw (lit "work_id")) = some num ∧
      s.hasSession num = true ∧
      (s.Freed s' num ↔
        sampleJsonStrGet raw (lit "work_id") = sampleGetWorkId num ∨
          (sampleJsonStrGet raw (lit "work_id") ≠ [] ∧
            ¬ Registered s.manager.keySql (sampleGetWorkId num) ∧
            ¬ Registered s.manager.keySql (sampleJsonStrGet raw (lit "work_id")))) := by
  have sound : s.manager.Sound :=
    run_invariant (nodeStep codec env) (fun s => s.manager.Sound)
      (fun _ _ _ taken => nodeStep_sound taken) _ _ _ reached (fresh.sound inverts)
  rw [handle_exit] at handled
  obtain ⟨num, number, handled⟩ := Option.bind_eq_some_iff.mp handled
  refine ⟨num, number, ?_⟩
  split at handled
  next session =>
    refine ⟨session, ?_⟩
    split at handled
    next channel =>
      cases handled
      exact exited_freed_iff sound channel number
    next => cases handled
  next =>
    -- a missing session is answered with an error
    cases handled
    obtain ⟨_, _, sent, _⟩ := s.begin_frame zmqUrl raw
    rw [VllmLlm.reply, sent, List.append_cancel_left_eq, List.cons.injEq, Prod.mk.injEq] at answered
    exact absurd (answered.1.2 ▸ success) (noSession_code _)

/-- Two setups, which make the sessions 0 and 1. -/
def twoSetups : List NodeEvent := [.message plainSetup, .message plainSetup]

/-- An exit request with this work id. -/
def exitRequest (workId : Bytes) : Request EventKind :=
  ⟨.exit, clientUrl, requestText workId (lit "exit") []⟩

/-- The states before and after an exit that follows the two setups, and a test of both. -/
def afterTwoSetups (workId : Bytes) (test : VllmLlm → VllmLlm → Bool) : Option Bool :=
  (run (nodeStep oneModel {}) {} twoSetups).bind fun s =>
    (s.handle oneModel {} (exitRequest workId)).map (test s)

theorem afterTwoSetups_elim (workId : Bytes) (test : VllmLlm → VllmLlm → Bool)
    (holds : afterTwoSetups workId test = some true) :
    ∃ s s', run (nodeStep oneModel {}) {} twoSetups = some s ∧
      s.handle oneModel {} (exitRequest workId) = some s' ∧ test s s' = true := by
  obtain ⟨s, reached, ends⟩ := Option.bind_eq_some_iff.mp holds
  obtain ⟨s', handled, tested⟩ := Option.map_eq_some_iff.mp ends
  exact ⟨s, s', reached, handled, tested⟩

theorem exit_frees_iff_canonical :
    ∃ s s', run (nodeStep oneModel {}) {} twoSetups = some s ∧
      s.handle oneModel {} (exitRequest (lit "llm.1")) = some s' ∧ s.Freed s' 1 := by
  obtain ⟨s, s', reached, handled, answered⟩ := afterTwoSetups_elim (lit "llm.1")
    (fun s s' => decide
      (s'.sent = s.sent ++ [(⟨lit "1", clientUrl⟩, { object := "None", workId := lit "llm.1" })]))
    (by decide +kernel)
  rw [decide_eq_true_eq] at answered
  obtain ⟨num, number, _, iff⟩ := exit_frees_iff oneModel {} {} UnitManager.fresh_default
    UnitManager.inverts_default twoSetups s s' reached clientUrl _ handled _ _ answered rfl
  obtain rfl : num = 1 := Option.some.inj (number.symm.trans (by decide +kernel))
  exact ⟨s, s', reached, handled, iff.mpr (Or.inl (by decide +kernel))⟩

/-- The exit of `llm.01` is answered with success. It removes the session 1, and the unit
`llm.1` stays. -/
theorem leading_zero_keeps_unit :
    ∃ s s', run (nodeStep oneModel {}) {} twoSetups = some s ∧
      s.handle oneModel {} (exitRequest (lit "llm.01")) = some s' ∧
      s'.sent = s.sent ++ [(⟨lit "1", clientUrl⟩, { object := "None", workId := lit "llm.01" })] ∧
      s.hasSession 1 = true ∧ s'.hasSession 1 = false ∧
      Registered s'.manager.keySql (sampleGetWorkId 1) := by
  obtain ⟨s, s', reached, handled, facts⟩ := afterTwoSetups_elim (lit "llm.01")
    (fun s s' => decide
      (s'.sent = s.sent ++ [(⟨lit "1", clientUrl⟩, { object := "None", workId := lit "llm.01" })] ∧
        s.hasSession 1 = true ∧ s'.hasSession 1 = false ∧
        Registered s'.manager.keySql (sampleGetWorkId 1)))
    (by decide +kernel)
  exact ⟨s, s', reached, handled, of_decide_eq_true facts⟩

end VllmLlm

end VllmRoute.Node
