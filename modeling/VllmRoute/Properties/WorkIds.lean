import VllmRoute.Properties.Extraction
import VllmRoute.Properties.Payloads
import VllmRoute.Properties.Sessions

/-!
# Work ids of clients

What the handlers do with an arbitrary work id. `sample_get_work_id_num` throws on
text after the dot that is no number, and only the first call of each handler
stands in a `try` block.
-/
namespace VllmRoute.Node

open Lib Access Channel Scheduler

/-! ### Control requests -/

namespace VllmLlm

variable {codec : Codec} {env : Environment}

/-- The handlers note the address of the request. -/
def note (s : VllmLlm) (zmqUrl raw : Bytes) : VllmLlm :=
  { s with address := ⟨sampleJsonStrGet raw (lit "request_id"), zmqUrl⟩ }

/-- They also tell the channel of the work id, if there is one. -/
def begin (s : VllmLlm) (zmqUrl raw : Bytes) : VllmLlm :=
  match sampleGetWorkIdNum (sampleJsonStrGet raw (lit "work_id")) with
  | none => s.note zmqUrl raw
  | some num => ((s.note zmqUrl raw).updateChannel num ({ · with outputUrl := zmqUrl })).2

/-- The state after a reply. -/
def reply (s : VllmLlm) (reply : Reply) : VllmLlm :=
  { s with sent := s.sent ++ [(s.address, reply)] }

/-- The error for a work id without a session. -/
def noSession (workId : Bytes) : Reply :=
  { object := "None", workId := workId, code := -6, message := "Unit Does Not Exist" }

theorem noSession_code (workId : Bytes) : (noSession workId).code ≠ 0 := by simp [noSession]

/-- Nothing but the address and the fields of one channel changes. -/
theorem begin_frame (s : VllmLlm) (zmqUrl raw : Bytes) :
    (s.begin zmqUrl raw).sessions = s.sessions ∧ (s.begin zmqUrl raw).manager = s.manager ∧
      (s.begin zmqUrl raw).sent = s.sent ∧
      (s.begin zmqUrl raw).address = ⟨sampleJsonStrGet raw (lit "request_id"), zmqUrl⟩ ∧
      (∀ n, ((s.begin zmqUrl raw).llmTaskChannel n).isSome = (s.llmTaskChannel n).isSome) := by
  unfold begin
  cases sampleGetWorkIdNum (sampleJsonStrGet raw (lit "work_id")) with
  | none => exact ⟨rfl, rfl, rfl, rfl, fun _ => rfl⟩
  | some num =>
    simp only [updateChannel_eq]
    refine ⟨rfl, rfl, rfl, rfl, fun n => ?_⟩
    by_cases same : n = num
    · simp [same, note]
    · simp [same, note]

theorem tryPushUrl_complete (s : VllmLlm) (zmqUrl raw : Bytes) :
    (tryPushUrl zmqUrl (sampleJsonStrGet raw (lit "work_id"))).complete (execControl env {})
      (s.note zmqUrl raw) = some ((), s.begin zmqUrl raw) := by
  unfold tryPushUrl begin
  cases sampleGetWorkIdNum (sampleJsonStrGet raw (lit "work_id")) <;> rfl

/-- The reply to a `taskinfo` request. -/
def taskinfoReply (s : VllmLlm) (num : Int) (workId : Bytes) : Reply :=
  if num = workIdNone then { object := "llm.tasklist", workId := workId }
  else if s.hasSession num then { object := "llm.taskinfo", workId := workId }
  else noSession workId

theorem taskinfo_complete (s : VllmLlm) (zmqUrl raw : Bytes) :
    (taskinfo zmqUrl raw).complete (execControl env {}) (s.note zmqUrl raw) =
      match sampleGetWorkIdNum (sampleJsonStrGet raw (lit "work_id")) with
      | none => some (true, s.begin zmqUrl raw)
      | some num => some (false, (s.begin zmqUrl raw).reply
          (s.taskinfoReply num (sampleJsonStrGet raw (lit "work_id")))) := by
  unfold taskinfo
  rw [Prog.complete_bind, tryPushUrl_complete, Option.bind_some]
  cases sampleGetWorkIdNum (sampleJsonStrGet raw (lit "work_id")) with
  | none => rfl
  | some num =>
    have same : (s.begin zmqUrl raw).hasSession num = s.hasSession num := by
      rw [hasSession, (s.begin_frame zmqUrl raw).1, hasSession]
    have found : performControl env {} (s.begin zmqUrl raw) (.findSession num) =
      (s.hasSession num, s.begin zmqUrl raw) := congrArg (·, s.begin zmqUrl raw) same
    refine (Prog.complete_op (congrArg some found)).trans ?_
    unfold taskinfoReply
    by_cases all : num = workIdNone
    · simp only [if_pos all]
      rfl
    · simp only [if_neg all]
      cases s.hasSession num <;> rfl

/-- The state after the session of a number is erased and its channel is stopped. -/
def close (s : VllmLlm) (num : Int) : VllmLlm :=
  ({ s with sessions := s.sessions.filter fun entry => entry.1 != num }.updateChannel num
    ({ · with subscribed := false })).2

theorem vllmExit_complete (s : VllmLlm) {workId : Bytes} {num : Int}
    (number : sampleGetWorkIdNum workId = some num) :
    (vllmExit workId).complete (execControl env {}) s =
      if s.hasSession num then
        if (s.llmTaskChannel num).isSome then
          some (some 0, (s.close num).reply { object := "None", workId := workId })
        else some (none, s.close num)
      else some (some (-1), s.reply (noSession workId)) := by
  unfold vllmExit
  rw [number]
  cases session : s.hasSession num with
  | false =>
    have erased : performControl env {} s (.eraseSession num) = (false, s) := by
      simp only [performControl, eraseSession, session]
      rfl
    exact (Prog.complete_op (congrArg some erased)).trans rfl
  | true =>
    have erased : performControl env {} s (.eraseSession num) = (true, { s with
        sessions := s.sessions.filter fun entry => entry.1 != num }) := by
      simp only [performControl, eraseSession, session]
      rfl
    have stopped : performControl env {} { s with
          sessions := s.sessions.filter fun entry => entry.1 != num } (.stopSubscriber num) =
        ((s.llmTaskChannel num).isSome, s.close num) := by
      refine Prod.ext ?_ rfl
      change (updateChannel _ num _).1 = _
      rw [updateChannel_eq]
    refine (Prog.complete_op (congrArg some erased)).trans
      ((Prog.complete_op (congrArg some stopped)).trans ?_)
    cases (s.llmTaskChannel num).isSome <;> rfl

/-- The state after `sys_release_unit` of a work id with this number. -/
def release (s : VllmLlm) (num : Int) (workId : Bytes) : VllmLlm :=
  if workId.isEmpty then
    { s.releaseUnit (sampleGetWorkId (-1)) with
      llmTaskChannel := Function.update s.llmTaskChannel (-1) none }
  else { s.releaseUnit workId with llmTaskChannel := Function.update s.llmTaskChannel num none }

theorem sysReleaseUnit_complete (s : VllmLlm) {workId : Bytes} {num : Int}
    (number : sampleGetWorkIdNum workId = some num) :
    (sysReleaseUnit (-1) workId).complete (execControl env {}) s =
      some (false, s.release num workId) := by
  unfold sysReleaseUnit release
  split
  · rfl
  · rw [number]
    rfl

/-- What an exit does to a session that has its channel. -/
def exited (s : VllmLlm) (num : Int) (workId : Bytes) : VllmLlm :=
  ((s.close num).reply { object := "None", workId := workId }).release num workId

theorem exited_sent (s : VllmLlm) (num : Int) (workId : Bytes) :
    (s.exited num workId).sent =
      s.sent ++ [(s.address, { object := "None", workId := workId })] := by
  have closed : (s.close num).sent = s.sent ∧ (s.close num).address = s.address := by
    simp [close, updateChannel_eq]
  rw [← closed.1, ← closed.2]
  unfold exited release
  split <;> rfl

theorem exit_complete (s : VllmLlm) (zmqUrl raw : Bytes) :
    ∃ failed, (exit zmqUrl raw).complete (execControl env {}) (s.note zmqUrl raw) =
      match sampleGetWorkIdNum (sampleJsonStrGet raw (lit "work_id")) with
      | none => some (true, failed)
      | some num =>
        if s.hasSession num then
          if (s.llmTaskChannel num).isSome then
            some (false, (s.begin zmqUrl raw).exited num (sampleJsonStrGet raw (lit "work_id")))
          else some (true, failed)
        else some (false,
          (s.begin zmqUrl raw).reply (noSession (sampleJsonStrGet raw (lit "work_id")))) := by
  obtain ⟨sessions, _, _, _, channels⟩ := s.begin_frame zmqUrl raw
  unfold exit
  rw [Prog.complete_bind, tryPushUrl_complete, Option.bind_some]
  cases number : sampleGetWorkIdNum (sampleJsonStrGet raw (lit "work_id")) with
  | none =>
    refine ⟨s.begin zmqUrl raw, ?_⟩
    unfold vllmExit
    rw [number]
    rfl
  | some num =>
    refine ⟨(s.begin zmqUrl raw).close num, ?_⟩
    rw [Prog.complete_bind, vllmExit_complete _ number, hasSession, sessions, ← hasSession,
      channels num]
    by_cases session : s.hasSession num = true
    · by_cases channel : (s.llmTaskChannel num).isSome = true
      · simp only [if_pos session, if_pos channel, Option.bind_some]
        exact sysReleaseUnit_complete _ number
      · simp only [if_pos session, if_neg channel, Option.bind_some]
        rfl
    · simp only [if_neg session, Option.bind_some]
      rfl

theorem handle_returned {s s' : VllmLlm} {message : Request EventKind}
    (returned : (handleEvent codec message).complete (execControl env {}) s = some (false, s')) :
    s.handle codec env message = some s' := by
  rw [handle, returned]

theorem handle_thrown {s failed : VllmLlm} {message : Request EventKind}
    (thrown : (handleEvent codec message).complete (execControl env {}) s = some (true, failed)) :
    s.handle codec env message = none := by
  rw [handle, thrown]

theorem handle_taskinfo (s : VllmLlm) (zmqUrl raw : Bytes) :
    s.handle codec env ⟨.taskinfo, zmqUrl, raw⟩ =
      (sampleGetWorkIdNum (sampleJsonStrGet raw (lit "work_id"))).map fun num =>
        (s.begin zmqUrl raw).reply
          (s.taskinfoReply num (sampleJsonStrGet raw (lit "work_id"))) := by
  have ends := @taskinfo_complete env s zmqUrl raw
  cases number : sampleGetWorkIdNum (sampleJsonStrGet raw (lit "work_id")) with
  | none =>
    rw [number] at ends
    exact handle_thrown ends
  | some num =>
    rw [number] at ends
    exact handle_returned ends

theorem handle_exit (s : VllmLlm) (zmqUrl raw : Bytes) :
    s.handle codec env ⟨.exit, zmqUrl, raw⟩ =
      (sampleGetWorkIdNum (sampleJsonStrGet raw (lit "work_id"))).bind fun num =>
        if s.hasSession num then
          if (s.llmTaskChannel num).isSome then
            some ((s.begin zmqUrl raw).exited num (sampleJsonStrGet raw (lit "work_id")))
          else none
        else some
          ((s.begin zmqUrl raw).reply (noSession (sampleJsonStrGet raw (lit "work_id")))) := by
  obtain ⟨failed, ends⟩ := @exit_complete env s zmqUrl raw
  cases number : sampleGetWorkIdNum (sampleJsonStrGet raw (lit "work_id")) with
  | none =>
    rw [number] at ends
    exact handle_thrown ends
  | some num =>
    simp only [number] at ends
    rw [Option.bind_some]
    by_cases session : s.hasSession num = true
    · rw [if_pos session] at ends ⊢
      by_cases channel : (s.llmTaskChannel num).isSome = true
      · rw [if_pos channel] at ends ⊢
        exact handle_returned ends
      · rw [if_neg channel] at ends ⊢
        exact handle_thrown ends
    · rw [if_neg session] at ends ⊢
      exact handle_returned ends

/-- The answer to a control request: one reply that can be sent, and an error if there is
no session with the number. -/
def Answers (s s' : VllmLlm) (num : Int) : Prop :=
  ∃ address reply, s'.sent = s.sent ++ [(address, reply)] ∧ validUtf8 address.requestId = true ∧
    validUtf8 reply.workId = true ∧ (s.hasSession num = false → reply.code ≠ 0)

theorem answers_of_sent {s s' : VllmLlm} {zmqUrl raw : Bytes} (text : validUtf8 raw = true)
    {num : Int} {reply : Reply}
    (sent : s'.sent = (s.begin zmqUrl raw).sent ++ [((s.begin zmqUrl raw).address, reply)])
    (work : reply.workId = sampleJsonStrGet raw (lit "work_id"))
    (code : s.hasSession num = false → reply.code ≠ 0) : s.Answers s' num := by
  obtain ⟨_, _, before, address, _⟩ := s.begin_frame zmqUrl raw
  refine ⟨(s.begin zmqUrl raw).address, reply, before ▸ sent, ?_, ?_, code⟩
  · rw [address]
    exact validUtf8_sampleJsonStrGet text _
  · rw [work]
    exact validUtf8_sampleJsonStrGet text _

theorem taskinfo_answers_iff (s : VllmLlm) (zmqUrl : Bytes) {raw : Bytes}
    (text : validUtf8 raw = true) :
    (∃ s', s.handle codec env ⟨.taskinfo, zmqUrl, raw⟩ = some s' ∧
        ∀ num, sampleGetWorkIdNum (sampleJsonStrGet raw (lit "work_id")) = some num →
          s.Answers s' num) ↔
      ∃ num, sampleGetWorkIdNum (sampleJsonStrGet raw (lit "work_id")) = some num ∧
        (num = workIdNone → s.hasSession num = true) := by
  rw [handle_taskinfo]
  cases number : sampleGetWorkIdNum (sampleJsonStrGet raw (lit "work_id")) with
  | none => simp
  | some num =>
    simp only [Option.map_some, Option.some.injEq, exists_eq_left', forall_eq']
    unfold taskinfoReply
    constructor
    · rintro ⟨address, reply, sent, _, _, code⟩ rfl
      -- the list of all sessions is no error
      rw [if_pos rfl, VllmLlm.reply, (s.begin_frame zmqUrl raw).2.2.1, List.append_cancel_left_eq,
        List.cons.injEq, Prod.mk.injEq] at sent
      obtain ⟨⟨_, rfl⟩, _⟩ := sent
      by_contra missing
      exact code (by simpa using missing) rfl
    · intro listed
      refine answers_of_sent text rfl ?_ fun missing => ?_
      · split_ifs <;> rfl
      · have other : num ≠ workIdNone := fun same => by simp [listed same] at missing
        rw [if_neg other, if_neg (by simp [missing])]
        exact noSession_code _

theorem exit_answers_iff (s : VllmLlm) (zmqUrl : Bytes) {raw : Bytes}
    (text : validUtf8 raw = true) :
    (∃ s', s.handle codec env ⟨.exit, zmqUrl, raw⟩ = some s' ∧
        ∀ num, sampleGetWorkIdNum (sampleJsonStrGet raw (lit "work_id")) = some num →
          s.Answers s' num) ↔
      ∃ num, sampleGetWorkIdNum (sampleJsonStrGet raw (lit "work_id")) = some num ∧
        (s.hasSession num = true → (s.llmTaskChannel num).isSome = true) := by
  rw [handle_exit]
  cases number : sampleGetWorkIdNum (sampleJsonStrGet raw (lit "work_id")) with
  | none => simp
  | some num =>
    simp only [Option.bind_some, Option.some.injEq, exists_eq_left', forall_eq']
    cases session : s.hasSession num with
    | false =>
      simp only [Bool.false_eq_true, if_false, Option.some.injEq, exists_eq_left', false_implies,
        iff_true]
      exact answers_of_sent text rfl rfl fun _ => noSession_code _
    | true =>
      cases channel : (s.llmTaskChannel num).isSome with
      | false => simp
      | true =>
        simp only [if_true, Option.some.injEq, exists_eq_left', true_implies, iff_true]
        exact answers_of_sent text (exited_sent ..) rfl fun missing => by simp [session] at missing

end VllmLlm

/-! ### Inference messages -/

def DataNode.setChannel (s : DataNode) (num : Int) (channel : LlmChannelObj) : DataNode :=
  { s with node := { s.node with
      llmTaskChannel := Function.update s.node.llmTaskChannel num (some channel) } }

/-- The fields that a message writes. -/
def adopt (channel : LlmChannelObj) (fields : Fields) : LlmChannelObj :=
  { channel with
    outputUrl := fields.zmqCom, requestId := fields.requestId, workId := fields.workId }

section Inference

variable {codec : Codec} {num nowMs : Int} {s : DataNode} {channel : LlmChannelObj}

theorem DataNode.setChannel_found (s : DataNode) (num : Int) (channel : LlmChannelObj) :
    (s.setChannel num channel).node.llmTaskChannel num = some channel :=
  Function.update_self ..

theorem DataNode.setChannel_setChannel (s : DataNode) (num : Int)
    (channel channel' : LlmChannelObj) :
    (s.setChannel num channel).setChannel num channel' = s.setChannel num channel' := by
  simp only [setChannel, Function.update_idem]

theorem execNode_set (nowMs : Int) (found : s.node.llmTaskChannel num = some channel)
    (text : Bytes) :
    execNode num [] nowMs s (.setPushUrl text) =
        some ((), s.setChannel num { channel with outputUrl := text }) ∧
      execNode num [] nowMs s (.setRequestId text) =
        some ((), s.setChannel num { channel with requestId := text }) ∧
      execNode num [] nowMs s (.setWorkId text) =
        some ((), s.setChannel num { channel with workId := text }) := by
  simp only [execNode, execData, withChannel, found, Option.map_some]
  exact ⟨rfl, rfl, rfl⟩

theorem DataNode.setChannel_self (found : s.node.llmTaskChannel num = some channel) :
    s.setChannel num channel = s := by
  rw [setChannel, ← found, Function.update_eq_self]

/-- The address is kept when a message brings none. -/
theorem pushUrlIfGiven_complete (found : s.node.llmTaskChannel num = some channel)
    (zmqCom : Bytes) :
    (Data.pushUrlIfGiven zmqCom).complete (execNode num [] nowMs) s = some ((), s.setChannel num
      { channel with outputUrl := if zmqCom.isEmpty then channel.outputUrl else zmqCom }) := by
  unfold Data.pushUrlIfGiven
  split
  · exact congrArg (fun s => some ((), s)) (DataNode.setChannel_self found).symm
  · exact (Prog.complete_op (execNode_set nowMs found zmqCom).1).trans rfl

/-- What a message writes into the channel. -/
theorem adoptFields_complete (found : s.node.llmTaskChannel num = some channel)
    (fields : Fields) :
    (Data.adoptFields (some fields)).complete (execNode num [] nowMs) s =
      some ((), s.setChannel num (adopt channel { fields with
        zmqCom := if fields.zmqCom.isEmpty then channel.outputUrl else fields.zmqCom })) := by
  unfold Data.adoptFields
  dsimp only
  rw [Prog.complete_bind, pushUrlIfGiven_complete found, Option.bind_some]
  generalize (if fields.zmqCom.isEmpty then channel.outputUrl else fields.zmqCom) = url
  have requested := (execNode_set nowMs (s.setChannel_found num
    { channel with outputUrl := url }) fields.requestId).2.1
  rw [DataNode.setChannel_setChannel] at requested
  have worked := (execNode_set nowMs (s.setChannel_found num
    { channel with outputUrl := url, requestId := fields.requestId }) fields.workId).2.2
  rw [DataNode.setChannel_setChannel] at worked
  refine (Prog.complete_op requested).trans ?_
  change (execNode num [] nowMs _ (.setWorkId fields.workId)).bind _ = _
  rw [worked]
  rfl

/-- A message that names its client is handled with the fields that it brings. -/
theorem subscriberEventCall_complete (found : s.node.llmTaskChannel num = some channel)
    {raw : Bytes} {fields : Fields} (parsed : inferenceFields raw = some fields)
    (given : fields.zmqCom ≠ []) :
    (Data.subscriberEventCall codec raw).complete (execNode num [] nowMs) s =
      (Data.taskUserData codec (sampleJsonStrGet raw (lit "object"))
        (sampleJsonStrGet raw (lit "data"))).complete (execNode num [] nowMs)
          (s.setChannel num (adopt channel fields)) := by
  unfold Data.subscriberEventCall
  rw [parsed, Prog.complete_bind, adoptFields_complete found, if_neg (by simpa using given),
    Option.bind_some]

/-- A text that is pushed to the unit of a session, and the reply address put in front. -/
structure Forwarded (zmqPushUrl text : Bytes) where
  utf8 : validUtf8 text = true
  first : ∀ c ∈ text.head?, c.toNat < 128
  action : Key text (lit "action")
  plain : ∀ c ∈ zmqPushUrl, isPlain c = true
  address : validUtf8 zmqPushUrl = true
  given : zmqPushUrl ≠ []

theorem Forwarded.validUtf8 {zmqPushUrl text : Bytes} (forwarded : Forwarded zmqPushUrl text) :
    validUtf8 (inferenceRawData zmqPushUrl text) = true := by
  have rest : VllmRoute.validUtf8 text.tail = true := by
    cases text with
    | nil => rfl
    | cons c rest => exact (validUtf8_split (a := []) (forwarded.first c rfl) forwarded.utf8).2
  exact validUtf8_append (validUtf8_append (validUtf8_append (validUtf8_lit _) forwarded.address)
    (validUtf8_lit _)) rest

/-- The session that `task_user_data` finds under a number. -/
def VllmLlm.sessionOf (s : VllmLlm) (num : Int) : Option SessionContext :=
  if s.sharedTask.isSome then s.sessions.lookup num else none

theorem inference_answers_iff (found : s.node.llmTaskChannel num = some channel)
    {zmqPushUrl text : Bytes} (forwarded : Forwarded zmqPushUrl text) :
    let raw := inferenceRawData zmqPushUrl text
    (∃ s', (Data.subscriberEventCall codec raw).complete (execNode num [] nowMs) s =
          some (false, s') ∧
        ∀ n, sampleGetWorkIdNum (sampleJsonStrGet raw (lit "work_id")) = some n →
          s.node.sessionOf n = none → ∃ m, s'.sent = s.sent ++ [m] ∧ m.errorCode ≠ 0) ↔
      ∃ n, sampleGetWorkIdNum (sampleJsonStrGet raw (lit "work_id")) = some n ∧
        (s.node.sessionOf n ≠ none → Bearable codec (sampleJsonStrGet raw (lit "object"))
          (sampleJsonStrGet raw (lit "data"))) := by
  intro raw
  have parsed := inferenceFields_zmqCom forwarded.plain forwarded.action
  rw [subscriberEventCall_complete found parsed forwarded.given]
  generalize adopted : adopt channel _ = channel'
  have here := s.setChannel_found num channel'
  have work : channel'.workId = sampleJsonStrGet raw (lit "work_id") := by
    rw [← adopted]
    rfl
  have answerable : Answerable channel' := by
    rw [← adopted]
    exact ⟨validUtf8_sampleJsonStrGet forwarded.validUtf8 _,
      validUtf8_sampleJsonStrGet forwarded.validUtf8 _, forwarded.given⟩
  rw [← work]
  cases number : sampleGetWorkIdNum channel'.workId with
  | none => simp [taskUserData_throws here number]
  | some n =>
    simp only [Option.some.injEq, forall_eq', exists_eq_left']
    cases searched : s.node.sessionOf n with
    | none =>
      rw [taskUserData_complete here number searched]
      simp only [refuse_complete here answerable]
      simp [DataNode.setChannel, refusal]
    | some session =>
      have task : s.node.sharedTask.isSome = true := by
        by_contra missing
        simp [VllmLlm.sessionOf, missing] at searched
      rw [taskUserData_complete here number searched]
      simp only [reduceCtorEq, false_implies, and_true, ne_eq, not_false_eq_true, true_implies]
      constructor
      · rintro ⟨s', returned⟩
        by_contra unbearable
        rw [sessionData_throws unbearable session] at returned
        cases returned
      · intro bearable
        obtain ⟨s', ends, _⟩ := sessionData_served here answerable task bearable session
        exact ⟨s', ends⟩

end Inference

/-- For every text of a client: a `taskinfo` or `exit` request is handled
without an exception, and answered with an error where there is no session, exactly if the
number of its work id can be read; a `taskinfo` without a number lists the sessions instead,
and an `exit` needs the channel of the session. An inference message needs a number too, and
a payload that the session bears. -/
theorem workId_answers_iff (codec : Codec) (env : Environment) (s : DataNode) (nowMs : Int) :
    (∀ zmqUrl raw, validUtf8 raw = true →
      ((∃ s', s.node.handle codec env ⟨.taskinfo, zmqUrl, raw⟩ = some s' ∧
          ∀ num, sampleGetWorkIdNum (sampleJsonStrGet raw (lit "work_id")) = some num →
            s.node.Answers s' num) ↔
        ∃ num, sampleGetWorkIdNum (sampleJsonStrGet raw (lit "work_id")) = some num ∧
          (num = workIdNone → s.node.hasSession num = true))) ∧
    (∀ zmqUrl raw, validUtf8 raw = true →
      ((∃ s', s.node.handle codec env ⟨.exit, zmqUrl, raw⟩ = some s' ∧
          ∀ num, sampleGetWorkIdNum (sampleJsonStrGet raw (lit "work_id")) = some num →
            s.node.Answers s' num) ↔
        ∃ num, sampleGetWorkIdNum (sampleJsonStrGet raw (lit "work_id")) = some num ∧
          (s.node.hasSession num = true → (s.node.llmTaskChannel num).isSome = true))) ∧
    ∀ num channel zmqPushUrl text, s.node.llmTaskChannel num = some channel →
      Forwarded zmqPushUrl text →
        let raw := inferenceRawData zmqPushUrl text
        ((∃ s', (Data.subscriberEventCall codec raw).complete (execNode num [] nowMs) s =
              some (false, s') ∧
            ∀ n, sampleGetWorkIdNum (sampleJsonStrGet raw (lit "work_id")) = some n →
              s.node.sessionOf n = none → ∃ m, s'.sent = s.sent ++ [m] ∧ m.errorCode ≠ 0) ↔
          ∃ n, sampleGetWorkIdNum (sampleJsonStrGet raw (lit "work_id")) = some n ∧
            (s.node.sessionOf n ≠ none → Bearable codec (sampleJsonStrGet raw (lit "object"))
              (sampleJsonStrGet raw (lit "data")))) :=
  ⟨fun zmqUrl _ text => s.node.taskinfo_answers_iff zmqUrl text,
    fun zmqUrl _ text => s.node.exit_answers_iff zmqUrl text,
    fun _ _ _ _ found forwarded => inference_answers_iff found forwarded⟩

/-- An exit for the session of `oneSession`, and the sample message for another node. -/
theorem workId_answers_iff_oneSession :
    (∃ s', oneSession.node.handle rejectAll {}
      ⟨.exit, VllmLlm.clientUrl, VllmLlm.requestText (lit "llm.1") (lit "exit") []⟩ = some s') ∧
    ∃ s', (Data.subscriberEventCall rejectAll
        (inferenceRawData replyUrl (message (lit "\x7b")))).complete (execNode 1 [] 0) oneSession =
      some (false, s') := by
  obtain ⟨_, exits, infers⟩ := workId_answers_iff rejectAll {} oneSession 0
  have number : sampleGetWorkIdNum (sampleJsonStrGet
      (VllmLlm.requestText (lit "llm.1") (lit "exit") []) (lit "work_id")) = some 1 := by
    decide +kernel
  obtain ⟨s', ends, _⟩ := (exits VllmLlm.clientUrl _ (by decide +kernel)).mpr
    ⟨1, number, fun _ => rfl⟩
  obtain ⟨channel, found, _⟩ := oneSession_answerable
  obtain ⟨s'', ends', _⟩ := (infers 1 channel replyUrl (message (lit "\x7b")) found
    ⟨by decide +kernel, by decide +kernel, messageAction _, by decide +kernel, by decide +kernel,
      by decide +kernel⟩).mpr ⟨1, by decide +kernel, fun _ => Or.inl (by decide +kernel)⟩
  exact ⟨⟨s', ends⟩, s'', ends'⟩

/-- With the work id `llm.x` both control requests end the event loop. -/
theorem workId_without_number_throws :
    (oneSession.node.handle rejectAll {}
        ⟨.taskinfo, VllmLlm.clientUrl,
          VllmLlm.requestText (lit "llm.x") (lit "taskinfo") []⟩).isNone = true ∧
      (oneSession.node.handle rejectAll {}
        ⟨.exit, VllmLlm.clientUrl,
          VllmLlm.requestText (lit "llm.x") (lit "exit") []⟩).isNone = true := by
  decide +kernel

end VllmRoute.Node
