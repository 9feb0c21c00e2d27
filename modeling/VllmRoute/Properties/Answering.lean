import VllmRoute.Access.Rpc

/-!
# Which texts are answered

For every text of a client: whether `unit_action_match` returns and sends
something, and whether an inference request that no unit takes and a control
request that no unit handles are refused.
-/
namespace VllmRoute.Access

open Lib

/-- The parser rejects text that is not UTF-8. -/
def Simdjson.Utf8 (simdjson : Simdjson) : Prop :=
  ∀ doc key value, (simdjson.getString doc key).1 = some value → validUtf8 value = true

theorem readMembers_utf8 {simdjson : Simdjson} (utf8 : simdjson.Utf8) {text : Bytes}
    {members : Members} (parsed : readMembers simdjson text = some members) :
    validUtf8 members.requestId = true ∧ validUtf8 members.unit = true := by
  simp only [readMembers, bind, Option.bind_eq_some_iff, pure, Option.some.injEq] at parsed
  obtain ⟨doc, _, requestId, request, workId, work, action, _, rfl⟩ := parsed
  refine ⟨utf8 _ _ _ request, ?_⟩
  unfold Members.unit
  split
  · exact validUtf8_lit "sys"
  · exact utf8 _ _ _ work

theorem Members.unit_ne_nil (members : Members) : members.unit ≠ [] := by
  unfold unit
  split
  · decide
  next some => simpa using some

/-- The first fragment is what stands before the first dot. -/
theorem workIdFragments_head (cs fragment : Bytes) :
    (workIdFragments cs fragment).headD [] = fragment ++ cs.takeWhile (· ≠ chr '.') := by
  induction cs generalizing fragment with
  | nil =>
    cases fragment <;> simp [workIdFragments]
  | cons c cs ih =>
    unfold workIdFragments
    split
    next other =>
      -- the character joins the fragment in progress
      rw [ih]
      simp [other]
    next dot =>
      have dot : c = chr '.' := by simpa using dot
      simp [dot]

theorem firstFragment_isEmpty_iff (members : Members) :
    ((workIdFragments members.unit []).headD []).isEmpty = true ↔
      members.unit.head? = some (chr '.') := by
  rw [workIdFragments_head]
  have := members.unit_ne_nil
  cases unit : members.unit with
  | nil => exact absurd unit this
  | cons c cs =>
    by_cases dot : c = chr '.' <;> simp [dot]

namespace Bus

/-- The `else` belongs to the logging, so the push reports success. -/
theorem zmqBusPublisherPush_eq (keySql : KeySql) (workId jsonStr : Bytes) (some : workId ≠ []) :
    zmqBusPublisherPush keySql workId jsonStr =
      (0, match safeReading keySql workId with
        | .some _ => [.published workId jsonStr]
        | none => []) := by
  have warns : logLevel ≥ sampleLogWarn := by decide
  cases found : safeReading keySql workId <;> simp [zmqBusPublisherPush, found, some, warns]

theorem published_iff_registered (keySql : KeySql) (workId jsonStr : Bytes) (some : workId ≠ []) :
    (zmqBusPublisherPush keySql workId jsonStr).2 = [.published workId jsonStr] ↔
      Registered keySql workId := by
  rw [zmqBusPublisherPush_eq keySql workId jsonStr some, Registered]
  cases safeReading keySql workId <;> simp

variable {bus : Bus} {comId : Int} {text : Bytes} {members : Members}

theorem handle_malformed (parsed : readMembers bus.simdjson text = none) :
    bus.handle comId text =
      some (false, [.reply (lit "0") (lit "sys") (-2) "json format error" comId]) := by
  simp [handle, unitActionMatch, parsed, Access.usrPrintError, Prog.perform, Prog.complete, exec,
    perform, usrPrintError]

theorem handle_inference (parsed : readMembers bus.simdjson text = some members)
    (inference : members.action = lit "inference") :
    bus.handle comId text = some (false, (zmqBusPublisherPush bus.keySql members.unit
      (inferenceRawData (bus.zmqCFormat comId) text)).2) := by
  have pushed := zmqBusPublisherPush_eq bus.keySql members.unit
    (inferenceRawData (bus.zmqCFormat comId) text) members.unit_ne_nil
  simp [handle, unitActionMatch, parsed, inference, Access.zmqBusPublisherPush, Prog.perform,
    Prog.complete, exec, perform, pushed, bind, Prog.bind, pure]

theorem handle_nameless (parsed : readMembers bus.simdjson text = some members)
    (control : members.action ≠ lit "inference")
    (nameless : members.unit.head? = some (chr '.')) :
    bus.handle comId text = some (false, []) := by
  have first := (firstFragment_isEmpty_iff members).mpr nameless
  simp only [handle, unitActionMatch, parsed, if_neg control, if_pos first]
  rfl

theorem handle_control (parsed : readMembers bus.simdjson text = some members)
    (control : members.action ≠ lit "inference")
    (named : members.unit.head? ≠ some (chr '.')) :
    bus.handle comId text =
      match bus.remoteCall comId text with
      | (none, sent) => some (true, sent)
      | (some ret, sent) =>
        if ret = 0 then some (false, sent)
        else
          let (thrown, reply) :=
            usrPrintError members.requestId members.unit (-9) "unit call false" comId
          some (thrown, sent ++ reply) := by
  have first : ¬ ((workIdFragments members.unit []).headD []).isEmpty = true :=
    fun empty => named ((firstFragment_isEmpty_iff members).mp empty)
  simp only [handle, unitActionMatch, parsed, if_neg control, if_neg first, Access.remoteCall,
    Prog.perform, bind, Prog.bind, Prog.complete, exec, perform, Option.bind_some, List.nil_append]
  rcases bus.remoteCall comId text with ⟨_ | ret, sent⟩
  · rfl
  · by_cases zero : ret = 0
    · simp [zero, Prog.complete, pure]
    · simp [zero, Access.usrPrintError, Prog.perform, Prog.complete, exec, perform]

/-! ### Every text is answered -/

/-- The texts that are answered: text without the three members, inference requests for a
registered unit, and other requests that name a unit and an action in both readings. -/
def Routable (bus : Bus) (text : Bytes) : Prop :=
  ∀ members, readMembers bus.simdjson text = some members →
    if members.action = lit "inference" then Registered bus.keySql members.unit
    else members.unit.head? ≠ some (chr '.') ∧ (remoteMembers bus.simdjson text).1 ≠ [] ∧
      (remoteMembers bus.simdjson text).2 ≠ []

theorem remoteCall_none_iff : (bus.remoteCall comId text).1 = none ↔
    (remoteMembers bus.simdjson text).1 = [] ∨ (remoteMembers bus.simdjson text).2 = [] := by
  unfold remoteCall
  dsimp only
  split
  next missing => simpa using missing
  next given => simpa using given

theorem remoteCall_sends {ret : Int} (called : (bus.remoteCall comId text).1 = some ret) :
    (bus.remoteCall comId text).2 ≠ [] := by
  unfold remoteCall at called ⊢
  dsimp only at called ⊢
  split at called
  · cases called
  next given => simp [given]

/-- For every text that a client sends: it is handled without an exception, and a unit is
sent the text, a unit is called or an error is sent back, exactly when it is
routable. -/
theorem answered_iff_routable (bus : Bus) (utf8 : bus.simdjson.Utf8) (comId : Int)
    (text : Bytes) :
    (∃ sent, bus.handle comId text = some (false, sent) ∧ sent ≠ []) ↔ bus.Routable text := by
  unfold Routable
  cases parsed : readMembers bus.simdjson text with
  | none => simp [handle_malformed parsed]
  | some members =>
    simp only [Option.some.injEq, forall_eq']
    by_cases inference : members.action = lit "inference"
    · -- the push answers nobody when the unit is missing
      rw [handle_inference parsed inference, if_pos inference, Registered,
        zmqBusPublisherPush_eq _ _ _ members.unit_ne_nil]
      cases safeReading bus.keySql members.unit <;> simp
    · rw [if_neg inference]
      by_cases nameless : members.unit.head? = some (chr '.')
      · simp [handle_nameless parsed inference nameless, nameless]
      · rw [handle_control parsed inference nameless]
        have throws := @remoteCall_none_iff bus comId text
        obtain ⟨valid, valid'⟩ := readMembers_utf8 utf8 parsed
        rcases called : bus.remoteCall comId text with ⟨_ | ret, sent⟩
        · -- the exception of `remote_call` is not caught
          simp only [called, true_iff] at throws
          simp only [Option.some.injEq, Prod.mk.injEq, Bool.true_eq_false, false_and, exists_false,
            false_iff]
          tauto
        · simp only [called, reduceCtorEq, false_iff, not_or] at throws
          have some : sent ≠ [] := by
            have sends := @remoteCall_sends bus comId text ret (by rw [called])
            rwa [called] at sends
          by_cases zero : ret = 0 <;>
            simp [zero, usrPrintError, valid, valid', some, nameless, throws]

end Bus

/-- The parser has read these members, the units of the registry answer their calls. -/
def sampleBus (workId action : String) (keySql : KeySql) : Bus where
  simdjson := tableParser (lit "1") (lit workId) (lit action)
  zmqCFormat := fun comId => zmqFormatHead ++ (decimal comId ++ zmqFormatTail)
  keySql := keySql
  callRpcAction := fun _ _ _ => 0

theorem sampleBus_utf8 (workId action : String) (keySql : KeySql) :
    (sampleBus workId action keySql).simdjson.Utf8 := by
  intro _ key value found
  simp only [sampleBus, tableParser] at found
  split at found
  · cases found
    exact validUtf8_lit "1"
  · split at found
    · cases found
      exact validUtf8_lit workId
    · split at found
      · cases found
        exact validUtf8_lit action
      · cases found

def exitMessage : Bytes :=
  lit "\x7b\"request_id\": \"1\", \"work_id\": \"llm.1\", \"action\": \"exit\"\x7d"

/-- An `exit` request is passed on to its unit. -/
theorem answered_iff_routable_exit : ∃ sent,
    (sampleBus "llm.1" "exit" fun _ => none).handle 8000 exitMessage = some (false, sent) ∧
      sent ≠ [] := by
  refine (Bus.answered_iff_routable _ (sampleBus_utf8 _ _ _) 8000 exitMessage).mpr ?_
  intro members parsed
  have read : readMembers (sampleBus "llm.1" "exit" fun _ => none).simdjson exitMessage =
      some ⟨lit "1", lit "llm.1", lit "exit"⟩ := by decide +kernel
  rw [read, Option.some.injEq] at parsed
  subst parsed
  decide +kernel

def setupMessage : Bytes :=
  lit "\x7b\"request_id\": \"1\", \"work_id\": \"\", \"action\": \"setup\"\x7d"

/-- `unit_action_match` takes an empty `work_id` for `sys`, and `remote_call` throws. -/
theorem empty_work_id_throws :
    (sampleBus "" "setup" fun _ => none).simdjson.Utf8 ∧
      (sampleBus "" "setup" fun _ => none).handle 8000 setupMessage = some (true, []) :=
  ⟨sampleBus_utf8 _ _ _, by decide +kernel⟩

/-! ### Inference requests that no unit takes -/

namespace Bus

/-- For every registry and every inference message: the push reports success exactly if
the unit is registered and was sent the message, and the client is sent one
error if it is not and none if it is, exactly when the unit is registered. -/
theorem refused_iff_registered (bus : Bus) (comId : Int) (text : Bytes) (members : Members)
    (parsed : readMembers bus.simdjson text = some members)
    (inference : members.action = lit "inference") :
    (((zmqBusPublisherPush bus.keySql members.unit
          (inferenceRawData (bus.zmqCFormat comId) text)).1 = 0 ↔
        Registered bus.keySql members.unit ∧
          (zmqBusPublisherPush bus.keySql members.unit
              (inferenceRawData (bus.zmqCFormat comId) text)).2 =
            [.published members.unit (inferenceRawData (bus.zmqCFormat comId) text)]) ∧
      ∃ sent, bus.handle comId text = some (false, sent) ∧
        (Registered bus.keySql members.unit → sent.count (.reply members.requestId members.unit
          (-4) "inference data push false" comId) = 0) ∧
        (¬ Registered bus.keySql members.unit → sent.count (.reply members.requestId members.unit
          (-4) "inference data push false" comId) = 1)) ↔
      Registered bus.keySql members.unit := by
  have published := published_iff_registered bus.keySql members.unit
    (inferenceRawData (bus.zmqCFormat comId) text) members.unit_ne_nil
  have zero : (zmqBusPublisherPush bus.keySql members.unit
      (inferenceRawData (bus.zmqCFormat comId) text)).1 = 0 := by
    rw [zmqBusPublisherPush_eq _ _ _ members.unit_ne_nil]
  constructor
  · -- success is reported in any case, so it can only be right for a registered unit
    rintro ⟨returned, _⟩
    exact (returned.mp zero).1
  · intro registered
    refine ⟨iff_of_true zero ⟨registered, published.mpr registered⟩, _,
      handle_inference parsed inference, fun _ => ?_, fun absent => absurd registered absent⟩
    rw [published.mpr registered]
    exact List.count_eq_zero.mpr (by simp)

end Bus

/-- The registry with one unit. -/
def oneUnit : KeySql := (({} : UnitManager).sysAllocateUnit (lit "llm")).2.keySql

def askMessage (workId : String) : Bytes :=
  lit "\x7b\"request_id\": \"1\", \"work_id\": \"" ++ lit workId ++
    lit "\", \"action\": \"inference\"\x7d"

/-- A registered unit is sent the request. -/
theorem refused_iff_registered_unit :
    ∃ sent, (sampleBus "llm.0" "inference" oneUnit).handle 8000 (askMessage "llm.0") =
        some (false, sent) ∧
      sent.count (.reply (lit "1") (lit "llm.0") (-4) "inference data push false" 8000) = 0 := by
  have registered : Registered oneUnit (lit "llm.0") := by decide +kernel
  obtain ⟨_, sent, handled, none, _⟩ :=
    (Bus.refused_iff_registered (sampleBus "llm.0" "inference" oneUnit) 8000 (askMessage "llm.0")
      ⟨lit "1", lit "llm.0", lit "inference"⟩ (by decide +kernel) rfl).mpr registered
  exact ⟨sent, handled, none registered⟩

/-- A request for a unit that was never set up is not answered. -/
theorem unregistered_inference_unanswered :
    readMembers (sampleBus "llm.7" "inference" oneUnit).simdjson (askMessage "llm.7") =
      some ⟨lit "1", lit "llm.7", lit "inference"⟩ ∧
    ¬ Registered oneUnit (lit "llm.7") ∧
    (Bus.zmqBusPublisherPush oneUnit (lit "llm.7") (askMessage "llm.7")).1 = 0 ∧
    (sampleBus "llm.7" "inference" oneUnit).handle 8000 (askMessage "llm.7") = some (false, []) :=
  ⟨by decide +kernel, by decide +kernel, by decide +kernel, by decide +kernel⟩

/-! ### Control requests that no unit handles -/

def Sent.isReply : Sent → Bool
  | .reply .. => true
  | _ => false

namespace Bus

/-- `remote_call` returns an error, and the client gets one reply, which says so. -/
def Refused (bus : Bus) (comId : Int) (text : Bytes) (members : Members) : Prop :=
  ∃ ret sent, (bus.remoteCall comId text).1 = some ret ∧ ret ≠ 0 ∧
    bus.handle comId text = some (false, sent) ∧
    sent.filter Sent.isReply =
      [.reply members.requestId members.unit (-9) "unit call false" comId]

/-- The unit that `remote_call` calls. -/
def calledUnit (bus : Bus) (text : Bytes) : Bytes :=
  (remoteMembers bus.simdjson text).1.takeWhile (· ≠ chr '.')

/-- What is returned comes from the making of the socket alone. -/
theorem remoteCall_through (bus : Bus) (sockets : Sockets) (comId : Int) (text : Bytes) :
    ((bus.through sockets).remoteCall comId text).1 =
        (if (remoteMembers bus.simdjson text).1 = [] ∨ (remoteMembers bus.simdjson text).2 = []
          then none else some (sockets.creat (bus.calledUnit text))) ∧
      ((bus.through sockets).remoteCall comId text).2.filter Sent.isReply = [] := by
  unfold remoteCall
  dsimp only [through]
  split
  next missing =>
    have missing : (remoteMembers bus.simdjson text).1 = [] ∨
        (remoteMembers bus.simdjson text).2 = [] := by simpa using missing
    rw [if_pos missing]
    exact ⟨rfl, rfl⟩
  next given =>
    have given : ¬ ((remoteMembers bus.simdjson text).1 = [] ∨
        (remoteMembers bus.simdjson text).2 = []) := by simpa using given
    rw [if_neg given]
    exact ⟨congrArg some (sockets.callRpcAction_fst _ _ _), rfl⟩

/-- For every control message whose unit is there but does not handle it: the unit's answer
is that there is no such action, or none, and `remote_call` fails and the client
is sent the error exactly when no socket could be made for the call. -/
theorem unhandled_refused_iff (bus : Bus) (utf8 : bus.simdjson.Utf8) (sockets : Sockets)
    (comId : Int) (text : Bytes) (members : Members)
    (parsed : readMembers bus.simdjson text = some members)
    (control : members.action ≠ lit "inference")
    (unhandled : sockets.Unhandled (members.unit.takeWhile (· ≠ chr '.')) members.action) :
    (members.action ≠ [] → ∀ data,
      (sockets.callRpcAction (members.unit.takeWhile (· ≠ chr '.')) members.action data).2 ∈
        [none, some (lit "NotAction")]) ∧
    ((bus.through sockets).Refused comId text members ↔
      members.unit.head? ≠ some (chr '.') ∧ (remoteMembers bus.simdjson text).1 ≠ [] ∧
        (remoteMembers bus.simdjson text).2 ≠ [] ∧ sockets.creat (bus.calledUnit text) ≠ 0) := by
  refine ⟨fun named data => by simpa using unhandled.received named data, ?_⟩
  have parsed' : readMembers (bus.through sockets).simdjson text = some members := parsed
  obtain ⟨returned, silent⟩ := bus.remoteCall_through sockets comId text
  obtain ⟨valid, valid'⟩ := readMembers_utf8 utf8 parsed
  by_cases nameless : members.unit.head? = some (chr '.')
  · -- nothing is called, and nobody is told
    simp [Refused, handle_nameless parsed' control nameless, nameless]
  · unfold Refused
    rw [handle_control parsed' control nameless]
    rcases called : (bus.through sockets).remoteCall comId text with ⟨_ | ret, sent⟩
    · -- the exception of `remote_call` leaves `unit_action_match`
      rw [called] at returned
      have missing : (remoteMembers bus.simdjson text).1 = [] ∨
          (remoteMembers bus.simdjson text).2 = [] := by
        by_contra given
        rw [if_neg given] at returned
        cases returned
      simp only [reduceCtorEq, false_and, exists_false, false_iff]
      tauto
    · rw [called] at returned silent
      have given : ¬ ((remoteMembers bus.simdjson text).1 = [] ∨
          (remoteMembers bus.simdjson text).2 = []) := by
        intro missing
        rw [if_pos missing] at returned
        cases returned
      rw [if_neg given, Option.some.injEq] at returned
      subst returned
      by_cases made : sockets.creat (bus.calledUnit text) = 0
      · simp [made]
      · simp [made, usrPrintError, valid, valid', silent, Sent.isReply, nameless, not_or.mp given]

end Bus

/-- A unit `llm` that has no actions. `file` says that its socket is in the file system. -/
def idleUnit (file : Bool) : Sockets where
  access := fun _ => file
  zmqConnect := fun _ => 0
  server := fun url => if url = lit "ipc:///tmp/rpc.llm" then some ⟨fun _ => none⟩ else none
  inTime := fun _ _ => true

theorem idleUnit_unhandled (file : Bool) (action : Bytes) :
    (idleUnit file).Unhandled (lit "llm") action := by
  have url : cString (rpcUrl (lit "llm")) = lit "ipc:///tmp/rpc.llm" := by decide +kernel
  exact ⟨⟨fun _ => none⟩, by simp [idleUnit, url], Or.inl rfl⟩

def danceMessage : Bytes :=
  lit "\x7b\"request_id\": \"1\", \"work_id\": \"llm.1\", \"action\": \"dance\"\x7d"

/-- The socket of the unit has been removed under it. -/
theorem unhandled_refused_iff_removed :
    ((sampleBus "llm.1" "dance" fun _ => none).through (idleUnit false)).Refused 8000 danceMessage
      ⟨lit "1", lit "llm.1", lit "dance"⟩ := by
  refine (Bus.unhandled_refused_iff _ (sampleBus_utf8 _ _ _) (idleUnit false) 8000 danceMessage
    ⟨lit "1", lit "llm.1", lit "dance"⟩ (by decide +kernel) (by decide +kernel) ?_).2.mpr ?_
  · exact idleUnit_unhandled false (lit "dance")
  · decide +kernel

/-- The unit answers that it has no such action, and the client is not told. -/
theorem unknown_action_unanswered :
    (idleUnit true).Unhandled (lit "llm") (lit "dance") ∧
    ((idleUnit true).callRpcAction (lit "llm") (lit "dance")
      (setParam ((sampleBus "llm.1" "dance" fun _ => none).zmqCFormat 8000) danceMessage)) =
        (0, some (lit "NotAction")) ∧
    ((sampleBus "llm.1" "dance" fun _ => none).through (idleUnit true)).handle 8000 danceMessage =
      some (false, [.rpc (lit "llm") (lit "dance")
        (setParam ((sampleBus "llm.1" "dance" fun _ => none).zmqCFormat 8000) danceMessage)]) :=
  ⟨idleUnit_unhandled true (lit "dance"), by decide +kernel, by decide +kernel⟩

end VllmRoute.Access
