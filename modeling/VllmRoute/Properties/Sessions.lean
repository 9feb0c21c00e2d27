import Mathlib.Order.BooleanAlgebra.Set
import VllmRoute.Lib.Run
import VllmRoute.Node.Control

/-!
# Sessions, channels and units

Three maps are keyed by the same ids: the sessions of `vllm_llm`, the channels of
`StackFlow`, and the units in the registry of the unit manager. Over the three
stands one set of ids: a setup that succeeds adds its number, an exit takes one
out, and what fails leaves the set alone. The maps keep to it as long as each
setup finds two free ports and a number that is not in use.
-/
namespace VllmRoute.Node

open Lib Access Channel Scheduler

namespace VllmLlm

/-- The ids of the sessions, and those of the channels and the registered units. -/
structure Holds (s : VllmLlm) (sessions held : Set Int) : Prop where
  sessions : ∀ n, s.hasSession n = true ↔ n ∈ sessions
  channels : ∀ n, (s.llmTaskChannel n).isSome = true ↔ n ∈ held
  units : ∀ key, Registered s.manager.keySql key ↔ ∃ n ∈ held, key = sampleGetWorkId n

/-- One set of ids stands in the three places. -/
def Agree (s : VllmLlm) : Prop := ∃ ids, s.Holds ids ids

/-- The handling of a message of the event loop; without a result the thread crashed. -/
def handle (codec : Codec) (env : Environment) (s : VllmLlm) (message : Request EventKind) :
    Option VllmLlm :=
  match (handleEvent codec message).complete (execControl env {}) s with
  | some (false, s') => some s'
  | _ => none

/-- A setup that finds two free ports and an unused number, or an exit with a canonical
work id. -/
def Admits (s : VllmLlm) (message : Request EventKind) : Prop :=
  match message.kind with
  | .setup => 2 ≤ s.manager.portList.count false ∧
      ¬ Registered s.manager.keySql (sampleGetWorkId s.manager.workIdNumberCounter)
  | .exit => ∃ n, intMin ≤ n ∧ n ≤ intMax ∧
      sampleJsonStrGet message.raw (lit "work_id") = sampleGetWorkId n
  | _ => False

/-- The ids with the replies sent so far. -/
structure Tracks (s : VllmLlm) (sent : List (Address × Reply)) (sessions held : Set Int) : Prop
    extends s.Holds sessions held where
  sent : s.sent = sent
  configured : s.manager.Configured

/-! ### What the operations do to the ids -/

namespace Tracks

variable {s s' : VllmLlm} {sent : List (Address × Reply)} {sessions held : Set Int}

theorem congr (tracks : s.Tracks sent sessions held) (sameSessions : s'.sessions = s.sessions)
    (sameChannels : ∀ n, (s'.llmTaskChannel n).isSome = (s.llmTaskChannel n).isSome)
    (sameManager : s'.manager = s.manager) (sameSent : s'.sent = s.sent) :
    s'.Tracks sent sessions held where
  sessions n := by
    rw [← tracks.sessions n, hasSession, hasSession, sameSessions]
  channels n := by
    rw [sameChannels, tracks.channels n]
  units key := by
    rw [sameManager, tracks.units key]
  sent := sameSent.trans tracks.sent
  configured := sameManager ▸ tracks.configured

theorem reply (tracks : s.Tracks sent sessions held) (reply : Address × Reply) :
    { s with sent := s.sent ++ [reply] }.Tracks (sent ++ [reply]) sessions held where
  sessions := tracks.sessions
  channels := tracks.channels
  units := tracks.units
  sent := congrArg (· ++ [reply]) tracks.sent
  configured := tracks.configured

theorem updateChannel (tracks : s.Tracks sent sessions held) (num : Int)
    (f : LlmChannelObj → LlmChannelObj) :
    (s.updateChannel num f).2.Tracks sent sessions held := by
  have channels (n : Int) :
      ((s.updateChannel num f).2.llmTaskChannel n).isSome = (s.llmTaskChannel n).isSome := by
    rw [updateChannel_channel]
    by_cases same : n = num
    · simp [same]
    · simp [same]
  unfold VllmLlm.updateChannel at channels ⊢
  cases found : s.llmTaskChannel num with
  | none => exact tracks
  | some channel =>
    simp only [found] at channels
    exact tracks.congr rfl channels rfl rfl

theorem updateChannel_found (tracks : s.Tracks sent sessions held) {num : Int} (here : num ∈ held)
    (f : LlmChannelObj → LlmChannelObj) : (s.updateChannel num f).1 = true := by
  obtain ⟨channel, found⟩ := Option.isSome_iff_exists.mp ((tracks.channels num).mpr here)
  simp [VllmLlm.updateChannel, found]

/-- `sys_register_unit` -/
theorem register (tracks : s.Tracks sent sessions held)
    (roomy : 2 ≤ s.manager.portList.count false) :
    ∃ s', s.registerUnit = (s.manager.workIdNumberCounter, s') ∧
      VllmLlm.Tracks { s' with
          llmTaskChannel :=
            Function.update s'.llmTaskChannel s.manager.workIdNumberCounter (some {}) }
        sent sessions (insert s.manager.workIdNumberCounter held) := by
  obtain ⟨unitP, m', allocated, configured, port, registered⟩ :=
    UnitManager.sysAllocateUnit_spec tracks.configured roomy unitName
  refine ⟨{ s with manager := m' }, ?_, ⟨tracks.sessions, fun n => ?_, fun key => ?_⟩,
    tracks.sent, configured⟩
  · simp only [registerUnit, allocated, port]
  · by_cases same : n = s.manager.workIdNumberCounter
    · simp [same]
    · simp [same, tracks.channels n]
  · -- the second key of the allocation is the one of an output port, which is no work id
    refine (registered key).trans ?_
    change key = sampleGetWorkId _ ∨ key ≠ UnitManager.outPortKey (sampleGetWorkId _) ∧ _ ↔ _
    rw [Set.exists_mem_insert, tracks.units key]
    refine or_congr_right ⟨And.right, ?_⟩
    rintro ⟨n, member, rfl⟩
    exact ⟨(outPortKey_ne_sampleGetWorkId _ n).symm, n, member, rfl⟩

/-- `sys_release_unit` -/
theorem release (tracks : s.Tracks sent sessions held) (num : Int) :
    VllmLlm.Tracks { s.releaseUnit (sampleGetWorkId num) with
        llmTaskChannel := Function.update s.llmTaskChannel num none }
      sent sessions (held \ {num}) where
  sessions := tracks.sessions
  channels n := by
    by_cases same : n = num
    · simp [same]
    · simp [same, tracks.channels n]
  units key := by
    refine (UnitManager.registered_sysReleaseUnit _ key).trans ?_
    rw [tracks.units key]
    constructor
    · rintro ⟨⟨n, member, rfl⟩, other, _⟩
      exact ⟨n, ⟨member, fun same => other (congrArg sampleGetWorkId same)⟩, rfl⟩
    · rintro ⟨n, ⟨member, other⟩, rfl⟩
      exact ⟨⟨n, member, rfl⟩, fun same => other (sampleGetWorkId_injective same),
        fun _ => (outPortKey_ne_sampleGetWorkId num n).symm⟩
  sent := tracks.sent
  configured := UnitManager.sysReleaseUnit_configured tracks.configured _

/-- The critical section of `vllm_llm::setup` with a new number. -/
theorem admitted (tracks : s.Tracks sent sessions held) (env : Environment) (num : Int)
    (session : SessionContext) (configBody : Json) :
    (∃ code message, s.admitSession env num session configBody = (some (code, message), s) ∧
      code ≠ 0) ∨
    ∃ s', s.admitSession env num session configBody = (none, s') ∧
      s'.Tracks sent (insert num sessions) held := by
  -- the two ways in differ only in the shared task
  have added (task : Option Pool) :
      ({ s with sharedTask := task }.addSession num session).Tracks sent (insert num sessions)
        held :=
    { sessions := fun n => by
        rw [Set.mem_insert_iff, ← tracks.sessions n, hasSession_iff, hasSession_iff]
        simp [addSession, exists_or, or_comm]
      channels := tracks.channels
      units := tracks.units
      sent := tracks.sent
      configured := tracks.configured }
  unfold admitSession
  split
  · exact Or.inl ⟨_, _, rfl, by decide⟩
  · split
    · exact Or.inl ⟨_, _, rfl, by decide⟩
    · split
      next shared =>
        refine Or.inr ⟨_, rfl, ?_⟩
        exact added s.sharedTask
      next =>
        split
        · exact Or.inl ⟨_, _, rfl, by decide⟩
        next task _ => exact Or.inr ⟨_, rfl, added (some task)⟩

/-- The critical section of `vllm_llm::exit`. -/
theorem eraseSession (tracks : s.Tracks sent sessions held) (num : Int) :
    (s.eraseSession num).2.Tracks sent (sessions \ {num}) held := by
  unfold VllmLlm.eraseSession
  split
  next found =>
    refine ⟨⟨fun n => ?_, tracks.channels, tracks.units⟩, tracks.sent, tracks.configured⟩
    rw [Set.mem_sdiff, ← tracks.sessions n, hasSession_iff, hasSession_iff]
    simp
  next missing =>
    -- without the session nothing is erased, and the set does not change either
    have absent : num ∉ sessions := fun member => missing ((tracks.sessions num).mpr member)
    rw [Set.sdiff_singleton_eq_self absent]
    exact tracks

end Tracks

end VllmLlm

/-! ### What the handlers do to the ids -/

section Handlers

variable {codec : Codec} {env : Environment} {arrival : Arrival} {α : Type} {s : VllmLlm}
  {sent : List (Address × Reply)} {ids sessions held : Set Int} {num : Int}

/-- One operation, and what follows it. -/
theorem completes_ask {post : α → VllmLlm → Prop} {o : ControlOp} {f : o.Resp → ControlCode α}
    {r : o.Resp} {s' : VllmLlm} (performed : performControl env arrival s o = (r, s'))
    (next : (f r).Completes (execControl env arrival) post s') :
    (ask o >>= f).Completes (execControl env arrival) post s :=
  ⟨r, s', congrArg some performed, next⟩

/-- The reply to a message, with the ids after it. -/
def Replied (sent : List (Address × Reply)) (code : Int) (workId : Bytes) (sessions held : Set Int)
    (s : VllmLlm) : Prop :=
  ∃ address reply, s.Tracks (sent ++ [(address, reply)]) sessions held ∧ reply.code = code ∧
    reply.workId = workId

theorem send_completes (tracks : s.Tracks sent sessions held) (reply : Reply) :
    (send reply).Completes (execControl env arrival)
      (fun _ => Replied sent reply.code reply.workId sessions held) s :=
  completes_ask rfl ⟨s.address, reply, tracks.reply _, rfl, rfl⟩

/-- `vllm_llm::setup` of a number that has its channel and its unit. -/
theorem vllmSetup_completes (tracks : s.Tracks sent sessions (insert num held))
    (low : intMin ≤ num) (high : num ≤ intMax) (data : Bytes) :
    (vllmSetup codec (sampleGetWorkId num) data).Completes (execControl env arrival)
      (fun ret s' =>
        (ret = some 0 ∧
          Replied sent 0 (sampleGetWorkId num) (insert num sessions) (insert num held) s') ∨
        ∃ failure code, ret = some failure ∧ failure ≠ 0 ∧ code ≠ 0 ∧
          Replied sent code (sampleGetWorkId num) sessions (insert num held) s') s := by
  unfold vllmSetup
  rw [sampleGetWorkIdNum_sampleGetWorkId low high]
  dsimp only
  cases codec.parse data with
  | error _ =>
    refine (send_completes tracks _).bind fun _ s' replied => ?_
    exact Or.inr ⟨-2, -2, rfl, by decide, by decide, replied⟩
  | ok configBody =>
    rcases tracks.admitted env num (makeSessionContext num (sampleGetWorkId num) configBody)
      configBody with ⟨code, message, refused, nonzero⟩ | ⟨s₁, admitted, tracks₁⟩
    · refine completes_ask refused ?_
      refine (send_completes tracks _).bind fun _ s' replied => ?_
      exact Or.inr ⟨-1, code, rfl, by decide, nonzero, replied⟩
    · refine completes_ask admitted ?_
      -- the channel was made before
      have found := tracks₁.updateChannel_found (Set.mem_insert num held)
      refine completes_ask (Prod.ext (found _) rfl) ?_
      refine (send_completes (tracks₁.updateChannel num _) _).bind fun _ s' replied => ?_
      exact Or.inl ⟨rfl, replied⟩

theorem sysReleaseUnit_completes (tracks : s.Tracks sent sessions held) (low : intMin ≤ num)
    (high : num ≤ intMax) (workIdNum : Int) :
    (sysReleaseUnit workIdNum (sampleGetWorkId num)).Completes (execControl env arrival)
      (fun thrown s' => thrown = false ∧ s'.Tracks sent sessions (held \ {num})) s := by
  unfold sysReleaseUnit
  rw [if_neg (by rw [sampleGetWorkId_isEmpty]; exact Bool.false_ne_true),
    sampleGetWorkIdNum_sampleGetWorkId low high]
  exact completes_ask rfl (completes_ask rfl ⟨rfl, tracks.release num⟩)

/-- `StackFlow::setup` takes back what it did before the session was refused. -/
theorem setup_completes (tracks : s.Tracks sent ids ids)
    (roomy : 2 ≤ s.manager.portList.count false)
    (unused : s.manager.workIdNumberCounter ∉ ids) (zmqUrl raw : Bytes) :
    (setup codec zmqUrl raw).Completes (execControl env arrival)
      (fun thrown s' => thrown = false ∧ ∃ num code,
        (code = 0 ∧ Replied sent 0 (sampleGetWorkId num) (insert num ids) (insert num ids) s') ∨
        (code ≠ 0 ∧ Replied sent code (sampleGetWorkId num) ids ids s')) s := by
  obtain ⟨s₁, registered, tracks₁⟩ := tracks.register roomy
  have low := tracks.configured.low
  have high := tracks.configured.high
  refine completes_ask registered (completes_ask rfl (completes_ask rfl (completes_ask rfl ?_)))
  -- the fields of the new channel are filled in before `vllm_llm::setup`
  have ready := (tracks₁.updateChannel s.manager.workIdNumberCounter
    ({ · with outputUrl := zmqUrl })).updateChannel s.manager.workIdNumberCounter
      ({ · with
          requestId := sampleJsonStrGet raw (lit "request_id")
          workId := sampleGetWorkId s.manager.workIdNumberCounter })
  refine (vllmSetup_completes ready low high _).bind fun ret s₂ outcome => ?_
  rcases outcome with ⟨rfl, replied⟩ | ⟨failure, code, rfl, failed, nonzero, replied⟩
  · exact ⟨rfl, _, 0, Or.inl ⟨rfl, replied⟩⟩
  · -- the refusal is answered first, then the channel and the unit are released
    obtain ⟨address, reply, tracks₂, codeEq, workIdEq⟩ := replied
    dsimp only
    rw [if_pos failed]
    refine (sysReleaseUnit_completes tracks₂ low high _).mono ?_
    rintro thrown s₃ ⟨rfl, tracks₃⟩
    rw [Set.insert_sdiff_self_of_notMem unused] at tracks₃
    exact ⟨rfl, _, code, Or.inr ⟨nonzero, address, reply, tracks₃, codeEq, workIdEq⟩⟩

theorem tryPushUrl_completes (tracks : s.Tracks sent sessions held) (zmqUrl workId : Bytes) :
    (tryPushUrl zmqUrl workId).Completes (execControl env arrival)
      (fun _ s' => s'.Tracks sent sessions held) s := by
  unfold tryPushUrl
  cases sampleGetWorkIdNum workId with
  | none => exact tracks
  | some num => exact completes_ask rfl (tracks.updateChannel num _)

theorem vllmExit_completes (tracks : s.Tracks sent ids ids) (low : intMin ≤ num)
    (high : num ≤ intMax) :
    (vllmExit (sampleGetWorkId num)).Completes (execControl env arrival)
      (fun ret s' =>
        (ret = some 0 ∧ Replied sent 0 (sampleGetWorkId num) (ids \ {num}) ids s') ∨
        (ret = some (-1) ∧ Replied sent (-6) (sampleGetWorkId num) ids ids s')) s := by
  unfold vllmExit
  rw [sampleGetWorkIdNum_sampleGetWorkId low high]
  by_cases member : num ∈ ids
  · -- the session goes here, the channel and the unit only after the reply
    have erased := tracks.eraseSession num
    have present : (s.eraseSession num).1 = true := by
      simp [VllmLlm.eraseSession, (tracks.sessions num).mpr member]
    refine completes_ask (Prod.ext present rfl) ?_
    refine completes_ask (Prod.ext (erased.updateChannel_found member _) rfl) ?_
    refine (send_completes (erased.updateChannel num _) _).bind fun _ s' replied => ?_
    exact Or.inl ⟨rfl, replied⟩
  · have missing : s.hasSession num = false := by
      rw [← Bool.not_eq_true, tracks.sessions num]
      exact member
    have absent : s.eraseSession num = (false, s) := by simp [VllmLlm.eraseSession, missing]
    refine completes_ask absent ?_
    refine (send_completes tracks _).bind fun _ s' replied => ?_
    exact Or.inr ⟨rfl, replied⟩

/-- `StackFlow::exit` with a canonical work id. -/
theorem exit_completes (tracks : s.Tracks sent ids ids) (low : intMin ≤ num) (high : num ≤ intMax)
    (zmqUrl : Bytes) {raw : Bytes}
    (canonical : sampleJsonStrGet raw (lit "work_id") = sampleGetWorkId num) :
    (exit zmqUrl raw).Completes (execControl env arrival)
      (fun thrown s' => thrown = false ∧ ∃ code ids',
        Replied sent code (sampleGetWorkId num) ids' ids' s') s := by
  unfold exit
  rw [canonical]
  refine (tryPushUrl_completes tracks zmqUrl _).bind fun _ s₁ tracks₁ => ?_
  refine (vllmExit_completes tracks₁ low high).bind fun ret s₂ outcome => ?_
  rcases outcome with ⟨rfl, address, reply, tracks₂, codeEq, workIdEq⟩ | ⟨rfl, replied⟩
  · refine (sysReleaseUnit_completes tracks₂ low high (-1)).mono ?_
    rintro thrown s₃ ⟨rfl, tracks₃⟩
    exact ⟨rfl, 0, ids \ {num}, address, reply, tracks₃, codeEq, workIdEq⟩
  · exact ⟨rfl, -6, ids, replied⟩

end Handlers

/-! ### Whole runs -/

namespace VllmLlm

variable {codec : Codec} {env : Environment} {s : VllmLlm}

/-- What the answer to a setup says about the ids before and after it. -/
def Faithful (message : Request EventKind) (s s' : VllmLlm) (reply : Reply) : Prop :=
  message.kind = .setup →
    if reply.code = 0 then Registered s'.manager.keySql reply.workId
    else ∀ ids, s.Holds ids ids → s'.Holds ids ids

theorem Holds.eq {ids ids' : Set Int} (holds : s.Holds ids ids) (holds' : s.Holds ids' ids') :
    ids = ids' :=
  Set.ext fun n => (holds.sessions n).symm.trans (holds'.sessions n)

/-- The address is written before the handler goes on. -/
theorem Tracks.adopt {sent : List (Address × Reply)} {ids : Set Int}
    (tracks : s.Tracks sent ids ids)
    (requestId zmqUrl : Bytes) :
    { s with address := ⟨requestId, zmqUrl⟩ }.Tracks sent ids ids :=
  tracks.congr rfl (fun _ => rfl) rfl rfl

theorem handle_of_completes {post : VllmLlm → Prop} {message : Request EventKind}
    (completes : (handleEvent codec message).Completes (execControl env {})
      (fun thrown s' => thrown = false ∧ post s') s) :
    ∃ s', s.handle codec env message = some s' ∧ post s' := by
  obtain ⟨thrown, s', ends, rfl, holds⟩ := completes.complete
  exact ⟨s', by rw [handle, ends], holds⟩

/-- The answer to an admitted message. -/
theorem handle_spec {sent : List (Address × Reply)} {ids : Set Int} {message : Request EventKind}
    (tracks : s.Tracks sent ids ids) (admitted : s.Admits message) :
    ∃ s', s.handle codec env message = some s' ∧ ∃ address reply ids',
      s'.Tracks (sent ++ [(address, reply)]) ids' ids' ∧ Faithful message s s' reply := by
  apply handle_of_completes
  obtain ⟨kind, zmqUrl, raw⟩ := message
  cases kind with
  | setup =>
    obtain ⟨roomy, unused⟩ := admitted
    have new : s.manager.workIdNumberCounter ∉ ids := fun member =>
      unused ((tracks.units _).mpr ⟨_, member, rfl⟩)
    refine completes_ask rfl (completes_ask rfl ?_)
    refine (setup_completes (tracks.adopt _ zmqUrl) roomy new zmqUrl raw).mono ?_
    rintro thrown s' ⟨rfl, num, code, outcome⟩
    refine ⟨rfl, ?_⟩
    rcases outcome with ⟨rfl, replied⟩ | ⟨nonzero, replied⟩
    · obtain ⟨address, reply, tracks', codeEq, workIdEq⟩ := replied
      refine ⟨address, reply, _, tracks', fun _ => ?_⟩
      rw [if_pos codeEq, workIdEq]
      exact (tracks'.units _).mpr ⟨num, Set.mem_insert num ids, rfl⟩
    · obtain ⟨address, reply, tracks', codeEq, _⟩ := replied
      refine ⟨address, reply, _, tracks', fun _ => ?_⟩
      rw [if_neg (codeEq ▸ nonzero)]
      -- the set before is determined by the sessions before
      intro before holds
      rw [holds.eq tracks.toHolds]
      exact tracks'.toHolds
  | exit =>
    obtain ⟨num, low, high, canonical⟩ := admitted
    refine completes_ask rfl (completes_ask rfl ?_)
    refine (exit_completes (tracks.adopt _ zmqUrl) low high zmqUrl canonical).mono ?_
    rintro thrown s' ⟨rfl, code, ids', address, reply, tracks', _⟩
    exact ⟨rfl, address, reply, ids', tracks', nofun⟩
  | pause | taskinfo => exact admitted.elim

/-- From a node without units, through any messages that find ports and an unused number,
the three sets of ids are one, and the next such message is answered as they say. -/
theorem ids_agree (codec : Codec) (env : Environment) (m : UnitManager)
    (configured : m.Configured) (noUnits : ∀ key, ¬ Registered m.keySql key)
    (messages : List (Request EventKind)) (s : VllmLlm)
    (returned : run (handle codec env) { manager := m } messages = some s)
    (admitted : Along (handle codec env) (fun s message _ => s.Admits message) { manager := m }
      messages) :
    s.Agree ∧ ∀ message, s.Admits message →
      ∃ s' address reply, s.handle codec env message = some s' ∧
        s'.sent = s.sent ++ [(address, reply)] ∧ s'.Agree ∧ Faithful message s s' reply := by
  have initial : VllmLlm.Tracks { manager := m } [] ∅ ∅ :=
    { sessions := fun n => by simp [hasSession]
      channels := fun n => by simp
      units := fun key => by simp [noUnits key]
      sent := rfl
      configured := configured }
  have tracked : ∃ sent ids, s.Tracks sent ids ids := by
    refine run_invariant_along (handle codec env) (fun s message _ => s.Admits message)
      (fun s => ∃ sent ids, s.Tracks sent ids ids) ?_ _ s messages returned admitted
      ⟨[], ∅, initial⟩
    rintro s message s' taken admits ⟨sent, ids, tracks⟩
    obtain ⟨t, handled, address, reply, ids', tracks', _⟩ := handle_spec tracks admits
    obtain rfl : t = s' := Option.some.inj (handled.symm.trans taken)
    exact ⟨_, ids', tracks'⟩
  obtain ⟨sent, ids, tracks⟩ := tracked
  refine ⟨⟨ids, tracks.toHolds⟩, fun message admits => ?_⟩
  obtain ⟨s', handled, address, reply, ids', tracks', faithful⟩ := handle_spec tracks admits
  refine ⟨s', address, reply, handled, ?_, ⟨ids', tracks'.toHolds⟩, faithful⟩
  rw [tracks'.sent, tracks.sent]

/-- The text of a request, up to the members that only some requests have. -/
def requestText (workId action members : Bytes) : Bytes :=
  lit "\x7b\"request_id\": \"1\", \"work_id\": \"" ++ workId ++
    lit "\", \"action\": \"" ++ action ++ lit "\"" ++ members ++ lit "\x7d"

/-- The URL of the connection that the request came from. -/
def clientUrl : Bytes := lit "ipc:///tmp/llm/8000.sock"

def modelText : Bytes := lit "\x7b\"model\": \"m\"\x7d"

/-- A JSON library that knows the data of `plainSetup`. -/
def oneModel : Codec := knowsOnly modelText (.obj [("model", .str "m")])

def plainSetup : Request EventKind :=
  ⟨.setup, clientUrl, requestText (lit "llm") (lit "setup") (lit ", \"data\": " ++ modelText)⟩

/-- Two setups of a node with the default range of ports. -/
theorem ids_agree_two :
    ∃ s, run (handle oneModel {}) {} [plainSetup, plainSetup] = some s ∧ s.Agree ∧
      s.hasSession 1 = true := by
  have roomy : (handle oneModel {} {} plainSetup).all (fun s => decide
      (2 ≤ s.manager.portList.count false ∧
        ¬ Registered s.manager.keySql (sampleGetWorkId s.manager.workIdNumberCounter))) =
      true := by decide +kernel
  have ends : (run (handle oneModel {}) {} [plainSetup, plainSetup]).map (·.hasSession 1) =
      some true := by decide +kernel
  obtain ⟨s, reached, session⟩ := Option.map_eq_some_iff.mp ends
  have admitted : Along (handle oneModel {}) (fun s message _ => s.Admits message) {}
      [plainSetup, plainSetup] := by
    intro s₁ first
    rw [first, Option.all_some, decide_eq_true_eq] at roomy
    exact ⟨⟨by decide +kernel, by decide +kernel⟩, fun s₂ _ => ⟨roomy, trivial⟩⟩
  exact ⟨s, reached, (ids_agree oneModel {} {} ⟨by decide, by decide, by decide⟩
    (fun key => by simp [Registered, safeReading]) _ s reached admitted).1, session⟩

/-- With three ports the second setup gets the number `-1` and no unit. It is answered with
success all the same. -/
theorem exhausted_ports_setup_succeeds :
    ∃ s, run (handle oneModel {}) { manager := { portList := List.replicate 3 false } }
        [plainSetup, plainSetup] = some s ∧ ¬ s.Agree ∧
      ∃ address reply, s.sent.getLast? = some (address, reply) ∧ reply.code = 0 ∧
        ¬ Registered s.manager.keySql reply.workId := by
  have ends : (run (handle oneModel {}) { manager := { portList := List.replicate 3 false } }
      [plainSetup, plainSetup]).map (fun s =>
        s.hasSession (-1) && !decide (Registered s.manager.keySql (sampleGetWorkId (-1))) &&
        decide (s.sent.getLast? =
          some (⟨lit "1", clientUrl⟩, ⟨"None", sampleGetWorkId (-1), 0, ""⟩))) =
      some true := by decide +kernel
  obtain ⟨s, reached, facts⟩ := Option.map_eq_some_iff.mp ends
  simp only [Bool.and_eq_true, Bool.not_eq_true', decide_eq_false_iff_not, decide_eq_true_eq]
    at facts
  obtain ⟨⟨session, missing⟩, last⟩ := facts
  refine ⟨s, reached, ?_, _, _, last, rfl, missing⟩
  rintro ⟨ids, holds⟩
  exact missing ((holds.units _).mpr ⟨-1, (holds.sessions (-1)).mp session, rfl⟩)

end VllmLlm

end VllmRoute.Node
