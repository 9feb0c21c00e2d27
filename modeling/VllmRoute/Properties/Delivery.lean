import VllmRoute.Lib.Run
import VllmRoute.Node.DataPlane
import VllmRoute.Properties.Extraction

/-!
# Inference replies and their requesters

The thread of a channel writes the reply URL and the request id of a message
into the channel object and reads them again when it hands the request over.
The event loop writes the URL of the same object for its own requests.
-/
namespace VllmRoute.Node

open Lib Access Channel Scheduler

/-- What the thread did: the message it handles, the values it has written and not yet
used, and the requests it handed over, each with its message. -/
structure DataLog where
  raw : Bytes := []
  url : Option Bytes := none
  requestId : Option Bytes := none
  handed : List (Bytes × Address) := []

def noteData : (o : DataOp) → o.Resp → DataLog → DataLog
  | .nextMessage, raw, log => { log with raw := raw, url := none, requestId := none }
  | .setPushUrl url, _, log => { log with url := some url }
  | .setRequestId requestId, _, log => { log with requestId := some requestId }
  | .getOutputUrl, _, log => { log with url := none }
  | .inference requestId _ outputUrl .., _, log =>
    { log with handed := log.handed ++ [(log.raw, ⟨requestId, outputUrl⟩)] }
  | _, _, log => log

/-- The thread reads the values that it has written. -/
def ReadBack : (o : DataOp) → o.Resp → DataLog → Prop
  | .getRequestId, requestId, log => ∀ written ∈ log.requestId, requestId = written
  | .getOutputUrl, url, log => ∀ written ∈ log.url, url = written
  | _, _, _ => True

abbrev noteDelivery := Prog.relying noteData ReadBack

/-- The address of a request is the one of its message. -/
def Fits (raw : Bytes) (address : Address) : Prop :=
  ∀ fields, inferenceFields raw = some fields →
    address.requestId = fields.requestId ∧ (fields.zmqCom ≠ [] → address.url = fields.zmqCom)

namespace DataLog

def Delivered (log : DataLog) : Prop := ∀ entry ∈ log.handed, Fits entry.1 entry.2

/-- The thread has written the fields of its message. -/
def Carries (log : DataLog) : Prop :=
  ∀ fields, inferenceFields log.raw = some fields →
    log.requestId = some fields.requestId ∧ (fields.zmqCom ≠ [] → log.url = some fields.zmqCom)

end DataLog

namespace Data

/-- The properties of the log, as long as the thread has read what it wrote. -/
def Done (log : DataLog × Prop) : Prop := log.2 → log.1.Delivered

def Ready (log : DataLog × Prop) : Prop := log.2 → log.1.Carries ∧ log.1.Delivered

theorem Ready.done {log : DataLog × Prop} (ready : Ready log) : Done log :=
  fun kept => (ready kept).2

section Code

variable {α : Type} {log : DataLog × Prop}

/-- The code keeps the property and ends with it. -/
def Delivers (p : DataCode α) (log : DataLog × Prop) : Prop :=
  p.Ensures noteDelivery Done (fun _ => Done) log

theorem delivers_pure (a : α) (done : Done log) : Delivers (pure a) log := done

/-- The operations that the log does not record. -/
def Quiet : DataOp → Prop
  | .setWorkId _ | .lockChannel | .getWorkId | .findSession _ | .assembleStreamInput .. |
    .sendRawForUrl _ => True
  | _ => False

theorem noteDelivery_quiet {o : DataOp} (quiet : Quiet o) (r : o.Resp) :
    noteDelivery o r log = log := by
  cases o <;> first
    | exact quiet.elim
    | simp [Prog.relying, noteData, ReadBack]

theorem delivers_quiet {o : DataOp} {f : o.Resp → DataCode α} (quiet : Quiet o) (done : Done log)
    (next : ∀ r, Delivers (f r) log) : Delivers (ask o >>= f) log :=
  Prog.ensures_unnoted (fun r => noteDelivery_quiet quiet r) done next

theorem delivers_sendClientMessage (m : ClientMessage) (done : Done log) :
    Delivers (sendClientMessage m) log := by
  unfold sendClientMessage
  split
  · exact delivers_pure _ done
  · split
    · exact delivers_quiet trivial done fun _ => delivers_pure _ done
    · exact delivers_pure _ done

/-- Once the request was refused, nothing is handed over. -/
theorem delivers_refuse (code : Int) (message : String) (done : Done log) :
    Delivers (refuse code message) log := by
  refine ⟨done, fun requestId => ?_⟩
  have read : Done (noteDelivery .getRequestId requestId log) := fun kept => done kept.1
  refine delivers_quiet trivial read fun workId => ?_
  refine ⟨read, fun outputUrl => ?_⟩
  exact delivers_sendClientMessage _ fun kept => read kept.1

theorem delivers_handOver (object prompt : Bytes) (requestMeta : Json) (session : SessionContext)
    (ready : Ready log) : Delivers (handOver object prompt requestMeta session) log := by
  unfold handOver
  split
  · exact delivers_pure _ ready.done
  · refine ⟨ready.done, fun requestId => ?_⟩
    refine delivers_quiet trivial (fun kept => ready.done kept.1) fun workId => ?_
    refine ⟨fun kept => ready.done kept.1, fun outputUrl => ?_⟩
    refine ⟨fun kept => ready.done kept.1.1, fun | () => ?_⟩
    -- what was read is what was written, which is what the message says
    rintro ⟨⟨⟨kept, sameId⟩, sameUrl⟩, -⟩
    obtain ⟨carries, delivered⟩ := ready kept
    intro entry member
    rcases List.mem_append.mp member with earlier | last
    · exact delivered entry earlier
    · rw [List.mem_singleton] at last
      subst last
      intro fields parsed
      obtain ⟨wroteId, wroteUrl⟩ := carries fields parsed
      exact ⟨sameId _ wroteId, fun given => sameUrl _ (wroteUrl given)⟩

theorem Ready.read {requestId : Bytes} (ready : Ready log) :
    Ready (noteDelivery .getRequestId requestId log) := fun kept => ready kept.1

theorem delivers_streamInput (object : Bytes) (requestMeta : Json) (session : SessionContext)
    (ready : Ready log) : Delivers (streamInput object requestMeta session) log := by
  refine delivers_quiet trivial ready.done fun workId => ?_
  refine ⟨ready.done, fun requestId => ?_⟩
  refine delivers_quiet trivial ready.read.done fun assembled => ?_
  split
  · exact delivers_pure _ ready.read.done
  · exact delivers_refuse _ _ ready.read.done
  · exact delivers_handOver _ _ _ _ ready.read

theorem delivers_taskUserData (codec : Codec) (object data : Bytes) (ready : Ready log) :
    Delivers (taskUserData codec object data) log := by
  refine delivers_quiet trivial ready.done fun locked => ?_
  split
  · refine delivers_quiet trivial ready.done fun workId => ?_
    split
    · exact delivers_pure _ ready.done
    · refine delivers_quiet trivial ready.done fun found => ?_
      split
      · exact delivers_refuse _ _ ready.done
      · unfold sessionData
        split
        · exact delivers_refuse _ _ ready.done
        · split
          · exact delivers_streamInput _ _ _ ready
          · exact delivers_handOver _ _ _ _ ready
  · exact delivers_pure _ ready.done

/-- After the fields of the message were written, the log carries them. -/
theorem adoptFields_ready (done : Done log) :
    (adoptFields (inferenceFields log.1.raw)).Ensures noteDelivery Done (fun _ => Ready) log := by
  cases parsed : inferenceFields log.1.raw with
  | none =>
    refine fun kept => ⟨fun fields equal => ?_, done kept⟩
    rw [parsed] at equal
    cases equal
  | some fields =>
    have same : ∀ other, inferenceFields log.1.raw = some other → fields = other :=
      fun other equal => Option.some.inj (parsed.symm.trans equal)
    simp only [adoptFields, pushUrlIfGiven]
    split
    next empty =>
      -- without a URL in the message, the one of an earlier message stays
      have none : fields.zmqCom = [] := by simpa using empty
      refine ⟨done, fun | () => ⟨fun kept => done kept.1, fun | () => fun kept => ?_⟩⟩
      refine ⟨fun other equal => ?_, done kept.1.1⟩
      obtain rfl := same other equal
      exact ⟨rfl, fun given => absurd none given⟩
    · refine ⟨done, fun | () => ⟨fun kept => done kept.1, fun | () => ?_⟩⟩
      refine ⟨fun kept => done kept.1.1, fun | () => fun kept => ⟨?_, done kept.1.1.1⟩⟩
      intro other equal
      obtain rfl := same other equal
      exact ⟨rfl, fun _ => rfl⟩

end Code

theorem dataLoop_delivers (codec : Codec) :
    Loops (dataLoop codec) noteDelivery Done (fun _ => Done) := by
  intro point p log code done
  cases point with
  | crashed => cases code
  | waiting =>
    cases code
    refine ⟨done, fun raw => ?_⟩
    have begun : Done (noteDelivery .nextMessage raw log) := fun kept => done kept.1
    have handled : Delivers (subscriberEventCall codec raw) (noteDelivery .nextMessage raw log) :=
      (adoptFields_ready begun).bind fun _ log ready => delivers_taskUserData codec _ _ ready
    refine handled.bind fun thrown log done => ?_
    split <;> exact delivers_pure _ done

end Data

/-! ### The thread and the event loop -/

abbrev DataThread := Thread DataOp DataOp.Resp ControlPoint (DataLog × Prop)

abbrev EventThread := Thread ControlOp ControlOp.Resp ControlPoint Unit

/-- The thread of a channel, and the event loop of its node. -/
structure ChannelSystem where
  node : VllmLlm
  events : EventThread := ⟨.pure .waiting, ()⟩
  data : DataThread := ⟨.pure .waiting, ({}, True)⟩

inductive ChannelStep where
  | event (arrival : Arrival)
  | data (arrival : DataArrival)

/-- The thread is in the callback for a message. -/
def Busy : DataCode ControlPoint → Prop
  | .pure _ | .op .nextMessage _ => False
  | _ => True

instance : DecidablePred Busy := fun prog => match prog with
  | .pure _ => isFalse id
  | .op o _ => by cases o <;> first | exact isTrue trivial | exact isFalse id

/-- `stop_subscriber` joins the thread, so it waits for the end of the callback. -/
def Joins (num : Int) : ControlCode ControlPoint → Prop
  | .op (.stopSubscriber other) _ => other = num
  | _ => False

instance (num : Int) : DecidablePred (Joins num) := fun prog => match prog with
  | .pure _ => isFalse id
  | .op o _ => by cases o <;> first | exact isFalse id | exact inferInstanceAs (Decidable (_ = _))

/-- What the thread has written stands in the channel object. -/
def Holds (log : DataLog) (channel : Option LlmChannelObj) : Prop :=
  ∀ c ∈ channel, (∀ written ∈ log.requestId, c.requestId = written) ∧
    ∀ written ∈ log.url, c.outputUrl = written

namespace ChannelSystem

def step (codec : Codec) (env : Environment) (num : Int) (s : ChannelSystem) :
    ChannelStep → Option ChannelSystem
  | .event arrival =>
    if Joins num s.events.prog ∧ Busy s.data.prog then none
    else do
      let (events, node) ← s.events.step (eventLoop codec) (fun _ _ log => log)
        (execControl env arrival) s.node
      return { s with node := node, events := events }
  | .data arrival => do
    let (data, node) ← s.data.step (Data.dataLoop codec) noteDelivery (execData num arrival) s.node
    return { s with node := node, data := data }

/-- The operation does not overwrite what the thread has written and not yet used; units
are set up under other numbers. -/
def Spares (num : Int) (data : DataThread) : ControlOp → Prop
  | .setPushUrl other zmqUrl =>
    other = num → Busy data.prog → ∀ written ∈ data.log.1.url, zmqUrl = written
  | .makeChannel other | .setChannelIds other .. => other ≠ num
  | _ => True

instance (num : Int) (data : DataThread) : DecidablePred (Spares num data) := fun o => by
  cases o <;> unfold Spares <;> infer_instance

def SparesNext (num : Int) (data : DataThread) : ControlCode ControlPoint → Prop
  | .op o _ => Spares num data o
  | .pure _ => True

instance (num : Int) (data : DataThread) : DecidablePred (SparesNext num data) := fun prog =>
  match prog with
  | .op o _ => inferInstanceAs (Decidable (Spares num data o))
  | .pure _ => isTrue trivial

/-- No event handler writes another URL between the thread's `set_push_url` and its read of
`output_url_`. -/
def Spared (num : Int) (s : ChannelSystem) (e : ChannelStep) (_ : ChannelSystem) : Prop :=
  match e with
  | .event _ => SparesNext num s.data s.events.prog
  | .data _ => True

instance (num : Int) (s : ChannelSystem) (e : ChannelStep) (s' : ChannelSystem) :
    Decidable (s.Spared num e s') := match e with
  | .event _ => inferInstanceAs (Decidable (SparesNext num s.data s.events.prog))
  | .data _ => isTrue trivial

end ChannelSystem

theorem holds_some {log : DataLog} {channel : Option LlmChannelObj} {c : LlmChannelObj}
    (there : channel = some c)
    (own : (∀ written ∈ log.requestId, c.requestId = written) ∧
      ∀ written ∈ log.url, c.outputUrl = written) : Holds log channel := by
  intro c' member
  obtain rfl := Option.some.inj (there.symm.trans member)
  exact own

/-- Changing a channel object without its request id, or its URL if that was written. -/
theorem holds_updateChannel {log : DataLog} {s : VllmLlm} {num other : Int}
    {f : LlmChannelObj → LlmChannelObj} (holds : Holds log (s.llmTaskChannel num))
    (sameId : other = num → ∀ c, (f c).requestId = c.requestId)
    (sameUrl : other = num → ∀ c, ∀ written ∈ log.url, c.outputUrl = written →
      (f c).outputUrl = written) :
    Holds log ((s.updateChannel other f).2.llmTaskChannel num) := by
  rw [VllmLlm.updateChannel_channel]
  split
  next same =>
    subst same
    intro c member
    obtain ⟨before, found, rfl⟩ := Option.map_eq_some_iff.mp member
    obtain ⟨requestId, url⟩ := holds before found
    exact ⟨fun written held => (sameId rfl before).trans (requestId written held),
      fun written held => sameUrl rfl before written held (url written held)⟩
  · exact holds

theorem performControl_holds {env : Environment} {arrival : Arrival} {s : VllmLlm} {num : Int}
    {data : DataThread} {o : ControlOp} (spares : ChannelSystem.Spares num data o)
    (busy : Busy data.prog) (holds : Holds data.log.1 (s.llmTaskChannel num)) :
    Holds data.log.1 ((performControl env arrival s o).2.llmTaskChannel num) := by
  cases o with
  | setPushUrl other zmqUrl =>
    exact holds_updateChannel holds (fun _ _ => rfl)
      fun same _ written held _ => spares same busy written held
  | makeChannel other => simpa [performControl, spares.symm] using holds
  | eraseChannel other =>
    by_cases same : num = other
    · -- without a channel object nothing can be read
      simp [performControl, same, Holds]
    · simpa [performControl, same] using holds
  | setChannelIds other requestId workId =>
    exact holds_updateChannel holds (fun same => absurd same spares) fun same => absurd same spares
  | subscribe | stopSubscriber =>
    exact holds_updateChannel holds (fun _ _ => rfl) fun _ _ _ _ url => url
  | _ => simpa [performControl, setAddress, VllmLlm.releaseUnit] using holds

/-- A step of the thread: it reads what it has written. -/
theorem step_holds {codec : Codec} {num : Int} {arrival : DataArrival} {t t' : DataThread}
    {s s' : VllmLlm}
    (taken : t.step (Data.dataLoop codec) noteDelivery (execData num arrival) s = some (t', s'))
    (kept : t.log.2) (holds : Busy t.prog → Holds t.log.1 (s.llmTaskChannel num)) :
    t'.log.2 ∧ (Busy t'.prog → Holds t'.log.1 (s'.llmTaskChannel num)) := by
  rcases Thread.step_cases taken with ⟨pt, p, _, code, rfl, rfl⟩ | ⟨o, k, r, prog, executed, rfl⟩
  · refine ⟨kept, ?_⟩
    cases pt with
    | crashed => cases code
    | waiting =>
      cases code
      exact False.elim
  · rw [prog] at holds
    cases o with
    | nextMessage => exact ⟨⟨kept, trivial⟩, fun _ c _ => ⟨nofun, nofun⟩⟩
    | setPushUrl url =>
      obtain ⟨c, found, _, after⟩ := withChannel_cases executed
      have own := holds trivial c found
      exact ⟨⟨kept, trivial⟩, fun _ => holds_some after ⟨own.1, fun written => Option.some.inj⟩⟩
    | setRequestId requestId =>
      obtain ⟨c, found, _, after⟩ := withChannel_cases executed
      have own := holds trivial c found
      exact ⟨⟨kept, trivial⟩, fun _ => holds_some after ⟨fun written => Option.some.inj, own.2⟩⟩
    | setWorkId | getWorkId =>
      obtain ⟨c, found, _, after⟩ := withChannel_cases executed
      exact ⟨⟨kept, trivial⟩, fun _ => holds_some after (holds trivial c found)⟩
    | getRequestId =>
      obtain ⟨c, found, rfl, after⟩ := withChannel_cases executed
      have own := holds trivial c found
      exact ⟨⟨kept, own.1⟩, fun _ => holds_some after own⟩
    | getOutputUrl =>
      -- the URL has been used, and may be overwritten from here on
      obtain ⟨c, found, rfl, after⟩ := withChannel_cases executed
      have own := holds trivial c found
      exact ⟨⟨kept, own.2⟩, fun _ => holds_some after ⟨own.1, nofun⟩⟩
    | _ =>
      cases executed
      exact ⟨⟨kept, trivial⟩, fun _ => holds trivial⟩

namespace ChannelSystem

structure Faithful (num : Int) (s : ChannelSystem) : Prop where
  data : s.data.prog.Ensures noteDelivery Data.Done (fun _ => Data.Done) s.data.log
  kept : s.data.log.2
  holds : Busy s.data.prog → Holds s.data.log.1 (s.node.llmTaskChannel num)

theorem step_faithful (codec : Codec) (env : Environment) (num : Int) (s s' : ChannelSystem)
    (e : ChannelStep) (taken : s.step codec env num e = some s') (spared : s.Spared num e s')
    (faithful : s.Faithful num) : s'.Faithful num := by
  obtain ⟨data, kept, holds⟩ := faithful
  cases e with
  | event arrival =>
    simp only [step] at taken
    split at taken
    · cases taken
    · simp only [bind, Option.bind_eq_some_iff, pure, Option.some.injEq] at taken
      obtain ⟨⟨t, node⟩, moved, rfl⟩ := taken
      refine ⟨data, kept, fun busy => ?_⟩
      rcases Thread.step_cases moved with ⟨_, _, _, _, _, rfl⟩ | ⟨o, k, r, prog, executed, _⟩
      · exact holds busy
      · have spares : SparesNext num s.data s.events.prog := spared
        rw [prog] at spares
        obtain rfl : _ = node := congrArg Prod.snd (Option.some.inj executed)
        exact performControl_holds spares busy (holds busy)
  | data arrival =>
    simp only [step, bind, Option.bind_eq_some_iff, pure, Option.some.injEq] at taken
    obtain ⟨⟨t, node⟩, moved, rfl⟩ := taken
    obtain ⟨stays, stands⟩ := step_holds moved kept holds
    exact ⟨Thread.step_ensures (Data.dataLoop_delivers codec) moved data, stays, stands⟩

/-- For every interleaving of the thread of a channel with the event loop in which no event
handler writes another URL into the channel between the thread's `set_push_url`
and its read of `output_url_`: every request handed to `inference` carries the
reply URL that the unit manager put into its message, and the `request_id` taken
from it. -/
theorem requests_carry_their_addresses (codec : Codec) (env : Environment) (num : Int)
    (node : VllmLlm) (steps : List ChannelStep) (s : ChannelSystem)
    (reached : run (step codec env num) { node := node } steps = some s)
    (spared : Along (step codec env num) (Spared num) { node := node } steps) :
    ∀ entry ∈ s.data.log.1.handed, ∀ zmqCom text, entry.1 = inferenceRawData zmqCom text →
      zmqCom ≠ [] → (∀ c ∈ zmqCom, isPlain c = true) → Nonempty (Key text (lit "action")) →
      entry.2 = ⟨sampleJsonStrGet entry.1 (lit "request_id"), zmqCom⟩ := by
  have initial : Faithful num { node := node } := ⟨fun _ => nofun, trivial, False.elim⟩
  have faithful := run_invariant_along (step codec env num) (Spared num) (Faithful num)
    (fun s e s' taken spared => step_faithful codec env num s s' e taken spared)
    _ s steps reached spared initial
  have delivered := faithful.data.now (fun _ _ done => done) faithful.kept
  rintro ⟨raw, address⟩ member zmqCom text rfl given plain ⟨action⟩
  have parsed := inferenceFields_zmqCom plain action
  obtain ⟨sameId, sameUrl⟩ := delivered _ member _ parsed
  have url : address.url = zmqCom := sameUrl given
  cases address
  simp_all

/-- A node with the session `llm.0`. -/
def oneSession : VllmLlm where
  llmTaskChannel := fun num =>
    if num = 0 then some { workId := lit "llm.0", subscribed := true } else none
  sessions := [(0, { workId := lit "llm.0" })]
  sharedTask := some ⟨{}, fun _ => {}, 0, [], []⟩

/-- The text of an inference request for it. -/
def question : Bytes :=
  lit "\x7b\"request_id\": \"1\", \"work_id\": \"llm.0\", " ++
    (quoted (lit "action") ++ lit ": \"inference\", \"data\": \"hello\"\x7d")

def questionAction : Key question (lit "action") where
  before := lit "\x7b\"request_id\": \"1\", \"work_id\": \"llm.0\", "
  after := lit ": \"inference\", \"data\": \"hello\"\x7d"
  split := rfl
  leads := ⟨chr ' ', by decide +kernel, by decide⟩

def dataSteps (n : Nat) : List ChannelStep :=
  List.replicate n (.data { message := inferenceRawData replyUrl question })

/-- A `taskinfo` request of another client, for the same unit. -/
def otherTaskinfo : Request EventKind :=
  ⟨.taskinfo, lit "ipc:///tmp/llm/8001.sock",
    lit "\x7b\"request_id\": \"2\", \"work_id\": \"llm.0\", \"action\": \"taskinfo\"\x7d"⟩

def eventSteps (n : Nat) : List ChannelStep := List.replicate n (.event { event := otherTaskinfo })

/-- The request of the other client is handled before the message, and once more when the thread
has the message and has not written its URL yet. -/
def orderlySteps : List ChannelStep := eventSteps 7 ++ dataSteps 2 ++ eventSteps 7 ++ dataSteps 10

theorem requests_carry_their_addresses_alone : ∃ s,
    run (step rejectAll {} 0) { node := oneSession } orderlySteps = some s ∧
      s.data.log.1.handed = [(inferenceRawData replyUrl question,
        ⟨sampleJsonStrGet (inferenceRawData replyUrl question) (lit "request_id"), replyUrl⟩)] := by
  have handed : (run (step rejectAll {} 0) { node := oneSession } orderlySteps).map
      (fun s => s.data.log.1.handed.map (·.1)) = some [inferenceRawData replyUrl question] := by
    decide +kernel
  obtain ⟨s, reached, handed⟩ := Option.map_eq_some_iff.mp handed
  have spared : Along (step rejectAll {} 0) (Spared 0) { node := oneSession } orderlySteps := by
    decide +kernel
  have carry := requests_carry_their_addresses rejectAll {} 0 oneSession orderlySteps s reached
    spared
  refine ⟨s, reached, ?_⟩
  obtain ⟨⟨raw, address⟩, list, rfl⟩ := List.map_eq_singleton_iff.mp handed
  have last : address = ⟨_, replyUrl⟩ := carry (inferenceRawData replyUrl question, address)
    (by simp [list]) replyUrl question rfl (by decide +kernel) (by decide +kernel) ⟨questionAction⟩
  rw [list, last]

/-- The request of one client is handed over with the reply URL of the other. -/
theorem interleaved_request_misdirected :
    (run (step rejectAll {} 0) { node := oneSession }
        (dataSteps 5 ++ eventSteps 5 ++ dataSteps 7)).map (fun s => s.data.log.1.handed) =
      some [(inferenceRawData replyUrl question, ⟨lit "1", lit "ipc:///tmp/llm/8001.sock"⟩)] ∧
    Nonempty (Key question (lit "action")) ∧ replyUrl ≠ lit "ipc:///tmp/llm/8001.sock" :=
  ⟨by decide +kernel, ⟨questionAction⟩, by decide +kernel⟩

end ChannelSystem

end VllmRoute.Node
