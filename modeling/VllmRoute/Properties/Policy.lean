import VllmRoute.Properties.Payloads

/-!
# Who decides about fallback

A request may be degraded if the scheduler and the profile of its action allow
it, unless the message or its session says otherwise. The session writes its
setting into the metadata of the message, where the scheduler takes it for one
that the client has sent; and a session that was set up without one has `true`.
-/
namespace VllmRoute.Node

open Lib Access Channel Scheduler

/-- What the configuration says about an action: the scheduler and the profile, if one
matches, both allow a fallback. -/
def configuredFallback (cfg : TaskConfig) (action : String) : Bool :=
  cfg.allowModelFallback &&
    ((findProfileForAction cfg.modelProfiles action).map (·.allowModelFallback)).getD true

/-- The message decides, by its newer or by its older setting, and then the configuration. -/
theorem newRequest_allowDegrade (cfg : TaskConfig) (taskId : Int)
    (requestId workId outputUrl object prompt : Bytes) (requestMeta : Json)
    (options : RequestOptions) :
    let req := newRequest cfg taskId requestId workId outputUrl object prompt requestMeta options
    req.allowDegrade = jsonBoolValue requestMeta "allow_model_fallback"
      (jsonBoolValue requestMeta "allow_degrade" (configuredFallback cfg req.action)) := by
  unfold newRequest applyProfileToRequest profiledRequest configuredFallback
  dsimp only
  split
  next unmatched => simp [unmatched]
  next profile found => simp [found]

/-! ### The defaults of a session -/

/-- A default for another member. -/
theorem lookup_optional {key other : String} (apart : key ≠ other) (c : Prop) [Decidable c]
    (value : Json) : (if c then [(other, value)] else []).lookup key = none := by
  split
  · simp [List.lookup_cons, beq_eq_false_iff_ne.mpr apart]
  · rfl

/-- A message without a setting of its own gets that of the session. -/
theorem applySessionDefaults_fallback {requestMeta withDefaults : Json} {session : SessionContext}
    (applied : Data.applySessionDefaults requestMeta session = some withDefaults)
    (newer : requestMeta.contains "allow_model_fallback" = false)
    (older : requestMeta.contains "allow_degrade" = false) :
    withDefaults.get? "allow_model_fallback" = some (.bool session.allowModelFallback) := by
  unfold Data.applySessionDefaults at applied
  simp only [newer, older, Bool.not_false, Bool.and_self, if_true] at applied
  cases requestMeta with
  | obj members =>
    cases applied
    have absent : members.lookup "allow_model_fallback" = none := by
      simpa [Json.contains, Json.get?] using newer
    simp [Json.get?, List.lookup_append, absent, lookup_optional]
  | null =>
    cases applied
    simp [Json.get?, List.lookup_append, lookup_optional]
  | _ => cases applied

/-- A session that is set up without a policy allows fallback. -/
theorem makeSessionContext_fallback (workIdNum : Int) (workId : Bytes) {configBody : Json}
    (unset : configBody.contains "allow_model_fallback" = false)
    (noPolicy : configBody.contains "degrade_policy" = false) :
    (makeSessionContext workIdNum workId configBody).allowModelFallback = true := by
  have unset : configBody.get? "allow_model_fallback" = none := by
    simpa [Json.contains] using unset
  have noPolicy : configBody.get? "degrade_policy" = none := by
    simpa [Json.contains] using noPolicy
  simp only [makeSessionContext, noPolicy, jsonBoolValue, unset]

/-! ### The calls of the scheduler -/

/-- The call has the metadata of the message with the defaults of the session. -/
def HandsOver (requestMeta : Json) (session : SessionContext) : DataOp → Prop
  | .inference _ _ _ _ _ withDefaults _ =>
    Data.applySessionDefaults requestMeta session = some withDefaults
  | _ => True

theorem refuse_handsOver (requestMeta : Json) (session : SessionContext) (code : Int)
    (text : String) : (Data.refuse code text).Only (HandsOver requestMeta session) :=
  refuse_only trivial trivial trivial (fun _ => trivial) code text

theorem handOver_handsOver (requestMeta : Json) (session : SessionContext)
    (object prompt : Bytes) :
    (Data.handOver object prompt requestMeta session).Only (HandsOver requestMeta session) := by
  unfold Data.handOver
  split
  · exact trivial
  next withDefaults applied =>
    exact ⟨trivial, fun _ => ⟨trivial, fun _ => ⟨trivial, fun _ => ⟨applied, fun _ => trivial⟩⟩⟩⟩

theorem sessionData_handsOver (codec : Codec) (object data : Bytes) (session : SessionContext) :
    (Data.sessionData codec object data session).Only
      (HandsOver (Data.parseMeta codec data) session) := by
  unfold Data.sessionData
  split
  · exact refuse_handsOver _ session _ _
  · split
    · -- the chunks first, and then the call for the assembled text
      refine ⟨trivial, fun workId => ⟨trivial, fun requestId => ⟨trivial, fun result => ?_⟩⟩⟩
      cases result with
      | incomplete => exact trivial
      | failed streamError => exact refuse_handsOver _ session _ _
      | complete text => exact handOver_handsOver _ session object text
    · exact handOver_handsOver _ session object data

/-- A request without a setting of its own, in a session without one, may always be degraded;
so the configuration decides about it only when it says the same. -/
theorem fallback_policy_iff (codec : Codec) (num nowMs : Int) (message : Bytes) (s s' : DataNode)
    (channel : LlmChannelObj) (found : s.node.llmTaskChannel num = some channel) (n : Int)
    (number : sampleGetWorkIdNum channel.workId = some n) (workIdNum : Int) (workId : Bytes)
    (configBody : Json)
    (listed : s.node.sessions.lookup n = some (makeSessionContext workIdNum workId configBody))
    (sessionUnset : configBody.contains "allow_model_fallback" = false)
    (noPolicy : configBody.contains "degrade_policy" = false)
    (pool : Pool) (shared : s.node.sharedTask = some pool) (object data : Bytes)
    (newer : (Data.parseMeta codec data).contains "allow_model_fallback" = false)
    (older : (Data.parseMeta codec data).contains "allow_degrade" = false) (thrown : Bool)
    (ends : (Data.taskUserData codec object data).complete (execNode num message nowMs) s =
      some (thrown, s')) :
    ∃ made, s'.requests = s.requests ++ made ∧ ∀ req ∈ made, req.allowDegrade = true ∧
      (req.allowDegrade = configuredFallback pool.cfg req.action ↔
        configuredFallback pool.cfg req.action = true) := by
  have search : (if s.node.sharedTask.isSome then s.node.sessions.lookup n else none) =
      some (makeSessionContext workIdNum workId configBody) := by
    rw [shared]
    exact listed
  rw [taskUserData_complete found number search] at ends
  have allows := makeSessionContext_fallback workIdNum workId sessionUnset noPolicy
  -- every call of the code has the flag of the session in its metadata
  have made := Prog.complete_only
    (fun t => t.node.sharedTask = some pool ∧ ∃ made, t.requests = s.requests ++ made ∧
      ∀ req ∈ made, req.allowDegrade = true)
    (fun t o r t' hands executed before => ?_)
    (sessionData_handsOver codec object data _) ends ⟨shared, [], by simp, by simp⟩
  · obtain ⟨_, made, appended, degradable⟩ := made
    refine ⟨made, appended, fun req member => ?_⟩
    have own := degradable req member
    exact ⟨own, by rw [own]; exact eq_comm⟩
  · obtain ⟨shared, made, appended, degradable⟩ := before
    rcases execNode_cases executed with ⟨_, _, _, rfl⟩ | ⟨_, rfl⟩ |
      ⟨_, _, _, _, _, _, _, _, rfl, _, rfl⟩ | ⟨_, rfl⟩
    · exact ⟨shared, made, appended, degradable⟩
    · exact ⟨shared, made, appended, degradable⟩
    · refine ⟨shared, made ++ [_], by rw [appended, List.append_assoc], ?_⟩
      intro req member
      rcases List.mem_append.mp member with old | new
      · exact degradable req old
      · rw [List.mem_singleton.mp new, newRequest_allowDegrade, jsonBoolValue,
          applySessionDefaults_fallback hands newer older]
        exact allows
    · exact ⟨shared, made, appended, degradable⟩

/-- The configuration of a scheduler that bans fallback. -/
def banning : TaskConfig := { allowModelFallback := false }

/-- A node with this scheduler, and a session that was set up with an empty object. -/
def banningNode : DataNode where
  node :=
    { llmTaskChannel := fun num => if num = 1 then some
        { requestId := lit "7", workId := lit "llm.1", outputUrl := lit "ipc:///tmp/7" } else none
      sessions := [(1, makeSessionContext 1 (lit "llm.1") (.obj []))]
      sharedTask := some
        { cfg := banning, heap := fun _ => {}, next := 0, endpoints := [], globalEndpoints := [] } }

theorem fallback_policy_iff_banned : ∃ thrown s' made,
    (Data.taskUserData numbersOnly (lit "llm") (lit "hello")).complete (execNode 1 [] 0)
      banningNode = some (thrown, s') ∧
    s'.requests = [] ++ made ∧ ∀ req ∈ made, req.allowDegrade = true ∧
      (req.allowDegrade = configuredFallback banning req.action ↔
        configuredFallback banning req.action = true) := by
  have completes : ((Data.taskUserData numbersOnly (lit "llm") (lit "hello")).complete
      (execNode 1 [] 0) banningNode).isSome = true := by decide +kernel
  obtain ⟨⟨thrown, s'⟩, ends⟩ := Option.isSome_iff_exists.mp completes
  obtain ⟨made, requests⟩ := fallback_policy_iff numbersOnly 1 0 [] banningNode s' _ rfl 1
    (by decide +kernel) 1 (lit "llm.1") (.obj []) rfl rfl rfl _ rfl (lit "llm") (lit "hello")
    (by decide +kernel) (by decide +kernel) thrown ends
  exact ⟨thrown, s', made, ends, requests⟩

/-- The ban of the scheduler is lifted by a session and a message that say nothing. -/
theorem ban_lifted_by_silence :
    ((Data.taskUserData numbersOnly (lit "llm") (lit "hello")).complete (execNode 1 [] 0)
      banningNode).map (fun ends => ends.2.requests.map fun req =>
        (req.allowDegrade, configuredFallback banning req.action)) = some [(true, false)] := by
  decide +kernel

end VllmRoute.Node
