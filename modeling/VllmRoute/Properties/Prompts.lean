import VllmRoute.Channel.Text
import VllmRoute.Properties.WorkIds

/-!
# From the text of a message to the prompt

The data of a message goes through the text search of the channel, through
`task_user_data` and into the request. On this way nobody takes the escapes
off the string.
-/
namespace VllmRoute.Channel

open Lib

/-- A member whose value is a string, with the pieces it is written with. -/
structure StringMember (text name : Bytes) (body : List Piece) extends Key text name where
  afterKey : Bytes
  beforeValue : Bytes
  rest : Bytes
  value_split : after = afterKey ++ chr ':' :: (beforeValue ++ (quoted (bodyText body) ++ rest))
  blank : ∀ c ∈ afterKey, isBlank c = true
  blank' : ∀ c ∈ beforeValue, isBlank c = true

namespace StringMember

variable {text name : Bytes} {body : List Piece} (m : StringMember text name body)

/-- What the search returns for such a member: at least all of its characters, or nothing. -/
theorem sampleJsonStrGet_cases (first : find (quoted name) text = some m.before.length) :
    sampleJsonStrGet text name = withoutSpaces m.beforeValue ++ bodyText body ∨
      (chr '\\' ∈ bodyText body ∧ (sampleJsonStrGet text name = [] ∨
        (bodyText body).length < (sampleJsonStrGet text name).length)) := by
  have read : sampleJsonStrGet text name = readValue
      (m.afterKey ++ chr ':' :: (m.beforeValue ++ (quoted (bodyText body) ++ m.rest))) := by
    rw [← m.value_split, ← m.drop_name, sampleJsonStrGet, first]
  rw [read]
  by_cases last : (bodyText body).getLast? = some (chr '\\')
  · refine Or.inr ⟨List.mem_of_getLast? last, ?_⟩
    rcases readValue_backslash m.afterKey m.beforeValue m.rest body m.blank m.blank' last with
      none | longer
    · exact Or.inl none
    · have length := longer.length_le
      simp only [List.length_append, List.length_singleton] at length
      exact Or.inr (by omega)
  · exact Or.inl (readValue_string m.afterKey m.beforeValue m.rest body m.blank m.blank' last)

/-- The string itself is found if it is written without escapes, behind spaces only. -/
theorem sampleJsonStrGet_eq_iff (first : find (quoted name) text = some m.before.length)
    {value : Bytes} (decoded : decode body = some value) (nonempty : value ≠ []) :
    sampleJsonStrGet text name = value ↔
      (∀ c ∈ m.beforeValue, c = chr ' ') ∧ chr '\\' ∉ bodyText body := by
  have shortens := decode_shortens decoded
  have spaces : withoutSpaces m.beforeValue = [] ↔ ∀ c ∈ m.beforeValue, c = chr ' ' := by
    simp [withoutSpaces, List.filter_eq_nil_iff]
  rw [← spaces]
  rcases m.sampleJsonStrGet_cases first with exact | ⟨escaped, none | longer⟩
  · rw [exact]
    rcases shortens with ⟨unescaped, rfl⟩ | ⟨escaped, shorter⟩
    · simp [unescaped]
    · -- with an escape, what is written is longer than the string
      refine ⟨fun same => ?_, fun written => absurd escaped written.2⟩
      have length := congrArg List.length same
      rw [List.length_append] at length
      omega
  · rw [none]
    exact ⟨fun same => absurd same.symm nonempty, fun written => absurd escaped written.2⟩
  · refine ⟨fun same => ?_, fun written => absurd escaped written.2⟩
    rw [same] at longer
    have := shortens.length_le
    omega

end StringMember

end VllmRoute.Channel

namespace VllmRoute.Node

open Lib Access Channel Scheduler

section Stages

variable {codec : Codec} {num nowMs : Int} {message : Bytes} {s : DataNode}
  {channel : LlmChannelObj}

/-- A message with an `action` is handled with the work id that it brings. -/
theorem subscriberEventCall_adopts (found : s.node.llmTaskChannel num = some channel)
    {raw : Bytes} (action : Key raw (lit "action")) :
    ∃ channel' : LlmChannelObj, channel'.workId = sampleJsonStrGet raw (lit "work_id") ∧
      (Data.subscriberEventCall codec raw).complete (execNode num [] nowMs) s =
        (Data.taskUserData codec (sampleJsonStrGet raw (lit "object"))
          (sampleJsonStrGet raw (lit "data"))).complete (execNode num [] nowMs)
            (s.setChannel num channel') := by
  unfold Data.subscriberEventCall
  rw [inferenceFields, if_pos action.hasAction, Prog.complete_bind, adoptFields_complete found,
    Option.bind_some]
  exact ⟨_, rfl, rfl⟩

/-- A refusal makes no request. -/
theorem refuse_requests {code : Int} {text : String} {thrown : Bool} {s' : DataNode}
    (ends : (Data.refuse code text).complete (execNode num message nowMs) s =
      some (thrown, s')) : s'.requests = s.requests := by
  let quiet : DataOp → Prop := fun o => ∀ requestId workId outputUrl object prompt requestMeta
    session, o ≠ .inference requestId workId outputUrl object prompt requestMeta session
  have only : (Data.refuse code text).Only quiet :=
    refuse_only (by simp [quiet]) (by simp [quiet]) (by simp [quiet]) (by simp [quiet]) code text
  apply Prog.complete_only (fun t => t.requests = s.requests) _ only ends rfl
  intro t o r t' ok executed same
  rcases execNode_cases executed with ⟨_, _, _, rfl⟩ | ⟨_, rfl⟩ |
    ⟨_, _, _, _, _, _, _, _, rfl, _⟩ | ⟨_, rfl⟩
  · exact same
  · exact same
  · exact absurd rfl (ok _ _ _ _ _ _ _)
  · exact same

/-- The request that `task_user_data` makes of a text has the text for its prompt. -/
theorem sessionData_prompt_iff (found : s.node.llmTaskChannel num = some channel)
    (task : s.node.sharedTask.isSome = true) {object data text : Bytes} (nonempty : text ≠ [])
    (notNone : text ≠ lit "None") (whole : find (lit "stream") object = none)
    (session : SessionContext) :
    (∃ s' req, (Data.sessionData codec object data session).complete (execNode num message nowMs)
        s = some (false, s') ∧ s'.requests = s.requests ++ [req] ∧ req.prompt = text) ↔
      data = text ∧ assignable (Data.parseMeta codec text) = true := by
  unfold Data.sessionData
  by_cases empty : data.isEmpty = true ∨ data = lit "None"
  · rw [if_pos empty]
    constructor
    · rintro ⟨s', req, ends, added, _⟩
      rw [refuse_requests ends] at added
      simp at added
    · rintro ⟨rfl, _⟩
      rw [List.isEmpty_iff] at empty
      exact absurd empty (not_or.mpr ⟨nonempty, notNone⟩)
  rw [if_neg empty, if_neg (by simp [whole])]
  by_cases assigns : assignable (Data.parseMeta codec data) = true
  · obtain ⟨pool, shared⟩ := Option.isSome_iff_exists.mp task
    have some := assigns
    rw [← applySessionDefaults_isSome _ session, Option.isSome_iff_exists] at some
    obtain ⟨withDefaults, defaults⟩ := some
    rw [handOver_complete found shared defaults]
    constructor
    · rintro ⟨s', req, ends, added, prompt⟩
      cases ends
      obtain rfl := List.singleton_inj.mp (List.append_cancel_left added)
      rw [newRequest_prompt] at prompt
      subst prompt
      exact ⟨rfl, assigns⟩
    · rintro ⟨rfl, _⟩
      exact ⟨_, _, rfl, rfl, newRequest_prompt ..⟩
  · rw [handOver_throws (by simpa using assigns)]
    constructor
    · rintro ⟨s', req, ends, _⟩
      cases ends
    · rintro ⟨rfl, assigns'⟩
      exact absurd assigns' assigns

end Stages

/-- For every message with an action for a session, whose object is no stream and whose data is
a string, at the first place where its name occurs: a request is made whose prompt is that
string, and this is then the content of the only user message for the backend, if and only if
the string is written without escapes, behind spaces only, and is no JSON text or one of an
object or null. -/
theorem prompt_unchanged_iff (codec : Codec) (num nowMs : Int) (s : DataNode)
    (channel : LlmChannelObj) (found : s.node.llmTaskChannel num = some channel) (raw : Bytes)
    (action : Key raw (lit "action")) (n : Int)
    (number : sampleGetWorkIdNum (sampleJsonStrGet raw (lit "work_id")) = some n)
    (session : SessionContext) (listed : s.node.sessionOf n = some session)
    (whole : find (lit "stream") (sampleJsonStrGet raw (lit "object")) = none)
    (body : List Piece) (data : StringMember raw (lit "data") body)
    (first : find (quoted (lit "data")) raw = some data.before.length) (text : Bytes)
    (decoded : decode body = some text) (nonempty : text ≠ []) (notNone : text ≠ lit "None") :
    (∃ s' req, (Data.subscriberEventCall codec raw).complete (execNode num [] nowMs) s =
        some (false, s') ∧ s'.requests = s.requests ++ [req] ∧ req.prompt = text ∧
        ∀ (Number : Type) [OfScientific Number] (stod : String → Option Number)
          (temperature servedModel : String),
          (makeRequestBody stod temperature req servedModel).messages.filter (·.role = "user") =
            [⟨"user", text⟩]) ↔
      (∀ c ∈ data.beforeValue, c = chr ' ') ∧ chr '\\' ∉ bodyText body ∧
        assignable (Data.parseMeta codec text) = true := by
  obtain ⟨channel', work, adopted⟩ := @subscriberEventCall_adopts codec num nowMs s channel found
    raw action
  have here := s.setChannel_found num channel'
  have task : s.node.sharedTask.isSome = true := by
    by_contra unset
    rw [VllmLlm.sessionOf, if_neg unset] at listed
    cases listed
  rw [← work] at number
  rw [adopted, taskUserData_complete here number listed]
  have prompted := @sessionData_prompt_iff codec num nowMs [] (s.setChannel num channel') channel'
    here task _ (sampleJsonStrGet raw (lit "data")) text nonempty notNone whole session
  rw [← and_assoc, ← data.sampleJsonStrGet_eq_iff first decoded nonempty, ← prompted]
  constructor
  · rintro ⟨s', req, ends, added, prompt, _⟩
    exact ⟨s', req, ends, added, prompt⟩
  · rintro ⟨s', req, ends, added, prompt⟩
    refine ⟨s', req, ends, added, prompt, fun Number _ stod temperature servedModel => ?_⟩
    rw [makeRequestBody_user, prompt]

/-- A message for the session `llm.1`, with this value for its data. -/
def dataMessage (value : Bytes) : Bytes :=
  lit "\x7b\"request_id\": \"1\", \"work_id\": \"llm.1\", " ++ (quoted (lit "action") ++
    (lit ": \"inference\", \"object\": \"llm.utf-8\", " ++
      (quoted (lit "data") ++ (lit ": " ++ (value ++ lit "\x7d")))))

def dataMessageAction (value : Bytes) : Key (dataMessage value) (lit "action") where
  before := lit "\x7b\"request_id\": \"1\", \"work_id\": \"llm.1\", "
  after := lit ": \"inference\", \"object\": \"llm.utf-8\", " ++
    (quoted (lit "data") ++ (lit ": " ++ (value ++ lit "\x7d")))
  split := rfl
  leads := ⟨chr ' ', by decide +kernel, by decide⟩

def dataMessageData (body : List Piece) :
    StringMember (dataMessage (quoted (bodyText body))) (lit "data") body where
  before := lit "\x7b\"request_id\": \"1\", \"work_id\": \"llm.1\", " ++ quoted (lit "action") ++
    lit ": \"inference\", \"object\": \"llm.utf-8\", "
  after := lit ": " ++ (quoted (bodyText body) ++ lit "\x7d")
  split := by simp only [dataMessage, List.append_assoc]
  leads := ⟨chr ' ', by decide +kernel, by decide⟩
  afterKey := []
  beforeValue := [chr ' ']
  rest := lit "\x7d"
  value_split := rfl
  blank := blank_nil
  blank' := blank_space

theorem prompt_unchanged_iff_hello :
    ∃ s' req, (Data.subscriberEventCall numbersOnly
        (dataMessage (quoted (bodyText (written (lit "hello")))))).complete (execNode 1 [] 0)
          oneSession = some (false, s') ∧
      s'.requests = [req] ∧ req.prompt = lit "hello" := by
  obtain ⟨channel, found, _⟩ := oneSession_answerable
  obtain ⟨s', req, ends, added, prompt, _⟩ := (prompt_unchanged_iff numbersOnly 1 0 oneSession
    channel found (dataMessage (quoted (bodyText (written (lit "hello"))))) (dataMessageAction _) 1
    (by decide +kernel) {} rfl (by decide +kernel) (written (lit "hello")) (dataMessageData _)
    (by decide +kernel) (lit "hello") (by decide +kernel) (by decide +kernel)
    (by decide +kernel)).mpr ⟨by decide +kernel, by decide +kernel, by decide +kernel⟩
  exact ⟨s', req, ends, added, prompt⟩

/-- A string of two lines. -/
def twoLines : List Piece := written (lit "a") ++ [.escape .lineFeed] ++ written (lit "b")

/-- The backend gets the escape in place of the line feed. -/
theorem escaped_prompt_changed :
    decode twoLines = some (lit "a\nb") ∧
    ((Data.subscriberEventCall numbersOnly (dataMessage (quoted (bodyText twoLines)))).complete
        (execNode 1 [] 0) oneSession).map (fun r => (r.1, r.2.requests.map (·.prompt))) =
      some (false, [lit "a\\nb"]) ∧
    lit "a\\nb" ≠ lit "a\nb" := by
  decide +kernel

end VllmRoute.Node
