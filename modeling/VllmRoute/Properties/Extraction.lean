import VllmRoute.Access.UnitAction
import VllmRoute.Channel.Object
import VllmRoute.Channel.Values

/-!
# Two readings of one message

The unit manager parses a message with simdjson and passes its text on; the
channel searches that text. The two agree on a member exactly when the search
finds the member itself, or the name stands before it with the same value behind it.
-/
namespace VllmRoute.Channel

open Lib Access

/-- A key can follow this text: it ends with a blank, a brace or a comma. -/
def Leads (before : Bytes) : Prop :=
  ∃ c ∈ before.getLast?, isBlank c = true ∨ c = chr '{' ∨ c = chr ','

theorem Leads.append {before : Bytes} (leads : Leads before) (earlier : Bytes) :
    Leads (earlier ++ before) := by
  obtain ⟨c, last, kind⟩ := leads
  exact ⟨c, by simp_all [List.getLast?_append], kind⟩

/-- The key of a member, and its place in the text of an object. -/
structure Key (text name : Bytes) where
  before : Bytes
  after : Bytes
  split : text = before ++ (quoted name ++ after)
  leads : Leads before

/-- A member whose value is a string without escapes. -/
structure Member (text name value : Bytes) extends Key text name where
  afterKey : Bytes
  beforeValue : Bytes
  rest : Bytes
  value_split : after = afterKey ++ chr ':' :: (beforeValue ++ (quoted value ++ rest))
  blank : ∀ c ∈ afterKey, isBlank c = true
  blank' : ∀ c ∈ beforeValue, isBlank c = true
  plain : ∀ c ∈ value, isPlain c = true

theorem Key.occurs {text name : Bytes} (k : Key text name) :
    OccursAt (quoted name) text k.before.length := by
  obtain ⟨before, _, rfl, _⟩ := k
  exact occursAt_append before _ _

theorem Key.drop_name {text name : Bytes} (k : Key text name) :
    text.drop (k.before.length + (quoted name).length) = k.after := by
  obtain ⟨before, _, rfl, _⟩ := k
  rw [← List.drop_drop, List.drop_left, List.drop_left]

/-- A name of which no character ends a string or leads to a key. -/
def IsName (name : Bytes) : Prop :=
  ∀ c ∈ name, isPlain c = true ∧ isBlank c = false ∧ isDelimiter c = false

instance (name : Bytes) : Decidable (IsName name) :=
  inferInstanceAs (Decidable (∀ c ∈ name, _))

namespace Member

variable {text name value : Bytes} (m : Member text name value)

/-- The quoted name first occurs as the key of the member, and nothing but spaces stands before
its value; or it occurs earlier, and the text there has the same value behind it. -/
def Read : Prop :=
  (find (quoted name) text = some m.before.length ∧ ∀ c ∈ m.beforeValue, c = chr ' ') ∨
    ∃ earlier rest, text = earlier ++ (quoted name ++ rest) ∧
      find (quoted name) text = some earlier.length ∧ earlier.length < m.before.length ∧
      ValueAfter value rest

theorem readValue_drop_key : readValue (text.drop (m.before.length + (quoted name).length)) =
    withoutSpaces m.beforeValue ++ value := by
  rw [m.drop_name, m.value_split, readValue_member _ _ _ _ m.blank m.blank' m.plain]

/-- Behind an earlier occurrence of the name comes the key, after something that ends with a
blank, a brace or a comma. -/
theorem exists_lead (named : IsName name) {earlier rest : Bytes}
    (split : text = earlier ++ (quoted name ++ rest)) (before : earlier.length < m.before.length) :
    ∃ lead, rest = lead ++ (quoted name ++ m.after) ∧ lead.getLast? ≠ some (chr '\\') := by
  obtain ⟨c, last, kind⟩ := m.leads
  have lead (c : UInt8) (kind : isBlank c = true ∨ c = chr '{' ∨ c = chr ',') :
      c ≠ chr '\\' ∧ c ≠ quote := by
    simp only [isBlank, Bool.or_eq_true, decide_eq_true_eq] at kind
    rcases kind with (((rfl | rfl) | rfl) | rfl) | rfl | rfl <;> decide
  have same : earlier ++ (quoted name ++ rest) = m.before ++ (quoted name ++ m.after) :=
    split.symm.trans m.split
  -- the key begins behind the earlier occurrence
  obtain ⟨inner, here, tail⟩ : ∃ inner, m.before = earlier ++ inner ∧
      quoted name ++ rest = inner ++ (quoted name ++ m.after) := by
    rcases List.append_eq_append_iff.mp same with ⟨inner, here, tail⟩ | ⟨inner, here, _⟩
    · exact ⟨inner, here, tail⟩
    · rw [here, List.length_append] at before
      omega
  rcases List.append_eq_append_iff.mp tail with ⟨lead', here', tail'⟩ | ⟨beyond, overlap, _⟩
  · refine ⟨lead', tail', fun backslash => ?_⟩
    have end_ : m.before.getLast? = some (chr '\\') := by
      rw [here, here', List.getLast?_append, List.getLast?_append, backslash]
      rfl
    rw [end_] at last
    exact (lead c kind).1 (Option.some.inj last).symm
  -- or inside of it, but no character of a name leads to a key
  · have nonempty : inner ≠ [] := by
      rintro rfl
      rw [here, List.append_nil] at before
      omega
    have member : c ∈ inner := by
      rw [here, List.getLast?_append_of_ne_nil _ nonempty] at last
      exact List.mem_of_getLast? last
    have inside : c ∈ quoted name := overlap ▸ List.mem_append_left beyond member
    simp only [quoted, List.cons_append, List.mem_cons, List.mem_append, List.not_mem_nil,
      or_false] at inside
    rcases inside with rfl | own | rfl
    · exact absurd rfl (lead quote kind).2
    · obtain ⟨_, noBlank, noDelimiter⟩ := named c own
      rcases kind with blank | rfl | rfl
      · cases noBlank.symm.trans blank
      · cases noDelimiter
      · cases noDelimiter
    · exact absurd rfl (lead quote kind).2

/-- What the text search returns for the name of a member. -/
theorem sampleJsonStrGet_eq_iff (named : IsName name) :
    sampleJsonStrGet text name = value ↔ m.Read := by
  obtain ⟨p, below, found⟩ := m.occurs.find
  simp only [sampleJsonStrGet, Read, found, Option.some.injEq]
  rcases Nat.lt_or_eq_of_le below with earlier | rfl
  · -- the name occurs before the key, and that occurrence is read
    obtain ⟨front, rest, split, rfl⟩ : ∃ front rest, text = front ++ (quoted name ++ rest) ∧
        front.length = p := by
      obtain ⟨⟨inside, rest, here⟩, _⟩ := (find_eq_some_iff _ _ _).mp found
      refine ⟨text.take p, rest, ?_, List.length_take_of_le inside⟩
      rw [here, List.take_append_drop]
    have dropped : text.drop (front.length + (quoted name).length) = rest := by
      rw [split, ← List.drop_drop, List.drop_left, List.drop_left]
    obtain ⟨lead, rfl, led⟩ := m.exists_lead named split earlier
    rw [dropped, readValue_eq_iff m.plain led fun c member => (named c member).1]
    constructor
    · intro follows
      exact Or.inr ⟨front, _, split, rfl, earlier, follows⟩
    · rintro (⟨here, _⟩ | ⟨front', rest', split', length, _, follows⟩)
      · omega
      · have same := split.symm.trans split'
        obtain ⟨rfl, tail⟩ := List.append_inj same length
        rw [List.append_cancel_left tail]
        exact follows
  · -- the key itself is read, with all of the blanks after the colon but the spaces
    rw [m.readValue_drop_key]
    constructor
    · intro same
      refine Or.inl ⟨rfl, fun c member => ?_⟩
      have none : withoutSpaces m.beforeValue = [] := by simpa using same
      simpa using List.filter_eq_nil_iff.mp none c member
    · rintro (⟨_, spaces⟩ | ⟨front, _, _, length, earlier, _⟩)
      · have none : withoutSpaces m.beforeValue = [] :=
          List.filter_eq_nil_iff.mpr fun c member => by simpa using spaces c member
        simp [none]
      · omega

end Member

/-! ### The search for `action` -/

/-- Two occurrences overlap at most in one quote, and then the second follows an `n`. -/
theorem action_occurrences_apart (raw : Bytes) (p q : Nat) (before : p < q)
    (first : OccursAt userInferenceFlageStr raw p) (second : OccursAt userInferenceFlageStr raw q)
    (lead : raw[q - 1]? ≠ some (chr 'n')) : p + stride ≤ q := by
  by_contra overlap
  obtain ⟨d, rfl⟩ : ∃ d, q = p + d := ⟨q - p, by omega⟩
  have bound : d < 8 := by
    unfold stride at overlap
    omega
  have opening : raw[p + d]? = userInferenceFlageStr[0]? := second.getElem? (k := 0) (by decide)
  have inside : raw[p + d]? = userInferenceFlageStr[d]? := first.getElem? bound
  have quotes : userInferenceFlageStr[d]? = userInferenceFlageStr[0]? := inside.symm.trans opening
  -- a second quote stands only at the end of the flag
  have last : d = 7 := by
    have only : ∀ d < 8, 0 < d → userInferenceFlageStr[d]? = userInferenceFlageStr[0]? → d = 7 := by
      decide
    exact only d bound (by omega) quotes
  subst last
  exact lead (first.getElem? (k := 6) (by decide))

/-- The loop finds an occurrence that follows neither a backslash nor an `n`. -/
theorem actionLoop_eq_true (raw : Bytes) (q fuel start : Nat)
    (occurs : OccursAt userInferenceFlageStr raw q) (positive : 0 < q)
    (lead : raw[q - 1]? ≠ some (chr '\\') ∧ raw[q - 1]? ≠ some (chr 'n'))
    (reached : start ≤ q) (enough : raw.length < start + fuel) :
    actionLoop raw fuel start = true := by
  induction fuel generalizing start with
  | zero =>
    have := occurs.1
    omega
  | succ fuel ih =>
    obtain ⟨i, below, found⟩ := (occursAt_drop reached occurs).find
    have here : OccursAt userInferenceFlageStr raw (start + i) :=
      occursAt_of_drop (by decide) ((find_eq_some_iff _ _ _).mp found).1
    rw [actionLoop, found]
    dsimp only
    split
    · rfl
    next escaped =>
      -- an escaped occurrence is not `q`, and the loop goes on behind it without passing `q`
      have before : start + i < q := by
        rcases Nat.lt_or_ge (start + i) q with before | after
        · exact before
        · have same : start + i = q := by omega
          exact absurd ⟨by omega, by rw [same]; exact lead.1⟩ escaped
      have apart := action_occurrences_apart raw _ q before here occurs lead.2
      exact ih (start + i + stride) apart (by unfold stride; omega)

theorem Key.hasAction {raw : Bytes} (k : Key raw (lit "action")) : hasAction raw = true := by
  obtain ⟨c, last, kind⟩ := k.leads
  have nonempty : 0 < k.before.length := by
    rcases List.eq_nil_or_concat k.before with empty | ⟨_, _, some⟩
    · simp [empty] at last
    · simp [some]
  have previous : raw[k.before.length - 1]? = some c := by
    obtain ⟨before, _, rfl, _⟩ := k
    rw [List.getElem?_append_left (Nat.sub_lt nonempty Nat.one_pos), ← List.getLast?_eq_getElem?]
    exact last
  have other : c ≠ chr '\\' ∧ c ≠ chr 'n' := by
    simp only [isBlank, Bool.or_eq_true, decide_eq_true_eq] at kind
    rcases kind with (((rfl | rfl) | rfl) | rfl) | rfl | rfl <;> decide
  refine actionLoop_eq_true raw k.before.length _ 0 k.occurs nonempty ?_ (Nat.zero_le _) (by omega)
  rw [previous]
  simpa using other

/-! ### The forwarded text -/

/-- A key of the client's text is a key of the text that is pushed to the unit. -/
def Key.forward {text name : Bytes} (k : Key text name) (zmqPushUrl : Bytes) :
    Key (inferenceRawData zmqPushUrl text) name where
  before := lit "\x7b\"zmq_com\":\"" ++ zmqPushUrl ++ lit "\"," ++ k.before.tail
  after := k.after
  split := by
    obtain ⟨before, _, rfl, leads⟩ := k
    cases before with
    | nil => simp [Leads] at leads
    | cons c before => simp [inferenceRawData]
  leads := by
    obtain ⟨before, _, _, leads⟩ := k
    match before, leads with
    -- the brace that opened the client's text is gone, and the key follows the new comma
    | [c], _ =>
      rw [List.tail_cons, List.append_nil]
      exact Leads.append ⟨chr ',', by decide +kernel, by decide⟩ _
    | c :: d :: before, leads =>
      have rest : Leads (d :: before) := by simpa [Leads, List.getLast?_cons] using leads
      exact rest.append _

def Member.forward {text name value : Bytes} (m : Member text name value) (zmqPushUrl : Bytes) :
    Member (inferenceRawData zmqPushUrl text) name value :=
  { m with toKey := m.toKey.forward zmqPushUrl }

/-- The member that the unit manager puts in front. -/
def zmqComMember (zmqPushUrl text : Bytes) (plain : ∀ c ∈ zmqPushUrl, isPlain c = true) :
    Member (inferenceRawData zmqPushUrl text) (lit "zmq_com") zmqPushUrl where
  before := lit "\x7b"
  after := chr ':' :: (quoted zmqPushUrl ++ (chr ',' :: text.tail))
  split := by
    have head : lit "\x7b\"zmq_com\":\"" =
        lit "\x7b" ++ (quoted (lit "zmq_com") ++ [chr ':', quote]) := by
      decide +kernel
    have tail : lit "\"," = [quote, chr ','] := by decide +kernel
    rw [inferenceRawData, head, tail]
    simp [quoted]
  leads := ⟨chr '{', by decide +kernel, by decide⟩
  afterKey := []
  beforeValue := []
  rest := chr ',' :: text.tail
  value_split := rfl
  blank := nofun
  blank' := nofun
  plain := plain

/-- The channel takes the reply address that the unit manager put in front. -/
theorem inferenceFields_zmqCom {zmqPushUrl text : Bytes}
    (plain : ∀ c ∈ zmqPushUrl, isPlain c = true) (action : Key text (lit "action")) :
    inferenceFields (inferenceRawData zmqPushUrl text) = some ⟨zmqPushUrl,
      sampleJsonStrGet (inferenceRawData zmqPushUrl text) (lit "request_id"),
      sampleJsonStrGet (inferenceRawData zmqPushUrl text) (lit "work_id")⟩ := by
  -- the new member stands right behind the brace, so the search finds no other first
  let m := zmqComMember zmqPushUrl text plain
  have first : ¬ OccursAt (quoted (lit "zmq_com")) (inferenceRawData zmqPushUrl text) 0 := by
    intro occurs
    have opening := occurs.getElem? (k := 0) (by decide)
    rw [m.split] at opening
    exact absurd (Option.some.inj opening) (by decide)
  have found : find (quoted (lit "zmq_com")) (inferenceRawData zmqPushUrl text) = some 1 := by
    refine (find_eq_some_iff _ _ _).mpr ⟨m.occurs, fun j before => ?_⟩
    obtain rfl : j = 0 := by omega
    exact first
  have read : sampleJsonStrGet (inferenceRawData zmqPushUrl text) (lit "zmq_com") = zmqPushUrl :=
    (m.sampleJsonStrGet_eq_iff (by decide +kernel)).mpr (Or.inl ⟨found, nofun⟩)
  rw [inferenceFields, if_pos (action.forward zmqPushUrl).hasAction, read]

theorem inferenceFields_eq_iff {raw requestId workId : Bytes} (action : Key raw (lit "action"))
    (request : Member raw (lit "request_id") requestId)
    (work : Member raw (lit "work_id") workId) :
    (inferenceFields raw).map (fun fields => (fields.requestId, fields.workId)) =
      some (requestId, workId) ↔ request.Read ∧ work.Read := by
  have names : IsName (lit "request_id") ∧ IsName (lit "work_id") := by decide +kernel
  rw [inferenceFields, if_pos action.hasAction, ← request.sampleJsonStrGet_eq_iff names.1,
    ← work.sampleJsonStrGet_eq_iff names.2]
  simp

theorem unitActionMatch_inference {simdjson : Simdjson} {text requestId workId : Bytes}
    (parsed : readMembers simdjson text = some ⟨requestId, workId, lit "inference"⟩)
    (zmqCFormat : Int → Bytes) (comId : Int) :
    ∃ k, unitActionMatch simdjson zmqCFormat comId text =
      .op (.zmqBusPublisherPush (if workId.isEmpty then lit "sys" else workId)
        (inferenceRawData (zmqCFormat comId) text)) k := by
  unfold unitActionMatch
  simp only [parsed, if_true]
  exact ⟨_, rfl⟩

/-- For every text that `unit_action_match` parses as an inference request, with the
members of its object that the parser returned: the text is pushed, and the
channel takes the same `request_id` and `work_id` from it exactly when the
search reads both members. -/
theorem parsers_agree_iff (simdjson : Simdjson) (zmqCFormat : Int → Bytes) (comId : Int)
    (text requestId workId : Bytes)
    (parsed : readMembers simdjson text = some ⟨requestId, workId, lit "inference"⟩)
    (request : Member text (lit "request_id") requestId)
    (work : Member text (lit "work_id") workId) (action : Key text (lit "action")) :
    ∃ k, unitActionMatch simdjson zmqCFormat comId text =
        .op (.zmqBusPublisherPush (if workId.isEmpty then lit "sys" else workId)
          (inferenceRawData (zmqCFormat comId) text)) k ∧
      ((inferenceFields (inferenceRawData (zmqCFormat comId) text)).map
          (fun fields => (fields.requestId, fields.workId)) = some (requestId, workId) ↔
        (request.forward (zmqCFormat comId)).Read ∧ (work.forward (zmqCFormat comId)).Read) := by
  obtain ⟨k, pushed⟩ := unitActionMatch_inference parsed zmqCFormat comId
  exact ⟨k, pushed, inferenceFields_eq_iff (action.forward _) (request.forward _) (work.forward _)⟩

/-- A message of a client, from its first members on. -/
def message (opening : Bytes) : Bytes :=
  opening ++ lit "\"request_id\": \"1\", \"work_id\": \"llm.1\", \"action\": \"inference\"\x7d"

section

variable (opening : Bytes)

def messageRequest (leads : Leads opening) :
    Member (message opening) (lit "request_id") (lit "1") where
  before := opening
  after := lit ": \"1\", \"work_id\": \"llm.1\", \"action\": \"inference\"\x7d"
  split := congrArg (opening ++ ·) (by decide +kernel)
  leads := leads
  afterKey := []
  beforeValue := lit " "
  rest := lit ", \"work_id\": \"llm.1\", \"action\": \"inference\"\x7d"
  value_split := by decide +kernel
  blank := by simp
  blank' := by decide +kernel
  plain := by decide +kernel

def messageWork : Member (message opening) (lit "work_id") (lit "llm.1") where
  before := opening ++ lit "\"request_id\": \"1\", "
  after := lit ": \"llm.1\", \"action\": \"inference\"\x7d"
  split := by
    rw [message, List.append_assoc]
    exact congrArg (opening ++ ·) (by decide +kernel)
  leads := Leads.append ⟨chr ' ', by decide +kernel, by decide⟩ opening
  afterKey := []
  beforeValue := lit " "
  rest := lit ", \"action\": \"inference\"\x7d"
  value_split := by decide +kernel
  blank := by simp
  blank' := by decide +kernel
  plain := by decide +kernel

def messageAction : Key (message opening) (lit "action") where
  before := opening ++ lit "\"request_id\": \"1\", \"work_id\": \"llm.1\", "
  after := lit ": \"inference\"\x7d"
  split := by
    rw [message, List.append_assoc]
    exact congrArg (opening ++ ·) (by decide +kernel)
  leads := Leads.append ⟨chr ' ', by decide +kernel, by decide⟩ opening

end

/-- The expansion of `zmq_c_format` for the port 8000. -/
def replyUrl : Bytes := lit "ipc:///tmp/llm/8000.sock"

/-- The members before `request_id` in this message hold an object with the same
`request_id`. -/
def repeatedOpening : Bytes := lit "\x7b\"data\": \x7b\"request_id\": \"1\"\x7d, "

/-- The message of the sample client, and one that has its `request_id` twice. -/
theorem parsers_agree_iff_sample :
    (inferenceFields (inferenceRawData replyUrl (message (lit "\x7b")))).map
      (fun fields => (fields.requestId, fields.workId)) = some (lit "1", lit "llm.1") ∧
    (inferenceFields (inferenceRawData replyUrl (message repeatedOpening))).map
      (fun fields => (fields.requestId, fields.workId)) = some (lit "1", lit "llm.1") := by
  constructor
  · obtain ⟨_, _, iff⟩ := parsers_agree_iff (tableParser (lit "1") (lit "llm.1") (lit "inference"))
      (fun _ => replyUrl) 8000 (message (lit "\x7b")) (lit "1") (lit "llm.1") (by decide +kernel)
      (messageRequest _ ⟨chr '{', by decide +kernel, by decide⟩) (messageWork _) (messageAction _)
    exact iff.mpr ⟨Or.inl ⟨by decide +kernel, by decide +kernel⟩,
      Or.inl ⟨by decide +kernel, by decide +kernel⟩⟩
  · obtain ⟨_, _, iff⟩ := parsers_agree_iff (tableParser (lit "1") (lit "llm.1") (lit "inference"))
      (fun _ => replyUrl) 8000 (message repeatedOpening) (lit "1") (lit "llm.1")
      (by decide +kernel) (messageRequest _ ⟨chr ' ', by decide +kernel, by decide⟩)
      (messageWork _) (messageAction _)
    -- the nested member is found first, and has the value behind its colon
    refine iff.mpr ⟨Or.inr ⟨lit "\x7b\"zmq_com\":\"ipc:///tmp/llm/8000.sock\",\"data\": \x7b",
      lit ": " ++ (quoted (lit "1") ++ (lit "\x7d, " ++ message [])), by decide +kernel,
      by decide +kernel, by decide +kernel, .string (by decide +kernel) (by decide +kernel)⟩,
      Or.inl ⟨by decide +kernel, by decide +kernel⟩⟩

/-- The members before `request_id` in this message hold an object with a member of that
name. -/
def nestedOpening : Bytes := lit "\x7b\"data\": \x7b\"request_id\": \"2\"\x7d, "

/-- The channel takes the `request_id` of the nested object. -/
theorem nested_request_id_taken :
    Nonempty (Member (message nestedOpening) (lit "request_id") (lit "1")) ∧
    (∃ k, unitActionMatch (tableParser (lit "1") (lit "llm.1") (lit "inference"))
        (fun _ => replyUrl) 8000 (message nestedOpening) = .op (.zmqBusPublisherPush (lit "llm.1")
          (inferenceRawData replyUrl (message nestedOpening))) k) ∧
    (inferenceFields (inferenceRawData replyUrl (message nestedOpening))).map
      (fun fields => (fields.requestId, fields.workId)) = some (lit "2", lit "llm.1") ∧
    lit "2" ≠ lit "1" := by
  refine ⟨⟨messageRequest _ ⟨chr ' ', by decide +kernel, by decide⟩⟩, ?_, by decide +kernel,
    by decide +kernel⟩
  exact @unitActionMatch_inference (tableParser (lit "1") (lit "llm.1") (lit "inference"))
    (message nestedOpening) (lit "1") (lit "llm.1") (by decide +kernel) (fun _ => replyUrl) 8000

end VllmRoute.Channel
