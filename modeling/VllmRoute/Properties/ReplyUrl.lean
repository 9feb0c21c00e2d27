import VllmRoute.Access.Splice
import VllmRoute.Properties.WorkIds

/-!
# The reply address of a message

The unit manager puts the address of the client in front of the client's own
text, and the channel takes the first address that it finds in the result.
Nothing in the client's text can come before it. What can fail is the code that
puts it there: the address goes through an array of 128 bytes, and an empty one
is not taken.
-/
namespace VllmRoute.Node

open Lib Access Channel

/-- For every text that `unit_action_match` takes for an inference request, with the key of
the `action` that the parser found, and every address without quotes and
backslashes: the text is pushed with exactly the address in front, and the
channel has that address when it calls the task, if and only if the address
fits into the array as a C string, and is not empty or the channel had none. -/
theorem replyUrl_adopted_iff (simdjson : Simdjson) (zmqCFormat : Int → Bytes) (comId : Int)
    (text requestId workId : Bytes)
    (parsed : readMembers simdjson text = some ⟨requestId, workId, lit "inference"⟩)
    (action : Key text (lit "action")) (plain : ∀ c ∈ zmqCFormat comId, isPlain c = true)
    (num nowMs : Int) (s : DataNode) (channel : LlmChannelObj)
    (found : s.node.llmTaskChannel num = some channel) :
    (∃ raw k s', spliceRawData (zmqCFormat comId) text = some raw ∧
        raw = lit "\x7b\"zmq_com\":\"" ++ zmqCFormat comId ++ lit "\"," ++ text.tail ∧
        unitActionMatch simdjson zmqCFormat comId text =
          .op (.zmqBusPublisherPush (if workId.isEmpty then lit "sys" else workId) raw) k ∧
        (Data.adoptFields (inferenceFields raw)).complete (execNode num [] nowMs) s =
          some ((), s') ∧
        ∃ channel', s'.node.llmTaskChannel num = some channel' ∧
          channel'.outputUrl = zmqCFormat comId) ↔
      (zmqCFormat comId).length < 128 ∧ 0 ∉ zmqCFormat comId ∧
        (zmqCFormat comId ≠ [] ∨ channel.outputUrl = []) := by
  have nonempty : text ≠ [] := by
    obtain ⟨before, after, rfl, _⟩ := action
    simp [quoted]
  obtain ⟨k, pushed⟩ := unitActionMatch_inference parsed zmqCFormat comId
  have spliced := spliceRawData_iff (zmqCFormat comId) text nonempty
  have fields := inferenceFields_zmqCom plain action
  -- the address of the channel after the message
  have adopted := @adoptFields_complete num nowMs s channel found
    ⟨zmqCFormat comId,
      sampleJsonStrGet (inferenceRawData (zmqCFormat comId) text) (lit "request_id"),
      sampleJsonStrGet (inferenceRawData (zmqCFormat comId) text) (lit "work_id")⟩
  rw [← fields] at adopted
  have taken : (if (zmqCFormat comId).isEmpty then channel.outputUrl else zmqCFormat comId) =
      zmqCFormat comId ↔ zmqCFormat comId ≠ [] ∨ channel.outputUrl = [] := by
    cases zmqCFormat comId <;> simp
  constructor
  · rintro ⟨raw, _, s', made, rfl, _, completed, channel', found', own⟩
    obtain ⟨fits, none⟩ := spliced.mp made
    cases completed.symm.trans adopted
    rw [DataNode.setChannel_found, Option.some.injEq] at found'
    exact ⟨fits, none, taken.mp ((congrArg LlmChannelObj.outputUrl found').trans own)⟩
  · rintro ⟨fits, none, given⟩
    exact ⟨_, k, _, spliced.mpr ⟨fits, none⟩, rfl, pushed, adopted, _,
      DataNode.setChannel_found _ _ _, taken.mpr given⟩

/-- The sample message, with the address for the port 8000. -/
theorem replyUrl_adopted_iff_sample : ∃ raw s',
    spliceRawData replyUrl (message (lit "\x7b")) = some raw ∧
    (Data.adoptFields (inferenceFields raw)).complete (execNode 1 [] 0) oneSession =
      some ((), s') ∧
    ∃ channel', s'.node.llmTaskChannel 1 = some channel' ∧ channel'.outputUrl = replyUrl := by
  obtain ⟨channel, found, _⟩ := oneSession_answerable
  obtain ⟨raw, _, s', made, _, _, completed, taken⟩ :=
    (replyUrl_adopted_iff (tableParser (lit "1") (lit "llm.1") (lit "inference"))
      (fun _ => replyUrl) 8000 (message (lit "\x7b")) (lit "1") (lit "llm.1") (by decide +kernel)
      (messageAction _) (by decide +kernel) 1 0 oneSession channel found).mpr
      ⟨by decide +kernel, by decide +kernel, Or.inl (by decide +kernel)⟩
  exact ⟨raw, s', made, completed, taken⟩

/-- An address of 128 bytes. -/
def longUrl : Bytes := lit "ipc:///tmp/" ++ List.replicate 117 (chr 'a')

/-- The first `sprintf` writes its zero behind the array. -/
theorem long_url_overflows :
    readMembers (tableParser (lit "1") (lit "llm.1") (lit "inference")) (message (lit "\x7b")) =
      some ⟨lit "1", lit "llm.1", lit "inference"⟩ ∧
    (∀ c ∈ longUrl, isPlain c = true) ∧ longUrl.length = 128 ∧
    sprintf zmqPushUrlArray 0 longUrl = none ∧
    spliceRawData longUrl (message (lit "\x7b")) = none := by
  refine ⟨by decide +kernel, by decide +kernel, by decide +kernel, by decide +kernel, ?_⟩
  rw [spliceRawData_eq _ _ (by decide +kernel), if_neg (by decide +kernel)]

end VllmRoute.Node
