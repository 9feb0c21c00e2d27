import VllmRoute.Channel.Extract

/-!
# What a channel takes from a message

The part of `llm_channel_obj::subscriber_event_call` that reads the text of a
message: the search for the quoted name `action`, and the members taken after
it was found.
-/
namespace VllmRoute.Channel

open Lib

def userInferenceFlageStr : Bytes := lit "\"action\""

/-- The size of a pointer, by which the search moves on. -/
def stride : Nat := 8

/-- The loop of `subscriber_event_call` from the position `start` on: whether some
occurrence is not preceded by a backslash. -/
def actionLoop (raw : Bytes) : Nat → Nat → Bool
  | 0, _ => false
  | fuel + 1, start =>
    match find userInferenceFlageStr (raw.drop start) with
    | none => false
    | some i =>
      let pos := start + i
      -- an occurrence at the very start does not count
      if pos > 0 ∧ raw[pos - 1]? ≠ some (chr '\\') then true
      else actionLoop raw fuel (pos + stride)

/-- The position grows in every round, so the length bounds their number. -/
def hasAction (raw : Bytes) : Bool := actionLoop raw (raw.length + 1) 0

/-- What a message sets in the channel. -/
structure Fields where
  zmqCom : Bytes
  requestId : Bytes
  workId : Bytes
  deriving DecidableEq

def inferenceFields (raw : Bytes) : Option Fields :=
  if hasAction raw then
    some
      { zmqCom := sampleJsonStrGet raw (lit "zmq_com")
        requestId := sampleJsonStrGet raw (lit "request_id")
        workId := sampleJsonStrGet raw (lit "work_id") }
  else none

end VllmRoute.Channel
