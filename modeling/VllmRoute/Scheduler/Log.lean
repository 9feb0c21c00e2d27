import VllmRoute.Scheduler.Worker

/-!
# What a worker did

The log that goes with a worker: for each request it took, the messages it sent
and the outcomes it counted. It records operations of the worker's code and has
no effect on them.
-/
namespace VllmRoute.Scheduler

/-- The attempt a message comes from: how many were begun so far, and the
endpoint of the last. -/
structure Source where
  attempts : Nat := 0
  endpoint : Option Nat := none
  deriving DecidableEq

/-- What a message is to the client. -/
inductive Kind where
  | delta (index : Int)
  | finish (index : Int)
  | text
  | error (code : Int)
  deriving DecidableEq

def Kind.terminal : Kind → Bool
  | .delta _ => false
  | _ => true

def ClientMessage.kind (m : ClientMessage) : Kind :=
  if m.errorCode ≠ 0 then .error m.errorCode
  else match m.data with
    | .text _ => .text
    | .delta body => if body.finish then .finish body.index else .delta body.index

/-- What a worker did for one request. -/
structure Tally where
  req : InferenceRequest
  source : Source := {}
  sent : List (Source × ClientMessage) := []
  /-- the terminal statuses passed to `update_record`, with the task they were for -/
  statuses : List (Int × RequestStatus) := []
  /-- the calls of `on_request_finish` -/
  finishes : Nat := 0
  sawStopping : Bool := false

namespace Tally

def outputs (t : Tally) : List (Source × Kind) := t.sent.map fun (source, m) => (source, m.kind)

/-- The terminal messages sent. -/
def terminals (t : Tally) : Nat := t.outputs.countP fun output => output.2.terminal

def send (t : Tally) (m : ClientMessage) : Tally := { t with sent := t.sent ++ [(t.source, m)] }

def note (t : Tally) : (o : Op) → o.Resp → Tally
  -- an attempt begins when an endpoint is found for it
  | .selectEndpoint _, some (attempt, _) =>
    { t with source := ⟨t.source.attempts + 1, some attempt.endpoint⟩ }
  | .sendRawForUrl m, _ => t.send m
  | .updateRecord req status _, _ =>
    -- `Running` is no outcome
    if status.terminal then { t with statuses := t.statuses ++ [(req.taskId, status)] } else t
  | .onRequestFinish .., _ => { t with finishes := t.finishes + 1 }
  | .loadStopping, true => { t with sawStopping := true }
  | _, _ => t

end Tally

/-- The log of a worker: the requests it took, the current one first, and whether it
found the queue empty at a stop. -/
structure WorkerLog where
  tallies : List Tally := []
  drained : Bool := false

def noteCurrent (o : Op) (r : o.Resp) : List Tally → List Tally
  | [] => []
  | t :: done => t.note o r :: done

def logOp : (o : Op) → o.Resp → WorkerLog → WorkerLog
  | .popNextRequest, some req, log => { log with tallies := { req := req } :: log.tallies }
  | .popNextRequest, none, log => { log with drained := true }
  | o, r, log => { log with tallies := noteCurrent o r log.tallies }

end VllmRoute.Scheduler
