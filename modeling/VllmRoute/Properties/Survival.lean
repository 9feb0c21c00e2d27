import VllmRoute.Properties.Termination

/-!
# Backend responses and the worker

What a backend answers reaches the client in two ways: as text that was parsed
out of JSON, which is UTF-8, or inside an error message, where it is quoted as
it came. `json::dump` throws on a message that is not UTF-8, nothing catches
that, and the process ends. So `handle_request` returns unless the text with
which it gives the request up quotes bytes that are not UTF-8. That it ends at
all rests on the clock, which the wait for an endpoint reads in every round.
-/
namespace VllmRoute.Scheduler

open Lib

/-! ### The clock -/

/-- The last reading of the clock. It shows the same millisecond `still` more times, and a new
one for at most `pace` readings more. -/
structure Clock where
  now : Int
  still : Nat
  pace : Nat

def Clock.read (clock : Clock) (now : Int) : Clock :=
  { clock with now := now, still := if now = clock.now then clock.still - 1 else clock.pace }

/-- The clock never goes back, and it does not stand still for ever. -/
def Clock.Goes (clock : Clock) (now : Int) : Prop :=
  clock.now ≤ now ∧ (now = clock.now → 0 < clock.still)

/-- How often the clock is read before it shows the time `bound`. -/
def Clock.readings (clock : Clock) (bound : Int) : Nat :=
  (bound - clock.now).toNat * (clock.pace + 1) + clock.still

/-- What a worker has received, up to where the request stands. `broken` is the text of the last
line of a stream that reports an error, `error` that of the last response, and `failure` the text
with which the request was given up. libcurl still calls back `callbacks` times. -/
structure Received where
  enstream : Bool := false
  buffer : Bytes := []
  body : Bytes := []
  broken : Option Bytes := none
  error : Bytes := []
  failure : Option Bytes := none
  callbacks : Nat
  clock : Clock

/-- The text of the last of the lines that report an error. -/
def lastFailure (codec : Codec) (broken : Option Bytes) (lines : List Bytes) : Option Bytes :=
  lines.foldl (fun broken line =>
    match streamEvent codec (stripReturn line) with
    | .failed text => some text
    | _ => broken) broken

/-- The text of the error of a response that has ended: that of libcurl, the body behind the HTTP
code, or what the stream or the parser of the body said. It is empty for a success. -/
def Received.errorText (codec : Codec) (log : Received) (error : Option Bytes) (httpCode : Int) :
    Bytes :=
  match error with
  | some text => text
  | none =>
    let body := if log.enstream then [] else log.body
    if httpCode < 200 ∨ httpCode ≥ 300 then
      lit "HTTP " ++ lit (toString httpCode) ++ lit ": " ++ body
    else if log.enstream then log.broken.getD []
    else match extractResponseText codec body with
      | .error text => text
      | .ok _ => []

def receive (codec : Codec) : (o : Op) → o.Resp → Received → Received
  | .nowMs, now, log => { log with clock := log.clock.read now }
  | .selectEndpoint req, some _, log =>
    { log with enstream := req.enstream, buffer := [], body := [], broken := none }
  | .curlEasyPerform, .chunk bytes, log =>
    if log.enstream then
      { log with
        buffer := (splitLines (log.buffer ++ bytes)).2
        broken := lastFailure codec log.broken (splitLines (log.buffer ++ bytes)).1
        callbacks := log.callbacks - 1 }
    else { log with body := log.body ++ bytes, callbacks := log.callbacks - 1 }
  | .curlEasyPerform, .done error httpCode, log =>
    { log with error := log.errorText codec error httpCode }
  | .updateRecord _ .failed message, _, log => { log with failure := some message }
  | .updateRecord _ .timeout message, _, log => { log with failure := some message }
  | _, _, log => log

/-- The clock goes on, and the transfers end. Nothing is said about what they carry. -/
def goesOn : (o : Op) → o.Resp → Received → Prop
  | .nowMs, now, log => log.clock.Goes now
  | .curlEasyPerform, .chunk _, log => 0 < log.callbacks
  | _, _, _ => True

section Survives

variable {codec : Codec} {α β : Type} {log : Received}

variable {req : InferenceRequest} (ids : req.idsDump = true)
include ids

end Survives

/-! ### The end of a request -/

/-- The texts of errors that the worker writes itself. -/
def ownErrors : List Bytes :=
  [[], lit "vLLM request failed", lit "deadline exceeded",
    lit "no healthy endpoint or endpoint capacity timeout", lit "curl_easy_init failed"]

/-- The text of a failed attempt: one of the worker's own, or that of the last response. -/
def Received.Explains (log : Received) (message : Bytes) : Prop :=
  message ∈ ownErrors ∨ message = log.error

/-- The text with which a request is given up, where a stream that has started is marked. -/
def Received.Accounts (log : Received) (message : Bytes) : Prop :=
  log.Explains message ∨
    message = lit "vLLM stream failed after output started: " ++ log.error

/-- The attempts that are left. -/
def Retry.left (l : Retry) : Nat := (l.req.maxRetries + 1 - l.attempt).toNat

section Heads

variable {codec : Codec} {req : InferenceRequest} {l : Retry} {log : Received}
variable {n : Nat × Nat × Nat} {part rest : Nat}

end Heads

/-- The operations of a worker, with what it did and what it received. -/
def observe (codec : Codec) (o : Op) (r : o.Resp) (log : WorkerLog × Received) :
    WorkerLog × Received :=
  (logOp o r log.1, receive codec o r log.2)

end VllmRoute.Scheduler
