import VllmRoute.Scheduler.Backend
import VllmRoute.Scheduler.Dispatch

/-!
# The health worker

`health_loop` goes through a snapshot of the endpoint list, asks each endpoint
and reports the answer, and sleeps until the next round. It runs beside the
workers and `reload_config`, so the list can change under a round.
-/
namespace VllmRoute.Scheduler

/-- What `http_get` leaves when it returns: whether libcurl succeeded, the status and the body. -/
structure HttpResult where
  ok : Bool
  httpCode : Int
  body : Bytes

def HttpResult.isSuccess (result : HttpResult) : Bool :=
  result.ok && 200 ≤ result.httpCode && result.httpCode < 300

/-- What has become of a call of `http_get` at some moment, by URL, API key and timeout. A call
that has not returned has no result. -/
abbrev Web := String → String → Int → Option HttpResult

/-- libcurl gives up a transfer whose time is over. A timeout of zero is none, and a negative one
is not accepted, which leaves the default of none. -/
def Web.Timed (web : Web) : Prop :=
  ∀ url apiKey timeoutMs, 0 < timeoutMs → (web url apiKey timeoutMs).isSome = true

def healthUrl (ep : VllmEndpoint) : String :=
  let healthPath := if ep.healthPath.isEmpty then "/health" else ep.healthPath
  ep.baseUrl ++ if healthPath.front ≠ '/' then "/" ++ healthPath else healthPath

/-- The loop over `data` in the answer to `/v1/models`. -/
def listsModel (parsed : Json) (servedModel : String) : Bool :=
  match parsed.get? "data" with
  | some (.arr items) => items.any fun item =>
    match item.get? "id" with
    | some (.str id) => id == servedModel
    | _ => false
  | _ => false

/-- The two requests of a check are answered at different moments. There is no result until the
last of them has returned. -/
def checkEndpointHealth (codec : Codec) (ep : VllmEndpoint) (timeoutMs : Int)
    (health models : Web) : Option Bool := do
  let first ← health (healthUrl ep) ep.apiKey timeoutMs
  if first.isSuccess then return true
  let result ← models (ep.baseUrl ++ "/v1/models") ep.apiKey timeoutMs
  if !result.isSuccess then return false
  if ep.servedModel.isEmpty then return true
  match codec.parse result.body with
  | .ok parsed => return listsModel parsed ep.servedModel
  | .error _ => return false

/-- Where `health_loop` is: before a test of `stopping_` (`top`, `next`, `sleep`), in a check with
the timeout that it has read, or before the report of the check. -/
inductive HealthPoint where
  | top
  | next (snapshot : List Nat)
  | checking (id : Nat) (timeoutMs : Int) (snapshot : List Nat)
  | update (id : Nat) (ok : Bool) (latencyMs : Int) (snapshot : List Nat)
  | sleep (slept interval : Int)
  | finished
  deriving DecidableEq

/-- The scheduler with its health worker. `rounds` counts the snapshots that the worker has gone
through to the end, for the properties. -/
structure Supervised where
  dispatcher : Dispatcher
  stopping : Bool
  point : HealthPoint
  rounds : Nat

/-- What the environment contributes to a step of the health worker. -/
structure HealthChoice where
  health : Web
  models : Web
  latencyMs : Int
  thresholds : Thresholds

inductive SupervisedEvent where
  | health (choice : HealthChoice)
  | scheduler (e : Event)
  | stop

namespace Supervised

/-- After `load_model` and `start`. -/
def start (pool : Pool) (nowMs : Int) : Supervised where
  dispatcher := .start pool nowMs
  stopping := false
  point := if pool.cfg.mockMode || pool.endpoints.isEmpty then .finished else .top
  rounds := 0

def healthLoop (codec : Codec) (s : Supervised) (choice : HealthChoice) : Option Supervised :=
  let pool := s.dispatcher.pool
  match s.point with
  | .top => some { s with point := if s.stopping then .finished else .next pool.endpoints }
  | .next [] =>
    some { s with point := .sleep 0 pool.cfg.healthCheckIntervalMs, rounds := s.rounds + 1 }
  | .next (id :: snapshot) =>
    -- `break` leaves the rest of the snapshot alone
    some { s with
      point := if s.stopping then .sleep 0 pool.cfg.healthCheckIntervalMs
        else .checking id pool.cfg.healthCheckTimeoutMs snapshot }
  | .checking id timeoutMs snapshot =>
    (checkEndpointHealth codec (pool.heap id) timeoutMs choice.health choice.models).map fun ok =>
      { s with point := .update id ok choice.latencyMs snapshot }
  | .update id ok latencyMs snapshot =>
    (s.dispatcher.step (.health id choice.thresholds ok latencyMs)).map fun dispatcher =>
      { s with dispatcher := dispatcher, point := .next snapshot }
  | .sleep slept interval =>
    some { s with
      point := if !s.stopping && slept < interval then .sleep (slept + 200) interval else .top }
  | .finished => none

/-- One step of the health worker, of the other threads, or `stop`. -/
def step (codec : Codec) (s : Supervised) : SupervisedEvent → Option Supervised
  | .health choice => s.healthLoop codec choice
  | .scheduler (.health ..) => none
  | .scheduler e => (s.dispatcher.step e).map fun dispatcher => { s with dispatcher := dispatcher }
  | .stop => some { s with stopping := true }

end Supervised

end VllmRoute.Scheduler
