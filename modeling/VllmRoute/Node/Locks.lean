import VllmRoute.Lib.Locks

/-!
# The mutexes of a node

What the functions of a node do with mutexes: their guards with the scopes of
these, and the calls in between. Everything else is left out, so a test is a
choice, and a loop may take any number of turns. To wait on a condition variable
is to release its mutex and to lock it again; who wakes the thread, and that it is
woken, is not said here. `std::lock` takes its mutexes when all of them are free,
since it holds none of them while it waits.

A thread holds the mutex `running` from its start to its end, and `join` locks it.
-/
namespace VllmRoute.Node.Locks

open Lib

/-- The threads of a node besides the main thread. -/
inductive Thread where
  | evenLoop
  | rpc
  /-- the thread of the `pzmq` by which a channel subscribes -/
  | subscriber (channel : Nat)
  | worker (task index : Nat)
  | healthWorker (task : Nat)
  | observabilityWorker (task : Nat)
  deriving DecidableEq

/-- The mutexes of a `vllm_task`, of its `metrics_` and of its `observability_`. -/
inductive TaskMutex where
  | reloadMtx
  | configMtx
  | endpointsMtx
  | queueMtx
  | recordsMtx
  | endpointWaitMtx
  | metricsMtx
  | stateMtx
  | seriesMtx
  | engineMtx
  | wakeMtx
  deriving DecidableEq

inductive Mutex where
  /-- of `rpc_ctx_` -/
  | zmqFunMtx
  | sessionsMtx
  | streamStatesMtx
  /-- of a `StreamInputState` -/
  | streamStateMtx (state : Nat)
  | globalEndpointsMtx
  | ofTask (task : Nat) (mutex : TaskMutex)
  | running (thread : Thread)
  deriving DecidableEq

abbrev Code := Locking Mutex

open Locking (skip either loop guard block)

def join (thread : Thread) : Code := guard [.running thread] skip

/-! ### `ObservabilityMetrics` -/

namespace ObservabilityMetrics

variable (task : Nat)

/-- The functions that observe something return at once if `enabled_` is not set. -/
def observe : Code := either skip (guard [.ofTask task .seriesMtx] skip)

def observeRequestFinish : Code := observe task

def observeQueueReject : Code := observe task

def observeQueueSnapshot : Code := observe task

def observeEndpoint : Code := observe task

def snapshot : Code :=
  block [guard [.ofTask task .seriesMtx] skip, guard [.ofTask task .stateMtx] skip]

def query : Code := block [snapshot task, either skip (guard [.ofTask task .engineMtx] skip)]

def flushOnce : Code :=
  block [guard [.ofTask task .seriesMtx] skip,
    -- it returns if there are no series, or no points
    either skip (block [guard [.ofTask task .engineMtx] skip, guard [.ofTask task .stateMtx] skip])]

def workerLoop : Code :=
  block
    [loop (block
      [guard [.ofTask task .stateMtx] skip,
        loop (guard [.ofTask task .wakeMtx] skip),
        -- the guard of `wake_mtx_` has the rest of the body as its scope
        guard [.ofTask task .wakeMtx] (either skip (flushOnce task))]),
      flushOnce task]

def stop : Code :=
  block
    [either skip (join (.observabilityWorker task)), flushOnce task,
      guard [.ofTask task .engineMtx] skip, guard [.ofTask task .stateMtx] skip]

def configure : Code :=
  block
    [stop task, guard [.ofTask task .stateMtx] skip,
      -- switched off; or without a directory, or an exception; or started
      either skip (block
        [either skip (guard [.ofTask task .engineMtx] skip), guard [.ofTask task .stateMtx] skip])]

end ObservabilityMetrics

/-! ### `MetricsCollector` -/

namespace MetricsCollector

variable (task : Nat)

def onRequestAccepted : Code := guard [.ofTask task .metricsMtx] skip

def onQueueReject : Code := guard [.ofTask task .metricsMtx] skip

def onRequestFinish : Code := guard [.ofTask task .metricsMtx] skip

def snapshot : Code := guard [.ofTask task .metricsMtx] skip

end MetricsCollector

/-! ### `vllm_task` -/

namespace VllmTask

variable (task : Nat)

def pendingCount : Code := guard [.ofTask task .queueMtx] skip

def primaryBaseUrl : Code := guard [.ofTask task .endpointsMtx] skip

def applyProfileToRequest : Code := guard [.ofTask task .configMtx] skip

def queueStats : Code :=
  block [guard [.ofTask task .configMtx] skip, guard [.ofTask task .queueMtx] skip]

def recordsJson : Code := guard [.ofTask task .recordsMtx] skip

def recordPending : Code := guard [.ofTask task .recordsMtx] skip

def updateRecord : Code := guard [.ofTask task .recordsMtx] skip

def observeRequestMetrics : Code := ObservabilityMetrics.observeRequestFinish task

def shareEndpointRuntime : Code := guard [.globalEndpointsMtx] skip

def publishEndpointRuntime : Code := guard [.globalEndpointsMtx] skip

def buildEndpointsFromConfig (shareRuntime : Bool) : Code :=
  if shareRuntime then loop shareEndpointRuntime else skip

def parseConfig : Code :=
  block [ObservabilityMetrics.configure task, either skip (buildEndpointsFromConfig true)]

def loadModel : Code := parseConfig task

/-- With the given number of workers. -/
def stop (workers : Nat) : Code :=
  either skip (block
    [block ((List.range workers).map fun i => either skip (join (.worker task i))),
      either skip (join (.healthWorker task)), ObservabilityMetrics.stop task])

/-- From the end of the request's construction on; the messages are sent without a mutex. -/
def inference : Code :=
  block
    [applyProfileToRequest task, guard [.ofTask task .configMtx] skip,
      guard [.ofTask task .queueMtx] skip,
      either
        (block [MetricsCollector.onQueueReject task, ObservabilityMetrics.observeQueueReject task,
          ObservabilityMetrics.observeQueueSnapshot task])
        (block [MetricsCollector.onRequestAccepted task, recordPending task,
          ObservabilityMetrics.observeQueueSnapshot task])]

def taskinfo : Code :=
  block
    [guard [.ofTask task .configMtx] skip, primaryBaseUrl task, pendingCount task,
      pendingCount task, queueStats task, pendingCount task, MetricsCollector.snapshot task,
      ObservabilityMetrics.snapshot task, recordsJson task,
      guard [.ofTask task .endpointsMtx] skip]

def commitReloadedEndpointsLocked : Code := loop publishEndpointRuntime

def reloadConfig : Code :=
  guard [.ofTask task .reloadMtx] (either skip (block
    [guard [.ofTask task .configMtx] skip,
      -- the static fields and the profiles
      either skip (block
        [either (buildEndpointsFromConfig false) (guard [.ofTask task .endpointsMtx] skip),
          either skip (block
            [guard [.ofTask task .configMtx, .ofTask task .endpointsMtx]
                (either skip commitReloadedEndpointsLocked),
              either skip (ObservabilityMetrics.configure task)])])]))

def metricsQuery : Code := ObservabilityMetrics.query task

def popNextRequest : Code :=
  block
    [guard [.ofTask task .configMtx] skip,
      -- the turns of `queue_cv_.wait`, and the rest of the scope
      loop (guard [.ofTask task .queueMtx] skip), guard [.ofTask task .queueMtx] skip,
      either skip (ObservabilityMetrics.observeQueueSnapshot task)]

def selectEndpoint : Code :=
  block
    [guard [.ofTask task .configMtx] skip, guard [.ofTask task .endpointsMtx] skip,
      either skip (ObservabilityMetrics.observeEndpoint task)]

def waitForEndpoint : Code :=
  block
    [selectEndpoint task,
      loop (block
        -- before `endpoint_wait_cv_.wait_for`, and after it
        [guard [.ofTask task .endpointWaitMtx] skip,
          guard [.ofTask task .endpointWaitMtx] (selectEndpoint task)])]

def updateEndpointResult : Code :=
  block
    [guard [.ofTask task .configMtx] skip, guard [.ofTask task .endpointsMtx] skip,
      ObservabilityMetrics.observeEndpoint task]

def updateEndpointHealth : Code :=
  block
    [guard [.ofTask task .configMtx] skip, guard [.ofTask task .endpointsMtx] skip,
      ObservabilityMetrics.observeEndpoint task]

/-- The three calls at each end of `handle_request`. -/
def finish : Code :=
  block [updateRecord task, MetricsCollector.onRequestFinish task, observeRequestMetrics task]

/-- `call_vllm` locks nothing. -/
def handleRequest : Code :=
  either (finish task) (block
    [loop (block
        [waitForEndpoint task,
          either skip (block [updateEndpointResult task, either skip (finish task)])]),
      either skip (finish task)])

/-- The last call of `pop_next_request` finds the task stopping. -/
def workerLoop : Code :=
  block [loop (block [popNextRequest task, updateRecord task, handleRequest task]),
    popNextRequest task]

def checkEndpointHealth : Code := guard [.ofTask task .configMtx] skip

def healthLoop : Code :=
  loop (block
    [guard [.ofTask task .endpointsMtx] skip,
      loop (block [checkEndpointHealth task, updateEndpointHealth task]),
      guard [.ofTask task .configMtx] skip])

end VllmTask

/-! ### `llm_channel_obj` and `vllm_llm` -/

/-- The `pzmq` of a subscription is destroyed, if there is one. -/
def stopSubscriber (channel : Nat) : Code := either skip (join (.subscriber channel))

namespace VllmLlm

variable (task : Nat)

/-- If the model cannot be loaded, the new task is destroyed before `sessions_mtx_` is released. -/
def setup (channel : Nat) : Code :=
  block
    [guard [.sessionsMtx] (either skip (block
        [VllmTask.loadModel task, either skip (VllmTask.stop task 0)])),
      either skip (stopSubscriber channel)]

def taskinfo : Code := block [guard [.sessionsMtx] skip, either skip (VllmTask.taskinfo task)]

def exit (channel : Nat) : Code :=
  block [guard [.sessionsMtx] skip, either skip (stopSubscriber channel)]

def metricsQuery : Code :=
  either skip (block [guard [.sessionsMtx] skip, either skip (VllmTask.metricsQuery task)])

def reloadConfig : Code :=
  either skip (block [guard [.sessionsMtx] skip, either skip (VllmTask.reloadConfig task)])

def streamInputState : Code := guard [.streamStatesMtx] skip

def eraseStreamInputState : Code := guard [.streamStatesMtx] skip

def assembleStreamInput (state : Nat) : Code :=
  either skip (block
    [streamInputState, guard [.streamStateMtx state] skip, either skip eraseStreamInputState])

def taskUserData (state : Nat) : Code :=
  either skip (block
    [guard [.sessionsMtx] skip,
      either skip (block
        [either skip (block [assembleStreamInput state, either skip eraseStreamInputState]),
          either skip (VllmTask.inference task)])])

/-- The destructor; the task is stopped once more when the last pointer to it is gone. -/
def destroy (channels : List Nat) (workers : Nat) : Code :=
  block
    [guard [.sessionsMtx] skip, block (channels.map stopSubscriber),
      either skip (block [VllmTask.stop task workers, VllmTask.stop task workers])]

end VllmLlm

/-! ### `StackFlow` -/

/-- An event of `event_queue_`, with the channel and the task that it is about. -/
inductive LocalEvent where
  | none
  | setup (channel task : Nat)
  | exit (channel : Nat)
  | pause
  | taskinfo (task : Nat)

/-- A call of a method that the node has registered. -/
inductive RpcCall where
  /-- `setup`, `pause`, `exit`, `taskinfo`: only `event_queue_` is written -/
  | enqueue
  | reloadConfig (task : Nat)
  | metricsQuery (task : Nat)

namespace StackFlow

def registerRpcAction : Code := guard [.zmqFunMtx] skip

/-- The constructors of `StackFlow` and `vllm_llm`. -/
def construct : Code := block (List.replicate 6 registerRpcAction)

/-- The channel is destroyed, and its subscription with it. -/
def sysReleaseUnit (channel : Nat) : Code := stopSubscriber channel

def handleEvent : LocalEvent → Code
  | .none => skip
  | .setup channel task =>
    block [VllmLlm.setup task channel, either skip (sysReleaseUnit channel)]
  | .exit channel => block [VllmLlm.exit channel, either skip (sysReleaseUnit channel)]
  | .pause => skip
  | .taskinfo task => VllmLlm.taskinfo task

def evenLoop (events : List LocalEvent) : Code := block (events.map handleEvent)

def handleCall : RpcCall → Code
  | .enqueue => skip
  | .reloadConfig task => VllmLlm.reloadConfig task
  | .metricsQuery task => VllmLlm.metricsQuery task

/-- The branch of `zmq_event_loop` for RPC calls. -/
def zmqEventLoop (calls : List RpcCall) : Code :=
  block (calls.map fun call => guard [.zmqFunMtx] (handleCall call))

/-- The destructor, with the one of `rpc_ctx_`. Each round joins the thread again. -/
def destroy (channels : List Nat) : Code :=
  block
    [block (channels.map fun channel => block [join .evenLoop, sysReleaseUnit channel]),
      -- the round that finds no channel
      join .evenLoop, join .rpc]

end StackFlow

/-! ### The threads -/

/-- A thread with what it is given to do. -/
inductive Job where
  | main (task workers : Nat) (channels : List Nat)
  | evenLoop (events : List LocalEvent)
  | rpc (calls : List RpcCall)
  /-- messages, each with the task and the `StreamInputState` that it is for -/
  | subscriber (channel : Nat) (messages : List (Nat × Nat))
  | worker (task index : Nat)
  | healthWorker (task : Nat)
  | observabilityWorker (task : Nat)

def Job.code : Job → Code
  | .main task workers channels =>
    block [StackFlow.construct, VllmLlm.destroy task channels workers, StackFlow.destroy channels]
  | .evenLoop events => guard [.running .evenLoop] (StackFlow.evenLoop events)
  | .rpc calls => guard [.running .rpc] (StackFlow.zmqEventLoop calls)
  | .subscriber channel messages =>
    guard [.running (.subscriber channel)]
      (block (messages.map fun message => VllmLlm.taskUserData message.1 message.2))
  | .worker task index => guard [.running (.worker task index)] (VllmTask.workerLoop task)
  | .healthWorker task => guard [.running (.healthWorker task)] (VllmTask.healthLoop task)
  | .observabilityWorker task =>
    guard [.running (.observabilityWorker task)] (ObservabilityMetrics.workerLoop task)

end VllmRoute.Node.Locks
