import VllmRoute.Access.Connections
import VllmRoute.Access.KeyValue
import VllmRoute.Access.Param
import VllmRoute.Access.Registry
import VllmRoute.Access.Rpc
import VllmRoute.Access.Session
import VllmRoute.Access.Splice
import VllmRoute.Access.UnitAction
import VllmRoute.Base
import VllmRoute.Channel.Extract
import VllmRoute.Channel.Object
import VllmRoute.Channel.Text
import VllmRoute.Channel.Values
import VllmRoute.Json
import VllmRoute.Lib.Best
import VllmRoute.Lib.ByteOrder
import VllmRoute.Lib.Debounce
import VllmRoute.Lib.Keyed
import VllmRoute.Lib.Locks
import VllmRoute.Lib.Monitor
import VllmRoute.Lib.Overwrite
import VllmRoute.Lib.Prog
import VllmRoute.Lib.Refine
import VllmRoute.Lib.Replace
import VllmRoute.Lib.Rotation
import VllmRoute.Lib.Run
import VllmRoute.Lib.Search
import VllmRoute.Lib.Slots
import VllmRoute.Lib.Window
import VllmRoute.Lib.Writes
import VllmRoute.Network.Buffer
import VllmRoute.Network.EventLoop
import VllmRoute.Network.Numbers
import VllmRoute.Network.Pending
import VllmRoute.Network.Poller
import VllmRoute.Network.Stages
import VllmRoute.Network.TcpConnection
import VllmRoute.Network.TcpServer
import VllmRoute.Node.Control
import VllmRoute.Node.DataPlane
import VllmRoute.Node.Locks
import VllmRoute.Node.Shutdown
import VllmRoute.Node.State
import VllmRoute.Node.Store
import VllmRoute.Node.StreamInput
import VllmRoute.Observability.Metrics
import VllmRoute.Observability.Service
import VllmRoute.Properties.Accounting
import VllmRoute.Properties.Admission
import VllmRoute.Properties.Answering
import VllmRoute.Properties.Assembly
import VllmRoute.Properties.Breaker
import VllmRoute.Properties.Connections
import VllmRoute.Properties.Counters
import VllmRoute.Properties.Deadlock
import VllmRoute.Properties.Delivery
import VllmRoute.Properties.Draining
import VllmRoute.Properties.Exactness
import VllmRoute.Properties.Exits
import VllmRoute.Properties.Extraction
import VllmRoute.Properties.Flushing
import VllmRoute.Properties.Framing
import VllmRoute.Properties.Health
import VllmRoute.Properties.History
import VllmRoute.Properties.KeyValue
import VllmRoute.Properties.LifeCycle
import VllmRoute.Properties.Outcome
import VllmRoute.Properties.Output
import VllmRoute.Properties.Overriding
import VllmRoute.Properties.Params
import VllmRoute.Properties.Payloads
import VllmRoute.Properties.Policy
import VllmRoute.Properties.Prompts
import VllmRoute.Properties.Queueing
import VllmRoute.Properties.Rate
import VllmRoute.Properties.Reapplying
import VllmRoute.Properties.Recording
import VllmRoute.Properties.Registry
import VllmRoute.Properties.Reloading
import VllmRoute.Properties.Replies
import VllmRoute.Properties.ReplyUrl
import VllmRoute.Properties.Reporting
import VllmRoute.Properties.Resubmitting
import VllmRoute.Properties.Routing
import VllmRoute.Properties.Series
import VllmRoute.Properties.Server
import VllmRoute.Properties.Sessions
import VllmRoute.Properties.Shutdown
import VllmRoute.Properties.Storing
import VllmRoute.Properties.Streaming
import VllmRoute.Properties.Supervision
import VllmRoute.Properties.Survival
import VllmRoute.Properties.Termination
import VllmRoute.Properties.Trails
import VllmRoute.Properties.Waiting
import VllmRoute.Properties.Wakeup
import VllmRoute.Properties.Waking
import VllmRoute.Properties.Windows
import VllmRoute.Properties.WorkIds
import VllmRoute.Scheduler.Backend
import VllmRoute.Scheduler.Config
import VllmRoute.Scheduler.Dispatch
import VllmRoute.Scheduler.Duties
import VllmRoute.Scheduler.HealthLoop
import VllmRoute.Scheduler.Lifecycle
import VllmRoute.Scheduler.Log
import VllmRoute.Scheduler.Messages
import VllmRoute.Scheduler.Places
import VllmRoute.Scheduler.Queue
import VllmRoute.Scheduler.Records
import VllmRoute.Scheduler.Reload
import VllmRoute.Scheduler.Report
import VllmRoute.Scheduler.Request
import VllmRoute.Scheduler.Routing
import VllmRoute.Scheduler.Selection
import VllmRoute.Scheduler.Sharing
import VllmRoute.Scheduler.Snapshot
import VllmRoute.Scheduler.System
import VllmRoute.Scheduler.Task
import VllmRoute.Scheduler.Types
import VllmRoute.Scheduler.Waiting
import VllmRoute.Scheduler.Worker
