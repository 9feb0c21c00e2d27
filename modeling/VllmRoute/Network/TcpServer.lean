import VllmRoute.Network.Poller

/-!
# The server and its loops

`network::TcpServer` as `tcp_work` runs it, with the loop of the listening
socket (loop `0`) and `numThreads` IO loops. Each loop thread polls, handles the
channels that were reported, takes the queued functors out and calls them. A
turn is cut where other threads can be seen: at a `poll`, a handled channel, the
swap of the functors and a called functor. The sessions of the connections send
from threads of their own, in two steps: the test of the state, and the functor
that is queued.

An `assert` that fails, a fatal `epoll_ctl` and the use of a freed connection
are `none`.
-/
namespace VllmRoute.Network

/-- What is bound into a queued functor: the connection, by a `TcpConnectionPtr` except for
`sendInLoop`, which is bound to `this`. -/
inductive LoopFunctor where
  | connectEstablished (conn : Nat)
  | sendInLoop (conn : Nat) (message : Bytes)
  | removeConnectionInLoop (conn : Nat)
  | connectDestroyed (conn : Nat)
  deriving DecidableEq

/-- A descriptor that `epoll_wait` reports. -/
inductive Reported where
  | acceptSocket
  | socket (fd : Int) (revents : BitVec 32)
  deriving DecidableEq

def Reported.fd : Reported → Option Int
  | .acceptSocket => none
  | .socket fd _ => some fd

inductive Active where
  | acceptChannel
  | channel (ptr : Nat) (revents : BitVec 32)
  deriving DecidableEq

/-- What a loop thread has left to do before its next `poll`. -/
inductive Turn where
  | handling (activeChannels : List Active)
  | calling (functors : List LoopFunctor)
  deriving DecidableEq

structure Loop where
  turn : Turn := .calling []
  pendingFunctors : List LoopFunctor := []
  poller : Poller := {}

/-- What `readFd` returns. -/
inductive ReadResult where
  | received
  | endOfFile
  | failed
  deriving DecidableEq

/-- A `TcpConnection` object. `context` is its session, which has a pointer back to it.
`callbacks` records what `connected()` was at each connection callback, and `sends` the
messages whose functors were queued. -/
structure Connection where
  loop : Nat
  fd : Int
  name : Bytes
  tcp : TcpConnection := { writeCompleteCallback := false }
  index : Index := .kNew
  context : Bool := false
  callbacks : List Bool := []
  sends : List Bytes := []

def Connection.watched (c : Connection) : Watched := ⟨c.fd, c.index, c.tcp.channel⟩

/-- `conns` are the objects made so far, each under the `nextConnId_` it was made with.
`sending` are the messages that found their connection connected and are yet to be queued. -/
structure TcpServer where
  name : Bytes
  ipPort : Bytes
  numThreads : Nat
  /-- the limit on open descriptors -/
  descriptors : Nat
  nextConnId : Nat := 1
  next : Nat := 0
  connections : Bytes → Option Nat := fun _ => none
  conns : Nat → Option Connection := fun _ => none
  loops : Nat → Loop := fun _ => {}
  sending : List (Nat × Bytes) := []

/-- The functors that a loop has yet to call, in their order. -/
def Loop.functors (l : Loop) : List LoopFunctor :=
  (match l.turn with
    | .calling functors => functors
    | .handling _ => []) ++ l.pendingFunctors

/-- Holds a `TcpConnectionPtr` of the connection. -/
def LoopFunctor.holds (n : Nat) : LoopFunctor → Bool
  | .connectEstablished m | .removeConnectionInLoop m | .connectDestroyed m => m == n
  | .sendInLoop _ _ => false

namespace TcpServer

def setConn (s : TcpServer) (n : Nat) (c : Connection) : TcpServer :=
  { s with conns := Function.update s.conns n (some c) }

def setLoop (s : TcpServer) (i : Nat) (l : Loop) : TcpServer :=
  { s with loops := Function.update s.loops i l }

def setTurn (s : TcpServer) (i : Nat) (turn : Turn) : TcpServer :=
  s.setLoop i { s.loops i with turn := turn }

def queueInLoop (s : TcpServer) (i : Nat) (f : LoopFunctor) : TcpServer :=
  s.setLoop i { s.loops i with pendingFunctors := (s.loops i).pendingFunctors ++ [f] }

/-- Someone has a `TcpConnectionPtr` of the connection: `connections_`, its session, or a
queued functor. -/
def alive (s : TcpServer) (n : Nat) : Bool :=
  match s.conns n with
  | none => false
  | some c =>
    s.connections c.name == some n || c.context ||
      (List.range (s.numThreads + 1)).any fun i => (s.loops i).functors.any (·.holds n)

/-- A descriptor that the kernel can give to a new connection. The socket of a connection is
closed when the object is freed. -/
def available (s : TcpServer) (fd : Int) : Bool :=
  0 ≤ fd && fd < s.descriptors &&
    (List.range s.nextConnId).all fun n => !s.alive n || (s.conns n).all fun c => c.fd != fd

/-- A connection and the poller of its loop are changed together. -/
def put (s : TcpServer) (n : Nat) (c : Connection) (poller : Poller) : TcpServer :=
  (s.setConn n c).setLoop c.loop { s.loops c.loop with poller := poller }

/-- `Channel::update`, with the events of the channel changed. -/
def updateChannel (s : TcpServer) (n : Nat) (c : Connection) : Option TcpServer := do
  let (index, poller) ← (s.loops c.loop).poller.updateChannel n c.watched
  some (s.put n { c with index := index } poller)

/-- `Channel::remove` -/
def removeChannel (s : TcpServer) (n : Nat) (c : Connection) : Option TcpServer := do
  if c.tcp.channel.isNoneEvent then
    let (index, poller) ← (s.loops c.loop).poller.removeChannel n c.watched
    some (s.put n { c with index := index } poller)
  else none

/-- The connection callback. A new session is stored in the connection; a stopped one stays
there. -/
def onConnection (s : TcpServer) (n : Nat) : Option TcpServer := do
  let c ← s.conns n
  let connected := c.tcp.state == .kConnected
  some (s.setConn n { c with
    callbacks := c.callbacks ++ [connected]
    context := c.context || connected })

def connectEstablished (s : TcpServer) (n : Nat) : Option TcpServer := do
  let c ← s.conns n
  let tcp ← c.tcp.connectEstablished
  let s ← s.updateChannel n { c with tcp := tcp }
  s.onConnection n

def removeConnectionInLoop (s : TcpServer) (n : Nat) : Option TcpServer := do
  let c ← s.conns n
  -- `erase` is by name
  if (s.connections c.name).isSome then
    let s := { s with connections := Function.update s.connections c.name none }
    some (s.queueInLoop c.loop (.connectDestroyed n))
  else none

/-- The close callback, called in the thread of loop `i`. -/
def removeConnection (s : TcpServer) (i n : Nat) : Option TcpServer :=
  if i = 0 then s.removeConnectionInLoop n
  else some (s.queueInLoop 0 (.removeConnectionInLoop n))

def handleClose (s : TcpServer) (i n : Nat) : Option TcpServer := do
  let c ← s.conns n
  let tcp ← c.tcp.handleClose
  let s ← s.updateChannel n { c with tcp := tcp }
  let s ← s.onConnection n
  s.removeConnection i n

def connectDestroyed (s : TcpServer) (n : Nat) : Option TcpServer := do
  let c ← s.conns n
  let s ← if c.tcp.state = .kConnected then do
      let s ← s.updateChannel n { c with
        tcp := { c.tcp with state := .kDisconnected, channel := c.tcp.channel.disableAll } }
      s.onConnection n
    else some s
  let c ← s.conns n
  s.removeChannel n c

/-- The end of `sendInLoop` and `handleWrite`: they change the events of the channel
exactly when they call `enableWriting` or `disableWriting`. -/
def written (s : TcpServer) (n : Nat) (c : Connection) (tcp : TcpConnection) : Option TcpServer :=
  if tcp.channel.events = c.tcp.channel.events then some (s.setConn n { c with tcp := tcp })
  else s.updateChannel n { c with tcp := tcp }

def sendInLoop (s : TcpServer) (n : Nat) (message : Bytes) (write : WriteResult) :
    Option TcpServer := do
  let c ← s.conns n
  let tcp ← c.tcp.sendInLoop message write
  s.written n c tcp

def handleWrite (s : TcpServer) (n : Nat) (write : WriteResult) : Option TcpServer := do
  let c ← s.conns n
  let tcp ← c.tcp.handleWrite write
  s.written n c tcp

/-- What was received goes to the message callback, and an error is only logged. -/
def handleRead (s : TcpServer) (i n : Nat) : ReadResult → Option TcpServer
  | .received | .failed => some s
  | .endOfFile => s.handleClose i n

def pollIn : BitVec 32 := 0x1#32
def pollPri : BitVec 32 := 0x2#32
def pollOut : BitVec 32 := 0x4#32
def pollErr : BitVec 32 := 0x8#32
def pollHup : BitVec 32 := 0x10#32
def pollRdhup : BitVec 32 := 0x2000#32

/-- `Channel::handleEvent`. The error callback only logs. -/
def handleEvent (s : TcpServer) (i n : Nat) (revents : BitVec 32) (read : ReadResult)
    (write : WriteResult) : Option TcpServer := do
  let s ← if revents &&& pollHup != 0 && revents &&& pollIn == 0 then s.handleClose i n
    else some s
  let s ← if revents &&& (pollIn ||| pollPri ||| pollRdhup) != 0 then s.handleRead i n read
    else some s
  if revents &&& pollOut != 0 then s.handleWrite n write else some s

/-- `EventLoopThreadPool::getNextLoop` -/
def getNextLoop (s : TcpServer) : Nat × TcpServer :=
  if s.numThreads = 0 then (0, s)
  else
    (s.next + 1, { s with next := if s.next + 1 ≥ s.numThreads then 0 else s.next + 1 })

/-- The name of a connection, whose end is printed into an array of 64 characters. -/
def connName (s : TcpServer) (connId : Nat) : Bytes :=
  s.name ++ (lit "-" ++ s.ipPort ++ lit "#" ++ decimal connId).take 63

/-- The new object, under its name in `connections_`. -/
def addConnection (s : TcpServer) (ioLoop : Nat) (sockfd : Int) : TcpServer :=
  let n := s.nextConnId
  let connName := s.connName n
  let s := { s with nextConnId := n + 1, connections := Function.update s.connections connName n }
  s.setConn n { loop := ioLoop, fd := sockfd, name := connName }

def newConnection (s : TcpServer) (sockfd : Int) : Option TcpServer :=
  let (ioLoop, s) := s.getNextLoop
  let n := s.nextConnId
  let s := s.addConnection ioLoop sockfd
  -- `runInLoop`, from the thread of loop 0
  if ioLoop = 0 then s.connectEstablished n
  else some (s.queueInLoop ioLoop (.connectEstablished n))

/-- What a loop thread is about to do. -/
inductive Work where
  | fillActiveChannels (activeChannels : List Active)
  | newConnection (sockfd : Int)
  | handleEvent (n : Nat) (revents : BitVec 32) (read : ReadResult) (write : WriteResult)
  | call (f : LoopFunctor) (write : WriteResult)
  | nothing

/-- A step of a loop thread `i`, or one half of a session's `send`. What the kernel answers is
part of the event. -/
inductive Event where
  | poll (i : Nat) (reported : List Reported)
  | handleEvent (i : Nat) (accepted : Option Int) (read : ReadResult) (write : WriteResult)
  | swapFunctors (i : Nat)
  | callFunctor (i : Nat) (write : WriteResult)
  | testState (n : Nat) (message : Bytes)
  | queueSend (k : Nat)

/-- The channel of a reported descriptor, which the kernel watches for no less than it
reports. An error and a hang-up are reported in any case. -/
def activeChannel (s : TcpServer) (i : Nat) : Reported → Option Active
  | .acceptSocket => if i = 0 then some .acceptChannel else none
  | .socket fd revents => do
    let event ← (s.loops i).poller.epoll fd
    if revents &&& ~~~(event.events ||| pollErr ||| pollHup) == 0 then
      some (.channel event.ptr revents)
    else none

/-- What a thread does next, and the state with that taken out of its turn. `none` is for
steps that the threads or the kernel do not take. -/
def fetch (s : TcpServer) : Event → Option (TcpServer × Nat × Work)
  | .poll i reported =>
    if i ≤ s.numThreads ∧ (s.loops i).turn = .calling [] ∧ (reported.map Reported.fd).Nodup ∧
        reported.all fun r => (s.activeChannel i r).isSome then
      some (s, i, .fillActiveChannels (reported.filterMap (s.activeChannel i)))
    else none
  | .handleEvent i accepted read write =>
    match (s.loops i).turn with
    | .handling (.acceptChannel :: rest) =>
      match accepted with
      -- `accept` failed; the idle descriptor is all that can change
      | none => some (s.setTurn i (.handling rest), i, .nothing)
      | some sockfd =>
        if s.available sockfd then
          some (s.setTurn i (.handling rest), i, .newConnection sockfd)
        else none
    | .handling (.channel n revents :: rest) =>
      some (s.setTurn i (.handling rest), i, .handleEvent n revents read write)
    | _ => none
  | .swapFunctors i =>
    match (s.loops i).turn with
    | .handling [] =>
      let functors := (s.loops i).pendingFunctors
      some (s.setLoop i { s.loops i with turn := .calling functors, pendingFunctors := [] }, i,
        .nothing)
    | _ => none
  | .callFunctor i write =>
    match (s.loops i).turn with
    | .calling (f :: functors) => some (s.setTurn i (.calling functors), i, .call f write)
    | _ => none
  | .testState n message => do
    let c ← s.conns n
    -- only the session of a connection sends
    if c.context then
      if c.tcp.state = .kConnected then
        some ({ s with sending := s.sending ++ [(n, message)] }, c.loop, .nothing)
      else some (s, c.loop, .nothing)
    else none
  | .queueSend k => do
    let (n, message) ← s.sending[k]?
    let c ← s.conns n
    let s := { s with sending := s.sending.eraseIdx k }
    let s := s.setConn n { c with sends := c.sends ++ [message] }
    some (s.queueInLoop c.loop (.sendInLoop n message), c.loop, .nothing)

/-- The work of loop `i`. -/
def exec (s : TcpServer) (i : Nat) : Work → Option TcpServer
  | .fillActiveChannels activeChannels =>
    let registered : Active → Bool
      | .acceptChannel => true
      | .channel n _ =>
        s.alive n && (s.conns n).any fun c => (s.loops i).poller.channels c.fd == some n
    if activeChannels.all registered then some (s.setTurn i (.handling activeChannels)) else none
  | .newConnection sockfd => s.newConnection sockfd
  | .handleEvent n revents read write =>
    if s.alive n then s.handleEvent i n revents read write else none
  | .call (.connectEstablished n) _ => s.connectEstablished n
  | .call (.sendInLoop n message) write =>
    -- the functor does not keep the connection alive
    if s.alive n then s.sendInLoop n message write else none
  | .call (.removeConnectionInLoop n) _ => s.removeConnectionInLoop n
  | .call (.connectDestroyed n) _ => s.connectDestroyed n
  | .nothing => some s

def step (s : TcpServer) (e : Event) : Option TcpServer :=
  (s.fetch e).bind fun (s, i, work) => s.exec i work

/-- The state after `start`. -/
def start (name ipPort : Bytes) (numThreads descriptors : Nat) : TcpServer :=
  { name := name, ipPort := ipPort, numThreads := numThreads, descriptors := descriptors }

end TcpServer

end VllmRoute.Network
