import Mathlib.Data.List.Basic
import VllmRoute.Lib.Prog

/-!
# The event loop

`network::EventLoop`: the loop thread polls, handles the events and runs the
functors that were queued, and other threads queue functors and wake it up. A
critical section, an access to a flag and a `read` or `write` of the eventfd are
one operation each. The functors are of any type, and what a callback or a
functor calls on the loop is decided when it is run.
-/
namespace VllmRoute.Network

open Lib

variable {Functor : Type}

/-- What a callback, a functor or another thread calls on the loop. -/
inductive LoopCall (Functor : Type) where
  | queueInLoop (cb : Functor)
  | quit

inductive ActiveChannel where
  | wakeupChannel
  | channel (fd : Int)

inductive LoopOp (Functor : Type) where
  | loadQuit
  | storeQuit (quit : Bool)
  | poll
  /-- the callbacks of a channel -/
  | handleEvent (fd : Int)
  | pushBack (cb : Functor)
  | swapPendingFunctors
  | callFunctor (cb : Functor)
  | loadCalling
  | storeCalling (calling : Bool)
  | readWakeup
  | writeWakeup

def LoopOp.Resp : LoopOp Functor → Type
  | .loadQuit | .loadCalling => Bool
  | .poll => List ActiveChannel
  | .handleEvent _ | .callFunctor _ => List (LoopCall Functor)
  | .swapPendingFunctors => List Functor
  | _ => Unit

abbrev LoopCode (Functor α : Type) := Prog (LoopOp Functor) LoopOp.Resp α

namespace LoopCode

def ask (o : LoopOp Functor) : LoopCode Functor o.Resp := Prog.perform o

def loadQuit : LoopCode Functor Bool := ask .loadQuit

def loadCalling : LoopCode Functor Bool := ask .loadCalling

def wakeup : LoopCode Functor Unit := ask .writeWakeup

def queueInLoop (isInLoopThread : Bool) (cb : Functor) : LoopCode Functor Unit := do
  ask (.pushBack cb)
  -- only the loop thread looks at the flag
  if !isInLoopThread then wakeup
  else if ← loadCalling then wakeup

def quit (isInLoopThread : Bool) : LoopCode Functor Unit := do
  ask (.storeQuit true)
  if !isInLoopThread then wakeup

def call (isInLoopThread : Bool) : LoopCall Functor → LoopCode Functor Unit
  | .queueInLoop cb => queueInLoop isInLoopThread cb
  | .quit => quit isInLoopThread

/-- The calls of a callback or of a functor, made in the loop thread. -/
def callEach : List (LoopCall Functor) → LoopCode Functor Unit
  | [] => pure ()
  | c :: calls => do
    call true c
    callEach calls

def handleEvents : List ActiveChannel → LoopCode Functor Unit
  | [] => pure ()
  | .wakeupChannel :: activeChannels => do
    ask .readWakeup
    handleEvents activeChannels
  | .channel fd :: activeChannels => do
    callEach (← ask (.handleEvent fd))
    handleEvents activeChannels

def callFunctors : List Functor → LoopCode Functor Unit
  | [] => pure ()
  | functor :: functors => do
    callEach (← ask (.callFunctor functor))
    callFunctors functors

def doPendingFunctors : LoopCode Functor Unit := do
  ask (.storeCalling true)
  callFunctors (← ask .swapPendingFunctors)
  ask (.storeCalling false)

end LoopCode

inductive LoopPoint where
  | start
  | top
  | exited

/-- `loop` up to its `while`, and one turn of it. -/
def loop : LoopPoint → Option (LoopCode Functor LoopPoint)
  | .start => some do
    LoopCode.ask (.storeQuit false)
    return .top
  | .top => some do
    if ← LoopCode.loadQuit then return .exited
    LoopCode.handleEvents (← LoopCode.ask .poll)
    LoopCode.doPendingFunctors
    return .top
  | .exited => none

/-! ### The threads together -/

/-- `wakeupFd` is the counter of the eventfd. `pushed` is what was pushed so far. -/
structure EventLoop (Functor : Type) where
  quit : Bool := false
  callingPendingFunctors : Bool := false
  pendingFunctors : List Functor := []
  wakeupFd : Nat := 0
  pushed : List Functor := []

/-- The largest value of an eventfd. A `write` beyond it fails. -/
def eventfdMax : Nat := 0xfffffffffffffffe

/-- What `epoll_wait` reports, which may be nothing after the timeout, and what a callback or
a functor calls. -/
structure LoopChoice (Functor : Type) where
  activeChannels : List ActiveChannel := []
  calls : List (LoopCall Functor) := []

namespace EventLoop

def exec (choice : LoopChoice Functor) (s : EventLoop Functor) :
    (o : LoopOp Functor) → Option (o.Resp × EventLoop Functor)
  | .loadQuit => some (s.quit, s)
  | .storeQuit quit => some ((), { s with quit := quit })
  | .poll => some (choice.activeChannels, s)
  | .handleEvent _ => some (choice.calls, s)
  | .pushBack cb => some ((), { s with
      pendingFunctors := s.pendingFunctors ++ [cb], pushed := s.pushed ++ [cb] })
  | .swapPendingFunctors => some (s.pendingFunctors, { s with pendingFunctors := [] })
  | .callFunctor _ => some (choice.calls, s)
  | .loadCalling => some (s.callingPendingFunctors, s)
  | .storeCalling calling => some ((), { s with callingPendingFunctors := calling })
  -- with nothing to read the counter stays zero
  | .readWakeup => some ((), { s with wakeupFd := 0 })
  | .writeWakeup => some ((), { s with
      wakeupFd := if s.wakeupFd < eventfdMax then s.wakeupFd + 1 else s.wakeupFd })

end EventLoop

/-- How far the loop thread is in a turn of its loop. -/
inductive Phase where
  | top
  /-- from `poll` on -/
  | handling
  /-- it has set the flag -/
  | swapping
  /-- it runs the functors that it swapped out -/
  | running
  /-- one of them has pushed a functor, and not yet seen to the wakeup -/
  | pushing
  /-- it has found the flag not set there, which cannot be -/
  | misled
  | broken
  deriving DecidableEq

def Phase.next (o : LoopOp Functor) (r : o.Resp) (phase : Phase) : Phase :=
  match o, r, phase with
  | _, _, .misled => .misled
  | .poll, _, .top => .handling
  | .poll, _, _ => .broken
  | .readWakeup, _, .handling => .handling
  | .readWakeup, _, _ => .broken
  | .storeCalling true, _, .handling => .swapping
  | .storeCalling false, _, .running => .top
  | .storeCalling _, _, _ => .broken
  | .swapPendingFunctors, _, .swapping => .running
  | .swapPendingFunctors, _, _ => .broken
  | .callFunctor _, _, .running => .running
  | .callFunctor _, _, _ => .broken
  | .pushBack _, _, .handling => .handling
  | .pushBack _, _, .running => .pushing
  | .pushBack _, _, _ => .broken
  | .loadCalling, false, .pushing => .misled
  | .writeWakeup, _, .pushing => .running
  | _, _, phase => phase

/-- What the loop thread did: the functors that it swapped out, and those that it called. -/
structure LoopLog (Functor : Type) where
  phase : Phase := .top
  taken : List Functor := []
  called : List Functor := []

def LoopLog.note (o : LoopOp Functor) (r : o.Resp) (log : LoopLog Functor) : LoopLog Functor :=
  let log := { log with phase := log.phase.next o r }
  match o, r with
  | .swapPendingFunctors, (functors : List Functor) =>
    { log with taken := log.taken ++ functors }
  | .callFunctor functor, _ => { log with called := log.called ++ [functor] }
  | _, _ => log

abbrev LoopThread (Functor : Type) :=
  Thread (LoopOp Functor) LoopOp.Resp LoopPoint (LoopLog Functor)

/-- Another thread in a call on the loop, with whether it has pushed its functor. -/
abbrev Caller (Functor : Type) := Thread (LoopOp Functor) LoopOp.Resp Unit Bool

namespace Caller

def note (o : LoopOp Functor) (_ : o.Resp) (pushed : Bool) : Bool :=
  match o with
  | .pushBack _ => true
  | _ => pushed

def ofCall (c : LoopCall Functor) : Caller Functor := ⟨LoopCode.call false c, false⟩

/-- It is between its push and its wakeup. -/
def waking (c : Caller Functor) : Bool :=
  match c.prog with
  | .op .writeWakeup _ => c.log
  | _ => false

end Caller

structure LoopSystem (Functor : Type) where
  eventLoop : EventLoop Functor := {}
  callers : List (Caller Functor) := []
  loopThread : LoopThread Functor := ⟨.pure .start, {}⟩

inductive LoopEvent (Functor : Type) where
  /-- another thread calls -/
  | call (c : LoopCall Functor)
  | caller (i : Nat)
  | loopThread (choice : LoopChoice Functor)

namespace LoopSystem

def step (s : LoopSystem Functor) : LoopEvent Functor → Option (LoopSystem Functor)
  | .call c => some { s with callers := s.callers ++ [Caller.ofCall c] }
  | .caller i => do
    let c ← s.callers[i]?
    let (c, eventLoop) ← c.step (fun _ => none) Caller.note (EventLoop.exec {}) s.eventLoop
    return { s with eventLoop := eventLoop, callers := s.callers.set i c }
  | .loopThread choice => do
    let (t, eventLoop) ← s.loopThread.step loop LoopLog.note (EventLoop.exec choice) s.eventLoop
    return { s with eventLoop := eventLoop, loopThread := t }

/-- The functors that were executed, in this order. -/
def executed (s : LoopSystem Functor) : List Functor := s.loopThread.log.called

/-- The loop thread waits in `poll`. -/
def polling (s : LoopSystem Functor) : Bool :=
  match s.loopThread.prog with
  | .op .poll _ => true
  | _ => false

end LoopSystem

end VllmRoute.Network
