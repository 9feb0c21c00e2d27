import VllmRoute.Access.Registry

/-!
# Connections and their reply addresses

`onConnection`: an IO thread takes the next value of `counter_port` for a new
connection, tests the counter, and resets it at the end of the range. Each of
the three is one step, and the steps of the IO threads interleave.
-/
namespace VllmRoute.Access

/-- How far an IO thread is with a new connection: it has yet to test the counter, or to
reset it. -/
inductive Opening where
  | added
  | exhausted
  deriving DecidableEq

/-- An open connection. `serial` counts the openings before it. -/
structure Connection where
  serial : Nat
  comId : Int
  deriving DecidableEq

structure Listener where
  counterPort : Int := 8000
  opened : Nat := 0
  openings : List Opening := []
  connections : List Connection := []

inductive ConnectionEvent where
  | fetchAdd
  | test (i : Nat)
  | store (i : Nat)
  | close (i : Nat)

/-- `_zmq_url`, to which the session's socket is bound. -/
def sessionUrl (comId : Int) : Bytes := zmqFormatHead ++ (decimal comId ++ zmqFormatTail)

theorem sessionUrl_injective {a b : Int} (same : sessionUrl a = sessionUrl b) : a = b :=
  decimal_injective (List.append_cancel_right (List.append_cancel_left same))

namespace Listener

def step (s : Listener) : ConnectionEvent → Option Listener
  -- the value before the addition is the id of the new connection
  | .fetchAdd => some { s with
      counterPort := s.counterPort + 1
      opened := s.opened + 1
      openings := s.openings ++ [.added]
      connections := s.connections ++ [⟨s.opened, s.counterPort⟩] }
  | .test i =>
    if s.openings[i]? = some .added then
      -- other threads may have moved the counter since the addition
      if s.counterPort > 65535 then some { s with openings := s.openings.set i .exhausted }
      else some { s with openings := s.openings.eraseIdx i }
    else none
  | .store i =>
    if s.openings[i]? = some .exhausted then
      -- whatever the counter is by now
      some { s with counterPort := 8000, openings := s.openings.eraseIdx i }
    else none
  | .close i =>
    if i < s.connections.length then some { s with connections := s.connections.eraseIdx i }
    else none

end Listener

end VllmRoute.Access
