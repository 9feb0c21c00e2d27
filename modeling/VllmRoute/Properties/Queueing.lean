import VllmRoute.Lib.Refine
import VllmRoute.Network.Numbers

/-!
# The buffer as a byte queue

`network::Buffer` against a list of bytes. The space for new bytes is made by
growing the block or by moving the content, a prepend may go below the cheap
area in front, and `readFd` takes part of its bytes from another array. None of
this can be seen in the content, and where the callers keep to the asserted
preconditions no `assert` fails.
-/
namespace VllmRoute.Network

open Lib

inductive BufferCall where
  | append (data : Bytes)
  | appendInt (t : IntType) (x : t.Value)
  | prepend (data : Bytes)
  | prependInt (t : IntType) (x : t.Value)
  | retrieve (len : Nat)
  | retrieveInt (t : IntType)
  | retrieveAll
  | retrieveAsString (len : Nat)
  | retrieveAllAsString
  | peekInt (t : IntType)
  | readInt (t : IntType)
  | unwrite (len : Nat)
  | ensureWritableBytes (len : Nat)
  /-- with the bytes that `readv` stored, or its `errno` -/
  | readFd (answer : Except Int Bytes)

inductive BufferResult where
  | void
  | string (bytes : Bytes)
  | int (t : IntType) (x : t.Value)
  | count (n : Nat)
  | error (savedErrno : Int)

namespace BufferCall

def step (order : ByteOrder) (b : Buffer) : BufferCall → Option (BufferResult × Buffer)
  | .append data => (b.append data).map fun b => (.void, b)
  | .appendInt t x => (b.appendTyped order t x).map fun b => (.void, b)
  | .prepend data => (b.prepend data).map fun b => (.void, b)
  | .prependInt t x => (b.prependTyped order t x).map fun b => (.void, b)
  | .retrieve len => (b.retrieve len).map fun b => (.void, b)
  | .retrieveInt t => (b.retrieveInt t).map fun b => (.void, b)
  | .retrieveAll => some (.void, b.retrieveAll)
  | .retrieveAsString len => (b.retrieveAsString len).map fun r => (.string r.1, r.2)
  | .retrieveAllAsString => b.retrieveAllAsString.map fun r => (.string r.1, r.2)
  | .peekInt t => (b.peekTyped order t).map fun x => (.int t x, b)
  | .readInt t => (b.readInt order t).map fun r => (.int t r.1, r.2)
  | .unwrite len => (b.unwrite len).map fun b => (.void, b)
  -- the other lengths are those of blocks in memory; with this one a sum could wrap
  | .ensureWritableBytes len => if b.writerIndex + len ≤ Buffer.maxSize then
      (b.ensureWritableBytes len).map fun b => (.void, b) else none
  | .readFd (.ok received) => (b.readFd received).map fun b => (.count received.length, b)
  | .readFd (.error errno) => some (.error errno, b)

/-- The size of `extrabuf`. -/
def extraSize : Nat := 1024 * 1024

/-- What the callee asserts of its caller, what `readv` can store, and for how many bytes a
vector has room. -/
def Allowed (b : Buffer) : BufferCall → Prop
  | .prepend data => data.length ≤ b.prependableBytes
  | .prependInt t _ => t.sizeof ≤ b.prependableBytes
  | .retrieve len | .retrieveAsString len | .unwrite len => len ≤ b.readableBytes
  | .retrieveInt t | .peekInt t | .readInt t => t.sizeof ≤ b.readableBytes
  | .ensureWritableBytes len => b.writerIndex + len ≤ Buffer.maxSize
  | .readFd (.ok received) => received.length ≤ b.writableBytes + extraSize
  | _ => True

instance (b : Buffer) (call : BufferCall) : Decidable (call.Allowed b) :=
  match call with
  | .prepend data => inferInstanceAs (Decidable (data.length ≤ b.prependableBytes))
  | .prependInt t _ => inferInstanceAs (Decidable (t.sizeof ≤ b.prependableBytes))
  | .retrieve len | .retrieveAsString len | .unwrite len =>
    inferInstanceAs (Decidable (len ≤ b.readableBytes))
  | .retrieveInt t | .peekInt t | .readInt t =>
    inferInstanceAs (Decidable (t.sizeof ≤ b.readableBytes))
  | .readFd (.ok received) =>
    inferInstanceAs (Decidable (received.length ≤ b.writableBytes + extraSize))
  | .ensureWritableBytes len =>
    inferInstanceAs (Decidable (b.writerIndex + len ≤ Buffer.maxSize))
  | .append _ | .appendInt .. | .retrieveAll | .retrieveAllAsString | .readFd (.error _) =>
    isTrue trivial

/-- The same calls on a list of bytes. -/
def onQueue (q : Bytes) : BufferCall → BufferResult × Bytes
  | .append data => (.void, q ++ data)
  | .appendInt t x => (.void, q ++ t.encode x)
  | .prepend data => (.void, data ++ q)
  | .prependInt t x => (.void, t.encode x ++ q)
  | .retrieve len => (.void, q.drop len)
  | .retrieveInt t => (.void, q.drop t.sizeof)
  | .retrieveAll => (.void, [])
  | .retrieveAsString len => (.string (q.take len), q.drop len)
  | .retrieveAllAsString => (.string q, [])
  | .peekInt t => (.int t (t.decode (q.take t.sizeof)), q)
  | .readInt t => (.int t (t.decode (q.take t.sizeof)), q.drop t.sizeof)
  | .unwrite len => (.void, q.take (q.length - len))
  | .ensureWritableBytes _ => (.void, q)
  | .readFd (.ok received) => (.count received.length, q ++ received)
  | .readFd (.error errno) => (.error errno, q)

/-- A call that returns nothing. -/
theorem refines_void {order : ByteOrder} {b : Buffer} {call : BufferCall} {changed : Option Buffer}
    {q : Bytes} (steps : call.step order b = changed.map fun b => (.void, b))
    (queue : call.onQueue b.content = (.void, q))
    (done : ∃ b', changed = some b' ∧ b'.content = q) :
    Refines (step order) onQueue Buffer.content b call := by
  obtain ⟨b', rfl, content⟩ := done
  refine ⟨b', ?_, ?_⟩
  · rw [queue, steps, Option.map_some]
  · rw [queue, content]

theorem step_refines (order : ByteOrder) (b : Buffer) (call : BufferCall)
    (allowed : call.Allowed b) : Refines (step order) onQueue Buffer.content b call := by
  cases call with
  | append data => exact refines_void rfl rfl (b.append_spec data)
  | appendInt t x =>
    apply refines_void rfl rfl
    rw [b.appendTyped_eq order t x]
    exact b.append_spec (t.encode x)
  | prepend data => exact refines_void rfl rfl (b.prepend_spec allowed)
  | prependInt t x =>
    apply refines_void rfl rfl
    rw [b.prependTyped_eq order t x]
    apply b.prepend_spec
    rw [t.length_encode]
    exact allowed
  | retrieve len => exact refines_void rfl rfl (b.retrieve_spec allowed)
  | retrieveInt t => exact refines_void rfl rfl (b.retrieve_spec allowed)
  | retrieveAll => exact ⟨b.retrieveAll, rfl, b.content_retrieveAll⟩
  | retrieveAsString len =>
    obtain ⟨b', retrieved, rest⟩ := b.retrieveAsString_spec allowed
    exact ⟨b', by simp only [step, onQueue, retrieved, Option.map_some], rest⟩
  | retrieveAllAsString =>
    obtain ⟨b', retrieved, rest⟩ := b.retrieveAllAsString_spec
    exact ⟨b', by simp only [step, onQueue, retrieved, Option.map_some], rest⟩
  | peekInt t =>
    have peeked := b.peekTyped_eq order allowed
    exact ⟨b, by simp only [step, onQueue, peeked, Option.map_some], rfl⟩
  | readInt t =>
    obtain ⟨b', read, rest⟩ := b.readInt_spec order allowed
    exact ⟨b', by simp only [step, onQueue, read, Option.map_some], rest⟩
  | unwrite len => exact refines_void rfl rfl (b.unwrite_spec allowed)
  | ensureWritableBytes len =>
    obtain ⟨b', ensured, content, _⟩ := b.ensureWritableBytes_spec len
    exact refines_void (if_pos allowed) rfl ⟨b', ensured, content⟩
  | readFd answer =>
    cases answer with
    | error errno => exact ⟨b, rfl, rfl⟩
    | ok received =>
      obtain ⟨b', read, content⟩ := b.readFd_spec received
      exact ⟨b', by simp only [step, onQueue, read, Option.map_some], content⟩

/-- An integer is read as it was stored, at either end. -/
theorem readInt_stored (t : IntType) (x : t.Value) (q : Bytes) :
    (readInt t).onQueue (t.encode x ++ q) = (.int t x, q) := by
  have size := t.length_encode x
  rw [onQueue, ← size, List.take_left, List.drop_left, t.decode_encode]

end BufferCall

/-- For every byte order, every initial size that a vector can have and every sequence of calls
whose preconditions hold where they are made: no `assert` fails, in the constructor or
later, the calls return what they return on a list of bytes, the content is that list, and
the indices are in order. An integer that stands first in the queue is read as it
was appended or prepended. -/
theorem buffer_refines_queue (order : ByteOrder) (initialSize : Nat)
    (fits : kCheapPrepend + initialSize ≤ Buffer.maxSize) (cs : List BufferCall)
    (allowed : Respects (BufferCall.step order) BufferCall.Allowed (Buffer.ofSize initialSize) cs) :
    Buffer.construct initialSize = some (Buffer.ofSize initialSize) ∧
      (∃ b, calls (BufferCall.step order) (Buffer.ofSize initialSize) cs =
          some ((callsOf BufferCall.onQueue [] cs).1, b) ∧
        b.content = (callsOf BufferCall.onQueue [] cs).2 ∧
        b.readerIndex ≤ b.writerIndex ∧ b.writerIndex ≤ b.buffer.length) ∧
      ∀ (t : IntType) (x : t.Value) (q : Bytes),
        BufferCall.onQueue (t.encode x ++ q) (.readInt t) = (.int t x, q) := by
  obtain ⟨b, called, content⟩ := calls_refine (BufferCall.step_refines order) allowed
  rw [Buffer.content_ofSize] at called content
  exact ⟨Buffer.construct_eq fits, ⟨b, called, content, b.ordered, b.bounded⟩,
    BufferCall.readInt_stored⟩

/-- Two bytes are read, the third one is moved to the front for the next three, and an integer
goes into the space before it. Then the block grows. -/
def moving : List BufferCall :=
  [.append [1, 2, 3], .readInt .int16, .append [4, 5, 6], .prependInt .int32 257, .readInt .int32,
    .readFd (.ok [7, 8]), .ensureWritableBytes 16]

theorem buffer_refines_queue_moving : ∃ b,
    calls (BufferCall.step .little) (Buffer.ofSize 4) moving =
      some ([.void, .int .int16 258, .void, .void, .int .int32 257, .count 2, .void], b) ∧
    b.content = [3, 4, 5, 6, 7, 8] := by
  have allowed :
      Respects (BufferCall.step .little) BufferCall.Allowed (Buffer.ofSize 4) moving := by
    decide +kernel
  obtain ⟨b, called, content, _⟩ := (buffer_refines_queue .little 4 (by decide) moving allowed).2.1
  exact ⟨b, called, content⟩

end VllmRoute.Network
