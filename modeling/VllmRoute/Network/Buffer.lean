import VllmRoute.Base
import VllmRoute.Lib.Overwrite

/-!
# The connection buffer

`network::Buffer`: one block of memory with a reader and a writer index. An
operation whose `assert` fails has no result. What lies between the two indices
is the content, and on it the operations are those of a byte queue.
-/
namespace VllmRoute.Network

open Lib

def kCheapPrepend : Nat := 8

structure Buffer where
  buffer : Bytes
  readerIndex : Nat
  writerIndex : Nat
  ordered : readerIndex ≤ writerIndex
  bounded : writerIndex ≤ buffer.length
  room : kCheapPrepend ≤ buffer.length

namespace Buffer

def kInitialSize : Nat := 1024 * 4

/-- The constructor. -/
def ofSize (initialSize : Nat) : Buffer where
  buffer := List.replicate (kCheapPrepend + initialSize) 0
  readerIndex := kCheapPrepend
  writerIndex := kCheapPrepend
  ordered := Nat.le_refl _
  bounded := by simp
  room := by simp

def readableBytes (b : Buffer) : Nat := b.writerIndex - b.readerIndex

def writableBytes (b : Buffer) : Nat := b.buffer.length - b.writerIndex

def prependableBytes (b : Buffer) : Nat := b.readerIndex

/-- `max_size()` of a vector of bytes. -/
def maxSize : Nat := 9223372036854775807

/-- The constructor with its `assert`s. -/
def construct (initialSize : Nat) : Option Buffer :=
  let b := ofSize initialSize
  -- beyond that the vector throws, or the sum of the sizes wraps
  if maxSize < kCheapPrepend + initialSize then none
  else if b.readableBytes = 0 ∧ b.writableBytes = initialSize ∧
      b.prependableBytes = kCheapPrepend then some b
  else none

/-- The memory from `peek()` on. -/
def peek (b : Buffer) : Bytes := b.buffer.drop b.readerIndex

/-- The bytes that were appended and not yet retrieved. -/
def content (b : Buffer) : Bytes := b.peek.take b.readableBytes

def retrieveAll (b : Buffer) : Buffer :=
  { b with
    readerIndex := kCheapPrepend
    writerIndex := kCheapPrepend
    ordered := Nat.le_refl _
    bounded := b.room }

def retrieve (b : Buffer) (len : Nat) : Option Buffer :=
  if len ≤ b.readableBytes then
    -- a complete retrieve moves both indices back to the start
    if short : len < b.readableBytes then
      some { b with
        readerIndex := b.readerIndex + len
        ordered := by unfold readableBytes at short; omega }
    else some b.retrieveAll
  else none

def retrieveAsString (b : Buffer) (len : Nat) : Option (Bytes × Buffer) :=
  if len ≤ b.readableBytes then (b.retrieve len).map fun b' => (b.peek.take len, b') else none

def retrieveAllAsString (b : Buffer) : Option (Bytes × Buffer) :=
  b.retrieveAsString b.readableBytes

/-- `std::vector::resize`. -/
def resize (l : Bytes) (n : Nat) : Bytes := l.take n ++ List.replicate (n - l.length) 0

@[simp] theorem length_resize (l : Bytes) (n : Nat) : (resize l n).length = n := by
  simp only [resize, List.length_append, List.length_take, List.length_replicate]
  omega

theorem take_resize (l : Bytes) (i n : Nat) (inside : i ≤ l.length) (kept : i ≤ n) :
    (resize l n).take i = l.take i := by
  have whole : i ≤ (l.take n).length := by
    rw [List.length_take]
    exact Nat.le_min.mpr ⟨kept, inside⟩
  rw [resize, List.take_append_of_le_length whole, List.take_take, Nat.min_eq_left kept]

@[simp] theorem length_content (b : Buffer) : b.content.length = b.readableBytes := by
  have := b.bounded
  simp only [content, peek, readableBytes, List.length_take, List.length_drop]
  omega

/-- The content, moved to the front of the block. -/
def moveToFront (b : Buffer) (moved : kCheapPrepend < b.readerIndex) : Buffer :=
  have fits : kCheapPrepend + b.readableBytes ≤ b.buffer.length := by
    have := b.bounded
    have := b.ordered
    unfold readableBytes
    omega
  { buffer := overwrite b.buffer kCheapPrepend b.content
    readerIndex := kCheapPrepend
    writerIndex := kCheapPrepend + b.readableBytes
    ordered := Nat.le_add_right _ _
    bounded := by simp [fits]
    room := by simpa [fits] using b.room }

/-- Called when the bytes do not fit behind the writer index. -/
def makeSpace (b : Buffer) (len : Nat) (lacking : b.writableBytes < len) : Option Buffer :=
  -- too little room on both sides: the block grows
  if b.writableBytes + b.prependableBytes < len + kCheapPrepend then
    some { b with
      buffer := resize b.buffer (b.writerIndex + len)
      bounded := by simp
      room := by
        have := b.room
        unfold writableBytes at lacking
        simp only [length_resize]
        omega }
  -- enough room, but split: the content moves to the front
  else if moved : kCheapPrepend < b.readerIndex then
    let front := b.moveToFront moved
    if b.readableBytes = front.readableBytes then some front else none
  else none

def ensureWritableBytes (b : Buffer) (len : Nat) : Option Buffer := do
  -- the `assert` after the space was made
  let b ← if lacking : b.writableBytes < len then b.makeSpace len lacking else some b
  if len ≤ b.writableBytes then some b else none

/-- The bytes are copied to `beginWrite()`, and the writer index moves past them. -/
def write (b : Buffer) (data : Bytes) (fits : data.length ≤ b.writableBytes) : Buffer :=
  have inside : b.writerIndex + data.length ≤ b.buffer.length := by
    have := b.bounded
    unfold writableBytes at fits
    omega
  { b with
    buffer := overwrite b.buffer b.writerIndex data
    writerIndex := b.writerIndex + data.length
    ordered := Nat.le_trans b.ordered (Nat.le_add_right _ _)
    bounded := by simp [inside]
    room := by simpa [inside] using b.room }

def append (b : Buffer) (data : Bytes) : Option Buffer := do
  let b ← b.ensureWritableBytes data.length
  if fits : data.length ≤ b.writableBytes then some (b.write data fits) else none

/-- The last bytes are taken back. -/
def unwrite (b : Buffer) (len : Nat) : Option Buffer :=
  if inside : len ≤ b.readableBytes then
    some { b with
      writerIndex := b.writerIndex - len
      ordered := by
        have := b.ordered
        unfold readableBytes at inside
        omega
      bounded := Nat.le_trans (Nat.sub_le _ _) b.bounded }
  else none

/-- The bytes are copied to the place before the reader index. -/
def prepend (b : Buffer) (data : Bytes) : Option Buffer :=
  if fits : data.length ≤ b.prependableBytes then
    have inside : b.readerIndex - data.length + data.length ≤ b.buffer.length := by
      have := b.ordered
      have := b.bounded
      unfold prependableBytes at fits
      omega
    some { b with
      buffer := overwrite b.buffer (b.readerIndex - data.length) data
      readerIndex := b.readerIndex - data.length
      ordered := Nat.le_trans (Nat.sub_le _ _) b.ordered
      bounded := by simpa [inside] using b.bounded
      room := by simpa [inside] using b.room }
  else none

/-- `readFd`, when `readv` stored the bytes `received`: first in the buffer and then in
`extrabuf`. -/
def readFd (b : Buffer) (received : Bytes) : Option Buffer :=
  if fits : received.length ≤ b.writableBytes then some (b.write received fits)
  else (b.write (received.take b.writableBytes) (List.length_take_le _ _)).append
    (received.drop b.writableBytes)

/-! ### The content -/

theorem content_eq (b : Buffer) : b.content = (b.buffer.take b.writerIndex).drop b.readerIndex :=
  List.drop_take.symm

@[simp] theorem content_ofSize (initialSize : Nat) : (ofSize initialSize).content = [] := by
  simp [content, readableBytes, ofSize]

@[simp] theorem content_retrieveAll (b : Buffer) : b.retrieveAll.content = [] := by
  simp [content, readableBytes, retrieveAll]

@[simp] theorem content_write (b : Buffer) (data : Bytes)
    (fits : data.length ≤ b.writableBytes) : (b.write data fits).content = b.content ++ data := by
  have inside : b.readerIndex ≤ (b.buffer.take b.writerIndex).length := by
    simpa [b.bounded] using b.ordered
  -- the reader index lies before the new bytes, so that dropping commutes with appending
  rw [content_eq, content_eq, ← List.drop_append_of_le_length inside]
  exact congrArg (List.drop b.readerIndex) (take_overwrite b.buffer data b.writerIndex b.bounded)

theorem construct_eq {initialSize : Nat} (fits : kCheapPrepend + initialSize ≤ maxSize) :
    construct initialSize = some (ofSize initialSize) := by
  refine (if_neg (Nat.not_lt.mpr fits)).trans (if_pos ?_)
  simp [ofSize, readableBytes, writableBytes, prependableBytes]

@[simp] theorem readableBytes_moveToFront (b : Buffer) (moved : kCheapPrepend < b.readerIndex) :
    (b.moveToFront moved).readableBytes = b.readableBytes :=
  Nat.add_sub_cancel_left _ _

@[simp] theorem content_moveToFront (b : Buffer) (moved : kCheapPrepend < b.readerIndex) :
    (b.moveToFront moved).content = b.content := by
  rw [content_eq]
  simp only [moveToFront]
  rw [← length_content, take_overwrite b.buffer b.content kCheapPrepend b.room]
  simp [b.room]

theorem writableBytes_moveToFront (b : Buffer) (moved : kCheapPrepend < b.readerIndex) :
    (b.moveToFront moved).writableBytes + kCheapPrepend =
      b.writableBytes + b.prependableBytes := by
  have := b.bounded
  have := b.ordered
  simp only [moveToFront, writableBytes, prependableBytes, readableBytes]
  rw [length_overwrite]
  · omega
  · rw [length_content, readableBytes]
    omega

theorem makeSpace_spec (b : Buffer) (len : Nat) (lacking : b.writableBytes < len) :
    ∃ b', b.makeSpace len lacking = some b' ∧ b'.content = b.content ∧ len ≤ b'.writableBytes := by
  unfold makeSpace
  split
  · refine ⟨_, rfl, ?_, ?_⟩
    · rw [content_eq, content_eq]
      exact congrArg (List.drop b.readerIndex)
        (take_resize b.buffer b.writerIndex (b.writerIndex + len) b.bounded (Nat.le_add_right _ _))
    · simp [writableBytes]
  next enough =>
    -- the bytes fit only because of what is free before the reader index
    have moved : kCheapPrepend < b.readerIndex := by
      unfold prependableBytes at enough
      omega
    have space := b.writableBytes_moveToFront moved
    rw [dif_pos moved]
    dsimp only
    rw [if_pos (b.readableBytes_moveToFront moved).symm]
    exact ⟨_, rfl, b.content_moveToFront moved, by omega⟩

/-- Either way the bytes fit in the end, and no `assert` fails. -/
theorem ensureWritableBytes_spec (b : Buffer) (len : Nat) :
    ∃ b', b.ensureWritableBytes len = some b' ∧ b'.content = b.content ∧
      len ≤ b'.writableBytes := by
  unfold ensureWritableBytes
  by_cases lacking : b.writableBytes < len
  · obtain ⟨b', made, content, fits⟩ := b.makeSpace_spec len lacking
    exact ⟨b', by simp [lacking, made, fits], content, fits⟩
  · have fits : len ≤ b.writableBytes := Nat.le_of_not_lt lacking
    exact ⟨b, by simp [lacking, fits], rfl, fits⟩

theorem append_spec (b : Buffer) (data : Bytes) :
    ∃ b', b.append data = some b' ∧ b'.content = b.content ++ data := by
  obtain ⟨b', ensured, content, fits⟩ := b.ensureWritableBytes_spec data.length
  refine ⟨b'.write data fits, ?_, ?_⟩
  · simp [append, ensured, fits]
  · rw [content_write, content]

theorem readFd_spec (b : Buffer) (received : Bytes) :
    ∃ b', b.readFd received = some b' ∧ b'.content = b.content ++ received := by
  unfold readFd
  split
  next fits => exact ⟨_, rfl, content_write b received fits⟩
  next =>
    obtain ⟨b', appended, content⟩ := append_spec
      (b.write (received.take b.writableBytes) (List.length_take_le _ _))
      (received.drop b.writableBytes)
    exact ⟨b', appended, by simp [content]⟩

theorem retrieve_spec (b : Buffer) {len : Nat} (inside : len ≤ b.readableBytes) :
    ∃ b', b.retrieve len = some b' ∧ b'.content = b.content.drop len := by
  unfold retrieve
  rw [if_pos inside]
  split
  next short =>
    refine ⟨_, rfl, ?_⟩
    simp only [content, peek, readableBytes, List.drop_take, List.drop_drop, Nat.sub_add_eq]
  next whole =>
    refine ⟨_, rfl, ?_⟩
    have all : b.content.length ≤ len := by
      rw [length_content]
      exact Nat.le_of_not_lt whole
    rw [content_retrieveAll, List.drop_eq_nil_of_le all]

theorem retrieveAsString_spec (b : Buffer) {len : Nat} (inside : len ≤ b.readableBytes) :
    ∃ b', b.retrieveAsString len = some (b.content.take len, b') ∧
      b'.content = b.content.drop len := by
  obtain ⟨b', retrieved, rest⟩ := b.retrieve_spec inside
  have front : b.content.take len = b.peek.take len := by
    rw [content, List.take_take, Nat.min_eq_left inside]
  refine ⟨b', ?_, rest⟩
  rw [retrieveAsString, if_pos inside, retrieved, front, Option.map_some]

theorem retrieveAllAsString_spec (b : Buffer) :
    ∃ b', b.retrieveAllAsString = some (b.content, b') ∧ b'.content = [] := by
  obtain ⟨b', retrieved, rest⟩ := b.retrieveAsString_spec (Nat.le_refl b.readableBytes)
  rw [← length_content, List.take_length] at retrieved
  rw [← length_content, List.drop_length] at rest
  exact ⟨b', by rw [retrieveAllAsString, ← length_content, retrieved], rest⟩

theorem unwrite_spec (b : Buffer) {len : Nat} (inside : len ≤ b.readableBytes) :
    ∃ b', b.unwrite len = some b' ∧ b'.content = b.content.take (b.content.length - len) := by
  rw [unwrite, dif_pos inside]
  refine ⟨_, rfl, ?_⟩
  have fewer : b.writerIndex - len - b.readerIndex = b.readableBytes - len := by
    unfold readableBytes
    omega
  rw [length_content, content, content, List.take_take, Nat.min_eq_left (Nat.sub_le _ _), ← fewer]
  rfl

theorem prepend_spec (b : Buffer) {data : Bytes} (fits : data.length ≤ b.prependableBytes) :
    ∃ b', b.prepend data = some b' ∧ b'.content = data ++ b.content := by
  rw [prepend, dif_pos fits]
  refine ⟨_, rfl, ?_⟩
  have ordered := b.ordered
  have bounded := b.bounded
  unfold prependableBytes at fits
  have inside : b.readerIndex - data.length ≤ b.buffer.length := by omega
  have longer : b.writerIndex - (b.readerIndex - data.length) =
      data.length + b.readableBytes := by
    unfold readableBytes
    omega
  -- the new bytes end where the content began
  have ends : b.readerIndex - data.length + data.length = b.readerIndex := Nat.sub_add_cancel fits
  rw [content, peek, readableBytes, drop_overwrite _ _ _ inside, ends, longer,
    List.take_length_add_append]
  rfl

end Buffer

end VllmRoute.Network
