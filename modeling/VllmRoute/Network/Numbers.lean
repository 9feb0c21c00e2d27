import VllmRoute.Lib.ByteOrder
import VllmRoute.Network.Buffer

/-!
# Integers in a buffer

`network::Buffer` stores integers in network byte order, whatever the order of
the host is: a value is converted and the bytes of the result are copied as they
lie in memory. An `int64_t` is given by its 64 bits.
-/
namespace VllmRoute.Network

open Lib

/-- The byte order of the host. -/
inductive ByteOrder where
  | little
  | big

namespace ByteOrder

/-- How an integer of `n` bytes lies in memory. -/
def bytes : ByteOrder → Nat → Nat → Bytes
  | .little => littleEndian
  | .big => bigEndian

/-- The integer that lies there. -/
def value : ByteOrder → Bytes → Nat
  | .little => ofLittleEndian
  | .big => ofBigEndian

/-- `htobe16`, `htobe32` and `htobe64`. -/
def hostToNetwork : ByteOrder → Nat → Nat → Nat
  | .little, n, v => swapBytes n v
  | .big, _, v => v

/-- `be16toh`, `be32toh` and `be64toh`. -/
def networkToHost : ByteOrder → Nat → Nat → Nat
  | .little, n, v => swapBytes n v
  | .big, _, v => v

theorem bytes_hostToNetwork (order : ByteOrder) (n v : Nat) :
    order.bytes n (order.hostToNetwork n v) = bigEndian n v := by
  cases order with
  | little => exact littleEndian_swapBytes n v
  | big => rfl

theorem networkToHost_value (order : ByteOrder) (data : Bytes) :
    order.networkToHost data.length (order.value data) = ofBigEndian data := by
  cases order with
  | little => exact swapBytes_ofLittleEndian data
  | big => rfl

/-- One byte has no order. -/
theorem bytes_one (order : ByteOrder) (v : Nat) : order.bytes 1 v = bigEndian 1 v := by
  cases order <;> rfl

theorem value_one (order : ByteOrder) {data : Bytes} (one : data.length = 1) :
    order.value data = ofBigEndian data := by
  obtain ⟨b, rfl⟩ := List.length_eq_one_iff.mp one
  cases order <;> rfl

end ByteOrder

/-- `int8_t`, `int16_t`, `int32_t` and `int64_t`. -/
inductive IntType where
  | int8
  | int16
  | int32
  | int64

def IntType.sizeof : IntType → Nat
  | .int8 => 1
  | .int16 => 2
  | .int32 => 4
  | .int64 => 8

abbrev IntType.Value (t : IntType) : Type := BitVec (8 * t.sizeof)

namespace Buffer

variable (order : ByteOrder) (b : Buffer)

/-! ### Append -/

/-- An integer is converted, and its memory is appended. -/
def appendInt (n : Nat) (x : BitVec (8 * n)) : Option Buffer :=
  b.append (order.bytes n (order.hostToNetwork n x.toNat))

def appendInt64 (x : BitVec 64) : Option Buffer := b.appendInt order 8 x

def appendInt32 (x : BitVec 32) : Option Buffer := b.appendInt order 4 x

def appendInt16 (x : BitVec 16) : Option Buffer := b.appendInt order 2 x

-- without a conversion
def appendInt8 (x : BitVec 8) : Option Buffer := b.append (order.bytes 1 x.toNat)

def appendTyped : (t : IntType) → t.Value → Option Buffer
  | .int8 => b.appendInt8 order
  | .int16 => b.appendInt16 order
  | .int32 => b.appendInt32 order
  | .int64 => b.appendInt64 order

/-! ### Prepend -/

def prependInt (n : Nat) (x : BitVec (8 * n)) : Option Buffer :=
  b.prepend (order.bytes n (order.hostToNetwork n x.toNat))

def prependInt64 (x : BitVec 64) : Option Buffer := b.prependInt order 8 x

def prependInt32 (x : BitVec 32) : Option Buffer := b.prependInt order 4 x

def prependInt16 (x : BitVec 16) : Option Buffer := b.prependInt order 2 x

def prependInt8 (x : BitVec 8) : Option Buffer := b.prepend (order.bytes 1 x.toNat)

def prependTyped : (t : IntType) → t.Value → Option Buffer
  | .int8 => b.prependInt8 order
  | .int16 => b.prependInt16 order
  | .int32 => b.prependInt32 order
  | .int64 => b.prependInt64 order

/-! ### Peek -/

/-- The memory at `peek()` is copied into an integer, which is converted. -/
def peekInt (n : Nat) : Option (BitVec (8 * n)) :=
  if n ≤ b.readableBytes then
    some (BitVec.ofNat _ (order.networkToHost n (order.value (b.peek.take n))))
  else none

def peekInt64 : Option (BitVec 64) := b.peekInt order 8

def peekInt32 : Option (BitVec 32) := b.peekInt order 4

def peekInt16 : Option (BitVec 16) := b.peekInt order 2

def peekInt8 : Option (BitVec 8) :=
  if 1 ≤ b.readableBytes then some (BitVec.ofNat _ (order.value (b.peek.take 1))) else none

def peekTyped : (t : IntType) → Option t.Value
  | .int8 => b.peekInt8 order
  | .int16 => b.peekInt16 order
  | .int32 => b.peekInt32 order
  | .int64 => b.peekInt64 order

/-! ### Retrieve and read -/

def retrieveInt (t : IntType) : Option Buffer := b.retrieve t.sizeof

def retrieveInt64 : Option Buffer := b.retrieveInt .int64

def retrieveInt32 : Option Buffer := b.retrieveInt .int32

def retrieveInt16 : Option Buffer := b.retrieveInt .int16

def retrieveInt8 : Option Buffer := b.retrieveInt .int8

/-- A peek and a retrieve of the same size. -/
def readInt (t : IntType) : Option (t.Value × Buffer) := do
  let result ← b.peekTyped order t
  let b ← b.retrieveInt t
  return (result, b)

def readInt64 : Option (BitVec 64 × Buffer) := b.readInt order .int64

def readInt32 : Option (BitVec 32 × Buffer) := b.readInt order .int32

def readInt16 : Option (BitVec 16 × Buffer) := b.readInt order .int16

def readInt8 : Option (BitVec 8 × Buffer) := b.readInt order .int8

end Buffer

/-! ### Network byte order -/

namespace IntType

/-- The bytes that stand for a value on the network. -/
def encode (t : IntType) (x : t.Value) : Bytes := bigEndian t.sizeof x.toNat

def decode (t : IntType) (data : Bytes) : t.Value := BitVec.ofNat _ (ofBigEndian data)

@[simp] theorem length_encode (t : IntType) (x : t.Value) : (t.encode x).length = t.sizeof :=
  length_bigEndian _ _

theorem decode_encode (t : IntType) (x : t.Value) : t.decode (t.encode x) = x := by
  have width : 256 ^ t.sizeof = 2 ^ (8 * t.sizeof) := by
    rw [Nat.pow_mul]
  rw [decode, encode, ofBigEndian_bigEndian, width, Nat.mod_eq_of_lt x.isLt, BitVec.ofNat_toNat,
    BitVec.setWidth_eq]

end IntType

namespace Buffer

variable (order : ByteOrder) (b : Buffer)

theorem appendTyped_eq (t : IntType) (x : t.Value) :
    b.appendTyped order t x = b.append (t.encode x) := by
  cases t with
  | int8 => exact congrArg b.append (order.bytes_one _)
  | int16 => exact congrArg b.append (order.bytes_hostToNetwork 2 _)
  | int32 => exact congrArg b.append (order.bytes_hostToNetwork 4 _)
  | int64 => exact congrArg b.append (order.bytes_hostToNetwork 8 _)

theorem prependTyped_eq (t : IntType) (x : t.Value) :
    b.prependTyped order t x = b.prepend (t.encode x) := by
  cases t with
  | int8 => exact congrArg b.prepend (order.bytes_one _)
  | int16 => exact congrArg b.prepend (order.bytes_hostToNetwork 2 _)
  | int32 => exact congrArg b.prepend (order.bytes_hostToNetwork 4 _)
  | int64 => exact congrArg b.prepend (order.bytes_hostToNetwork 8 _)

/-- The first bytes of the content lie at `peek()`. -/
theorem take_peek {n : Nat} (inside : n ≤ b.readableBytes) :
    b.peek.take n = b.content.take n ∧ (b.peek.take n).length = n := by
  have same : b.peek.take n = b.content.take n := by
    rw [content, List.take_take, Nat.min_eq_left inside]
  refine ⟨same, ?_⟩
  rw [same, List.length_take, length_content, Nat.min_eq_left inside]

theorem peekInt_eq {n : Nat} (inside : n ≤ b.readableBytes) :
    b.peekInt order n = some (BitVec.ofNat _ (ofBigEndian (b.content.take n))) := by
  obtain ⟨same, length⟩ := b.take_peek inside
  have value := order.networkToHost_value (b.peek.take n)
  rw [length] at value
  rw [peekInt, if_pos inside, value, same]

theorem peekInt8_eq (inside : 1 ≤ b.readableBytes) :
    b.peekInt8 order = some (BitVec.ofNat _ (ofBigEndian (b.content.take 1))) := by
  obtain ⟨same, length⟩ := b.take_peek inside
  rw [peekInt8, if_pos inside, order.value_one length, same]

theorem peekTyped_eq {t : IntType} (inside : t.sizeof ≤ b.readableBytes) :
    b.peekTyped order t = some (t.decode (b.content.take t.sizeof)) := by
  cases t with
  | int8 => exact b.peekInt8_eq order inside
  | int16 => exact b.peekInt_eq order inside
  | int32 => exact b.peekInt_eq order inside
  | int64 => exact b.peekInt_eq order inside

theorem readInt_spec {t : IntType} (inside : t.sizeof ≤ b.readableBytes) :
    ∃ b', b.readInt order t = some (t.decode (b.content.take t.sizeof), b') ∧
      b'.content = b.content.drop t.sizeof := by
  obtain ⟨b', retrieved, rest⟩ := b.retrieve_spec inside
  refine ⟨b', ?_, rest⟩
  rw [readInt, b.peekTyped_eq order inside, retrieveInt, retrieved]
  rfl

end Buffer

end VllmRoute.Network
