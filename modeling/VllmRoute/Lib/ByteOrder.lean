import Mathlib.Algebra.Order.Ring.Nat
import Mathlib.Data.List.Basic

/-!
# Numbers as bytes

`littleEndian n v` are the `n` low bytes of a number, the lowest one first, and
`bigEndian` are the same bytes with the highest one first. Reading the bytes of
a number gives the number back, up to the width.
-/
namespace VllmRoute.Lib

def littleEndian : Nat → Nat → List UInt8
  | 0, _ => []
  | n + 1, v => UInt8.ofNat v :: littleEndian n (v / 256)

def ofLittleEndian : List UInt8 → Nat
  | [] => 0
  | b :: bs => b.toNat + 256 * ofLittleEndian bs

def bigEndian (n v : Nat) : List UInt8 := (littleEndian n v).reverse

def ofBigEndian (bytes : List UInt8) : Nat := ofLittleEndian bytes.reverse

@[simp] theorem length_littleEndian (n v : Nat) : (littleEndian n v).length = n := by
  induction n generalizing v with
  | zero => rfl
  | succ n ih => rw [littleEndian, List.length_cons, ih]

@[simp] theorem length_bigEndian (n v : Nat) : (bigEndian n v).length = n := by
  rw [bigEndian, List.length_reverse, length_littleEndian]

theorem ofLittleEndian_littleEndian (n v : Nat) :
    ofLittleEndian (littleEndian n v) = v % 256 ^ n := by
  induction n generalizing v with
  | zero => rw [littleEndian, ofLittleEndian, Nat.pow_zero, Nat.mod_one]
  | succ n ih =>
    have split : v % 256 ^ (n + 1) = v % 256 + 256 * (v / 256 % 256 ^ n) := by
      rw [Nat.pow_succ', Nat.mod_mul]
    rw [littleEndian, ofLittleEndian, ih, UInt8.toNat_ofNat', split]

theorem ofBigEndian_bigEndian (n v : Nat) : ofBigEndian (bigEndian n v) = v % 256 ^ n := by
  rw [ofBigEndian, bigEndian, List.reverse_reverse, ofLittleEndian_littleEndian]

theorem littleEndian_ofLittleEndian (bytes : List UInt8) :
    littleEndian bytes.length (ofLittleEndian bytes) = bytes := by
  induction bytes with
  | nil => rfl
  | cons b bs ih =>
    have low : UInt8.ofNat (b.toNat + 256 * ofLittleEndian bs) = b := by
      apply UInt8.toNat_inj.mp
      have small := b.toNat_lt
      rw [UInt8.toNat_ofNat', Nat.add_mul_mod_self_left, Nat.mod_eq_of_lt small]
    have high : (b.toNat + 256 * ofLittleEndian bs) / 256 = ofLittleEndian bs := by
      have small := b.toNat_lt
      omega
    rw [List.length_cons, ofLittleEndian, littleEndian, low, high, ih]

/-- The number with its bytes in the other order. -/
def swapBytes (n v : Nat) : Nat := ofLittleEndian (bigEndian n v)

theorem littleEndian_swapBytes (n v : Nat) : littleEndian n (swapBytes n v) = bigEndian n v := by
  have length := length_bigEndian n v
  rw [swapBytes]
  nth_rewrite 1 [← length]
  exact littleEndian_ofLittleEndian (bigEndian n v)

/-- Swapping the number that lies in memory in the other order. -/
theorem swapBytes_ofLittleEndian (bytes : List UInt8) :
    swapBytes bytes.length (ofLittleEndian bytes) = ofBigEndian bytes := by
  rw [swapBytes, bigEndian, littleEndian_ofLittleEndian, ofBigEndian]

end VllmRoute.Lib
