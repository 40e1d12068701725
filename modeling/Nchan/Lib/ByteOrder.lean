import Nchan.Lib.BigEndian
import Mathlib.Data.List.Induction

/-! # Integers in memory

On a little-endian machine the bytes of an integer stand in memory with the least significant one
first, and `htons`, `htonl` and their kin turn them round.  What is in memory after that is the
number in network byte order.
-/

namespace Nchan.Lib

namespace BigEndian

theorem toBytes_ofBytes (bytes : List UInt8) : toBytes bytes.length (ofBytes bytes) = bytes := by
  induction bytes using List.reverseRecOn with
  | nil => rfl
  | append_singleton bytes b ih =>
    have high : (256 * ofBytes bytes + b.toNat) / 256 = ofBytes bytes := by
      have := b.toNat_lt
      omega
    have low : UInt8.ofNat (256 * ofBytes bytes + b.toNat) = b := by
      apply UInt8.toNat_inj.mp
      rw [UInt8.toNat_ofNat']
      omega
    rw [List.length_append, List.length_singleton, toBytes, ofBytes_concat, high, low, ih]

theorem ofBytes_lt (bytes : List UInt8) : ofBytes bytes < 256 ^ bytes.length := by
  induction bytes using List.reverseRecOn with
  | nil => exact Nat.one_pos
  | append_singleton bytes b ih =>
    have := b.toNat_lt
    rw [List.length_append, List.length_singleton, Nat.pow_succ, ofBytes_concat]
    omega

theorem toBytes_append (a b n : Nat) :
    toBytes (a + b) n = toBytes a (n / 256 ^ b) ++ toBytes b n := by
  induction b generalizing n with
  | zero => simp [toBytes]
  | succ b ih =>
    rw [Nat.add_succ, toBytes, toBytes, ih, Nat.div_div_eq_div_mul, ← Nat.pow_succ',
      List.append_assoc]

theorem toBytes_mod (width n : Nat) : toBytes width (n % 256 ^ width) = toBytes width n := by
  induction width generalizing n with
  | zero => rfl
  | succ width ih =>
    have high : n % 256 ^ (width + 1) / 256 = n / 256 % 256 ^ width := by
      rw [Nat.pow_succ', Nat.mod_mul_right_div_self]
    have low : UInt8.ofNat (n % 256 ^ (width + 1)) = UInt8.ofNat n := by
      apply UInt8.toNat_inj.mp
      have same : n % 256 ^ (width + 1) % 256 = n % 256 :=
        Nat.mod_mod_of_dvd n ⟨256 ^ width, Nat.pow_succ' ..⟩
      exact same
    rw [toBytes, toBytes, high, low, ih]

end BigEndian

namespace ByteOrder

open BigEndian List

/-- The memory of an integer of `width` bytes. -/
def inMemory (width n : Nat) : List UInt8 := (toBytes width n).reverse

def fromMemory (bytes : List UInt8) : Nat := ofBytes bytes.reverse

/-- `htons` and `htonl`, which are `ntohs` and `ntohl` as well. -/
def hton (width n : Nat) : Nat := ofBytes (inMemory width n)

@[simp] theorem length_inMemory (width n : Nat) : (inMemory width n).length = width := by
  simp [inMemory]

theorem fromMemory_inMemory {width n : Nat} (fits : n < 256 ^ width) :
    fromMemory (inMemory width n) = n := by
  rw [fromMemory, inMemory, reverse_reverse, ofBytes_toBytes fits]

theorem inMemory_fromMemory {width : Nat} {bytes : List UInt8} (length : bytes.length = width) :
    inMemory width (fromMemory bytes) = bytes := by
  have back := toBytes_ofBytes bytes.reverse
  rw [length_reverse, length] at back
  rw [inMemory, fromMemory, back, reverse_reverse]

theorem hton_lt (width n : Nat) : hton width n < 256 ^ width := by
  have bound := ofBytes_lt (inMemory width n)
  rwa [length_inMemory] at bound

theorem inMemory_hton (width n : Nat) : inMemory width (hton width n) = toBytes width n := by
  have back := toBytes_ofBytes (inMemory width n)
  rw [length_inMemory] at back
  rw [inMemory, hton, back, inMemory, reverse_reverse]

theorem hton_fromMemory {width : Nat} {bytes : List UInt8} (length : bytes.length = width) :
    hton width (fromMemory bytes) = ofBytes bytes := by
  rw [hton, inMemory_fromMemory length]

theorem take_inMemory {narrow width : Nat} (le : narrow ≤ width) (n : Nat) :
    (inMemory width n).take narrow = inMemory narrow n := by
  obtain ⟨more, rfl⟩ := Nat.exists_eq_add_of_le' le
  rw [inMemory, toBytes_append, reverse_append, take_append_of_le_length (by simp),
    take_of_length_le (by simp), inMemory]

theorem inMemory_double {width high low : Nat} (fits : low < 256 ^ width) :
    inMemory (width + width) (high * 256 ^ width + low) =
      inMemory width low ++ inMemory width high := by
  have upper : (high * 256 ^ width + low) / 256 ^ width = high := by
    rw [Nat.mul_comm, Nat.mul_add_div (by omega), Nat.div_eq_of_lt fits, Nat.add_zero]
  have lower : toBytes width (high * 256 ^ width + low) = toBytes width low := by
    rw [← toBytes_mod, Nat.mul_comm, Nat.mul_add_mod, Nat.mod_eq_of_lt fits]
  rw [inMemory, toBytes_append, upper, lower, reverse_append, inMemory, inMemory]

end ByteOrder

end Nchan.Lib
