import Mathlib.Algebra.Order.Ring.Nat

/-! # Cyclic redundancy checks

A remainder of 16 bits, most significant bit first.  `crc` divides bit by bit; a table of the
remainders of all bytes gives the same a byte at a time.
-/

namespace Nchan.Lib.Crc

open BitVec

def shift (poly c : BitVec 16) : BitVec 16 := if c.msb then (c <<< 1) ^^^ poly else c <<< 1

def shifts (poly : BitVec 16) : Nat → BitVec 16 → BitVec 16
  | 0, c => c
  | n + 1, c => shift poly (shifts poly n c)

def byte (poly c : BitVec 16) (b : BitVec 8) : BitVec 16 :=
  shifts poly 8 (c ^^^ (b.setWidth 16 <<< 8))

def crc (poly c : BitVec 16) (bytes : List (BitVec 8)) : BitVec 16 := bytes.foldl (byte poly) c

def tableByte (table : BitVec 8 → BitVec 16) (c : BitVec 16) (b : BitVec 8) : BitVec 16 :=
  (c <<< 8) ^^^ table ((c >>> 8).setWidth 8 ^^^ b)

theorem crc_append (poly c : BitVec 16) (first second : List (BitVec 8)) :
    crc poly c (first ++ second) = crc poly (crc poly c first) second := List.foldl_append

variable {poly : BitVec 16}

theorem shift_xor (a b : BitVec 16) : shift poly (a ^^^ b) = shift poly a ^^^ shift poly b := by
  unfold shift
  rw [msb_xor, shiftLeft_xor_distrib]
  cases a.msb <;> cases b.msb
  · simp
  · simp [xor_assoc]
  · simp only [Bool.bne_false, Bool.false_eq_true, if_true, if_false]
    rw [xor_assoc, xor_assoc, BitVec.xor_comm (b <<< 1)]
  · simp only [bne_self_eq_false, Bool.false_eq_true, if_true, if_false]
    rw [BitVec.xor_comm (b <<< 1), ← xor_assoc, BitVec.xor_assoc (a <<< 1), BitVec.xor_self,
      xor_zero]

theorem shifts_xor (n : Nat) (a b : BitVec 16) :
    shifts poly n (a ^^^ b) = shifts poly n a ^^^ shifts poly n b := by
  induction n with
  | zero => rfl
  | succ n ih => rw [shifts, ih, shift_xor, shifts, shifts]

theorem shifts_low {low : BitVec 16} (small : low.toNat < 2 ^ 8) {n : Nat} (short : n ≤ 8) :
    shifts poly n low = low <<< n := by
  induction n with
  | zero => simp [shifts]
  | succ n ih =>
    have bound : low.toNat <<< n < 2 ^ 15 := by
      rw [Nat.shiftLeft_eq]
      calc low.toNat * 2 ^ n < 2 ^ 8 * 2 ^ n := Nat.mul_lt_mul_of_pos_right small (Nat.two_pow_pos n)
        _ ≤ 2 ^ 8 * 2 ^ 7 :=
          Nat.mul_le_mul_left _ (Nat.pow_le_pow_right (by decide) (Nat.le_of_succ_le_succ short))
        _ = 2 ^ 15 := rfl
    have clear : (low <<< n).msb = false := by
      rw [msb_eq_decide, toNat_shiftLeft]
      have := Nat.mod_le (low.toNat <<< n) (2 ^ 16)
      simp only [decide_eq_false_iff_not, Nat.not_le]
      omega
    rw [shifts, ih (by omega), shift, clear, if_neg (by decide), shiftLeft_add]

theorem xor_byte (c : BitVec 16) (b : BitVec 8) : c ^^^ (b.setWidth 16 <<< 8) =
    (((c >>> 8).setWidth 8 ^^^ b).setWidth 16 <<< 8) ^^^ (c &&& 255#16) := by
  apply eq_of_getLsbD_eq
  intro i within
  have mask : (255#16).getLsbD i = decide (i < 8) := by
    revert i
    decide
  simp only [getLsbD_xor, getLsbD_shiftLeft, getLsbD_setWidth,
    getLsbD_ushiftRight, getLsbD_and, mask]
  by_cases low : i < 8
  · simp [low]
  · have upper : 8 + (i - 8) = i := by omega
    have short : i - 8 < 8 := by omega
    have shorter : i - 8 < 16 := by omega
    simp [low, upper, short, shorter, within]

theorem and_low_shift (c : BitVec 16) : (c &&& 255#16) <<< 8 = c <<< 8 := by
  apply eq_of_getLsbD_eq
  intro i within
  have mask : (255#16).getLsbD (i - 8) = decide (i - 8 < 8) := by
    revert i
    decide
  have short : i - 8 < 8 := by omega
  simp only [getLsbD_shiftLeft, getLsbD_and, mask, short]
  simp

theorem tableByte_eq {table : BitVec 8 → BitVec 16}
    (is : ∀ i, table i = shifts poly 8 (i.setWidth 16 <<< 8)) (c : BitVec 16) (b : BitVec 8) :
    tableByte table c b = byte poly c b := by
  have small : (c &&& 255#16).toNat < 2 ^ 8 := by
    exact lt_of_le_of_lt Nat.and_le_right (by decide)
  rw [tableByte, byte, xor_byte, shifts_xor, shifts_low small le_rfl, and_low_shift, ← is,
    BitVec.xor_comm]

theorem foldl_tableByte {table : BitVec 8 → BitVec 16}
    (is : ∀ i, table i = shifts poly 8 (i.setWidth 16 <<< 8)) (c : BitVec 16)
    (bytes : List (BitVec 8)) : bytes.foldl (tableByte table) c = crc poly c bytes := by
  induction bytes generalizing c with
  | nil => rfl
  | cons b bytes ih =>
    rw [List.foldl_cons, ih, tableByte_eq is]
    rfl

end Nchan.Lib.Crc
