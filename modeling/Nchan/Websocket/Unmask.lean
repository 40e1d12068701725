import Nchan.Lib.Memory
import Nchan.Websocket.Reading

/-! # The vectorised unmasking

With SSE2 or AVX2 a payload is unmasked a vector at a time.  Vectors are loaded and stored at
aligned addresses only, so there are bytes before the first vector and behind the last one that are
done one by one.  The same key bytes are used at every index as in the plain loop.

Memory that is not the payload may not be there at all: an access to it, or one to a vector that is
not aligned, is `none`.  The mask is repeated in an array of the function's own, which the compiler
has to align for its load.
-/

namespace Nchan.Websocket

open Nchan.Lib Option Nat

/-- `__vector_type`. -/
inductive VectorType where
  | m128i | m256i
  deriving DecidableEq

/-- `__vector_size_bytes`. -/
def VectorType.size : VectorType → Nat
  | .m128i => 16
  | .m256i => 32

theorem VectorType.size_spec (v : VectorType) : v.size = 16 ∨ v.size = 32 := by
  cases v
  · exact .inl rfl
  · exact .inr rfl

abbrev Memory := Nat → Option UInt8

/-- `payload[i] ^= mask_key[i % 4]`. -/
def xorByte (payload : Nat) (maskKey : Vector UInt8 4) (i : Nat) (mem : Memory) : Option Memory :=
  (mem (payload + i)).map fun b =>
    Function.update mem (payload + i) (some (b ^^^ maskKey.toList.getD (i % 4) 0))

def Aligned (v : VectorType) (addr : Nat) (mem : Memory) : Prop :=
  addr % v.size = 0 ∧ ∀ j < v.size, (mem (addr + j)).isSome

instance (v : VectorType) (addr : Nat) (mem : Memory) : Decidable (Aligned v addr mem) :=
  inferInstanceAs (Decidable (_ ∧ _))

/-- `__vector_load_intrinsic`. -/
def vectorLoad (v : VectorType) (addr : Nat) (mem : Memory) : Option (List UInt8) :=
  if Aligned v addr mem then some ((List.range v.size).map fun j => (mem (addr + j)).getD 0)
  else none

/-- `__vector_store_intrinsic`. -/
def vectorStore (v : VectorType) (addr : Nat) (w : List UInt8) (mem : Memory) : Option Memory :=
  if Aligned v addr mem then
    some fun a => if addr ≤ a ∧ a < addr + v.size then some (w.getD (a - addr) 0) else mem a
  else none

/-- `__vector_xor_intrinsic`. -/
def vectorXor (w wMask : List UInt8) : List UInt8 := List.zipWith (· ^^^ ·) w wMask

def extendedMask (v : VectorType) (maskKey : Vector UInt8 4) : List UInt8 :=
  (List.replicate (v.size / 4) maskKey.toList).flatten

def xorVector (v : VectorType) (payload : Nat) (wMask : List UInt8) (i : Nat) (mem : Memory) :
    Option Memory := do
  let w ← vectorLoad v (payload + i) mem
  vectorStore v (payload + i) (vectorXor w wMask) mem

def unmaskVectors (v : VectorType) (payload limit fastlen : Nat) (maskKey : Vector UInt8 4)
    (i : Nat) (mem : Memory) : Option (Nat × Memory) :=
  if fastlen > 0 then
    forLoop v.size limit (xorVector v payload (extendedMask v maskKey)) limit i mem
  else some (i, mem)

/-- `websocket_unmask_frame` with `WEBSOCKET_OPTIMIZED_UNMASK`; `payload` is an address. -/
def optimizedUnmaskFrame (v : VectorType) (payload payloadLen : Nat) (maskKey : Vector UInt8 4)
    (mem : Memory) : Option Memory := do
  let preambleLen := if payloadLen ≤ v.size then payloadLen else payload % v.size
  -- preamble, for alignment or for a short message
  let (i, mem) ← forLoop 1 (min preambleLen payloadLen) (xorByte payload maskKey) payloadLen 0 mem
  if payloadLen < v.size then some mem
  else do
    let fastlen :=
      if (payload + i) % v.size ≠ 0 then 0 else (payloadLen - i) / v.size * v.size
    let (i, mem) ← unmaskVectors v payload (fastlen + preambleLen) fastlen maskKey i mem
    -- leftovers
    let (_, mem) ← forLoop 1 payloadLen (xorByte payload maskKey) payloadLen i mem
    some mem

/-! ## The loops -/

/-- What is to happen to the byte at an index. -/
def unmask (maskKey : Vector UInt8 4) (i : Nat) : Option UInt8 → Option UInt8 :=
  Option.map (· ^^^ maskKey.toList.getD (i % 4) 0)

theorem unmask_unmask (maskKey : Vector UInt8 4) (i : Nat) (x : Option UInt8) :
    unmask maskKey i (unmask maskKey i x) = x := by
  cases x with
  | none => rfl
  | some b =>
    rw [unmask, map_some, map_some, UInt8.xor_assoc, UInt8.xor_self, UInt8.xor_zero]

def Mapped (payload payloadLen : Nat) (mem : Memory) : Prop :=
  ∀ i < payloadLen, (mem (payload + i)).isSome

variable {v : VectorType} {payload payloadLen : Nat} {maskKey : Vector UInt8 4} {mem : Memory}

section

variable (mapped : Mapped payload payloadLen mem)

include mapped

theorem Mapped.change (maskKey : Vector UInt8 4)
    (first last : Nat) :
    Mapped payload payloadLen (change (unmask maskKey) payload first last mem) := by
  intro i inside
  unfold Lib.change
  split
  · rw [unmask, isSome_map]
    exact mapped i inside
  · exact mapped i inside

theorem forLoop_xorByte (maskKey : Vector UInt8 4)
    {i limit fuel : Nat} (le : i ≤ limit) (within : limit ≤ payloadLen) (enough : limit ≤ i + fuel) :
    forLoop 1 limit (xorByte payload maskKey) fuel i mem =
      some (limit, change (unmask maskKey) payload i limit mem) := by
  have keeps (j : Nat) (m : Memory) (inside : j < limit)
      (done : i ≤ j ∧ j ≤ limit ∧ m = change (unmask maskKey) payload i j mem) :
      ∃ m', xorByte payload maskKey j m = some m' ∧
        i ≤ j + 1 ∧ j + 1 ≤ limit ∧ m' = change (unmask maskKey) payload i (j + 1) mem := by
    obtain ⟨from_i, -, rfl⟩ := done
    obtain ⟨b, stored⟩ := isSome_iff_exists.mp (mapped j (by omega))
    have here : change (unmask maskKey) payload i j mem (payload + j) = some b := by
      rw [change_outside _ _ (by omega), stored]
    refine ⟨_, ?_, by omega, inside, rfl⟩
    rw [xorByte, here, ← change_succ _ _ _ from_i, stored]
    rfl
  obtain ⟨j, m, ends, past, -, atMost, rfl⟩ :=
    forLoop_invariant _ Nat.one_pos keeps enough
      ⟨le_refl i, le, (change_empty _ _ _ _).symm⟩
  obtain rfl : j = limit := le_antisymm atMost past
  exact ends

omit mapped in
theorem getElem?_extendedMask {j : Nat} (inside : j < v.size) :
    (extendedMask v maskKey)[j]? = some (maskKey.toList.getD (j % 4) 0) := by
  have four : maskKey.toList.length = 4 := by simp
  have size := v.size_spec
  have within : j % 4 < maskKey.toList.length := by omega
  rw [extendedMask, getElem?_flatten_replicate (by rw [four]; omega), four,
    List.getD_eq_getElem?_getD, List.getElem?_eq_getElem within, getD_some]

theorem xorVector_eq {i : Nat}
    (aligned : (payload + i) % v.size = 0) (phase : i % 4 = 0) (within : i + v.size ≤ payloadLen) :
    xorVector v payload (extendedMask v maskKey) i mem =
      some (change (unmask maskKey) payload i (i + v.size) mem) := by
  have ok : Aligned v (payload + i) mem := by
    refine ⟨aligned, fun j inside => ?_⟩
    rw [add_assoc]
    exact mapped (i + j) (by omega)
  rw [xorVector, vectorLoad, if_pos ok, bind_eq_bind, bind_some, vectorStore,
    if_pos ok]
  congr 1
  funext a
  split
  · rename_i inside
    obtain ⟨j, rfl⟩ := Nat.exists_eq_add_of_le inside.1
    have lane : j < v.size := by omega
    obtain ⟨b, stored⟩ := isSome_iff_exists.mp (ok.2 j lane)
    have key : (i + j) % 4 = j % 4 := by omega
    have xored : (vectorXor ((List.range v.size).map fun j => (mem (payload + i + j)).getD 0)
        (extendedMask v maskKey)).getD j 0 = b ^^^ maskKey.toList.getD (j % 4) 0 := by
      simp [vectorXor, List.getElem?_zipWith, lane, stored, getElem?_extendedMask lane]
    rw [Nat.add_sub_cancel_left, xored, add_assoc,
      change_inside _ _ (le_add_right i j) (by omega), ← add_assoc, stored, unmask, key]
    rfl
  · rename_i outside
    rw [change_outside _ _ (by omega)]

theorem forLoop_xorVector {i n fuel : Nat}
    (aligned : (payload + i) % v.size = 0) (phase : i % 4 = 0)
    (within : i + n * v.size ≤ payloadLen) (enough : n * v.size + i ≤ i + fuel) :
    forLoop v.size (n * v.size + i) (xorVector v payload (extendedMask v maskKey)) fuel i mem =
      some (n * v.size + i, change (unmask maskKey) payload i (n * v.size + i) mem) := by
  have size := v.size_spec
  have keeps (j : Nat) (m : Memory) (inside : j < n * v.size + i)
      (done : ∃ k ≤ n, j = k * v.size + i ∧ m = change (unmask maskKey) payload i j mem) :
      ∃ m', xorVector v payload (extendedMask v maskKey) j m = some m' ∧
        ∃ k ≤ n, j + v.size = k * v.size + i ∧
          m' = change (unmask maskKey) payload i (j + v.size) mem := by
    obtain ⟨k, -, rfl, rfl⟩ := done
    have more : k < n := Nat.lt_of_mul_lt_mul_right (Nat.lt_of_add_lt_add_right inside)
    have next : k * v.size + v.size ≤ n * v.size := by
      rw [← succ_mul]
      exact mul_le_mul_right _ more
    have here : (payload + (k * v.size + i)) % v.size = 0 := by
      rw [Nat.add_left_comm, mul_add_mod_self_right]
      exact aligned
    have inPhase : (k * v.size + i) % 4 = 0 := by rcases size with is | is <;> rw [is] <;> omega
    refine ⟨_, xorVector_eq (mapped.change maskKey i _) here inPhase (by omega), k + 1, more, ?_, ?_⟩
    · rw [succ_mul]
      omega
    · exact change_append _ _ _ (by omega) (by omega)
  obtain ⟨j, m, ends, past, k, atMost, rfl, rfl⟩ := forLoop_invariant _ (by omega) keeps enough
    ⟨0, zero_le n, by simp, (change_empty _ _ _ _).symm⟩
  have all : k * v.size ≤ n * v.size := mul_le_mul_right _ atMost
  obtain same : k * v.size + i = n * v.size + i := by omega
  rw [ends, same]

omit mapped in
/-- The vectors begin at a multiple of four: the preamble has the length by which the address is
    off, so it leads to an aligned address only if that is nothing or half a vector. -/
theorem preamble_phase (aligned : (payload + payload % v.size) % v.size = 0) :
    payload % v.size % 4 = 0 := by
  rcases v.size_spec with is | is <;> rw [is] at aligned ⊢ <;> omega

theorem unmaskVectors_eq (maskKey : Vector UInt8 4)
    {pre fastlen : Nat}
    (le : pre ≤ payloadLen) (isPre : pre = payloadLen ∨ pre = payload % v.size)
    (isFast : fastlen =
      if (payload + pre) % v.size ≠ 0 then 0 else (payloadLen - pre) / v.size * v.size) :
    fastlen + pre ≤ payloadLen ∧
      unmaskVectors v payload (fastlen + pre) fastlen maskKey pre mem =
        some (fastlen + pre, change (unmask maskKey) payload pre (fastlen + pre) mem) := by
  unfold unmaskVectors
  by_cases none : fastlen = 0
  · rw [if_neg (by omega), none, zero_add, change_empty]
    exact ⟨le, rfl⟩
  · by_cases aligned : (payload + pre) % v.size = 0
    · rw [if_neg (not_not.mpr aligned)] at isFast
      have whole : fastlen ≤ payloadLen - pre := isFast ▸ div_mul_le_self _ _
      have off : pre = payload % v.size := by
        refine isPre.resolve_left fun all => none ?_
        rw [isFast, all, Nat.sub_self, Nat.zero_div, Nat.zero_mul]
      have phase : pre % 4 = 0 := by
        rw [off] at aligned ⊢
        exact preamble_phase aligned
      rw [if_pos (by omega), isFast]
      exact ⟨by omega, forLoop_xorVector mapped aligned phase (by omega) (by omega)⟩
    · exact absurd (isFast.trans (if_pos aligned)) none

/-! ## The frame -/

theorem optimizedUnmaskFrame_eq (v : VectorType) (maskKey : Vector UInt8 4) :
    optimizedUnmaskFrame v payload payloadLen maskKey mem =
      some (change (unmask maskKey) payload 0 payloadLen mem) := by
  have size := v.size_spec
  have offset : payload % v.size < v.size := mod_lt _ (by omega)
  obtain ⟨pre, isPre⟩ : ∃ pre, pre = if payloadLen ≤ v.size then payloadLen else payload % v.size :=
    ⟨_, rfl⟩
  have le : pre ≤ payloadLen := by
    rw [isPre]
    split <;> omega
  have preamble : forLoop 1 pre (xorByte payload maskKey) payloadLen 0 mem =
      some (pre, change (unmask maskKey) payload 0 pre mem) :=
    forLoop_xorByte mapped maskKey (zero_le pre) le (by omega)
  simp only [optimizedUnmaskFrame, ← isPre, min_eq_left le, preamble, bind_eq_bind,
    bind_some]
  by_cases short : payloadLen < v.size
  · rw [if_pos short]
    rw [if_pos (le_of_lt short)] at isPre
    rw [isPre]
  · rw [if_neg short]
    obtain ⟨fastlen, isFast⟩ : ∃ fastlen, fastlen =
        if (payload + pre) % v.size ≠ 0 then 0 else (payloadLen - pre) / v.size * v.size :=
      ⟨_, rfl⟩
    have which : pre = payloadLen ∨ pre = payload % v.size := by
      rw [isPre]
      split
      · exact .inl rfl
      · exact .inr rfl
    have begun := mapped.change maskKey 0 pre
    obtain ⟨within, vectors⟩ := unmaskVectors_eq begun maskKey le which isFast
    have leftovers := forLoop_xorByte (begun.change maskKey pre (fastlen + pre)) maskKey within
      (le_refl payloadLen) (le_add_left payloadLen (fastlen + pre))
    rw [← isFast, vectors, bind_some, leftovers, bind_some,
      change_append _ _ _ (by omega) within, change_append _ _ _ (zero_le pre) (by omega)]

def bytesAt (payload payloadLen : Nat) (mem : Memory) : List UInt8 :=
  (List.range payloadLen).map fun i => (mem (payload + i)).getD 0

theorem bytesAt_change :
    bytesAt payload payloadLen (change (unmask maskKey) payload 0 payloadLen mem) =
      websocketUnmaskFrame maskKey.toList (bytesAt payload payloadLen mem) := by
  refine List.ext_getElem (by simp [bytesAt, websocketUnmaskFrame]) fun i inside _ => ?_
  have inside : i < payloadLen := by simpa [bytesAt] using inside
  obtain ⟨b, stored⟩ := isSome_iff_exists.mp (mapped i inside)
  simp [bytesAt, websocketUnmaskFrame, change_inside _ _ (zero_le i) inside, stored, unmask]

end

/-- For every length and address of the payload the vectorised unmasking gives what the plain one
    does, with no access outside of the payload, and undoes itself. -/
theorem optimized_unmask_frame (v : VectorType) (payload payloadLen : Nat)
    (maskKey : Vector UInt8 4) (mem : Memory) (mapped : Mapped payload payloadLen mem) :
    ∃ mem', optimizedUnmaskFrame v payload payloadLen maskKey mem = some mem' ∧
      (∀ i < payloadLen, ∀ b, mem (payload + i) = some b →
        mem' (payload + i) = some (b ^^^ maskKey.toList.getD (i % 4) 0)) ∧
      bytesAt payload payloadLen mem' =
        websocketUnmaskFrame maskKey.toList (bytesAt payload payloadLen mem) ∧
      (∀ a, ¬ (payload ≤ a ∧ a < payload + payloadLen) → mem' a = mem a) ∧
      optimizedUnmaskFrame v payload payloadLen maskKey mem' = some mem := by
  refine ⟨_, optimizedUnmaskFrame_eq mapped v maskKey, fun i inside b stored => ?_,
    bytesAt_change mapped, fun a outside => change_outside _ _ outside, ?_⟩
  · rw [change_inside _ _ (zero_le i) inside, stored]
    rfl
  · rw [optimizedUnmaskFrame_eq (mapped.change maskKey 0 payloadLen) v maskKey,
      change_change _ _ (unmask_unmask maskKey)]

/-- A payload of 83 bytes, half a vector off, and nothing else in memory. -/
theorem optimized_unmask_frame_half_off :
    ∃ mem', optimizedUnmaskFrame .m256i 16 83 #v[1, 2, 3, 4]
        (fun a => if 16 ≤ a ∧ a < 99 then some 0 else none) = some mem' ∧
      mem' 98 = some 3 ∧ mem' 99 = none := by
  obtain ⟨mem', done, inside, -, outside, -⟩ := optimized_unmask_frame .m256i 16 83 #v[1, 2, 3, 4]
    (fun a => if 16 ≤ a ∧ a < 99 then some 0 else none) (by unfold Mapped; decide)
  exact ⟨mem', done, inside 82 (by decide) 0 rfl, outside 99 (by decide)⟩

end Nchan.Websocket
