import Mathlib.Data.List.Nodup

/-! # Recycling pools

A pool hands out things one at a time and takes them back all at once.  What was taken back is
handed out again before anything new is made.  Things are known by address.  The rule for users
of a pool is that what `reserve` gives is not in use.
-/

namespace Nchan.Lib

open List

/-- What is in use and what is free, the latest first, and how many have been made. -/
structure Recycle where
  used : List Nat
  free : List Nat
  made : Nat
  deriving DecidableEq

namespace Recycle

def empty : Recycle := ⟨[], [], 0⟩

def reserve (pool : Recycle) : Nat × Recycle :=
  match pool.free with
  | address :: free => (address, { pool with used := address :: pool.used, free := free })
  | [] => (pool.made, ⟨pool.made :: pool.used, [], pool.made + 1⟩)

def flush (pool : Recycle) : Recycle := ⟨[], pool.used.reverse ++ pool.free, pool.made⟩

def flushUsed (pool : Recycle) : Recycle := ⟨[], pool.used.reverse, pool.made⟩

/-- Nothing is in use twice, or in use and free. -/
structure Sound (pool : Recycle) : Prop where
  distinct : (pool.used ++ pool.free).Nodup
  made : ∀ address ∈ pool.used ++ pool.free, address < pool.made

variable {pool : Recycle}

theorem empty_sound : empty.Sound :=
  ⟨nodup_nil, forall_mem_nil _⟩

theorem mem_used_reserve {address : Nat} :
    address ∈ pool.reserve.2.used ↔ address = pool.reserve.1 ∨ address ∈ pool.used := by
  unfold reserve
  cases pool.free <;> simp

variable (sound : pool.Sound)

include sound

theorem Sound.reserve_fresh : pool.reserve.1 ∉ pool.used := by
  unfold Recycle.reserve
  cases free : pool.free with
  | nil =>
    intro inUse
    exact Nat.lt_irrefl _ (sound.made _ (mem_append_left _ inUse))
  | cons address rest =>
    intro inUse
    have distinct := sound.distinct
    rw [free] at distinct
    exact (disjoint_of_nodup_append distinct) inUse mem_cons_self

theorem Sound.reserve : pool.reserve.2.Sound := by
  have distinct := sound.distinct
  have made := sound.made
  unfold Recycle.reserve
  cases free : pool.free with
  | nil =>
    rw [free, append_nil] at distinct made
    refine ⟨?_, fun address listed => ?_⟩
    · rw [append_nil]
      exact nodup_cons.mpr ⟨fun inUse => Nat.lt_irrefl _ (made _ inUse), distinct⟩
    · rw [append_nil] at listed
      rcases mem_cons.mp listed with rfl | inUse
      · exact Nat.lt_succ_self _
      · exact Nat.lt_succ_of_lt (made _ inUse)
  | cons address rest =>
    rw [free] at distinct made
    have same : (pool.used ++ address :: rest).Perm (address :: pool.used ++ rest) :=
      perm_middle
    exact ⟨same.nodup_iff.mp distinct, fun other listed => made other (same.mem_iff.mpr listed)⟩

theorem Sound.flush : pool.flush.Sound := by
  have same : ([] ++ (pool.used.reverse ++ pool.free)).Perm (pool.used ++ pool.free) :=
    (reverse_perm pool.used).append_right pool.free
  exact ⟨same.nodup_iff.mpr sound.distinct,
    fun address listed => sound.made address (same.mem_iff.mp listed)⟩

theorem Sound.flushUsed : pool.flushUsed.Sound := by
  refine ⟨nodup_reverse.mpr sound.distinct.of_append_left, fun address listed => ?_⟩
  exact sound.made address (mem_append_left _ (mem_reverse.mp listed))

end Recycle

end Nchan.Lib
