import Nchan.Lib.Partial
import Nchan.Spool.Steps

/-! # The spools of a single channel

The ids of a channel that is not multiplexed have one tag, and spools are ordered like the stamps
of their ids.  Every spool has a stamp of its own.  A spool that does not have to ask the store
again is attended to: somebody else will see to it that it gets its message, or there is a request
for it.  Who that is, is left open here.
-/

namespace Nchan

namespace MsgId

def stamp (id : MsgId) : Stamp := ⟨id.time, id.fixed 0⟩

/-- The id of a message of one channel, or of the oldest one. -/
structure Single (id : MsgId) : Prop where
  tagcount : id.tagcount = 1
  nonneg : ⟨0, 0⟩ ≤ id.stamp
  representable : id.time < 2 ^ 32

instance (id : MsgId) : Decidable id.Single :=
  decidable_of_iff (id.tagcount = 1 ∧ ⟨0, 0⟩ ≤ id.stamp ∧ id.time < 2 ^ 32)
    ⟨fun is => ⟨is.1, is.2.1, is.2.2⟩, fun single => ⟨single.1, single.2, single.3⟩⟩

namespace Single

variable {id id1 id2 : MsgId}

theorem time_nonneg (single : id.Single) : 0 ≤ id.time := by
  rcases Stamp.le_iff.mp single.nonneg with later | ⟨same, -⟩
  · exact later.le
  · exact same.le

theorem not_newest (single : id.Single) : id.time ≠ newestMsgidTime := by
  have nonneg := single.time_nonneg
  rintro newest
  rw [newest] at nonneg
  exact absurd nonneg (by decide)

theorem tags (single : id.Single) : id.tags = id.fixed := by
  simp [MsgId.tags, single.tagcount]

end Single

theorem single_oldest : oldest.Single := ⟨rfl, le_refl _, by decide⟩

end MsgId

namespace Spool

open MsgId Lib

/-! ## Ids of one tag -/

variable {id1 id2 : MsgId}

section

variable (one1 : id1.tagcount = 1) (one2 : id2.tagcount = 1)

include one1 one2

theorem compare_of_one :
    spoolRbtreeCompare id1 id2 =
      (compare id1.time id2.time).then (compare (id1.fixed 0) (id2.fixed 0)) := by
  have tags1 : id1.tags = id1.fixed := by simp [MsgId.tags, one1]
  have tags2 : id2.tags = id2.fixed := by simp [MsgId.tags, one2]
  simp [spoolRbtreeCompare, one1, one2, tags1, tags2, compareTags]

theorem compare_eq_of_one :
    spoolRbtreeCompare id1 id2 = .eq ↔ id1.stamp = id2.stamp := by
  rw [compare_of_one one1 one2, Ordering.then_eq_eq, compare_eq_iff_eq, compare_eq_iff_eq,
    Stamp.ext_iff]
  rfl

theorem compare_lt_of_one :
    spoolRbtreeCompare id1 id2 = .lt ↔ id1.stamp < id2.stamp := by
  rw [compare_of_one one1 one2, Ordering.then_eq_lt, compare_lt_iff_lt, compare_eq_iff_eq,
    compare_lt_iff_lt, Stamp.lt_iff]
  rfl

theorem rbtreeLt_iff_of_one :
    RbtreeLt id1 id2 ↔ spoolRbtreeBucketer id1 < spoolRbtreeBucketer id2 ∨
      spoolRbtreeBucketer id1 = spoolRbtreeBucketer id2 ∧ id1.stamp < id2.stamp := by
  rw [RbtreeLt, compare_lt_of_one one1 one2]

theorem stamp_lt_of_bucket
    (time1 : 0 ≤ id1.time ∧ id1.time < 2 ^ 32) (time2 : 0 ≤ id2.time ∧ id2.time < 2 ^ 32)
    (less : RbtreeLt id1 id2) : id1.stamp < id2.stamp := by
  have bucket1 : spoolRbtreeBucketer id1 = id1.time := Int.emod_eq_of_lt time1.1 time1.2
  have bucket2 : spoolRbtreeBucketer id2 = id2.time := Int.emod_eq_of_lt time2.1 time2.2
  rw [rbtreeLt_iff_of_one one1 one2, bucket1, bucket2] at less
  rcases less with earlier | ⟨_, less⟩
  · exact Stamp.lt_iff.mpr (.inl earlier)
  · exact less

end

section

variable (single1 : id1.Single) (single2 : id2.Single)

include single1 single2

theorem compare_single : spoolRbtreeCompare id1 id2 = .eq ↔ id1.stamp = id2.stamp :=
  compare_eq_of_one single1.tagcount single2.tagcount

theorem msgIdsEqual_single : msgIdsEqual id1 id2 = false ↔ id1.stamp ≠ id2.stamp := by
  rw [ne_eq, ← compare_single single1 single2,
    spoolRbtreeCompare_eq_iff (single1.tagcount.trans single2.tagcount.symm), msgIdsEqual]
  simp [single1.tagcount, single2.tagcount]

theorem stamp_lt_of_rbtreeLt (less : RbtreeLt id1 id2) : id1.stamp < id2.stamp :=
  stamp_lt_of_bucket single1.tagcount single2.tagcount
    ⟨single1.time_nonneg, single1.representable⟩ ⟨single2.time_nonneg, single2.representable⟩ less

end

def inRange {P : Type} (msg : Msg P) (id : MsgId) : Bool :=
  msg.prevId.stamp ≤ id.stamp ∧ id.stamp < msg.id.stamp

def rangeDirection {P : Type} (msg : Msg P) (id : MsgId) : Direction :=
  if msg.prevId.stamp ≤ id.stamp then
    if id.stamp < msg.id.stamp then .leftRight else .left
  else .right

theorem collectSpoolRange_of_one {P : Type} {msg : Msg P} {id : MsgId} (single : id.tagcount = 1)
    (one : msg.id.tagcount = 1) (prevOne : msg.prevId.tagcount = 1) :
    collectSpoolRange msg id = some (inRange msg id, rangeDirection msg id) := by
  have counts : ¬ (msg.prevId.tagcount ≠ msg.id.tagcount ∨ msg.id.tagcount ≠ id.tagcount ∨
      id.tagcount ≠ 1) := by
    simp [one, prevOne, single]
  have above : msg.prevId.time < id.time ∨ msg.prevId.time = id.time ∧
      msg.prevId.fixed 0 ≤ id.fixed 0 ↔ msg.prevId.stamp ≤ id.stamp := by
    rw [Stamp.le_iff]
    rfl
  have below : msg.id.time > id.time ∨ msg.id.time = id.time ∧ msg.id.fixed 0 > id.fixed 0 ↔
      id.stamp < msg.id.stamp := by
    rw [Stamp.lt_iff, eq_comm]
    rfl
  rw [collectSpoolRange, if_pos one.le, compareMsgidOnetagRange, if_neg counts]
  simp only [above, below, inRange, rangeDirection]
  by_cases low : msg.prevId.stamp ≤ id.stamp
  · by_cases high : id.stamp < msg.id.stamp
    · simp [low, high]
    · simp [low, high]
  · simp [low]

end Spool

end Nchan
