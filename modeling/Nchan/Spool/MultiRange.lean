import Nchan.Spool.Spooler
import Mathlib.Data.List.Nodup

/-! # Ranges of a multiplexed channel

A spool of a multiplexed channel has read up to some message of each of its channels.  When a
message of one of them is published, the range callback finds out from the tag of that channel
whether the spool waits for it.  When the spool fetches, it asks that channel for what is after the
id that is extracted for it.  An unset tag is -1 for the one and the end of the second before for
the other, and yet both mean the same.
-/

namespace Nchan.Spool

open Nchan.Lib Option Function

/-- The id of a message of the channel `n`, with room for the tags of `mcount` channels. -/
def remsgRoom (mcount n : Nat) (stamp : Stamp) : MsgId where
  time := stamp.time
  fixed := fun _ => stamp.tag
  allocd := if mcount > fixedMultitagMax then update (fun _ => 0) 0 stamp.tag else fun _ => 0
  tagactive := n
  tagcount := mcount

/-- The id of a message of the channel `n` among those of `mcount` channels. -/
def remsgId (mcount n : Nat) (stamp : Stamp) : Option MsgId :=
  (remsgRoom mcount n stamp).expandMultiTag 0 n (-1)

/-- The message that `sub_respond_message` of `memstore_multi.c` publishes. -/
def subRespondMessage {P : Type} (mcount n : Nat) (id prevId : Stamp) (payload : P) :
    Option (Msg P) :=
  (remsgId mcount n prevId).bind fun prevId =>
    (remsgId mcount n id).map fun id => ⟨id, prevId, payload⟩

variable {n i : Nat} {stamp : Stamp}

/-- `id` has the tag of a message in one of its channels, and no other tag. -/
structure OnlyTag (n i : Nat) (stamp : Stamp) (id : MsgId) : Prop where
  time : id.time = stamp.time
  counts : id.tagcount = n
  active : id.tagactive = i
  tags : id.tags = update (fun _ => -1) i stamp.tag

theorem remsgId_spec (inside : i < n) (stamp : Stamp) :
    ∃ id, remsgId n i stamp = some id ∧ OnlyTag n i stamp id := by
  have first : (remsgRoom n i stamp).tags 0 = stamp.tag := by
    by_cases many : n > fixedMultitagMax
    · simp [MsgId.tags, remsgRoom, many, Nat.not_le.mpr many]
    · simp [MsgId.tags, remsgRoom, Nat.not_lt.mp many]
  refine ⟨_, if_pos ⟨Nat.zero_lt_of_lt inside, inside⟩, ⟨?_, ?_, ?_, ?_⟩⟩
  · rw [MsgId.time_setTags]
    rfl
  · rw [MsgId.tagcount_setTags]
    rfl
  · rw [MsgId.tagactive_setTags]
    rfl
  · rw [MsgId.tags_setTags, first]
    funext k
    simp [update_apply]

namespace OnlyTag

variable {id spool : MsgId}

variable (only : OnlyTag n i stamp id)

include only

theorem nonnegs (inside : i < n) (tag : 0 ≤ stamp.tag) :
    ((List.range id.tagcount).filter fun k => id.tags k ≥ 0).length = 1 := by
  have same : (fun k => decide (id.tags k ≥ 0)) = fun k => decide (k = i) := by
    funext k
    by_cases here : k = i
    · simp [only.tags, here, tag]
    · simp [only.tags, here]
  rw [same, only.counts, List.filter_eq, List.length_replicate]
  exact List.count_eq_one_of_mem List.nodup_range (List.mem_range.mpr inside)

theorem compare_tags (inside : i < n) (tag : 0 ≤ stamp.tag)
    (counts : spool.tagcount = n) (same : spool.time = stamp.time) (positive : 0 < spool.time) :
    nchanCompareMsgidTags spool id = some (compare (spool.tags i) stamp.tag) := by
  have sameTime : spool.time = id.time := same.trans only.time.symm
  have notZero : ¬ (spool.time = 0 ∧ id.time = 0) := by omega
  unfold nchanCompareMsgidTags
  rw [if_neg (not_not.mpr sameTime), if_neg (not_not.mpr (only.nonnegs inside tag)),
    if_neg notZero]
  simp [only.active, only.tags, counts, inside]

theorem compare_zero (inside : i < n) (tag : 0 ≤ stamp.tag)
    (zero : spool.time = 0) (none : stamp.time = 0) : nchanCompareMsgidTags spool id = some .eq := by
  have sameTime : spool.time = id.time := by rw [only.time, zero, none]
  unfold nchanCompareMsgidTags
  rw [if_neg (not_not.mpr sameTime), if_neg (not_not.mpr (only.nonnegs inside tag)),
    if_pos ⟨zero, sameTime ▸ zero⟩]

end OnlyTag

theorem inMultiRange_spec {min max spool : MsgId} {prev id : Stamp} (inside : i < n)
    (isMin : OnlyTag n i prev min) (isMax : OnlyTag n i id max) (tag : 0 ≤ id.tag)
    (prevTag : 0 ≤ prev.tag) (counts : spool.tagcount = n) (positive : 0 < spool.time)
    (low : prev.time ≤ spool.time) (high : spool.time ≤ id.time) :
    inMultiRange min max spool = some (decide
      ((prev.time = spool.time → prev.tag ≤ spool.tags i) ∧
        (spool.time = id.time → spool.tags i < id.tag))) := by
  have toMin := fun same => isMin.compare_tags inside prevTag counts same positive
  have toMax := fun same => isMax.compare_tags inside tag counts same positive
  have reached : compare (spool.tags i) prev.tag ≠ .lt ↔ prev.tag ≤ spool.tags i := by
    rw [ne_eq, compare_lt_iff_lt, not_lt]
  unfold inMultiRange
  rw [isMin.time, isMax.time]
  by_cases atMin : spool.time = prev.time
  · rw [if_neg (by omega)]
    by_cases atMax : spool.time = id.time
    · rw [if_pos ⟨atMax, atMin⟩, toMax atMax, toMin atMin, bind_some]
      by_cases below : spool.tags i < id.tag
      · simp only [compare_lt_iff_lt.mpr below, if_true, map_some, reached, atMin.symm,
          below, true_implies, implies_true, and_true]
      · simp [mt compare_lt_iff_lt.mp below, atMax, below]
    · rw [if_neg (fun both => atMax both.1), if_neg atMax, if_pos atMin, toMin atMin]
      simp only [bind_some, Bool.false_eq_true, if_false, map_some, reached,
        atMin.symm, true_implies, atMax, false_implies, and_true]
  · by_cases atMax : spool.time = id.time
    · rw [if_neg (by omega), if_neg (fun both => atMin both.2), if_pos atMax, toMax atMax]
      by_cases below : spool.tags i < id.tag
      · simp only [map_some, bind_some, compare_lt_iff_lt.mpr below, decide_true,
          if_true]
        rw [decide_eq_true ⟨fun same => absurd same.symm atMin, fun _ => below⟩]
      · simp only [map_some, bind_some, mt compare_lt_iff_lt.mp below, decide_false,
          Bool.false_eq_true, if_false, atMin]
        rw [decide_eq_false fun both => below (both.2 atMax)]
    · rw [if_pos (by omega)]
      simp [Ne.symm atMin, atMax]

/-- The live path and the fetch path agree on what a spool has read. -/
theorem live_and_fetch_agree {P : Type} (n : Nat) (_ : 2 ≤ n) (_ : n ≤ 255) (spool : MsgId)
    (known : spool.time = oldestMsgidTime ∨
      0 < spool.time ∧ spool.tagcount = n ∧ ∀ k < n, -1 ≤ spool.tags k)
    (i : Nat) (inside : i < n) (id prev : Stamp) (time : 0 < id.time)
    (tag : 0 ≤ id.tag ∧ id.tag ≤ 32766)
    (before : prev = ⟨0, 0⟩ ∨ 0 < prev.time ∧ 0 ≤ prev.tag ∧ prev.tag ≤ 32766) (payload : P) :
    ∃ msg read direction, subRespondMessage n i id prev payload = some msg ∧
      spool.extractFromMultiMsgid i = some read ∧
      collectSpoolRange msg spool = some (decide (prev ≤ read ∧ read < id), direction) := by
  obtain ⟨min, isMin, only⟩ := remsgId_spec inside prev
  obtain ⟨max, isMax, onlyMax⟩ := remsgId_spec inside id
  have prevTag : 0 ≤ prev.tag := by
    rcases before with rfl | before
    · exact Int.le_refl 0
    · exact before.2.1
  have several : ¬ max.tagcount ≤ 1 := by
    rw [onlyMax.counts]
    omega
  refine ⟨⟨max, min, payload⟩, ?_⟩
  have translated : subRespondMessage n i id prev payload = some ⟨max, min, payload⟩ := by
    simp [subRespondMessage, isMin, isMax]
  simp only [translated, true_and, collectSpoolRange, if_neg several, only.time, onlyMax.time]
  rcases known with oldest | ⟨positive, counts, set⟩
  · -- nothing has been read: the spool waits for a message that has none before it
    have extracted : spool.extractFromMultiMsgid i = some ⟨0, 0⟩ := by
      simp [MsgId.extractFromMultiMsgid, oldest]
    have zero : spool.time = 0 := oldest
    rcases before with rfl | before
    · have first : inMultiRange min max spool = some true := by
        simp only [inMultiRange, only.time, onlyMax.time, zero, Int.lt_irrefl, gt_iff_lt, false_and,
          if_false, time.ne, bind_some, Bool.false_eq_true, if_true,
          only.compare_zero inside prevTag zero rfl, map_some]
        rfl
      have after : (⟨0, 0⟩ : Stamp) < id := Stamp.lt_iff.mpr (.inl time)
      refine ⟨⟨0, 0⟩, .leftRight, extracted, ?_⟩
      rw [if_neg (by simp [zero]), if_neg (by simp [zero, time.le]), first,
        decide_eq_true ⟨le_refl _, after⟩]
      rfl
    · have early : ¬ prev ≤ ⟨0, 0⟩ := by
        rw [Stamp.le_iff]
        dsimp only
        omega
      refine ⟨⟨0, 0⟩, .right, extracted, ?_⟩
      rw [if_pos (by omega), decide_eq_false fun both => early both.1]
  · have extracted := MsgId.extract_of_positive positive (counts ▸ inside)
    have prevTime : 0 ≤ prev.time ∧ prev.tag ≤ 32766 := by
      rcases before with rfl | before
      · decide
      · omega
    have notOldest : spool.time ≠ oldestMsgidTime := positive.ne'
    have position : spool.position i =
        if spool.tags i = -1 then ⟨spool.time - 1, 32767⟩ else ⟨spool.time, spool.tags i⟩ := by
      rw [MsgId.position, if_neg notOldest]
    refine ⟨spool.position i, ?_⟩
    simp only [extracted, true_and]
    by_cases low : prev.time ≤ spool.time
    · rw [if_neg (not_not.mpr low)]
      by_cases high : id.time ≥ spool.time
      · rw [if_neg (not_not.mpr high), inMultiRange_spec inside only onlyMax tag.1 prevTag counts
          positive low high]
        refine ⟨.leftRight, congrArg (fun b => some (b, Direction.leftRight)) ?_⟩
        rw [decide_eq_decide, position]
        split <;> simp only [Stamp.le_iff, Stamp.lt_iff] <;> omega
      · have late : ¬ spool.position i < id := by
          rw [position]
          split <;> simp only [Stamp.lt_iff] <;> omega
        exact ⟨.left, by rw [if_pos high, decide_eq_false fun both => late both.2]⟩
    · have early : ¬ prev ≤ spool.position i := by
        rw [position]
        split <;> simp only [Stamp.le_iff] <;> omega
      exact ⟨.right, by rw [if_pos low, decide_eq_false fun both => early both.1]⟩

/-- A spool that has read a message of the second channel in the second 100, and the first message
    of the first channel in that second. -/
theorem live_and_fetch_agree_unset :
    ∃ msg direction,
      subRespondMessage 3 0 ⟨100, 0⟩ ⟨98, 4⟩ () = some msg ∧
      collectSpoolRange msg ⟨100, fun k => if k = 1 then 5 else -1, fun _ => 0, 1, 3⟩ =
        some (true, direction) := by
  obtain ⟨msg, read, direction, translated, extracted, collected⟩ := live_and_fetch_agree 3
    (by decide) (by decide) ⟨100, fun k => if k = 1 then 5 else -1, fun _ => 0, 1, 3⟩
    (.inr (by decide)) 0 (by decide) ⟨100, 0⟩ ⟨98, 4⟩ (by decide) (by decide) (.inr (by decide)) ()
  obtain rfl : (⟨99, 32767⟩ : Stamp) = read := some.inj extracted
  exact ⟨msg, direction, translated, collected⟩

end Nchan.Spool
