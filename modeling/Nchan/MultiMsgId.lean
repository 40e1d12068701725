import Nchan.MsgId

/-! # Ids of several channels at once

A multiplexed channel has one time for all its channels and a tag for each of them.  A tag of
-1 stands for a channel that has had no message in that second.  Up to four tags are stored in
the id itself, more of them in an array of their own.
-/

namespace Nchan

/-- `NCHAN_FIXED_MULTITAG_MAX`. -/
abbrev fixedMultitagMax : Nat := 4

/-- `NCHAN_OLDEST_MSGID_TIME`. -/
abbrev oldestMsgidTime : Int := 0

/-- `nchan_msg_id_t`.  Of the two arrays the one in use is said by `tagcount`. -/
structure MsgId where
  time : Int
  fixed : Nat → Int
  allocd : Nat → Int
  tagactive : Nat
  tagcount : Nat

namespace MsgId

def tags (id : MsgId) : Nat → Int := if id.tagcount ≤ fixedMultitagMax then id.fixed else id.allocd

/-- Write to the array that an id with `count` tags uses. -/
def setTags (count : Nat) (tags : Nat → Int) (id : MsgId) : MsgId :=
  if count ≤ fixedMultitagMax then { id with fixed := tags } else { id with allocd := tags }

def ofStamp (stamp : Stamp) : MsgId where
  time := stamp.time
  fixed := fun _ => stamp.tag
  allocd := fun _ => 0
  tagactive := 0
  tagcount := 1

/-- `NCHAN_OLDEST_MSGID`. -/
def oldest : MsgId := ofStamp ⟨oldestMsgidTime, 0⟩

/-- `nchan_copy_msg_id`. -/
def copyMsgId (dst src : MsgId) : MsgId :=
  let dst := { dst with time := src.time, tagcount := src.tagcount, tagactive := src.tagactive }
  if src.tagcount ≤ fixedMultitagMax then { dst with fixed := src.fixed }
  else { dst with allocd := src.allocd }

/-- `nchan_expand_msg_id_multi_tag`. -/
def expandMultiTag (id : MsgId) (inN outN : Nat) (fill : Int) : Option MsgId :=
  if inN < id.tagcount ∧ outN < id.tagcount then
    some (id.setTags id.tagcount fun i => if i = outN then id.tags inN else fill)
  else none

/-- `nchan_extract_from_multi_msgid`. -/
def extractFromMultiMsgid (src : MsgId) (n : Nat) : Option Stamp :=
  if src.time = oldestMsgidTime ∨ src.time = newestMsgidTime then some ⟨src.time, 0⟩
  else if src.time = nthMsgidTime then some ⟨src.time, src.fixed 0⟩
  else if src.tagcount ≤ n then none
  else if src.tags n = -1 then some ⟨src.time - 1, 32767⟩
  else some ⟨src.time, src.tags n⟩

/-- Room for the tags of `newcount` channels in `nchan_update_multi_msgid`. -/
def widen (newcount : Nat) (oldid : MsgId) : MsgId :=
  if newcount > fixedMultitagMax ∧ oldid.tagcount < newcount then
    { oldid with
      allocd := fun i => if i < oldid.tagcount then oldid.tags i else -1
      tagcount := newcount }
  else oldid

/-- The tags of `oldid` with those of `newid` that are set. -/
def mergeTags (oldtags newtags : Nat → Int) (i : Nat) : Int :=
  if newtags i ≠ -1 then newtags i else oldtags i

/-- `nchan_update_multi_msgid`.  The count by which the arrays are chosen and which has to be
    that of the new id is the one from before making room. -/
def updateMultiMsgid (oldid newid : MsgId) : Option MsgId :=
  if newid.tagcount = 1 then some newid
  else
    let oldcount := oldid.tagcount
    let oldid := oldid.widen newid.tagcount
    if oldid.time ≠ newid.time then some (oldid.copyMsgId newid)
    else
      let oldtags := if oldcount ≤ fixedMultitagMax then oldid.fixed else oldid.allocd
      let newtags := if oldcount ≤ fixedMultitagMax then newid.fixed else newid.allocd
      let active := newid.tagactive
      if newid.tagcount ≠ oldcount then none
      -- assert(newtags[i] > oldtags[i])
      else if active < newid.tagcount ∧ newtags active ≠ -1 ∧ oldtags active ≠ -1 ∧
          newtags active ≤ oldtags active then none
      else
        some { oldid.setTags oldcount (mergeTags oldtags newtags) with tagactive := newid.tagactive }

/-! ## Tags, wherever they are stored -/

@[simp] theorem tags_setTags (id : MsgId) (tags : Nat → Int) :
    (id.setTags id.tagcount tags).tags = tags := by
  by_cases few : id.tagcount ≤ fixedMultitagMax
  · simp [setTags, few, MsgId.tags]
  · simp [setTags, few, MsgId.tags]

@[simp] theorem time_setTags (id : MsgId) (count : Nat) (tags : Nat → Int) :
    (id.setTags count tags).time = id.time := by
  unfold setTags
  split <;> rfl

@[simp] theorem tagcount_setTags (id : MsgId) (count : Nat) (tags : Nat → Int) :
    (id.setTags count tags).tagcount = id.tagcount := by
  unfold setTags
  split <;> rfl

@[simp] theorem tagactive_setTags (id : MsgId) (count : Nat) (tags : Nat → Int) :
    (id.setTags count tags).tagactive = id.tagactive := by
  unfold setTags
  split <;> rfl

@[simp] theorem copyMsgId_time (dst src : MsgId) : (dst.copyMsgId src).time = src.time := by
  unfold copyMsgId
  split <;> rfl

@[simp] theorem copyMsgId_tagcount (dst src : MsgId) :
    (dst.copyMsgId src).tagcount = src.tagcount := by
  unfold copyMsgId
  split <;> rfl

@[simp] theorem copyMsgId_tags (dst src : MsgId) : (dst.copyMsgId src).tags = src.tags := by
  by_cases few : src.tagcount ≤ fixedMultitagMax
  · simp [copyMsgId, few, MsgId.tags]
  · simp [copyMsgId, few, MsgId.tags]

variable {id newid oldid : MsgId}

theorem expandMultiTag_spec {inN outN : Nat} (fill : Int)
    (room : inN < id.tagcount ∧ outN < id.tagcount) :
    ∃ id', id.expandMultiTag inN outN fill = some id' ∧ id'.time = id.time ∧
      id'.tagcount = id.tagcount ∧ id'.tags = Function.update (fun _ => fill) outN (id.tags inN) := by
  refine ⟨_, if_pos room, by simp, by simp, ?_⟩
  funext i
  simp [Function.update_apply]

section

variable (several : newid.tagcount ≠ 1)

include several

theorem updateMultiMsgid_of_ne (later : oldid.time ≠ newid.time) :
    ∃ id, oldid.updateMultiMsgid newid = some id ∧ id.time = newid.time ∧
      id.tagcount = newid.tagcount ∧ id.tags = newid.tags := by
  have sameTime : (oldid.widen newid.tagcount).time = oldid.time := by
    unfold widen
    split <;> rfl
  refine ⟨(oldid.widen newid.tagcount).copyMsgId newid, ?_, by simp⟩
  simp [updateMultiMsgid, several, sameTime, later]

theorem updateMultiMsgid_of_eq (same : oldid.time = newid.time)
    (counts : oldid.tagcount = newid.tagcount)
    (advances : newid.tags newid.tagactive ≠ -1 → oldid.tags newid.tagactive ≠ -1 →
      oldid.tags newid.tagactive < newid.tags newid.tagactive) :
    ∃ id, oldid.updateMultiMsgid newid = some id ∧ id.time = newid.time ∧
      id.tagcount = newid.tagcount ∧ id.tags = mergeTags oldid.tags newid.tags := by
  have unwidened : oldid.widen newid.tagcount = oldid := by simp [widen, counts]
  have oldtags : (if oldid.tagcount ≤ fixedMultitagMax then oldid.fixed else oldid.allocd)
      = oldid.tags := rfl
  have newtags : (if oldid.tagcount ≤ fixedMultitagMax then newid.fixed else newid.allocd)
      = newid.tags := by
    rw [counts]
    rfl
  have asserted : ¬ (newid.tagactive < newid.tagcount ∧ newid.tags newid.tagactive ≠ -1 ∧
      oldid.tags newid.tagactive ≠ -1 ∧
      newid.tags newid.tagactive ≤ oldid.tags newid.tagactive) := fun fails => by
    omega
  refine ⟨{ oldid.setTags oldid.tagcount (mergeTags oldid.tags newid.tags) with
    tagactive := newid.tagactive }, ?_, ?_, ?_, ?_⟩
  · unfold updateMultiMsgid
    rw [if_neg several]
    dsimp only
    rw [unwidened, oldtags, newtags, if_neg (not_not.mpr same), if_neg (not_not.mpr counts.symm),
      if_neg asserted]
  · simpa using same
  · simpa using counts
  · exact tags_setTags oldid _

theorem updateMultiMsgid_tagactive
    (updated : oldid.updateMultiMsgid newid = some id) : id.tagactive = newid.tagactive := by
  unfold updateMultiMsgid at updated
  rw [if_neg several] at updated
  dsimp only at updated
  split at updated
  · cases updated
    unfold copyMsgId
    split <;> rfl
  · obtain ⟨_, updated⟩ := Option.ite_none_left_eq_some.mp updated
    obtain ⟨_, updated⟩ := Option.ite_none_left_eq_some.mp updated
    exact Option.some.inj updated ▸ rfl

end

/-! ## Positions -/

/-- Where an id stands in the `n`-th channel: the latest stamp it is past. -/
def position (id : MsgId) (n : Nat) : Stamp :=
  if id.time = oldestMsgidTime then ⟨oldestMsgidTime, 0⟩
  else if id.tags n = -1 then ⟨id.time - 1, 32767⟩
  else ⟨id.time, id.tags n⟩

/-- `OLDEST`, or an id of `count` channels as messages have them. -/
def WellFormed (count : Nat) (id : MsgId) : Prop :=
  id.time = oldestMsgidTime ∨
    0 < id.time ∧ id.tagcount = count ∧ ∀ i < count, -1 ≤ id.tags i ∧ id.tags i ≤ 32767

variable {n : Nat}

theorem extract_of_positive (positive : 0 < id.time) (room : n < id.tagcount) :
    id.extractFromMultiMsgid n = some (id.position n) := by
  have notOldest : id.time ≠ 0 := by omega
  have notNewest : id.time ≠ -1 := by omega
  have notNth : id.time ≠ -2 := by omega
  simp only [extractFromMultiMsgid, position, oldestMsgidTime, newestMsgidTime, nthMsgidTime,
    notOldest, notNewest, notNth, Nat.not_le.mpr room, or_self, if_false]
  split <;> rfl

theorem WellFormed.extract {count : Nat} (wf : id.WellFormed count) (inRange : n < count) :
    id.extractFromMultiMsgid n = some (id.position n) := by
  rcases wf with oldest | ⟨positive, counts, _⟩
  · simp [extractFromMultiMsgid, position, oldest]
  · exact extract_of_positive positive (counts ▸ inRange)

theorem WellFormed.position_bounds {count : Nat} (wf : id.WellFormed count) (inRange : n < count) :
    0 ≤ (id.position n).time ∧ (id.position n).time ≤ id.time ∧ (id.position n).tag ≤ 32767 ∧
      ∀ s : Stamp, s.tag ≤ 32767 → id.position n < s → id.time ≤ s.time := by
  rcases wf with oldest | ⟨positive, _, bounded⟩
  · simp only [position, oldest, if_true, Stamp.lt_iff, oldestMsgidTime]
    exact ⟨by omega, by omega, by omega, fun s _ past => by omega⟩
  · have notOldest : id.time ≠ 0 := by omega
    have := bounded n inRange
    simp only [position, oldestMsgidTime, notOldest, if_false]
    split
    · simp only [Stamp.lt_iff]
      exact ⟨by omega, by omega, by omega, fun s _ past => by omega⟩
    · simp only [Stamp.lt_iff]
      exact ⟨by omega, by omega, by omega, fun s _ past => by omega⟩

end MsgId

end Nchan
