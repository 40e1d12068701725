import Nchan.Spool.SingleTag

/-! # The walk over the spools of a range

A message that is published is for the spools whose ids are from the id of the message before it
up to its own.  They are collected by a walk over the tree of spools, which is ordered by the time
as an unsigned number of 32 bits, while the walk turns left and right by the time as it is.  The
two agree for times that fit.  They do not for the time -2 of `NCHAN_NTH_MSGID_TIME`, and not for
one that a client makes up.
-/

namespace Nchan.Spool

open Nchan.Lib

/-! ## The tree -/

/-- Which way `rbtree_insert_generic` goes at the node `temp`. -/
def insertsLeft (id temp : MsgId) : Bool :=
  if spoolRbtreeBucketer id ≠ spoolRbtreeBucketer temp then
    spoolRbtreeBucketer id < spoolRbtreeBucketer temp
  else spoolRbtreeCompare id temp = .lt

/-- `rbtree_insert_generic`. -/
def rbtreeInsertGeneric (id : MsgId) (tree : Lib.Tree MsgId) : Lib.Tree MsgId :=
  tree.insert (insertsLeft id) id

/-- The trees of the spools of a channel that is not multiplexed.  A spool is made for an id that
    has none, and spools are removed.  All that is known of rebalancing is that it leaves the
    nodes in their order. -/
inductive SpoolTree : Lib.Tree MsgId → Prop where
  | empty : SpoolTree .leaf
  | insert {tree tree' : Lib.Tree MsgId} (id : MsgId) (built : SpoolTree tree)
      (one : id.tagcount = 1) (fresh : ∀ other ∈ tree.inorder, spoolRbtreeCompare id other ≠ .eq)
      (same : tree'.inorder = (rbtreeInsertGeneric id tree).inorder) : SpoolTree tree'
  | remove {tree tree' : Lib.Tree MsgId} (front : List MsgId) (id : MsgId) (back : List MsgId)
      (built : SpoolTree tree) (has : tree.inorder = front ++ id :: back)
      (same : tree'.inorder = front ++ back) : SpoolTree tree'

theorem insertsLeft_iff {id temp : MsgId} : insertsLeft id temp ↔ RbtreeLt id temp := by
  unfold insertsLeft RbtreeLt
  split
  · rename_i apart
    simp [apart]
  · rename_i same
    simp [not_not.mp same]

section Order

variable {id1 id2 id3 : MsgId} (one1 : id1.tagcount = 1) (one2 : id2.tagcount = 1)
include one1 one2

theorem rbtreeLt_trans (one3 : id3.tagcount = 1) (first : RbtreeLt id1 id2)
    (second : RbtreeLt id2 id3) : RbtreeLt id1 id3 := by
  rw [rbtreeLt_iff_of_one one1 one2] at first
  rw [rbtreeLt_iff_of_one one2 one3] at second
  rw [rbtreeLt_iff_of_one one1 one3]
  rcases first with first | ⟨same, first⟩
  · rcases second with second | ⟨same, _⟩
    · exact .inl (first.trans second)
    · exact .inl (same ▸ first)
  · rcases second with second | ⟨same', second⟩
    · exact .inl (same ▸ second)
    · exact .inr ⟨same.trans same', first.trans second⟩

theorem rbtreeLt_of_not (not : ¬ RbtreeLt id1 id2) (apart : spoolRbtreeCompare id1 id2 ≠ .eq) :
    RbtreeLt id2 id1 := by
  rw [rbtreeLt_iff_of_one one1 one2] at not
  rw [rbtreeLt_iff_of_one one2 one1]
  push Not at not
  rcases not.1.lt_or_eq with less | same
  · exact .inl less
  · refine .inr ⟨same, (not.2 same.symm).lt_of_ne fun equal => apart ?_⟩
    exact (compare_eq_of_one one1 one2).mpr equal.symm

end Order

namespace SpoolTree

variable {tree : Lib.Tree MsgId}

theorem ones (built : SpoolTree tree) : ∀ id ∈ tree.inorder, id.tagcount = 1 := by
  induction built with
  | empty => simp
  | insert id _ one _ same ih =>
    intro other on
    rw [same, rbtreeInsertGeneric, (Lib.Tree.inorder_insert_perm _ _ _).mem_iff] at on
    rcases List.mem_cons.mp on with rfl | on
    · exact one
    · exact ih other on
  | remove front id back _ has same ih =>
    intro other on
    refine ih other ?_
    rw [same] at on
    rw [has]
    exact (List.Sublist.append_left (List.sublist_cons_self id back) front).subset on

theorem sorted (built : SpoolTree tree) : tree.inorder.Pairwise RbtreeLt := by
  induction built with
  | empty => exact List.Pairwise.nil
  | insert id built one fresh same ih =>
    rename_i tree tree'
    -- transitivity is known of ids with one tag, so the order is that of such ids
    let Lt (a b : MsgId) : Prop := RbtreeLt a b ∧ a.tagcount = 1 ∧ b.tagcount = 1
    have trans : ∀ a b c, Lt a b → Lt b c → Lt a c := fun a b c first second =>
      ⟨rbtreeLt_trans first.2.1 first.2.2 second.2.2 first.1 second.1, first.2.1, second.2.2⟩
    have sortedOnes : tree.inorder.Pairwise Lt :=
      ih.imp_of_mem fun on on' less => ⟨less, built.ones _ on, built.ones _ on'⟩
    have inserted : (rbtreeInsertGeneric id tree).inorder.Pairwise Lt :=
      Lib.Tree.inorder_insert_pairwise trans
      (fun a on turn => ⟨insertsLeft_iff.mp turn, one, built.ones a on⟩)
      (fun a on turn => ⟨rbtreeLt_of_not one (built.ones a on) (mt insertsLeft_iff.mpr turn)
        (fresh a on), built.ones a on, one⟩) sortedOnes
    rw [same]
    exact inserted.imp fun both => both.1
  | remove front id back _ has same ih =>
    rw [same]
    rw [has] at ih
    exact ih.sublist (List.Sublist.append_left (List.sublist_cons_self id back) front)

end SpoolTree

/-! ## The walk -/

variable {P : Type}

/-- The walk with `collect_spool_range_callback` collects the spools of the range of a message,
    and no others. -/
def CollectsRange (msg : Msg P) (tree : Lib.Tree MsgId) : Prop :=
  ∃ collected, tree.conditionalWalk (collectSpoolRange msg) = some collected ∧
    collected.Perm (tree.inorder.filter (inRange msg))

/-- No spool of the range is left of a spool before the range, or right of one behind it. -/
def RangeInSight (msg : Msg P) : Lib.Tree MsgId → Prop
  | .leaf => True
  | .node left id right =>
    (id.stamp < msg.prevId.stamp → ∀ other ∈ left.inorder, ¬ inRange msg other) ∧
    (msg.prevId.stamp ≤ id.stamp → msg.id.stamp ≤ id.stamp →
      ∀ other ∈ right.inorder, ¬ inRange msg other) ∧
    RangeInSight msg left ∧ RangeInSight msg right

theorem rangeDirection_right {msg : Msg P} {id : MsgId} :
    rangeDirection msg id = .right ↔ id.stamp < msg.prevId.stamp := by
  unfold rangeDirection
  split
  · rename_i low
    split <;> simp [low]
  · rename_i low
    simpa using low

theorem rangeDirection_left {msg : Msg P} {id : MsgId} :
    rangeDirection msg id = .left ↔ msg.prevId.stamp ≤ id.stamp ∧ msg.id.stamp ≤ id.stamp := by
  unfold rangeDirection
  split
  · rename_i low
    split <;> simp_all
  · rename_i low
    simp [low]

theorem rangeInSight_iff {msg : Msg P} {tree : Lib.Tree MsgId} :
    RangeInSight msg tree ↔ tree.InSight (inRange msg) (rangeDirection msg) := by
  induction tree with
  | leaf => rfl
  | node left id right ihLeft ihRight =>
    simp [RangeInSight, Lib.Tree.InSight, rangeDirection_right, rangeDirection_left, ihLeft, ihRight]

/-- In a tree whose times are unsigned numbers of 32 bits all of the range is in sight. -/
theorem SpoolTree.prunes {tree : Lib.Tree MsgId} (built : SpoolTree tree) (msg : Msg P)
    (fits : ∀ id ∈ tree.inorder, 0 ≤ id.time ∧ id.time < 2 ^ 32) :
    tree.Prunes (inRange msg) (rangeDirection msg) := by
  refine built.sorted.imp_of_mem fun {before after} on on' less => ?_
  have lower : before.stamp < after.stamp :=
    stamp_lt_of_bucket (built.ones _ on) (built.ones _ on') (fits _ on) (fits _ on') less
  rw [rangeDirection_right, rangeDirection_left]
  constructor
  · intro early
    simp [inRange, lower.trans early]
  · rintro ⟨-, late⟩
    simp [inRange, (late.trans lower.le)]

/-- For which trees and messages the walk collects just the spools of the range; trees whose ids
    have times of 32 bits are among them. -/
theorem live_range_walk_complete (msg : Msg P) (tree : Lib.Tree MsgId) (built : SpoolTree tree)
    (one : msg.id.tagcount = 1) (prevOne : msg.prevId.tagcount = 1) :
    (CollectsRange msg tree ↔ RangeInSight msg tree) ∧
    ((∀ id ∈ tree.inorder, 0 ≤ id.time ∧ id.time < 2 ^ 32) → CollectsRange msg tree) := by
  have visits : ∀ id ∈ tree.inorder,
      collectSpoolRange msg id = some (inRange msg id, rangeDirection msg id) ∧
        rangeDirection msg id ≠ .stop := by
    intro id on
    refine ⟨collectSpoolRange_of_one (built.ones id on) one prevOne, ?_⟩
    unfold rangeDirection
    split
    · split <;> simp
    · simp
  refine ⟨?_, fun fits => Lib.Tree.conditionalWalk_perm visits (built.prunes msg fits)⟩
  rw [rangeInSight_iff]
  exact Lib.Tree.conditionalWalk_perm_iff visits

def secondMessage : Msg Unit := ⟨.ofStamp ⟨100, 1⟩, .ofStamp ⟨100, 0⟩, ()⟩

/-- A spool for the message after the one before `secondMessage`, below another one. -/
def treeBelow (top : Stamp) : Lib.Tree MsgId :=
  .node (.node .leaf (.ofStamp ⟨100, 0⟩) .leaf) (.ofStamp top) .leaf

theorem treeBelow_built {top : Stamp} (apart : top ≠ ⟨100, 0⟩)
    (before : RbtreeLt (.ofStamp ⟨100, 0⟩) (.ofStamp top)) : SpoolTree (treeBelow top) := by
  have only : SpoolTree (.node .leaf (.ofStamp top) .leaf) :=
    .insert (.ofStamp top) .empty rfl (by simp) rfl
  refine .insert (.ofStamp ⟨100, 0⟩) only rfl ?_ ?_
  · intro other on
    obtain rfl : other = .ofStamp top := by simpa using on
    rw [ne_eq, compare_eq_of_one rfl rfl]
    exact fun same => apart same.symm
  · have turn : insertsLeft (.ofStamp ⟨100, 0⟩) (.ofStamp top) = true := insertsLeft_iff.mpr before
    simp [treeBelow, rbtreeInsertGeneric, Lib.Tree.insert, turn]

theorem live_range_walk_complete_below :
    SpoolTree (treeBelow ⟨100, 1⟩) ∧ CollectsRange secondMessage (treeBelow ⟨100, 1⟩) := by
  have built : SpoolTree (treeBelow ⟨100, 1⟩) := treeBelow_built (by decide) (by decide)
  refine ⟨built, (live_range_walk_complete secondMessage _ built rfl rfl).2 ?_⟩
  simp [treeBelow, MsgId.ofStamp]

/-- A spool that waits for the third message of the channel to be looked up has the time -2.  As a
    node of the tree it comes last, but the walk turns right at it. -/
theorem live_range_walk_misses :
    SpoolTree (treeBelow ⟨nthMsgidTime, 3⟩) ∧ inRange secondMessage (.ofStamp ⟨100, 0⟩) = true ∧
      (treeBelow ⟨nthMsgidTime, 3⟩).conditionalWalk (collectSpoolRange secondMessage) = some [] ∧
      ¬ CollectsRange secondMessage (treeBelow ⟨nthMsgidTime, 3⟩) := by
  have built : SpoolTree (treeBelow ⟨nthMsgidTime, 3⟩) :=
    treeBelow_built (by decide) (by decide)
  have wanted : inRange secondMessage (.ofStamp ⟨100, 0⟩) = true := by decide
  have walk : (treeBelow ⟨nthMsgidTime, 3⟩).conditionalWalk (collectSpoolRange secondMessage) =
      some [] := rfl
  refine ⟨built, wanted, walk, ?_⟩
  rintro ⟨collected, walk', perm⟩
  obtain rfl := Option.some.inj (walk.symm.trans walk')
  have missed : MsgId.ofStamp ⟨100, 0⟩ ∈
      (treeBelow ⟨nthMsgidTime, 3⟩).inorder.filter (inRange secondMessage) :=
    List.mem_filter.mpr ⟨List.mem_cons_self, wanted⟩
  exact List.not_mem_nil (perm.mem_iff.mpr missed)

end Nchan.Spool
