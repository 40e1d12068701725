import Nchan.Memstore.FindNext
import Nchan.Memstore.Publishing

/-! # Expiry

Expired messages are only deleted from the front of the buffer, so a message can be
served after its time while an older one that expires later is still buffered in front
of it, and in no other case.
-/

namespace Nchan.Memstore

open Nchan.Lib Nchan.Lib.Run Option

def Op.Allocated (op : Op) (s : Chanhead × History) : Prop :=
  match op with
  | .publish _ address _ _ => s.1.heap address = none
  | .gc _ | .forceDelete => True

theorem step_implements (op : Op) (s s' : Chanhead × History) (before : ∃ c, s.1.Implements c)
    (allocated : op.Allocated s) (applied : op.apply s = some s') : ∃ c, s'.1.Implements c := by
  obtain ⟨c, impl⟩ := before
  cases op with
  | publish now address cf msg =>
    obtain ⟨⟨result, ch'⟩, published, rfl⟩ := map_eq_some_iff.mp applied
    have implemented := publish_implements now cf msg impl allocated
    cases publishes : c.publish now cf msg with
    | none =>
      rw [publishes] at implemented
      cases implemented.symm.trans published
    | some outcome =>
      rw [publishes] at implemented
      obtain ⟨ch'', published', impl'⟩ := implemented
      obtain rfl : ch'' = ch' := by
        have same := published'.symm.trans published
        simp only [some.injEq, Prod.mk.injEq] at same
        exact same.2
      exact ⟨_, impl'⟩
  | gc now =>
    obtain ⟨ch', applied', impl'⟩ := apply_gc impl
    cases applied'.symm.trans applied
    exact ⟨_, impl'⟩
  | forceDelete =>
    obtain ⟨ch', applied', impl'⟩ := apply_forceDelete impl
    cases applied'.symm.trans applied
    exact ⟨_, impl'⟩

/-- A message that `chanhead_find_next_message` answers has not expired, or an older
    message that has not is buffered in front of it. -/
theorem found_message_expiry (cf : LocConf) (ops : List Op) (ch : Chanhead) (h : History)
    (allocated : Along Op.apply Op.Allocated ops (Chanhead.create cf, History.start))
    (reached : run Op.apply ops (Chanhead.create cf, History.start) = some (ch, h))
    (now : Int) (msgid : Stamp) (status : MsgStatus) (address : Nat) (ch' : Chanhead)
    (answered : chanheadFindNextMessage now msgid ch = some ((status, some address), ch')) :
    ∃ older m newer, messageAt ch'.heap address = some m ∧
      ch'.Represents (older ++ m :: newer) ∧
      (now ≤ m.expires ∨ ∃ before ∈ older, now ≤ before.expires) := by
  obtain ⟨c, impl⟩ := run_invariant step_implements ⟨_, create_implements cf⟩ allocated reached
  have implemented := findNext_implements now msgid impl
  cases answer : findNext c.maxMessages msgid (c.gc now).messages with
  | none =>
    rw [answer] at implemented
    cases implemented.symm.trans answered
  | some found =>
    rw [answer] at implemented
    obtain ⟨status', msg⟩ := found
    obtain ⟨address', ch'', answered', impl', held⟩ := implemented
    cases answered'.symm.trans answered
    cases msg with
    | none => cases held
    | some m =>
      have on := findNext_mem answer
      obtain ⟨older, newer, split⟩ := List.append_of_mem on
      refine ⟨older, m, newer, some.inj held, split ▸ impl'.represents, ?_⟩
      cases older with
      | nil => exact .inl (gcMessages_head split)
      | cons first older =>
        -- garbage collection stops at the first message that is live
        exact .inr ⟨first, List.mem_cons_self, gcMessages_head split⟩

/-- The first of three messages is evicted, and the last one is served after its time, because the
    second one lives on. -/
theorem found_message_expiry_third :
    let long : LocConf := ⟨false, .backup, 60, 2⟩
    let short : LocConf := ⟨false, .backup, 5, 2⟩
    let msg : Msg := ⟨⟨0, 0⟩, ⟨0, 0⟩, 0⟩
    ∃ ch h address ch',
      run Op.apply [.publish 1 0 short msg, .publish 1 1 long msg, .publish 2 2 short msg]
        (Chanhead.create long, History.start) = some (ch, h) ∧
      chanheadFindNextMessage 9 ⟨1, 1⟩ ch = some ((.found, some address), ch') ∧
      ∃ older m newer, messageAt ch'.heap address = some m ∧
        ch'.Represents (older ++ m :: newer) ∧
        ((9 : Int) ≤ m.expires ∨ ∃ before ∈ older, (9 : Int) ≤ before.expires) := by
  intro long short msg
  refine ⟨_, _, _, _, rfl, rfl, ?_⟩
  exact found_message_expiry long
    [.publish 1 0 short msg, .publish 1 1 long msg, .publish 2 2 short msg] _ _
    (.cons rfl rfl (.cons rfl rfl (.cons rfl rfl trivial))) rfl 9 ⟨1, 1⟩ .found 2 _ rfl

/-- The first message lives for 100 seconds and the second for one: asked for the
    message after the first, the channel answers the second five seconds later. -/
theorem expired_message_served :
    let long : LocConf := ⟨false, .backup, 100, 10⟩
    let short : LocConf := ⟨false, .backup, 1, 10⟩
    let msg : Msg := ⟨⟨0, 0⟩, ⟨0, 0⟩, 0⟩
    ∃ ch h address ch' m,
      run Op.apply [.publish 1 0 long msg, .publish 1 1 short msg]
        (Chanhead.create long, History.start) = some (ch, h) ∧
      chanheadFindNextMessage 6 ⟨1, 0⟩ ch = some ((.found, some address), ch') ∧
      messageAt ch'.heap address = some m ∧ m.expires < 6 :=
  ⟨_, _, _, _, _, rfl, rfl, rfl, by decide⟩

end Nchan.Memstore
