import Nchan.Lib.Run
import Nchan.Memstore.Channel

/-! # Runs of a channel on its owner worker

A run publishes messages, collects garbage and force-deletes the channel, in any
order.  Next to the channel head runs a `History` of what was given out, which the
program does not keep.
-/

namespace Nchan.Memstore

/-- A step of the owner worker.  `now` is `ngx_time()`, `address` what the allocator
    answers, and `msg` the message as it arrives. -/
inductive Op where
  | publish (now : Int) (address : Nat) (cf : LocConf) (msg : Msg)
  | gc (now : Int)
  | forceDelete

structure History where
  clock : Int
  thisSecond : Nat
  published : List Stamp
  buffered : List Msg

namespace History

def start : History := ⟨0, 0, [], []⟩

/-- How many messages were published in second `now`, if that is not in the past. -/
def publishedIn (h : History) (now : Int) : Nat := if now = h.clock then h.thisSecond else 0

def tick (now : Int) (h : History) : History :=
  { h with clock := now, thisSecond := h.publishedIn now }

def note (now : Int) (cf : LocConf) (result : PublishResult) (h : History) : History :=
  match result with
  | .internalServerError => { h.tick now with thisSecond := h.publishedIn now + 1 }
  | .published msg =>
    { h.tick now with
      thisSecond := h.publishedIn now + 1
      published := h.published ++ [msg.id]
      buffered := if cf.maxMessages = 0 then h.buffered else h.buffered ++ [msg] }

end History

def Op.apply : Op → Chanhead × History → Option (Chanhead × History)
  | .publish now address cf msg, (ch, h) =>
    (nchanStoreChanheadPublishMessageGeneric now address cf msg ch).map fun (result, ch') =>
      (ch', h.note now cf result)
  | .gc now, (ch, h) => (memstoreChanheadMessagesGc now ch).map fun ch' => (ch', h.tick now)
  | .forceDelete, (ch, h) => (nchanMemstoreForceDeleteChanhead ch).map fun ch' => (ch', h)

variable {now : Int} {ch : Chanhead} {h : History} {c : Channel}

theorem apply_publish {address : Nat} {cf : LocConf} {msg : Msg} {c' : Channel}
    {result : PublishResult} (impl : ch.Implements c) (fresh : ch.heap address = none)
    (publishes : c.publish now cf msg = some (result, c')) :
    ∃ ch', (Op.publish now address cf msg).apply (ch, h) = some (ch', h.note now cf result) ∧
      ch'.Implements c' := by
  have implemented := publish_implements now cf msg impl fresh
  rw [publishes] at implemented
  obtain ⟨ch', published, impl'⟩ := implemented
  exact ⟨ch', by simp [Op.apply, published], impl'⟩

theorem apply_gc (impl : ch.Implements c) :
    ∃ ch', (Op.gc now).apply (ch, h) = some (ch', h.tick now) ∧ ch'.Implements (c.gc now) := by
  obtain ⟨ch', collected, impl', -⟩ := gc_implements now impl
  exact ⟨ch', by simp [Op.apply, collected], impl'⟩

theorem apply_forceDelete (impl : ch.Implements c) :
    ∃ ch', Op.forceDelete.apply (ch, h) = some (ch', h) ∧ ch'.Implements c.forceDelete := by
  obtain ⟨ch', deleted, impl'⟩ := forceDelete_implements impl
  exact ⟨ch', by simp [Op.apply, deleted], impl'⟩

/-! ## What a publish gives out -/

def publishTime (now : Int) (msg : Msg) : Int := if msg.id.time = 0 then now else msg.id.time

@[simp] theorem fillMessageTimedata_time (now timeout : Int) (msg : Msg) :
    (fillMessageTimedata now timeout msg).id.time = publishTime now msg := rfl

@[simp] theorem fillMessageTimedata_tag (now timeout : Int) (msg : Msg) :
    (fillMessageTimedata now timeout msg).id.tag = msg.id.tag := rfl

theorem publishTime_filled (now timeout : Int) (msg : Msg) :
    publishTime now (fillMessageTimedata now timeout msg) = publishTime now msg := by
  simp only [publishTime, fillMessageTimedata_time]
  split <;> simp_all

theorem publishTime_ne_zero (running : now ≠ 0) (msg : Msg) : publishTime now msg ≠ 0 := by
  unfold publishTime
  split
  · exact running
  · assumption

/-- The id of a pushed message: its tag continues from the last message of the buffer
    if that is of the same second. -/
theorem stampAfter_id (now : Int) (cf : LocConf) (last : Option Msg) (msg : Msg) :
    (stampAfter now cf last msg).id.time = publishTime now msg ∧
    (∀ l, last = some l → l.id.time = publishTime now msg →
      (stampAfter now cf last msg).id.tag = Stamp.nextTag l.id.tag) ∧
    ((∀ l, last = some l → l.id.time ≠ publishTime now msg) →
      (stampAfter now cf last msg).id.tag
        = if !cf.redisEnabled || cf.redisStorageMode = .backup then 0 else msg.id.tag) := by
  cases last with
  | none => exact ⟨rfl, by simp, fun _ => rfl⟩
  | some l =>
    refine ⟨rfl, ?_, ?_⟩
    · intro l' is same
      cases is
      exact if_pos same
    · intro different
      exact if_neg (different l rfl)

theorem stampAfter_prevId (now : Int) (cf : LocConf) (last : Option Msg) (msg : Msg) :
    (stampAfter now cf last msg).prevId = (last.map (·.id)).getD ⟨0, 0⟩ := by
  cases last <;> rfl

@[simp] theorem stampAfter_expires (now : Int) (cf : LocConf) (last : Option Msg) (msg : Msg) :
    (stampAfter now cf last msg).expires = msg.expires := by
  cases last <;> rfl

theorem stampAfter_id_ne_prevId (running : now ≠ 0) (cf : LocConf) (last : Option Msg) (msg : Msg) :
    (stampAfter now cf last msg).id ≠ (stampAfter now cf last msg).prevId := by
  obtain ⟨time, sameSecond, -⟩ := stampAfter_id now cf last msg
  intro same
  cases last with
  | none => exact publishTime_ne_zero running msg (time.symm.trans (congrArg Stamp.time same))
  | some l =>
    have equalTimes := time.symm.trans (congrArg Stamp.time same)
    have tag := sameSecond l rfl equalTimes.symm
    rw [same] at tag
    exact Stamp.nextTag_ne _ tag.symm

theorem stampUnbuffered_id (now : Int) (latest : Stamp) (msg : Msg) :
    (stampUnbuffered now latest msg).id
      = ⟨msg.id.time, if latest.time = msg.id.time then Stamp.nextTag latest.tag else msg.id.tag⟩ := by
  by_cases sameSecond : latest.time = msg.id.time <;> simp [stampUnbuffered, sameSecond]

namespace Channel

variable {c : Channel} {now : Int} {cf : LocConf} {msg : Msg}

variable (backup : !cf.redisEnabled || cf.redisStorageMode = .backup)

include backup

/-- An unbuffered publish empties the buffer and continues from the id given last. -/
theorem publish_unbuffered
    (unbuffered : cf.maxMessages = 0) (running : now ≠ 0) :
    ∃ m, m.id = ⟨publishTime now msg,
        if c.latestMsgid.time = publishTime now msg then Stamp.nextTag c.latestMsgid.tag
        else msg.id.tag⟩ ∧
      c.publish now cf msg = some (.published m,
        { c with messages := [], maxMessages := 0, latestMsgid := m.id }) := by
  have emptied : gcMessages now 0 c.messages = [] := by
    have short := length_gcMessages (Int.le_refl 0) now c.messages
    exact List.length_eq_zero_iff.mp (by omega)
  have id := stampUnbuffered_id now c.latestMsgid
    (fillMessageTimedata now (nchanLocConfMessageTimeout cf) msg)
  refine ⟨_, id, ?_⟩
  have passes : (stampUnbuffered now c.latestMsgid
      (fillMessageTimedata now (nchanLocConfMessageTimeout cf) msg)).id ≠ ⟨0, 0⟩ := by
    rw [id]
    exact fun zero => publishTime_ne_zero running msg (congrArg Stamp.time zero)
  simp only [publish, backup, if_true, publishFilled, gc, unbuffered, announce, emptied]
  exact if_neg passes

/-- A buffered publish links the message behind what garbage collection leaves, and
    fails only if the next garbage collection removes even that message. -/
theorem publish_buffered
    (buffered : cf.maxMessages ≠ 0) (running : now ≠ 0) {before after : List Msg} {m : Msg}
    (collected : before = gcMessages now cf.maxMessages c.messages)
    (stamps : m = stampAfter now c.cf before.getLast?
      (fillMessageTimedata now (nchanLocConfMessageTimeout cf) msg))
    (recollected : after = gcMessages now cf.maxMessages (before ++ [m])) :
    (after = [] ∧ c.publish now cf msg = some (.internalServerError,
        { c with messages := after, maxMessages := cf.maxMessages })) ∨
    (after.getLast? = some m ∧ c.publish now cf msg = some (.published m,
        { c with messages := after, maxMessages := cf.maxMessages, latestMsgid := m.id })) := by
  have pushed : (Channel.gc now { c with maxMessages := cf.maxMessages }).push now
      (fillMessageTimedata now (nchanLocConfMessageTimeout cf) msg)
      = { c with messages := after, maxMessages := cf.maxMessages } := by
    simp [push, gc, stamped, recollected, stamps, collected]
  have publishes := show c.publish now cf msg = _ by
    simp only [publish, backup, if_true, publishFilled, pushed]
    exact if_neg buffered
  rcases after.eq_nil_or_concat' with empty | ⟨front, last, concat⟩
  · left
    refine ⟨empty, ?_⟩
    rw [publishes]
    simp [empty]
  · right
    have isLast : last = m := by
      have suffix := recollected ▸ gcMessages_suffix now cf.maxMessages (before ++ [m])
      rw [concat] at suffix
      obtain ⟨rest, split⟩ := suffix
      rw [← List.append_assoc] at split
      exact (List.append_inj' split rfl).2 |> List.singleton_inj.mp
    subst isLast
    have passes := stamps ▸ stampAfter_id_ne_prevId running c.cf before.getLast?
      (fillMessageTimedata now (nchanLocConfMessageTimeout cf) msg)
    refine ⟨by simp [concat], ?_⟩
    rw [publishes]
    simp [concat, announce, passes]

end Channel

end Nchan.Memstore
