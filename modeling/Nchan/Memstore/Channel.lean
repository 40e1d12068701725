import Nchan.Memstore.BufferList

/-! # A channel as its owner means it

`Channel` is the abstract buffered channel: the messages in order, the id given last
and the current limit.  `Chanhead.Implements` says that a channel head in memory is
one, and each function of `memstore.c` is matched by the operation it implements.
-/

namespace Nchan.Memstore

structure Channel where
  messages : List Msg
  latestMsgid : Stamp
  maxMessages : Int
  cf : LocConf

namespace Channel

def create (cf : LocConf) : Channel := ⟨[], ⟨0, 0⟩, -1, cf⟩

def gc (now : Int) (c : Channel) : Channel :=
  { c with messages := gcMessages now c.maxMessages c.messages }

def forceDelete (c : Channel) : Channel := { c with messages := [] }

/-- The message that a buffered publish links, and the channel after it. -/
def stamped (now : Int) (msg : Msg) (c : Channel) : Msg :=
  stampAfter now c.cf c.messages.getLast? msg

def push (now : Int) (msg : Msg) (c : Channel) : Channel :=
  gc now { c with messages := c.messages ++ [c.stamped now msg] }

/-- Give out `msg`, which must not have the id it names as its predecessor. -/
def announce (msg : Msg) (c : Channel) : Option (PublishResult × Channel) :=
  if msg.id = msg.prevId then none
  else some (.published msg, { c with latestMsgid := msg.id })

/-- Publish a message whose time is filled in, after garbage collection. -/
def publishFilled (now : Int) (msg : Msg) (c : Channel) : Option (PublishResult × Channel) :=
  if c.maxMessages = 0 then c.announce (stampUnbuffered now c.latestMsgid msg)
  else
    match (c.push now msg).messages.getLast? with
    | none => some (.internalServerError, c.push now msg)
    | some last => (c.push now msg).announce last

def publish (now : Int) (cf : LocConf) (msg : Msg) (c : Channel) :
    Option (PublishResult × Channel) :=
  if !cf.redisEnabled || cf.redisStorageMode = .backup then
    publishFilled now (fillMessageTimedata now (nchanLocConfMessageTimeout cf) msg)
      (gc now { c with maxMessages := cf.maxMessages })
  else none

end Channel

/-- A channel head in memory whose list and bookkeeping are those of `c`. -/
structure Chanhead.Implements (ch : Chanhead) (c : Channel) : Prop where
  represents : ch.toMessageList.Represents c.messages
  latest : ch.latestMsgid = c.latestMsgid
  limit : ch.maxMessages = c.maxMessages
  conf : ch.cf = c.cf

variable {ch : Chanhead} {c : Channel}

theorem create_implements (cf : LocConf) :
    (Chanhead.create cf).Implements (Channel.create cf) :=
  ⟨⟨⟨[], Nchan.Lib.DList.empty _ _, rfl⟩, rfl⟩, rfl, rfl, rfl⟩

theorem gc_implements (now : Int) (impl : ch.Implements c) :
    ∃ ch', memstoreChanheadMessagesGc now ch = some ch' ∧ ch'.Implements (c.gc now) ∧
      ch.Trimmed ch'.toMessageList (c.gc now).messages := by
  obtain ⟨list, collected, trimmed⟩ := represents_gc now ch.maxMessages impl.represents
  rw [impl.limit] at trimmed
  refine ⟨{ ch with toMessageList := list }, by simp [memstoreChanheadMessagesGc, collected], ?_,
    trimmed⟩
  exact ⟨trimmed.represents, impl.latest, impl.limit, impl.conf⟩

theorem forceDelete_implements (impl : ch.Implements c) :
    ∃ ch', nchanMemstoreForceDeleteChanhead ch = some ch' ∧ ch'.Implements c.forceDelete := by
  obtain ⟨list, deleted, empty⟩ := represents_deleteAll ch.storedMessageCount.toNat impl.represents
    (by rw [impl.represents.count]; simp)
  refine ⟨{ ch with toMessageList := list },
    by simp [nchanMemstoreForceDeleteChanhead, deleted], ?_⟩
  exact ⟨empty, impl.latest, impl.limit, impl.conf⟩

theorem push_implements (now : Int) {address : Nat} (msg : Msg) (impl : ch.Implements c)
    (fresh : ch.heap address = none) :
    ∃ ch', chanheadPushMessage now address msg ch
        = some (decide ((c.push now msg).messages ≠ []), ch') ∧
      ch'.Implements (c.push now msg) ∧
      ((c.push now msg).messages ≠ [] → ch'.msgLast = some address) := by
  obtain ⟨list, linked, represents, last⟩ :=
    represents_linkLast (c.stamped now msg) impl.represents fresh
  obtain ⟨ch', collected, impl', trimmed⟩ := gc_implements now
    (show Chanhead.Implements
        { ch with toMessageList := list, totalMessageCount := ch.totalMessageCount + 1 }
        { c with messages := c.messages ++ [c.stamped now msg] } from
      ⟨represents, impl.latest, impl.limit, impl.conf⟩)
  have kept : (c.push now msg).messages ≠ [] → ch'.msgLast = some address := fun nonempty => by
    rw [trimmed.last nonempty]
    exact last
  refine ⟨ch', ?_, impl', kept⟩
  have ok : ch'.msgLast = some address ↔ (c.push now msg).messages ≠ [] := by
    refine ⟨fun isLast empty => ?_, kept⟩
    rw [impl'.represents.ends_none_iff.2.mpr empty] at isLast
    cases isLast
  have same : stampAfter now ch.cf ch.lastMessage msg = c.stamped now msg := by
    rw [impl.conf, impl.represents.lastMessage_eq]
    rfl
  simp [chanheadPushMessage, same, linked, collected, ok]

theorem announce_implements (msg : Msg) (impl : ch.Implements c) :
    match c.announce msg with
    | none => publishStamped msg ch = none
    | some (result, c') =>
      ∃ ch', publishStamped msg ch = some (result, ch') ∧ ch'.Implements c' := by
  by_cases clash : msg.id = msg.prevId
  · simp [Channel.announce, clash, publishStamped]
  · simp only [Channel.announce, clash, if_false]
    refine ⟨{ ch with latestMsgid := msg.id }, by simp [publishStamped, clash], ?_⟩
    exact ⟨impl.represents, rfl, impl.limit, impl.conf⟩

theorem publishFilled_implements (now : Int) {address : Nat} (msg : Msg) (impl : ch.Implements c)
    (fresh : ch.heap address = none) :
    match c.publishFilled now msg with
    | none => nchanStoreChanheadPublishFilled now address msg ch = none
    | some (result, c') =>
      ∃ ch', nchanStoreChanheadPublishFilled now address msg ch = some (result, ch') ∧
        ch'.Implements c' := by
  by_cases unbuffered : c.maxMessages = 0
  · have announced := announce_implements (stampUnbuffered now ch.latestMsgid msg) impl
    simpa [Channel.publishFilled, nchanStoreChanheadPublishFilled, impl.limit, unbuffered,
      ← impl.latest] using announced
  · obtain ⟨ch', pushed, impl', isLast⟩ := push_implements now msg impl fresh
    simp only [Channel.publishFilled, nchanStoreChanheadPublishFilled, impl.limit, unbuffered,
      if_false, pushed]
    cases last : (c.push now msg).messages.getLast? with
    | none =>
      rw [List.getLast?_eq_none_iff] at last
      exact ⟨ch', by simp [last], impl'⟩
    | some m =>
      have nonempty : (c.push now msg).messages ≠ [] := by
        intro empty
        simp [empty] at last
      have found := impl'.represents.lastMessage_eq
      rw [last, MessageList.lastMessage, isLast nonempty] at found
      obtain ⟨node, here, rfl⟩ := Option.map_eq_some_iff.mp found
      have announced := announce_implements node.msg impl'
      simp only [Option.bind_some] at here
      simpa [nonempty, here] using announced

/-- `nchan_store_chanhead_publish_message_generic` implements `Channel.publish`, and
    aborts exactly where it has no result. -/
theorem publish_implements (now : Int) {address : Nat} (cf : LocConf) (msg : Msg)
    (impl : ch.Implements c) (fresh : ch.heap address = none) :
    match c.publish now cf msg with
    | none => nchanStoreChanheadPublishMessageGeneric now address cf msg ch = none
    | some (result, c') =>
      ∃ ch', nchanStoreChanheadPublishMessageGeneric now address cf msg ch = some (result, ch') ∧
        ch'.Implements c' := by
  by_cases allowed : !cf.redisEnabled || cf.redisStorageMode = .backup
  · have limited : Chanhead.Implements { ch with maxMessages := cf.maxMessages }
        { c with maxMessages := cf.maxMessages } :=
      ⟨impl.represents, impl.latest, rfl, impl.conf⟩
    obtain ⟨ch', collected, impl', trimmed⟩ := gc_implements now limited
    have filled := publishFilled_implements now
      (fillMessageTimedata now (nchanLocConfMessageTimeout cf) msg) impl' (trimmed.free address fresh)
    simpa [Channel.publish, nchanStoreChanheadPublishMessageGeneric, allowed, collected] using filled
  · simp [Channel.publish, nchanStoreChanheadPublishMessageGeneric, allowed]

end Nchan.Memstore
