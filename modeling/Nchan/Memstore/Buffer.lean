import Mathlib.Data.Option.Basic
import Nchan.Lib.Chain
import Nchan.MsgId

/-! # The message buffer of a channel

The owner worker keeps a channel's messages in a doubly linked list.  Publishing
links a message behind the last one, and messages are removed from the front when
there are too many of them or when they expire.  The functions below are those of
`memstore.c`, with `ngx_time()` and the address that the allocator answers as
arguments.

`none` stands for an aborted worker: a failed `assert`, or a pointer that does not
lead to an allocated message.  A deleted message is handed to a reaper that may
free it at once, so its address is no longer valid after `chanhead_delete_message`.
-/

namespace Nchan.Memstore

open Function

/-- `nchan_redis_storage_mode_t`. -/
inductive RedisStorageMode where
  | backup | distributed | distributedNostore
  deriving DecidableEq

/-- The settings of a location that publishing reads. -/
structure LocConf where
  redisEnabled : Bool
  redisStorageMode : RedisStorageMode
  messageTimeout : Int
  maxMessages : Int

/-- `nchan_loc_conf_message_timeout`. -/
def nchanLocConfMessageTimeout (cf : LocConf) : Int :=
  if cf.messageTimeout ≠ 0 then cf.messageTimeout else 525600 * 60

/-- The part of `nchan_msg_t` that the buffer works with.  A time of 0 is not set. -/
structure Msg where
  id : Stamp
  prevId : Stamp
  expires : Int
  deriving DecidableEq

/-- `store_message_t`. -/
structure StoreMessage where
  msg : Msg
  prev : Option Nat
  next : Option Nat

/-- The list of a channel: its ends, `shared->stored_message_count` and the memory
    that its messages live in. -/
structure MessageList where
  msgFirst : Option Nat
  msgLast : Option Nat
  storedMessageCount : Int
  heap : Nat → Option StoreMessage

/-- The part of `memstore_channel_head_t` that the buffer works with. -/
structure Chanhead extends MessageList where
  totalMessageCount : Int
  latestMsgid : Stamp
  maxMessages : Int
  cf : LocConf

/-- A channel head as `chanhead_memstore_create` makes it. -/
def Chanhead.create (cf : LocConf) : Chanhead where
  msgFirst := none
  msgLast := none
  storedMessageCount := 0
  heap := fun _ => none
  totalMessageCount := 0
  latestMsgid := ⟨0, 0⟩
  maxMessages := -1
  cf := cf

/-- The messages met from `cur` along `next`, at most `fuel` of them. -/
def messagesFrom (heap : Nat → Option StoreMessage) : Nat → Option Nat → List Msg
  | 0, _ => []
  | _, none => []
  | fuel + 1, some cur =>
    match heap cur with
    | none => []
    | some node => node.msg :: messagesFrom heap fuel node.next

def MessageList.messages (ch : MessageList) : List Msg :=
  messagesFrom ch.heap ch.storedMessageCount.toNat ch.msgFirst

/-! ## Deleting -/

/-- `chanhead_delete_message`. -/
def chanheadDeleteMessage (address : Nat) (ch : MessageList) : Option MessageList := do
  let msg ← ch.heap address
  let first := if ch.msgFirst = some address then msg.next else ch.msgFirst
  let last := if ch.msgLast = some address then msg.prev else ch.msgLast
  let heap ←
    match msg.next with
    | none => some ch.heap
    | some next =>
      (ch.heap next).map fun node =>
        update ch.heap next (some { node with prev := msg.prev })
  -- if(msg->prev != NULL) assert(0);
  guard (msg.prev = none)
  return {
    msgFirst := first
    msgLast := last
    storedMessageCount := ch.storedMessageCount - 1
    heap := update heap address none }

/-- `while(cur != NULL && ..) { next = cur->next; chanhead_delete_message(ch, cur); cur = next; }`
    for a condition on the stored count and on the message.  The answer is `cur`
    after the loop. -/
def deleteWhile (condition : Int → Msg → Bool) :
    Nat → Option Nat → MessageList → Option (Option Nat × MessageList)
  | _, none, ch => some (none, ch)
  | 0, some cur, ch => do
    let msg ← ch.heap cur
    guard (!condition ch.storedMessageCount msg.msg)
    return (some cur, ch)
  | fuel + 1, some cur, ch => do
    let msg ← ch.heap cur
    if condition ch.storedMessageCount msg.msg then
      deleteWhile condition fuel msg.next (← chanheadDeleteMessage cur ch)
    else
      return (some cur, ch)

/-- `max_messages >= 0 && ch->shared->stored_message_count > (ngx_uint_t )max_messages`. -/
def tooMany (maxMessages : Int) (storedMessageCount : Int) (_ : Msg) : Bool :=
  0 ≤ maxMessages && maxMessages < storedMessageCount

/-- `now > cur->msg->expires`. -/
def expired (now : Int) (_ : Int) (msg : Msg) : Bool := msg.expires < now

/-- `chanhead_messages_gc_custom` on the owner: first the excess messages go, and
    from where that stops the expired ones. -/
def chanheadMessagesGcCustom (now maxMessages : Int) (ch : MessageList) : Option MessageList := do
  let (cur, ch) ← deleteWhile (tooMany maxMessages) ch.storedMessageCount.toNat ch.msgFirst ch
  let (_, ch) ← deleteWhile (expired now) ch.storedMessageCount.toNat cur ch
  return ch

/-- `memstore_chanhead_messages_gc`. -/
def memstoreChanheadMessagesGc (now : Int) (ch : Chanhead) : Option Chanhead := do
  return { ch with toMessageList := ← chanheadMessagesGcCustom now ch.maxMessages ch.toMessageList }

/-- The messages of `nchan_memstore_force_delete_chanhead`:
    `while((msg = ch->msg_first) != NULL) chanhead_delete_message(ch, msg);`. -/
def deleteAllMessages : Nat → MessageList → Option MessageList
  | 0, ch => do
    guard (ch.msgFirst = none)
    return ch
  | fuel + 1, ch =>
    match ch.msgFirst with
    | none => some ch
    | some msg => (chanheadDeleteMessage msg ch).bind (deleteAllMessages fuel)

/-- `nchan_memstore_force_delete_chanhead`, as far as the buffer is concerned. -/
def nchanMemstoreForceDeleteChanhead (ch : Chanhead) : Option Chanhead := do
  return { ch with
    toMessageList := ← deleteAllMessages ch.storedMessageCount.toNat ch.toMessageList }

/-! ## Publishing -/

/-- `fill_message_timedata`. -/
def fillMessageTimedata (now timeout : Int) (msg : Msg) : Msg :=
  let time := if msg.id.time = 0 then now else msg.id.time
  { msg with
    id := { msg.id with time := time }
    expires := if msg.expires = 0 then time + timeout else msg.expires }

/-- The id and the `prev_id` that `chanhead_push_message` gives a message, from the
    message that is last in the list. -/
def stampAfter (now : Int) (cf : LocConf) (last : Option Msg) (msg : Msg) : Msg :=
  let time := if msg.id.time = 0 then now else msg.id.time
  let untagged : Int :=
    if !cf.redisEnabled || cf.redisStorageMode = .backup then 0 else msg.id.tag
  match last with
  | none => { msg with prevId := ⟨0, 0⟩, id := ⟨time, untagged⟩ }
  | some last =>
    { msg with
      prevId := last.id
      id := ⟨time, if last.id.time = time then Stamp.nextTag last.id.tag else untagged⟩ }

/-- The list work of `chanhead_push_message`: link `msg` behind the last message. -/
def linkLast (address : Nat) (msg : Msg) (ch : MessageList) : Option MessageList := do
  let heap := update ch.heap address (some ⟨msg, ch.msgLast, none⟩)
  let heap ←
    match ch.msgLast with
    | none => some heap
    | some last =>
      (ch.heap last).map fun node =>
        update heap last (some { node with next := some address })
  return {
    msgFirst := if ch.msgFirst.isNone then some address else ch.msgFirst
    msgLast := some address
    storedMessageCount := ch.storedMessageCount + 1
    heap := heap }

/-- The message that `msg_last` points at; `none` also if the pointer is bad. -/
def MessageList.lastMessage (ch : MessageList) : Option Msg :=
  (ch.msgLast.bind ch.heap).map (·.msg)

/-- `chanhead_push_message`; the answer is whether it returns `NGX_OK`. -/
def chanheadPushMessage (now : Int) (address : Nat) (msg : Msg) (ch : Chanhead) :
    Option (Bool × Chanhead) := do
  let list ← linkLast address (stampAfter now ch.cf ch.lastMessage msg) ch.toMessageList
  let ch ← memstoreChanheadMessagesGc now
    { ch with toMessageList := list, totalMessageCount := ch.totalMessageCount + 1 }
  return (decide (ch.msgLast = some address), ch)

/-- What a publisher gets back: the message as published, or
    `NGX_HTTP_INTERNAL_SERVER_ERROR`. -/
inductive PublishResult where
  | published (msg : Msg)
  | internalServerError
  deriving DecidableEq

/-- `NCHAN_NOBUFFER_MSG_EXPIRE_SEC`. -/
abbrev nobufferMsgExpireSec : Int := 10

/-- The message of an unbuffered publish, which no list keeps. -/
def stampUnbuffered (now : Int) (latestMsgid : Stamp) (msg : Msg) : Msg where
  expires := now + nobufferMsgExpireSec
  prevId := ⟨0, 0⟩
  id :=
    if latestMsgid.time = msg.id.time then ⟨msg.id.time, Stamp.nextTag latestMsgid.tag⟩
    else msg.id

/-- The end of `nchan_store_chanhead_publish_message_generic`, from
    `nchan_copy_msg_id(&chead->latest_msgid, &publish_msg->id, NULL)` on. -/
def publishStamped (msg : Msg) (ch : Chanhead) : Option (PublishResult × Chanhead) :=
  -- assert(publish_msg->id.time != publish_msg->prev_id.time || ..)
  if msg.id = msg.prevId then none
  else some (.published msg, { ch with latestMsgid := msg.id })

/-- `nchan_store_chanhead_publish_message_generic` after its garbage collection:
    an unbuffered message, or one that is pushed. -/
def nchanStoreChanheadPublishFilled (now : Int) (address : Nat) (msg : Msg) (ch : Chanhead) :
    Option (PublishResult × Chanhead) := do
  if ch.maxMessages = 0 then
    publishStamped (stampUnbuffered now ch.latestMsgid msg) ch
  else
    let (ok, ch) ← chanheadPushMessage now address msg ch
    if ok then
      let link ← ch.heap address
      publishStamped link.msg ch
    else
      return (.internalServerError, ch)

/-- `nchan_store_chanhead_publish_message_generic` on the owner worker. -/
def nchanStoreChanheadPublishMessageGeneric (now : Int) (address : Nat) (cf : LocConf) (msg : Msg)
    (ch : Chanhead) : Option (PublishResult × Chanhead) := do
  -- assert(!cf->redis.enabled || cf->redis.storage_mode == REDIS_MODE_BACKUP)
  if !cf.redisEnabled || cf.redisStorageMode = .backup then
    let msg := fillMessageTimedata now (nchanLocConfMessageTimeout cf) msg
    let ch ← memstoreChanheadMessagesGc now { ch with maxMessages := cf.maxMessages }
    nchanStoreChanheadPublishFilled now address msg ch
  else none

end Nchan.Memstore
