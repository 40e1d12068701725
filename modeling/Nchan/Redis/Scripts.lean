import Mathlib.Algebra.Ring.Int.Defs
import Mathlib.Data.List.DropRight
import Nchan.Lib.Volatile
import Nchan.MsgId

/-! # The scripts of the Redis store

With Redis, a channel is a hash, a list of the ids of its messages with the newest at the head,
and a hash for every message.  All of them may expire, each at a time of its own.  The functions
below are the scripts in `redis-lua-scripts`, run on the keys of one channel.  A script sees the
keys as of one moment, `now`.

Ids are written `time:tag` in Redis; here they are stamps.  What is sent to the channel's
`:pubsub` goes into the answer of a script.
-/

namespace Nchan.Redis

open Nchan.Lib Function

/-- The hash of a channel, with the fields that the scripts read. -/
structure ChannelHash where
  currentMessage : Option Stamp
  prevMessage : Option Stamp
  time : Option Int
  maxStoredMessages : Option Int
  subscribers : Option Int
  lastSubscriberId : Option Int
  lastSeenSubscriber : Option Int
  ttl : Option Int
  fakeSubscribers : Option Int
  lastSeenFakeSubscriber : Option Int

def ChannelHash.empty : ChannelHash := ⟨none, none, none, none, none, none, none, none, none, none⟩

structure MessageHash where
  data : String
  contentType : String
  eventsourceEvent : String
  compression : Int
  ttl : Int
  time : Int
  tag : Int
  prevTime : Option Int
  prevTag : Option Int
  unbuffered : Bool
  id : Stamp
  prev : Option Stamp
  next : Option Stamp

structure Db where
  channel : Slot ChannelHash
  messages : Slot (List Stamp)
  message : Stamp → Slot MessageHash
  subscribers : Slot (List String)
  subscriberCounts : Slot (List (String × Int))
  deleted : Slot Unit

namespace Db

def empty : Db := ⟨none, none, fun _ => none, none, none, none⟩

def ids (now : Int) (db : Db) : List Stamp := (db.messages.get now).getD []

def setIds (now : Int) (ids : List Stamp) (db : Db) : Db :=
  { db with messages := if ids = [] then none else db.messages.write now ids }

/-- `EXISTS` of a message. -/
def hasMessage (now : Int) (id : Stamp) (db : Db) : Bool := ((db.message id).get now).isSome

def setMessage (id : Stamp) (slot : Slot MessageHash) (db : Db) : Db :=
  { db with message := update db.message id slot }

/-- `DEL` of messages, one after the other. -/
def delMessages (ids : List Stamp) (db : Db) : Db := ids.foldl (fun db id => db.setMessage id none) db

/-- `oldestmsg`: ids at the tail whose message is gone are taken off the list. -/
def oldestmsg (now : Int) (db : Db) : Option Stamp × Db :=
  let ids := (db.ids now).rdropWhile fun old => !db.hasMessage now old
  (ids.getLast?, db.setIds now ids)

variable (ids : List Stamp)

include ids

variable (db : Db)

include db

@[simp] theorem ids_setIds (now : Int) :
    (db.setIds now ids).ids now = ids := by
  unfold setIds Db.ids
  split
  case isTrue empty =>
    rw [empty]
    rfl
  case isFalse => rw [Slot.get, Slot.look_write]; rfl

@[simp] theorem channel_setIds (now : Int) :
    (db.setIds now ids).channel = db.channel := rfl

@[simp] theorem message_setIds (now : Int) :
    (db.setIds now ids).message = db.message := rfl

omit ids in
@[simp] theorem message_setMessage (id : Stamp) (slot : Slot MessageHash) :
    (db.setMessage id slot).message = update db.message id slot := rfl

@[simp] theorem delMessages_channel :
    (db.delMessages ids).channel = db.channel := by
  induction ids generalizing db with
  | nil => rfl
  | cons id ids ih => exact ih (db.setMessage id none)

@[simp] theorem delMessages_messages :
    (db.delMessages ids).messages = db.messages := by
  induction ids generalizing db with
  | nil => rfl
  | cons id ids ih => exact ih (db.setMessage id none)

theorem delMessages_message (id : Stamp) :
    (db.delMessages ids).message id = if id ∈ ids then none else db.message id := by
  induction ids generalizing db with
  | nil => rfl
  | cons first ids ih =>
    refine (ih (db.setMessage first none)).trans ?_
    by_cases later : id ∈ ids
    · simp [later]
    · by_cases here : id = first
      · simp [here]
      · simp [here]

@[simp] theorem delMessages_ids (now : Int) :
    (db.delMessages ids).ids now = db.ids now := by
  simp [Db.ids]

/-- The counts of those that still listen, and their sum. -/
def countSubscribers (now : Int) (numsub : String → Int) (db : Db) : Int × Db :=
  let counts := (db.subscriberCounts.get now).getD []
  let left := counts.filter fun (k, v) => numsub k ≥ 1 ∧ v > 0
  ((left.map (·.2)).sum,
    { db with subscriberCounts := if left = [] then none else db.subscriberCounts.write now left })

end Db

/-! ## `publish.lua` -/

structure PublishArgs where
  data : String
  contentType : String
  eventsourceEvent : String
  compression : Int
  msgTtl : Int
  maxMsgBufSize : Int
  msgpackedPubsubCutoff : Nat
  useAccurateSubscriberCount : Bool

/-- `Message content-type cannot contain ":" character.`, the error of Lua when `format` refuses
    the key of the message, and `Message %s for channel %s id %s already exists. [..]`. -/
inductive PublishError where
  | contentType
  | format
  | alreadyExists (id : Stamp)
  deriving DecidableEq

/-- What is packed for subscribers: the message, or the key that it is at. -/
inductive Packed where
  | msg (ttl time tag prevTime prevTag : Int) (data contentType eventsourceEvent : String)
      (compression : Int)
  | msgkey (time tag : Int) (key : Stamp)

/-- The channel as the publisher is told about it; `maxMsgs` is sent along with the message when
    it has changed. -/
structure PublishReply where
  ttl : Int
  lastSeenFakeSubscriber : Int
  subscribers : Int
  lastMessageId : Stamp
  messages : Int
  newChannel : Bool
  maxMsgs : Option Int
  packed : Packed

namespace Publish

/-- `msg.ttl`; 0 stands for four years. -/
def ttl (args : PublishArgs) : Int := if args.msgTtl = 0 then 126144000 else args.msgTtl

/-- `channel.current_message`, if there is such a channel. -/
def current (now : Int) (db : Db) : Option Stamp := (db.channel.get now).bind (·.currentMessage)

def last (now : Int) (db : Db) : Option MessageHash :=
  (current now db).bind fun id => (db.message id).get now

def newId (time : Int) (last : Option MessageHash) : Stamp :=
  match last with
  | none => ⟨time, 0⟩
  | some last =>
    let time := if last.time > time then last.time else time
    ⟨time, if last.time = time then last.tag + 1 else 0⟩

def newMessage (now time : Int) (args : PublishArgs) (db : Db) : MessageHash where
  data := args.data
  contentType := args.contentType
  eventsourceEvent := args.eventsourceEvent
  compression := args.compression
  ttl := ttl args
  time := (newId time (last now db)).time
  tag := (newId time (last now db)).tag
  prevTime := if (current now db).isSome then (last now db).map (·.time) else some 0
  prevTag := if (current now db).isSome then (last now db).map (·.tag) else some 0
  unbuffered := args.maxMsgBufSize = 0
  id := newId time (last now db)
  prev := current now db
  next := none

/-- `HSET` of `next` at the message before. -/
def linkLast (now : Int) (id : Stamp) (db : Db) : Db :=
  match current now db with
  | none => db
  | some prev =>
    match (db.message prev).get now with
    | none => db
    | some last => db.setMessage prev ((db.message prev).write now { last with next := some id })

def channelFields (now : Int) (msg : MessageHash) (limit : Int) (db : Db) : ChannelHash :=
  let channel := (db.channel.get now).getD .empty
  { channel with
    currentMessage := some msg.id
    prevMessage := msg.prev.or channel.prevMessage
    time := some msg.time
    maxStoredMessages := some limit }

def updateChannel (now : Int) (msg : MessageHash) (limit : Int) (db : Db) : Db :=
  { db with channel := db.channel.write now (channelFields now msg limit db) }

/-- The id goes to the head of the list, and what is too much for the limit is deleted. -/
def storeId (now : Int) (id : Stamp) (limit : Int) (db : Db) : Db :=
  if limit < 0 then
    let db := (db.oldestmsg now).2
    db.setIds now (id :: db.ids now)
  else if limit > 0 then
    let storedMessages := (db.ids now).length
    let ids := id :: db.ids now
    let db := db.setIds now ids
    -- LRANGE from the limit to the length from before the push
    let dump := (ids.take (storedMessages + 1)).drop limit.toNat
    let db := (db.delMessages dump).setIds now (ids.take limit.toNat)
    (db.oldestmsg now).2
  else db

def setExpirations (now : Int) (id : Stamp) (ttl : Int) (db : Db) : Db :=
  let channelTtl := db.channel.ttl now
  let db := db.setMessage id ((db.message id).expire now ttl)
  if ttl + 1 > channelTtl then
    { db with
      channel := db.channel.expire now (ttl + 1)
      messages := db.messages.expire now (ttl + 1)
      subscribers := db.subscribers.expire now (ttl + 1)
      subscriberCounts := db.subscriberCounts.expire now (ttl + 1) }
  else db

def pack (args : PublishArgs) (msg : MessageHash) : Packed :=
  if msg.unbuffered ∨ msg.data.utf8ByteSize < args.msgpackedPubsubCutoff then
    .msg msg.ttl msg.time msg.tag (if msg.unbuffered then 0 else msg.prevTime.getD 0)
      (if msg.unbuffered then 0 else msg.prevTag.getD 0) msg.data msg.contentType
      msg.eventsourceEvent msg.compression
  else .msgkey msg.time msg.tag msg.id

def writeHashes (now : Int) (msg : MessageHash) (limit : Int) (db : Db) : Db :=
  let db := updateChannel now msg limit (linkLast now msg.id db)
  db.setMessage msg.id ((db.message msg.id).write now msg)

def write (now : Int) (msg : MessageHash) (limit : Int) (db : Db) : Db :=
  storeId now msg.id limit (writeHashes now msg limit db)

end Publish

open Publish in
/-- `publish.lua`, for a channel whose keys can be made.  `time` is what `TIME` answers, and
    `numsub` what `PUBSUB NUMSUB` does. -/
def publish (now time : Int) (numsub : String → Int) (args : PublishArgs) (db : Db) :
    Except PublishError (PublishReply × Db) :=
  if ':' ∈ args.contentType.toList then .error .contentType
  else
    let channel := db.channel.get now
    let msg := newMessage now time args db
    if db.hasMessage now msg.id then .error (.alreadyExists msg.id)
    else
      let db := setExpirations now msg.id msg.ttl (write now msg args.maxMsgBufSize db)
      let (subscribers, db) :=
        if args.useAccurateSubscriberCount then db.countSubscribers now numsub
        else
          (((channel.bind (·.fakeSubscribers)).or (channel.bind (·.subscribers))).getD 0, db)
      .ok ({
        ttl := (channel.bind (·.ttl)).getD msg.ttl
        lastSeenFakeSubscriber := (channel.bind (·.lastSeenFakeSubscriber)).getD 0
        subscribers := subscribers
        lastMessageId := msg.id
        messages := (db.ids now).length
        newChannel := channel.isNone
        maxMsgs := if channel.bind (·.maxStoredMessages) ≠ some args.maxMsgBufSize
          then some args.maxMsgBufSize else none
        packed := pack args msg }, db)

namespace Publish

/-! ### The keys that matter -/

@[simp] theorem linkLast_channel (now : Int) (id : Stamp) (db : Db) :
    (linkLast now id db).channel = db.channel := by
  unfold linkLast
  split
  · rfl
  · split <;> rfl

@[simp] theorem linkLast_messages (now : Int) (id : Stamp) (db : Db) :
    (linkLast now id db).messages = db.messages := by
  unfold linkLast
  split
  · rfl
  · split <;> rfl

@[simp] theorem storeId_channel (now : Int) (id : Stamp) (limit : Int) (db : Db) :
    (storeId now id limit db).channel = db.channel := by
  unfold storeId
  split
  · rfl
  · split
    · simp [Db.oldestmsg]
    · rfl

theorem write_channel (now : Int) (msg : MessageHash) (limit : Int) (db : Db) :
    (write now msg limit db).channel = (updateChannel now msg limit db).channel := by
  simp [write, writeHashes, updateChannel, channelFields, Db.setMessage]

@[simp] theorem writeHashes_messages (now : Int) (msg : MessageHash) (limit : Int) (db : Db) :
    (writeHashes now msg limit db).messages = db.messages :=
  linkLast_messages now msg.id db

/-- The keys after a publish that succeeds, the counts of subscribers apart. -/
def result (now time : Int) (args : PublishArgs) (db : Db) : Db :=
  setExpirations now (newId time (last now db)) (ttl args)
    (write now (newMessage now time args db) args.maxMsgBufSize db)

theorem publish_ok {now time : Int} {args : PublishArgs} {db : Db} (numsub : String → Int)
    (accepted : ':' ∉ args.contentType.toList)
    (fresh : db.hasMessage now (newId time (last now db)) = false) :
    ∃ reply db', publish now time numsub args db = .ok (reply, db') ∧
      reply.lastMessageId = newId time (last now db) ∧
      db'.channel = (result now time args db).channel ∧
      db'.messages = (result now time args db).messages ∧
      db'.message = (result now time args db).message := by
  have notExists : ¬ db.hasMessage now (newMessage now time args db).id := by
    rw [show (newMessage now time args db).id = newId time (last now db) from rfl, fresh]
    simp
  unfold publish
  rw [if_neg accepted]
  dsimp only
  rw [if_neg notExists]
  by_cases accurate : args.useAccurateSubscriberCount = true
  · rw [if_pos accurate]
    exact ⟨_, _, rfl, rfl, rfl, rfl, rfl⟩
  · rw [if_neg accurate]
    exact ⟨_, _, rfl, rfl, rfl, rfl, rfl⟩

theorem publish_cases (now time : Int) (numsub : String → Int) (args : PublishArgs) (db : Db) :
    (∃ error, publish now time numsub args db = .error error) ∨
      ':' ∉ args.contentType.toList ∧ db.hasMessage now (newId time (last now db)) = false := by
  by_cases refused : ':' ∈ args.contentType.toList
  · exact .inl ⟨_, if_pos refused⟩
  · cases taken : db.hasMessage now (newId time (last now db)) with
    | true =>
      refine .inl ⟨.alreadyExists (newId time (last now db)), ?_⟩
      unfold publish
      rw [if_neg refused]
      exact if_pos taken
    | false => exact .inr ⟨refused, rfl⟩

end Publish

/-! ## `get_message.lua` -/

/-- What is wanted without an id: `FIFO` for the most recent message, `FILO` for the oldest. -/
inductive NoMsgidOrder where
  | fifo | filo

/-- 200 with the fields of a message, 404, or 418. -/
inductive GetReply where
  | ok (ttl : Int) (msg : MessageHash) (subscribers : Option Int)
  | notFound
  | notYetAvailable (subscribers : Option Int)

/-- `result_code`. -/
@[simp] def GetReply.code : GetReply → Nat
  | .ok .. => 200
  | .notFound => 404
  | .notYetAvailable _ => 418

def replyWith (now : Int) (id : Stamp) (subscribers : Option Int) (db : Db) : GetReply :=
  match (db.message id).get now with
  | none => .notFound
  | some msg => .ok ((db.message id).ttl now) msg subscribers

/-- `get_message.lua`.  A time of 0 is no id. -/
def getMessage (now time tag : Int) (order : NoMsgidOrder) (createChannelTtl : Int) (db : Db) :
    GetReply × Db :=
  match db.channel.get now with
  | none =>
    if createChannelTtl = 0 then (.notFound, db)
    else
      (.notYetAvailable none, { db with
        channel := (db.channel.write now { ChannelHash.empty with time := some time }).expire now
          createChannelTtl })
  | some channel =>
    if time = 0 then
      match order with
      | .fifo =>
        -- the id is used as a key, and there is no such key
        (if channel.currentMessage = none then .notYetAvailable channel.subscribers else .notFound, db)
      | .filo =>
        match db.oldestmsg now with
        | (none, db) => (.notYetAvailable channel.subscribers, db)
        | (some id, db) => (replyWith now id channel.subscribers db, db)
    else if channel.currentMessage = some ⟨time, tag⟩ ∨ channel.currentMessage = none then
      (.notYetAvailable channel.subscribers, db)
    else
      match ((db.message ⟨time, tag⟩).get now).bind (·.next) with
      | none => (.notFound, db)
      | some next => (replyWith now next channel.subscribers db, db)

/-! ## `get_message_from_key.lua` -/

/-- The time to live of the key, and the fields of the message if it is there. -/
structure KeyReply where
  ttl : Int
  msg : Option MessageHash

/-- `get_message_from_key.lua`. -/
def getMessageFromKey (now : Int) (key : Stamp) (db : Db) : KeyReply :=
  ⟨(db.message key).ttl now, (db.message key).get now⟩

/-! ## Subscribers -/

/-- `setkeyttl` of `subscriber_register.lua`. -/
def setkeyttlMsec (now ttl : Int) (db : Db) : Db :=
  if ttl > 0 then
    { db with
      channel := db.channel.pexpire now ttl
      messages := db.messages.pexpire now ttl
      subscribers := db.subscribers.pexpire now ttl
      subscriberCounts := db.subscriberCounts.pexpire now ttl }
  else
    { db with
      channel := db.channel.persist now
      messages := db.messages.persist now
      subscribers := db.subscribers.persist now
      subscriberCounts := db.subscriberCounts.persist now }

/-- `next_keepalive` from what is left of a channel's time to live. -/
def remainingKeepalive (actualTtl margin : Int) : Int :=
  if actualTtl - margin > 0 then actualTtl - margin else (actualTtl + 1) / 2

structure RegisterReply where
  subscriberId : Option Int
  subscribers : Option Int
  nextKeepalive : Int
  maxMessages : Option Int

def registerFields (subscriber time : Option Int) (channel : ChannelHash) : ChannelHash :=
  let channel :=
    if subscriber = none then
      { channel with
        lastSubscriberId := some (channel.lastSubscriberId.getD 0 + 1)
        subscribers := some (channel.subscribers.getD 0 + 1) }
    else channel
  if time.isSome then { channel with lastSeenSubscriber := time } else channel

/-- Let the channel live for another while, if it would not anyway. -/
def refreshTtl (now activeTtl margin : Int) (db : Db) : Int × Db :=
  let actualTtl := db.channel.pttl now
  let safeTtl := activeTtl + margin
  if actualTtl < safeTtl then (activeTtl, setkeyttlMsec now safeTtl db)
  else (remainingKeepalive actualTtl margin, db)

/-- `subscriber_register.lua`; `subscriber` is the id of a known subscriber. -/
def subscriberRegister (now : Int) (subscriber : Option Int) (activeTtl margin : Int)
    (time : Option Int) (db : Db) : RegisterReply × Db :=
  let channel := registerFields subscriber time ((db.channel.get now).getD .empty)
  let written := subscriber = none ∨ time.isSome
  let db := if written then { db with channel := db.channel.write now channel } else db
  let (nextKeepalive, db) := refreshTtl now activeTtl margin db
  -- the settings are wanted if the time is 1
  (⟨subscriber.or channel.lastSubscriberId, channel.subscribers, nextKeepalive,
    if time = some 1 then (db.channel.get now).bind (·.maxStoredMessages) else none⟩, db)

/-- `setkeyttl` of `subscriber_unregister.lua`. -/
def setkeyttlSec (now ttl : Int) (db : Db) : Db :=
  if ttl > 0 then
    { db with
      channel := db.channel.expire now ttl
      messages := db.messages.expire now ttl
      subscribers := db.subscribers.expire now ttl
      subscriberCounts := db.subscriberCounts.expire now ttl }
  else if ttl < 0 then
    { db with
      channel := db.channel.persist now
      messages := db.messages.persist now
      subscribers := db.subscribers.persist now
      subscriberCounts := db.subscriberCounts.persist now }
  else { db with channel := none, messages := none, subscribers := none, subscriberCounts := none }

/-- `subscriber_unregister.lua`.  It answers with the subscribers left, which are an error if they
    are less than zero. -/
def subscriberUnregister (now emptyTtl : Int) (db : Db) : Except Int Int × Db :=
  match db.channel.get now with
  | none => (.ok 0, db)
  | some channel =>
    let subCount := channel.subscribers.getD 0 - 1
    let db := { db with
      channel := db.channel.write now { channel with subscribers := some subCount } }
    if subCount = 0 ∧ db.ids now = [] then (.ok subCount, setkeyttlSec now emptyTtl db)
    else (if subCount < 0 then .error subCount else .ok subCount, db)

/-- `channel_keepalive.lua`. -/
def channelKeepalive (now ttl margin : Int) (db : Db) : Int × Db :=
  let safeTtl := ttl + margin
  let subsCount := ((db.channel.get now).bind (·.subscribers)).getD 0
  let msgsCount := (db.ids now).length
  let actualTtl := db.channel.pttl now
  if subsCount ≤ 0 then (-1, db)
  else if msgsCount > 0 ∧ actualTtl > safeTtl then (remainingKeepalive actualTtl margin, db)
  else
    (ttl, { db with
      channel := db.channel.pexpire now safeTtl
      messages := db.messages.pexpire now safeTtl
      subscribers := db.subscribers.pexpire now safeTtl
      subscriberCounts := db.subscriberCounts.pexpire now safeTtl })

/-! ## `delete.lua` -/

structure DeleteReply where
  ttl : Int
  lastSeenFakeSubscriber : Int
  subscribers : Int
  lastMessageId : Option Stamp
  messages : Int

/-- `delete.lua`. -/
def delete (now : Int) (numsub : String → Int) (useAccurateSubscriberCount : Bool) (db : Db) :
    Option DeleteReply × Db :=
  let ids := db.ids now
  let db := (db.delMessages ids).setIds now []
  let channel := db.channel.get now
  let db := if channel.isSome then { db with deleted := some ⟨(), some (now + 5000)⟩ } else db
  let (subscribers, db) :=
    if useAccurateSubscriberCount then db.countSubscribers now numsub
    else (((channel.bind (·.fakeSubscribers)).or (channel.bind (·.subscribers))).getD 0, db)
  (channel.map fun channel => {
      ttl := channel.ttl.getD 0
      lastSeenFakeSubscriber := channel.lastSeenFakeSubscriber.getD 0
      subscribers := subscribers
      lastMessageId := channel.currentMessage
      messages := ids.length },
    { db with channel := none, messages := none, subscribers := none, subscriberCounts := none })

end Nchan.Redis
