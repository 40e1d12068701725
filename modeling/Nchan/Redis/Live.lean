import Nchan.Redis.Stored
import Nchan.Spool.Upkeep

/-! # Live delivery

One channel in Redis, and the spooler that one worker has for it.  What is published goes to the
worker in order, either whole or as the key of a message that the worker then asks for.  Spools
that have no message to wait for ask for one by id.  Requests are run by Redis in any order and at
any time, and so do their answers arrive.  The scripts see Redis at `now`, which does not go back;
the cached time of the worker is `msec`.

The ids of spools in the tree are those of messages, or zero for the oldest one.  The spool of the
newest messages has none.
-/

namespace Nchan.Redis.Live

open Nchan.Lib Nchan.Spool

/-- What is in a message besides its ids. -/
structure Content where
  data : String
  contentType : String
  eventsourceEvent : String
  compression : Int

/-- The keys and the spooler, with what is on its way: announcements, keys to look up, and the
    answers to lookups of keys and of ids.  The ids to look up are in the spooler.  `history` is
    what has been published.  Of the names, only the lengths of the channel id and of the keys
    matter. -/
structure State where
  idLen : Nat
  keyLen : Stamp → Nat
  clock : Int
  db : Db
  spl : Spooler Content
  pubsub : List Packed
  wantedKeys : List Stamp
  keyReplies : List (Stamp × KeyReply)
  getReplies : List (MsgId × GetReply)
  history : List Published

def State.start (idLen : Nat) (keyLen : Stamp → Nat) : State :=
  ⟨idLen, keyLen, 0, .empty, .start, [], [], [], [], []⟩

/-! ## The worker -/

/-- `sub_count`. -/
def subCount (spl : Spooler Content) : Nat :=
  (((List.range spl.created).filterMap spl.pools).flatMap (·.subs)).length

/-- An id in Redis; the tag goes into an `int16_t`. -/
def readMsgId (time tag : Int) : MsgId := .ofStamp ⟨time, tag.bmod (2 ^ 16)⟩

/-- `msg_from_redis_get_message_reply`.  A key without a time to live fails an assert, and
    `missing` is what is read where there is no number. -/
def msgFromRedisGetMessageReply (ttl missing : Int) (msg : MessageHash) : Option (Msg Content) :=
  if ttl < 0 then none
  else some {
    id := readMsgId msg.time msg.tag
    prevId := readMsgId (msg.prevTime.getD missing) (msg.prevTag.getD missing)
    payload := ⟨msg.data, msg.contentType, msg.eventsourceEvent, msg.compression⟩ }

/-- `nchan_store_publish_generic` of a message. -/
def nchanStorePublishGeneric (msec : Int) (tree : Lib.Tree Nat) (msg : Msg Content) (s : State) :
    Option State :=
  if subCount s.spl > 0 then
    (s.spl.respondMessage msec tree msg).map fun spl => { s with spl := spl }
  else some s

/-- `get_msg_from_msgkey`.  The lengths are cast to `u_char` where memory is allocated, but all of the
    names is copied there. -/
def getMsgFromMsgkey (key : Stamp) (s : State) : Option State :=
  if subCount s.spl = 0 then some s
  else if s.idLen % 2 ^ 8 + s.keyLen key % 2 ^ 8 < s.idLen + s.keyLen key then none
  else some { s with wantedKeys := s.wantedKeys ++ [key] }

/-- `redis_subscriber_callback`.  What does not fit the type that it is read as is dropped. -/
def redisSubscriberCallback (msec : Int) (tree : Lib.Tree Nat) : Packed → State → Option State
  | .msg ttl time tag prevTime prevTag data contentType eventsourceEvent compression, s =>
    if ttl < -2 ^ 31 ∨ 2 ^ 31 ≤ ttl then some s
    else if ttl < 0 then none
    else if time < 0 ∨ tag < 0 ∨ prevTime < 0 ∨ prevTag < 0 then some s
    else nchanStorePublishGeneric msec tree ⟨readMsgId time tag, readMsgId prevTime prevTag,
      ⟨data, contentType, eventsourceEvent, compression⟩⟩ s
  | .msgkey time tag key, s =>
    if time < 0 ∨ tag < 0 then some s else getMsgFromMsgkey key s

/-- `get_msg_from_msgkey_callback`.  Nothing happens if the message is gone. -/
def getMsgFromMsgkeyCallback (msec : Int) (tree : Lib.Tree Nat) (reply : KeyReply) (s : State) :
    Option State :=
  match reply.msg with
  | none => some s
  | some msg =>
    (msgFromRedisGetMessageReply reply.ttl 0 msg).bind fun msg =>
      nchanStorePublishGeneric msec tree msg s

/-- `redis_get_message_callback`. -/
def redisGetMessageCallback (msec : Int) (msgid : MsgId) (reply : GetReply)
    (spl : Spooler Content) : Option (Spooler Content) :=
  match reply with
  | .ok ttl msg _ =>
    (msgFromRedisGetMessageReply ttl (-1) msg).bind fun msg =>
      spl.fetchMsgCallback msec msgid .found (some msg)
  | .notFound => spl.fetchMsgCallback msec msgid .notfound none
  | .notYetAvailable _ => spl.fetchMsgCallback msec msgid .expected none

/-! ## The system -/

/-- A message is published, the first announcement arrives, a request is run or an answer to one
    arrives, and what subscribers and timers do.  `tree` is the shape that the tree of spools has. -/
inductive Event where
  | publish (now : Int) (numsub : String → Int) (args : PublishArgs)
  | announce (msec : Int) (tree : Lib.Tree Nat)
  | runKey (now : Int) (i : Nat)
  | keyReply (msec : Int) (tree : Lib.Tree Nat) (i : Nat)
  | runGet (now : Int) (i : Nat)
  | getReply (msec : Int) (i : Nat)
  | join (msec : Int) (sub : Subscriber)
  | leave (address sub : Nat)
  | timer (msec : Int) (address : Nat)

def step : Event → State → Option State
  | .publish now numsub args, s =>
    if now < s.clock then none
    else match publish now (now / 1000) numsub args s.db with
      | .error _ => some { s with clock := now }
      | .ok (reply, db) => some { s with
          clock := now
          db := db
          pubsub := s.pubsub ++ [reply.packed]
          history := s.history ++ [⟨reply.lastMessageId, Publish.prev now s.db⟩] }
  | .announce msec tree, s =>
    match s.pubsub with
    | [] => none
    | packed :: rest =>
      if s.spl.IsTree tree then redisSubscriberCallback msec tree packed { s with pubsub := rest }
      else none
  | .runKey now i, s =>
    if now < s.clock then none
    else (s.wantedKeys[i]?).map fun key => { s with
      clock := now
      wantedKeys := s.wantedKeys.eraseIdx i
      keyReplies := s.keyReplies ++ [(key, getMessageFromKey now key s.db)] }
  | .keyReply msec tree i, s =>
    (s.keyReplies[i]?).bind fun (_, reply) =>
      if s.spl.IsTree tree then
        getMsgFromMsgkeyCallback msec tree reply { s with keyReplies := s.keyReplies.eraseIdx i }
      else none
  | .runGet now i, s =>
    if now < s.clock then none
    else (s.spl.fetches[i]?).map fun msgid =>
      let (reply, db) := getMessage now msgid.time (msgid.fixed 0) .filo 0 s.db
      { s with
        clock := now
        db := db
        spl := { s.spl with fetches := s.spl.fetches.eraseIdx i }
        getReplies := s.getReplies ++ [(msgid, reply)] }
  | .getReply msec i, s =>
    (s.getReplies[i]?).bind fun (msgid, reply) =>
      (redisGetMessageCallback msec msgid reply s.spl).map fun spl =>
        { s with spl := spl, getReplies := s.getReplies.eraseIdx i }
  | .join msec sub, s => (s.spl.addSubscriber msec sub).map fun spl => { s with spl := spl }
  | .leave address sub, s =>
    (s.spl.dequeueSubscriber address sub).map fun spl => { s with spl := spl }
  | .timer msec address, s =>
    (s.spl.fetchmsgEvHandler msec address).map fun spl => { s with spl := spl }

/-- No notification and no answer is outstanding. -/
def State.Quiet (s : State) : Prop :=
  s.pubsub = [] ∧ s.wantedKeys = [] ∧ s.keyReplies = [] ∧ s.spl.fetches = [] ∧ s.getReplies = []

instance (s : State) : Decidable s.Quiet := inferInstanceAs (Decidable (_ ∧ _))

/-- A subscriber waits for a message that is there. -/
def State.Stranded (s : State) (address : Nat) : Prop :=
  ∃ pool ∈ s.spl.pools address, pool.id.time ≠ newestMsgidTime ∧ pool.subs ≠ [] ∧
    pool.msgStatus = .expected ∧ s.db.Behind s.clock pool.id.stamp

instance (s : State) (address : Nat) : Decidable (s.Stranded address) :=
  inferInstanceAs (Decidable (∃ pool ∈ s.spl.pools address, _ ∧ _))

end Nchan.Redis.Live
