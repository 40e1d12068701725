import Nchan.Lib.SearchTree
import Nchan.MultiMsgId

/-! # The spooler of a channel

A spooler keeps the subscribers of a channel in spools: one spool for all subscribers that wait
for the message after the same id.  A spool gets its message when it is published, or asks the
store for it.  Subscribers of the next message to be published wait in a spool of their own,
`current_msg_spool`, which is at the address 0.  All other spools are nodes of a tree that is
ordered by their ids.

The functions are those of `spool.c` with the strategy `NCHAN_SPOOL_FETCH`, for a channel that is
ready and whose buffer is complete, so that no spool is reserved.  `now` is the millisecond of the
cached time.  A failed assert and a use of a spool that is gone are `none`.
-/

namespace Nchan.Spool

open Nchan.Lib Function

/-- `nchan_msg_t`, with what is in it left open. -/
structure Msg (P : Type) where
  id : MsgId
  prevId : MsgId
  payload : P

/-- `subscriber_t`.  Some subscribers are done after one message, and some go away when there is
    no message for them yet. -/
structure Subscriber where
  id : Nat
  lastMsgid : MsgId
  dequeueAfterResponse : Bool
  actAsIntervalpoll : Bool

/-- `subscriber_pool_t`; `fetchmsgTimer` says whether the timer of `fetchmsg_ev` is set. -/
structure SubscriberPool (P : Type) where
  id : MsgId
  msg : Option (Msg P)
  msgStatus : MsgStatus
  subs : List Subscriber
  fetchmsgTimer : Bool
  fetchmsgCurrentCount : Nat
  fetchmsgPrevMsec : Int

/-- `channel_spooler_t`.  `fetches` are the ids that the store has been asked about and not looked
    up yet, `responded` is what `respond_message` of which subscriber was called with. -/
structure Spooler (P : Type) where
  pools : Nat → Option (SubscriberPool P)
  created : Nat
  fetches : List MsgId
  responded : List (Nat × P)

/-- `NCHAN_SPOOL_FETCHMSG_MAX_TIMES`. -/
def fetchmsgMaxTimes : Nat := 20

/-- `NCHAN_ZERO_MSGID`. -/
def zeroMsgid : MsgId := ⟨0, fun _ => 0, fun _ => 0, 0, 0⟩

/-- `latest_msg_id`. -/
def latestMsgId : MsgId := .ofStamp ⟨newestMsgidTime, 0⟩

/-- `oldest_msg_id`. -/
def oldestMsgId : MsgId := .oldest

/-! ## Comparing ids -/

def compareTags (tags1 tags2 : Nat → Int) : List Nat → Ordering
  | [] => .eq
  | i :: rest => (compare (tags1 i) (tags2 i)).then (compareTags tags1 tags2 rest)

/-- `spool_rbtree_compare`; a tag that is missing counts as -1. -/
def spoolRbtreeCompare (id1 id2 : MsgId) : Ordering :=
  (compare id1.time id2.time).then
    (compareTags (fun i => if i < id1.tagcount then id1.tags i else -1)
      (fun i => if i < id2.tagcount then id2.tags i else -1)
      (List.range (max id1.tagcount id2.tagcount)))

/-- `spool_rbtree_bucketer`. -/
def spoolRbtreeBucketer (id : MsgId) : Int := id.time % 2 ^ 32

def RbtreeLt (id1 id2 : MsgId) : Prop :=
  spoolRbtreeBucketer id1 < spoolRbtreeBucketer id2 ∨
    spoolRbtreeBucketer id1 = spoolRbtreeBucketer id2 ∧ spoolRbtreeCompare id1 id2 = .lt

instance (id1 id2 : MsgId) : Decidable (RbtreeLt id1 id2) :=
  inferInstanceAs (Decidable (_ ∨ _ ∧ _))

/-- `msg_ids_equal`. -/
def msgIdsEqual (id1 id2 : MsgId) : Bool :=
  id1.time = id2.time ∧ id1.tagcount = id2.tagcount ∧ ∀ i < id1.tagcount, id1.tags i = id2.tags i

/-- `compare_msgid_onetag_range`. -/
def compareMsgidOnetagRange (min max id : MsgId) : Option Direction :=
  if min.tagcount ≠ max.tagcount ∨ max.tagcount ≠ id.tagcount ∨ id.tagcount ≠ 1 then none
  else if min.time < id.time ∨ min.time = id.time ∧ min.fixed 0 ≤ id.fixed 0 then
    if max.time > id.time ∨ max.time = id.time ∧ max.fixed 0 > id.fixed 0 then some .leftRight
    else some .left
  else some .right

/-- `nchan_compare_msgid_tags`. -/
def nchanCompareMsgidTags (id1 id2 : MsgId) : Option Ordering :=
  if id1.time ≠ id2.time then none
  else if ((List.range id2.tagcount).filter fun i => id2.tags i ≥ 0).length ≠ 1 then none
  -- always equal on zero-time
  else if id1.time = 0 ∧ id2.time = 0 then some .eq
  else
    let active := id2.tagactive
    some (compare (if active < id1.tagcount then id1.tags active else -1) (id2.tags active))

/-- Whether a spool of a multiplexed channel is in the range, its time being so. -/
def inMultiRange (min max id : MsgId) : Option Bool :=
  if id.time > min.time ∧ id.time < max.time then some true
  else if id.time = max.time ∧ id.time = min.time then
    (nchanCompareMsgidTags id max).bind fun toMax =>
      if toMax = .lt then (nchanCompareMsgidTags id min).map (· ≠ .lt) else some false
  else
    let belowMax : Option Bool :=
      if id.time = max.time then (nchanCompareMsgidTags id max).map (· = .lt) else some false
    belowMax.bind fun below =>
      if below then some true
      else if id.time = min.time then (nchanCompareMsgidTags id min).map (· ≠ .lt)
      else some false

/-- `collect_spool_range_callback`: does a spool wait for a message, and where are others? -/
def collectSpoolRange {P : Type} (msg : Msg P) (id : MsgId) : Option (Bool × Direction) :=
  if msg.id.tagcount ≤ 1 then
    (compareMsgidOnetagRange msg.prevId msg.id id).map fun direction =>
      (direction = .leftRight, direction)
  -- compare_msgid_time
  else if ¬ msg.prevId.time ≤ id.time then some (false, .right)
  else if ¬ msg.id.time ≥ id.time then some (false, .left)
  else (inMultiRange msg.prevId msg.id id).map fun collect => (collect, .leftRight)

/-! ## Spools -/

variable {P : Type}

namespace SubscriberPool

/-- `init_spool`. -/
def init (id : MsgId) : SubscriberPool P := ⟨id, none, .invalid, [], false, 0, 0⟩

/-- The part of `spool_fetch_msg` that asks the store. -/
def askStore (pool : SubscriberPool P) : Option (SubscriberPool P × List MsgId) :=
  if pool.msg.isSome ∨ pool.msgStatus ≠ .invalid then none
  else some ({ pool with msgStatus := .pending }, [pool.id])

/-- `spool_fetch_msg`, with the ids it asks the store about.  A spool that asks too often within
    a millisecond is left to a timer. -/
def fetchMsg (now : Int) (pool : SubscriberPool P) : Option (SubscriberPool P × List MsgId) :=
  if pool.fetchmsgPrevMsec = now then
    if pool.fetchmsgCurrentCount > fetchmsgMaxTimes then
      some ({ pool with fetchmsgTimer := true, fetchmsgCurrentCount := 0 }, [])
    else { pool with fetchmsgCurrentCount := pool.fetchmsgCurrentCount + 1 }.askStore
  else { pool with fetchmsgCurrentCount := 0, fetchmsgPrevMsec := now }.askStore

end SubscriberPool

namespace Spooler

/-- `start_spooler`. -/
def start : Spooler P where
  pools := fun address =>
    if address = 0 then some { SubscriberPool.init latestMsgId with msgStatus := .expected } else none
  created := 1
  fetches := []
  responded := []

def set (address : Nat) (pool : SubscriberPool P) (spl : Spooler P) : Spooler P :=
  { spl with pools := update spl.pools address (some pool) }

/-- `destroy_spool` of a spool that has no subscribers left. -/
def destroySpool (address : Nat) (spl : Spooler P) : Spooler P :=
  { spl with pools := update spl.pools address none }

/-- `rbtree_find_node`. -/
def rbtreeFindNode (id : MsgId) (spl : Spooler P) : Option Nat :=
  (List.range spl.created).find? fun address =>
    address ≠ 0 ∧ (spl.pools address).any fun pool => spoolRbtreeCompare id pool.id = .eq

/-- `find_spool`, where the spool of the newest messages is at hand. -/
def findSpool (id : MsgId) (spl : Spooler P) : Option Nat × Spooler P :=
  if id.time = newestMsgidTime then
    (some 0, { spl with
      pools := update spl.pools 0
        ((spl.pools 0).map fun pool => { pool with msgStatus := .expected }) })
  else (spl.rbtreeFindNode id, spl)

/-- `get_spool`. -/
def getSpool (id : MsgId) (spl : Spooler P) : Nat × Spooler P :=
  match spl.findSpool id with
  | (some address, spl) => (address, spl)
  | (none, spl) => (spl.created, { spl.set spl.created (.init id) with created := spl.created + 1 })

/-- `spool_respond_general` with a message. -/
def respondMsg (address : Nat) (msg : Msg P) (spl : Spooler P) : Option (Spooler P) :=
  (spl.pools address).map fun pool =>
    { spl.set address { pool with subs := pool.subs.filter (!·.dequeueAfterResponse) } with
      responded := spl.responded ++ pool.subs.map fun sub => (sub.id, msg.payload) }

/-- `spool_respond_general` with `NGX_HTTP_NO_CONTENT`. -/
def respondNoContent (address : Nat) (spl : Spooler P) : Option (Spooler P) :=
  (spl.pools address).map fun pool =>
    spl.set address { pool with subs := pool.subs.filter (!·.actAsIntervalpoll) }

/-- `spool_fetch_msg` of a spool of the spooler. -/
def fetchMsg (now : Int) (address : Nat) (spl : Spooler P) : Option (Spooler P) :=
  (spl.pools address).bind fun pool =>
    (pool.fetchMsg now).map fun (pool, ids) =>
      { spl.set address pool with fetches := spl.fetches ++ ids }

/-- `spool_transfer_subscribers`. -/
def transferSubscribers (src dst : Nat) (updateLastMsgid : Bool) (spl : Spooler P) :
    Option (Spooler P) :=
  (spl.pools src).bind fun spool =>
    (spl.pools dst).map fun newspool =>
      let subs := spool.subs.reverse.map fun sub =>
        if updateLastMsgid then { sub with lastMsgid := newspool.id } else sub
      (spl.set src { spool with subs := [] }).set dst { newspool with subs := subs ++ newspool.subs }

/-- The end of `spool_nextmsg`: the spool that has the subscribers now. -/
def wakeSpool (now : Int) (address : Nat) (spl : Spooler P) : Option (Spooler P) :=
  (spl.pools address).bind fun newspool =>
    if newspool.subs = [] then some spl
    else
      match newspool.msgStatus with
      | .channelNotready =>
        (spl.set address { newspool with msgStatus := .invalid }).fetchMsg now address
      | .invalid => spl.fetchMsg now address
      | .expected => spl.respondNoContent address
      | _ => some spl

/-- `spool_nextmsg`: on to the spool of the message after `newLastId`, which the spool itself
    becomes if there is none. -/
def nextmsg (now : Int) (address : Nat) (newLastId : MsgId) (spl : Spooler P) :
    Option (Spooler P) :=
  (spl.pools address).bind fun spool =>
    ((zeroMsgid.copyMsgId spool.id).updateMultiMsgid newLastId).bind fun newId =>
      if msgIdsEqual spool.id newId then none
      else if spool.id.time = newestMsgidTime then
        let (newspool, spl) := spl.getSpool newId
        if newspool = address then none
        else (spl.transferSubscribers address newspool false).bind (wakeSpool now newspool)
      else
        match spl.findSpool newId with
        | (some newspool, spl) =>
          if newspool = address then none
          else (spl.transferSubscribers address newspool false).bind fun spl =>
            (spl.destroySpool address).wakeSpool now newspool
        | (none, spl) =>
          (spl.set address { spool with
            id := spool.id.copyMsgId newId, msgStatus := .invalid, msg := none }).wakeSpool now address

def advance (now : Int) (msg : Msg P) (address : Nat) (spl : Spooler P) : Option (Spooler P) :=
  (spl.respondMsg address msg).bind (nextmsg now address msg.id)

/-- The subscribers of a spool whose id the store does not have start over at another spool. -/
def restart (address newspool : Nat) (spl : Spooler P) : Option (Spooler P) :=
  (spl.transferSubscribers address newspool true).map (destroySpool address)

/-- `spool_fetch_msg_callback`. -/
def fetchMsgCallback (now : Int) (msgid : MsgId) (findmsgStatus : MsgStatus) (msg : Option (Msg P))
    (spl : Spooler P) : Option (Spooler P) :=
  match spl.findSpool msgid with
  | (none, spl) => some spl
  | (some address, spl) =>
    (spl.pools address).bind fun spool =>
      match findmsgStatus with
      | .found =>
        msg.bind fun msg =>
          (spl.set address { spool with msgStatus := .found, msg := some msg }).advance now msg address
      | .expected =>
        if spool.id.time = nthMsgidTime then spl.nextmsg now address latestMsgId
        else if msg.isSome then none
        else (spl.set address { spool with msgStatus := .expected, msg := none }).respondNoContent
          address
      | .channelNotready =>
        some (spl.set address { spool with msgStatus := .channelNotready, msg := none })
      | .notfound | .expired =>
        ((spl.set address { spool with msgStatus := findmsgStatus }).respondNoContent address).bind
          fun spl =>
            let (nuspool, spl) := spl.getSpool oldestMsgId
            if address ≠ nuspool then (spl.restart address nuspool).bind (fetchMsg now nuspool)
            else if spool.id.tagcount = 1 ∧ spoolRbtreeCompare spool.id oldestMsgId = .eq then
              let (nuspool, spl) := spl.getSpool latestMsgId
              if address = nuspool then none else spl.restart address nuspool
            else if address = 0 then
              (spl.pools 0).map fun spool => spl.set 0 { spool with msgStatus := .expected }
            else none
      | .pending => some spl
      | .error => some (spl.set address { spool with subs := [] })
      | .invalid => none

/-- `fetchmsg_ev_handler`. -/
def fetchmsgEvHandler (now : Int) (address : Nat) (spl : Spooler P) : Option (Spooler P) :=
  match spl.pools address with
  | none => some spl
  | some spool =>
    if spool.fetchmsgTimer then
      let spl := spl.set address { spool with fetchmsgTimer := false }
      if spool.msgStatus = .invalid then spl.fetchMsg now address else some spl
    else some spl

/-- `spooler_add_subscriber`. -/
def addSubscriber (now : Int) (sub : Subscriber) (spl : Spooler P) : Option (Spooler P) :=
  let (address, spl) := spl.getSpool sub.lastMsgid
  (spl.pools address).bind fun spool =>
    let spl := spl.set address { spool with subs := sub :: spool.subs }
    match spool.msgStatus with
    | .found => spool.msg.bind fun msg => spl.respondMsg address msg
    | .invalid => if spool.msg.isSome then none else spl.fetchMsg now address
    | .channelNotready | .pending => some spl
    | .expected =>
      -- the subscriber is told that there is no message yet
      if sub.actAsIntervalpoll then some (spl.set address spool) else some spl
    | .expired | .notfound | .error => none

/-- `spool_sub_dequeue_callback`.  A spool stays when its last subscriber leaves. -/
def dequeueSubscriber (address sub : Nat) (spl : Spooler P) : Option (Spooler P) :=
  (spl.pools address).bind fun spool =>
    if spool.subs.any (·.id = sub) then
      some (spl.set address { spool with subs := spool.subs.eraseP (·.id = sub) })
    else none

def nodes (spl : Spooler P) : List Nat :=
  (List.range spl.created).filter fun address => address ≠ 0 ∧ (spl.pools address).isSome

/-- A shape that the tree of spools may have. -/
def IsTree (tree : Lib.Tree Nat) (spl : Spooler P) : Prop :=
  tree.inorder.Perm spl.nodes ∧ tree.inorder.Pairwise fun before after =>
    ∀ pool ∈ spl.pools before, ∀ pool' ∈ spl.pools after, RbtreeLt pool.id pool'.id

instance (tree : Lib.Tree Nat) (spl : Spooler P) : Decidable (spl.IsTree tree) :=
  inferInstanceAs (Decidable (_ ∧ _))

/-- The spools that a published message is for, in the order in which they were collected. -/
def collectSpools (tree : Lib.Tree Nat) (msg : Msg P) (spl : Spooler P) : Option (List Nat) :=
  tree.conditionalWalk fun address =>
    (spl.pools address).bind fun spool => collectSpoolRange msg spool.id

/-- `spooler_respond_message`, with the shape that the tree of spools has got.  The collected
    spools are taken from the last one back, and the subscribers of the newest messages follow. -/
def respondMessage (now : Int) (tree : Lib.Tree Nat) (msg : Msg P) (spl : Spooler P) :
    Option (Spooler P) :=
  (spl.collectSpools tree msg).bind fun collected =>
    (collected.reverse.foldlM (fun spl address => advance now msg address spl) spl).bind fun spl =>
      let (address, spl) := spl.getSpool latestMsgId
      (spl.pools address).bind fun spool =>
        if spool.subs = [] then some spl else spl.advance now msg address

end Spooler

end Nchan.Spool
