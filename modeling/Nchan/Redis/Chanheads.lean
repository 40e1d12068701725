import Nchan.Lib.Run

/-! # The channels of a worker

A worker keeps the channels of all its Redis nodesets in one table, by their ids only.  A channel
that is looked up for a nodeset is made for it if it is not in the table, but what is found may
belong to another one.  Everything that is sent for a channel goes to the nodeset it was made for.

The subscribers of these channels are those of the memstore's channel heads.  The memstore has a
table of its own, which is by ids only as well.  It adds its clients to the channel head that it
finds there and, where Redis is a backup, publishes to it.

The spoolers are a parameter: one is started for each channel, and tells its channel what it does
with the subscribers it was given.  Nodes that disconnect are left out.
-/

namespace Nchan.Redis

open Nchan.Lib

inductive Item (μ : Type) where
  | message (m : μ)
  | status (code : Nat)
  /-- `NCHAN_NOTICE_REDIS_CHANNEL_MESSAGE_BUFFER_SIZE_CHANGE` -/
  | bufferSize (size : Int)
  /-- `NCHAN_NOTICE_SUBSCRIBER_INFO_REQUEST` -/
  | subscriberInfo (request : Nat)

inductive SpoolInput (ι μ ρ : Type) where
  | add (sub : ι)
  | remove (sub : ι)
  /-- `respond_message`, `broadcast_status` or `broadcast_notice` -/
  | give (item : Item μ)
  /-- `handle_channel_status_change` -/
  | channelStatus
  /-- The answer to a `get_message` of the spooler. -/
  | fetched (reply : ρ)

/-- What a spooler does: it calls the handlers of the channel, and serves subscribers. -/
inductive SpoolEffect (ι μ : Type) where
  | delivered (sub : ι) (item : Item μ)
  | added (sub : ι)
  | dequeued (sub : ι)
  | fetchStarted
  | fetchFinished

/-- The spoolers that are started for the channels of a nodeset. -/
structure Spooling (ν σ ι μ ρ : Type) where
  started : ν → σ
  react : SpoolInput ι μ ρ → σ → σ × List (SpoolEffect ι μ)

inductive StorageMode where
  | backup | distributed | distributedNostore
  deriving DecidableEq

inductive ChanheadStatus where
  | notReady | ready | inactive
  deriving DecidableEq

inductive PubsubStatus where
  | unsubscribed | subscribing | subscribed
  deriving DecidableEq

/-- `rdstore_channel_head_t`. -/
structure Chanhead (ν σ ι : Type) where
  nodeset : ν
  spooler : σ
  /-- There are `sub_count` of them. -/
  subs : List ι
  registering : List ι
  reserved : Nat
  /-- `fetching_message_count` -/
  fetching : Nat
  status : ChanheadStatus
  pubsub : PubsubStatus

inductive Command (ι : Type) where
  | subscribe | unsubscribe
  | register (sub : ι)
  | unregister (sub : ι)
  | keepalive (subs : List ι)
  | getMessageFromKey
  | publish | delete

inductive Output (ν ι μ : Type) where
  | delivered (sub : ι) (item : Item μ)
  /-- A client comes to the memstore's channel head that has this subscriber, or leaves it. -/
  | client (sub client : ι) (comes : Bool)
  | sent (command : Command ι) (target : ν)

/-- The channel that is left after something was done, and what came of that; nothing if an
    assertion failed. -/
abbrev Reaction (ν σ ι μ : Type) := Option (Option (Chanhead ν σ ι) × List (Output ν ι μ))

variable {ν σ ι μ ρ κ : Type}

def Reaction.andThen (r : Reaction ν σ ι μ) (f : Chanhead ν σ ι → Reaction ν σ ι μ) :
    Reaction ν σ ι μ :=
  r.bind fun (left, first) =>
    match left with
    | none => some (none, first)
    | some head => (f head).map fun (left, second) => (left, first ++ second)

/-- How the worker is configured: the nodeset of the location of every subscriber, be it a client or
    that of a channel head which was made for the location, the modes of the nodesets, and the
    spoolers. -/
structure Worker (ν σ ι μ ρ : Type) where
  location : ι → ν
  mode : ν → StorageMode
  spooling : Spooling ν σ ι μ ρ

namespace Chanhead

/-! ## Handlers of the spooler -/

/-- `redis_chanhead_gc_add`. -/
def gcAdd (head : Chanhead ν σ ι) : Reaction ν σ ι μ :=
  if head.subs = [] then some (some { head with status := .inactive }, []) else none

/-- `redis_subscriber_register`, when the subscriber has been added. -/
def register (ready : Bool) (sub : ι) (head : Chanhead ν σ ι) : Reaction ν σ ι μ :=
  let head := { head with subs := head.subs ++ [sub] }
  if ready then
    some (some { head with registering := head.registering ++ [sub] },
      [.sent (.register sub) head.nodeset])
  else some (some head, [])

/-- `spooler_dequeue_handler`. -/
def dequeue [DecidableEq ι] (ready : Bool) (sub : ι) (head : Chanhead ν σ ι) : Reaction ν σ ι μ :=
  let sent := if ready then [.sent (.unregister sub) head.nodeset] else []
  Reaction.andThen (some (some { head with subs := head.subs.erase sub }, sent)) fun left =>
    if left.subs = [] ∧ left.fetching = 0 then left.gcAdd else some (some left, [])

/-- One effect of the spooler.  It serves its own subscribers only, and adds the one it was given. -/
def effect [DecidableEq ι] (ready : Bool) (joining : Option ι) (head : Chanhead ν σ ι) :
    SpoolEffect ι μ → Reaction ν σ ι μ
  | .delivered sub item =>
    if sub ∈ head.subs then some (some head, [.delivered sub item]) else none
  | .added sub => if joining = some sub then head.register ready sub else none
  | .dequeued sub => if sub ∈ head.subs then head.dequeue ready sub else none
  | .fetchStarted => some (some { head with fetching := head.fetching + 1 }, [])
  | .fetchFinished =>
    if 0 < head.fetching then some (some { head with fetching := head.fetching - 1 }, []) else none

def effects [DecidableEq ι] (ready : Bool) (joining : Option ι) (head : Chanhead ν σ ι) :
    List (SpoolEffect ι μ) → Reaction ν σ ι μ
  | [] => some (some head, [])
  | e :: es => (head.effect ready joining e).andThen fun head => head.effects ready joining es

/-! ## Timers -/

/-- `redis_channel_keepalive_timer_handler`. -/
def keepalive (ready : Bool) (head : Chanhead ν σ ι) : Reaction ν σ ι μ :=
  if head.pubsub ≠ .subscribed ∨ head.status = .notReady ∨ ¬ ready then some (some head, [])
  else
    some (some { head with reserved := head.reserved + 1 },
      [.sent (.keepalive head.subs) head.nodeset])

/-- `nchan_redis_chanhead_ready_to_reap`, when the time has come. -/
def readyToReap (head : Chanhead ν σ ι) : Bool :=
  head.status = .inactive && head.registering.isEmpty && head.reserved = 0 && head.subs.isEmpty &&
    head.fetching = 0

end Chanhead

namespace Worker

variable [DecidableEq ι] (w : Worker ν σ ι μ ρ)

def joining : SpoolInput ι μ ρ → Option ι
  | .add sub => some sub
  | _ => none

def spool (ready : Bool) (input : SpoolInput ι μ ρ) (head : Chanhead ν σ ι) : Reaction ν σ ι μ :=
  let (spooler, done) := w.spooling.react input head.spooler
  { head with spooler := spooler }.effects ready (joining input) done

/-! ## Looking up a channel -/

/-- `ensure_chanhead_pubsub_subscribed_if_needed`. -/
def ensurePubsubSubscribed (ready : Bool) (head : Chanhead ν σ ι) : Reaction ν σ ι μ :=
  if head.pubsub = .unsubscribed ∧ w.mode head.nodeset ≠ .backup ∧ ready then
    some (some { head with pubsub := .subscribing }, [.sent .subscribe head.nodeset])
  else some (some head, [])

/-- `create_chanhead`. -/
def createChanhead (ready : Bool) (nodeset : ν) : Reaction ν σ ι μ :=
  w.ensurePubsubSubscribed ready
    { nodeset := nodeset
      spooler := w.spooling.started nodeset
      subs := []
      registering := []
      reserved := 0
      fetching := 0
      status := if w.mode nodeset = .backup then .ready else .notReady
      pubsub := .unsubscribed }

def recycledStatus (head : Chanhead ν σ ι) : ChanheadStatus :=
  if w.mode head.nodeset = .backup then .ready
  else if head.pubsub = .subscribed then .ready else .notReady

/-- `nchan_store_get_chanhead`, with what is in the table under the id. -/
def getChanhead (ready : Bool) (nodeset : ν) : Option (Chanhead ν σ ι) → Reaction ν σ ι μ
  | none => w.createChanhead ready nodeset
  | some head =>
    if head.status = .inactive then
      (w.ensurePubsubSubscribed ready head).andThen fun head =>
        some (some { head with status := w.recycledStatus head }, [])
    else some (some head, [])

/-- `nchan_store_publish_generic`. -/
def publishGeneric (ready : Bool) (nodeset : ν) (item : Item μ) (found : Option (Chanhead ν σ ι)) :
    Reaction ν σ ι μ :=
  (w.getChanhead ready nodeset found).andThen fun head =>
    if head.subs ≠ [] then w.spool ready (.give item) head else some (some head, [])

/-- `get_msg_from_msgkey`. -/
def getMsgFromMsgkey (ready : Bool) (nodeset : ν) (found : Option (Chanhead ν σ ι)) :
    Reaction ν σ ι μ :=
  (w.getChanhead ready nodeset found).andThen fun head =>
    some (some head, if head.subs ≠ [] ∧ ready then [.sent .getMessageFromKey nodeset] else [])

/-! ## What happens -/

end Worker

inductive Notified (μ : Type) where
  | msg (m : μ)
  | msgkey

inductive ChannelAction (ι μ ρ : Type) where
  /-- A client comes or leaves, and its channel head is looked up in the table of the memstore. -/
  | client (client : ι) (comes : Bool)
  | forget
  /-- The memstore subscribes for a channel head, mostly a new one. -/
  | subscribe (sub : ι)
  | leave (sub : ι)
  | publish (m : μ)
  | delete
  /-- A message was published, and maybe the size of the buffer has changed. -/
  | notified (size : Option Int) (message : Notified μ)
  /-- The answer to `get_message_from_key`. -/
  | keyMessage (m : μ)
  | deleteAlert
  | unsubAllAlert
  | subscriberInfoAlert (request : Nat)
  | subscribed
  | unsubscribed
  /-- The answer to the registration of a subscriber, which may tell the size of the buffer. -/
  | registered (sub : ι) (size : Option Int)
  | keepaliveTimer
  | keepaliveReply
  | spoolReply (reply : ρ)
  | reap

/-- Something that happens for a channel of a location, which uses the nodeset.  If a command would
    be sent then its nodeset is ready or not. -/
structure ChannelEvent (ν κ ι μ ρ : Type) where
  nodeset : ν
  chid : κ
  ready : Bool
  action : ChannelAction ι μ ρ

def ChannelAction.looksUp : ChannelAction ι μ ρ → Bool
  | .subscribe _ | .notified .. | .keyMessage _ | .deleteAlert | .unsubAllAlert
  | .subscriberInfoAlert _ | .subscribed | .unsubscribed => true
  | _ => false

def ChannelAction.looksUpFront (mode : StorageMode) : ChannelAction ι μ ρ → Bool
  | .client .. => true
  | .publish _ | .delete => mode = .backup
  | _ => false

/-- The subscriber of the memstore's channel head afterwards. -/
def ChannelAction.front (front : Option ι) : ChannelAction ι μ ρ → Option ι
  | .subscribe sub => some sub
  | .forget => none
  | _ => front

namespace Worker

variable [DecidableEq ι] (w : Worker ν σ ι μ ρ)

/-- `redis_subscriber_callback` for a message: a change of the size makes a channel, the message
    itself does not. -/
def notify (ready : Bool) (nodeset : ν) (size : Option Int) (message : Notified μ)
    (found : Option (Chanhead ν σ ι)) : Reaction ν σ ι μ :=
  let noticed : Reaction ν σ ι μ :=
    match size with
    | some size =>
      (w.getChanhead ready nodeset found).andThen (w.spool ready (.give (.bufferSize size)))
    | none => some (found, [])
  noticed.andThen fun head =>
    match message with
    | .msg m => w.publishGeneric ready head.nodeset (.message m) (some head)
    | .msgkey => w.getMsgFromMsgkey ready head.nodeset (some head)

/-- `redis_chanhead_set_pubsub_status`, for `REDIS_PUBSUB_SUBSCRIBED`. -/
def setSubscribed (ready : Bool) (head : Chanhead ν σ ι) : Reaction ν σ ι μ :=
  let head := { head with pubsub := .subscribed }
  if head.status = .notReady then w.spool ready .channelStatus { head with status := .ready }
  else some (some head, [])

/-- `redis_chanhead_set_pubsub_status`, for `REDIS_PUBSUB_UNSUBSCRIBED`. -/
def setUnsubscribed (ready : Bool) (head : Chanhead ν σ ι) : Reaction ν σ ι μ :=
  if head.pubsub = .unsubscribed then some (some head, [])
  else
    let head := { head with pubsub := .unsubscribed }
    if w.mode head.nodeset = .backup ∧ head.status = .ready then
      w.spool ready .channelStatus { head with status := .notReady }
    else some (some head, [])

def pointed [DecidableEq ν] (nodeset : ν) (found : Option (Chanhead ν σ ι)) :
    Option (Chanhead ν σ ι) :=
  found.filter fun head => head.nodeset = nodeset

/-- `nchan_store_publish_message_to_single_channel_id` and `nchan_store_delete_single_channel_id`: a
    command is sent and, if Redis is a backup, the memstore does it as well. -/
def passOn (ready : Bool) (nodeset : ν) (found : Option (Chanhead ν σ ι)) (front : Option ι)
    (command : Command ι) (item : Item μ) : Reaction ν σ ι μ :=
  some (found, (if ready then [.sent command nodeset] else []) ++
    if w.mode nodeset = .backup then front.toList.map (.delivered · item) else [])

/-- What an event does with the channel in the table, if there is one, and what comes of it.  `front`
    is the subscriber of the channel head that the memstore has. -/
def act [DecidableEq ν] (nodeset : ν) (ready : Bool) (found : Option (Chanhead ν σ ι))
    (front : Option ι) : ChannelAction ι μ ρ → Reaction ν σ ι μ
  | .client client comes =>
    front.bind fun sub =>
      if w.location client = nodeset then some (found, [.client sub client comes]) else none
  | .forget => if front.any (w.location · = nodeset) then some (found, []) else none
  | .subscribe sub =>
    if w.location sub = nodeset ∧ (front = none ∨ front = some sub) then
      (w.getChanhead ready nodeset found).andThen (w.spool ready (.add sub))
    else none
  | .leave sub =>
    -- the channel is that of the spool, whatever nodeset it has
    found.bind fun head =>
      if w.location sub = nodeset ∧ sub ∈ head.subs then w.spool ready (.remove sub) head else none
  | .publish m => w.passOn ready nodeset found front .publish (.message m)
  | .delete => w.passOn ready nodeset found front .delete (.status 410)
  | .notified size message => w.notify ready nodeset size message found
  | .keyMessage m => w.publishGeneric ready nodeset (.message m) found
  | .deleteAlert =>
    (w.publishGeneric ready nodeset (.status 410) found).andThen fun head =>
      (w.getChanhead ready nodeset (some head)).andThen Chanhead.gcAdd
  | .unsubAllAlert => w.publishGeneric ready nodeset (.status 409) found
  | .subscriberInfoAlert request =>
    (w.getChanhead ready nodeset found).andThen (w.spool ready (.give (.subscriberInfo request)))
  | .subscribed => Reaction.andThen (some (found, [])) (w.setSubscribed ready)
  | .unsubscribed => Reaction.andThen (some (found, [])) (w.setUnsubscribed ready)
  | .registered sub size =>
    (pointed nodeset found).bind fun head =>
      if sub ∈ head.registering then
        some (some { head with registering := head.registering.erase sub },
          (size.map fun size => .delivered sub (.bufferSize size)).toList)
      else none
  | .keepaliveTimer => (pointed nodeset found).bind fun head => head.keepalive ready
  | .keepaliveReply =>
    (pointed nodeset found).bind fun head =>
      if 0 < head.reserved then some (some { head with reserved := head.reserved - 1 }, []) else none
  | .spoolReply reply =>
    (pointed nodeset found).bind fun head => w.spool ready (.fetched reply) head
  | .reap =>
    (pointed nodeset found).bind fun head =>
      if head.readyToReap then
        some (none, if head.pubsub = .subscribed then [.sent .unsubscribe head.nodeset] else [])
      else none

end Worker

/-- The table, the memstore's table with the subscribers of its channel heads, and what came of every
    event, with the nodeset of its location. -/
structure Chanheads (ν κ σ ι μ : Type) where
  table : κ → Option (Chanhead ν σ ι)
  front : κ → Option ι
  log : List (ν × Output ν ι μ)

def Chanheads.start : Chanheads ν κ σ ι μ := ⟨fun _ => none, fun _ => none, []⟩

def Worker.step [DecidableEq ν] [DecidableEq κ] [DecidableEq ι] (w : Worker ν σ ι μ ρ)
    (e : ChannelEvent ν κ ι μ ρ) (s : Chanheads ν κ σ ι μ) : Option (Chanheads ν κ σ ι μ) :=
  (w.act e.nodeset e.ready (s.table e.chid) (s.front e.chid) e.action).map fun (left, out) =>
    { table := Function.update s.table e.chid left
      front := Function.update s.front e.chid (e.action.front (s.front e.chid))
      log := s.log ++ out.map fun o => (e.nodeset, o) }

end Nchan.Redis
