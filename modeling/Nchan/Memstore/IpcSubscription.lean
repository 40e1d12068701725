import Nchan.Lib.Run

/-! # A worker's subscription to the owner of a channel

One channel, the worker that owns it and one other worker with subscribers of its own.  The
other worker's chanhead is fed by an ipc subscriber that the owner keeps in the channel's
spooler.  The two talk by alerts, one FIFO in each direction: `subscribe`,
`subscribe_reply`, the two kinds of release, `subscriber_keepalive` with its reply, and
`unsubscribed`.

The channel is not a multi-channel, shared memory does not run out, the channel is not deleted
and the workers do not exit; `redis` says whether the chanhead's location stores it in Redis.
Chanheads and ipc subscribers are known by the order in which they are made.  A failed assert and
a use of a freed ipc subscriber are `none`.
-/

namespace Nchan.Memstore.IpcSubscription

/-- `chanhead_pubsub_status_t`, as far as a chanhead away from its owner takes it. -/
inductive Status where
  | notready | waiting | ready | inactive
  deriving DecidableEq

/-- `memstore_channel_head_t` on a worker that does not own the channel.  `shared` says whether
    the pointer to the shared channel data is set. -/
structure Chanhead where
  address : Nat
  status : Status
  foreignOwnerIpcSub : Option Nat
  shared : Bool
  subCount : Nat
  internalSubCount : Nat
  lastSubscribedLocal : Int
  inGcQueue : Bool
  deriving DecidableEq

/-- The other worker: its chanhead of the channel and how many it has made. -/
structure Worker where
  chanhead : Option Chanhead
  created : Nat
  deriving DecidableEq

/-- `sub_data_t` of an ipc subscriber, with the reservations of the internal subscriber. -/
structure IpcSub where
  foreignChanhead : Nat
  unhooked : Bool
  timerSet : Bool
  alreadyDequeued : Bool
  reserved : Nat
  deriving DecidableEq

/-- The owner: its ipc subscribers for the other worker, where `none` is one that has been
    destroyed or not been made yet, and the reservations of the channel's chanhead. -/
structure Owner where
  subs : Nat → Option IpcSub
  created : Nat
  chanheadReserved : Int

/-- `keepalive_reply_action_t`. -/
inductive ReplyAction where
  | norenew | renew | unhookNorenew
  deriving DecidableEq

inductive ToOwner where
  | subscribe (originChanhead : Nat)
  | subscribeChanheadRelease
  | subscribeChanheadNevermindRelease (sub : Nat)
  | subscriberKeepaliveReply (sub : Nat) (replyAction : ReplyAction)
  deriving DecidableEq

inductive ToWorker where
  | subscribeReply (originChanhead sub : Nat)
  | subscriberKeepalive (originator sub : Nat)
  | unsubscribed
  deriving DecidableEq

structure State where
  worker : Worker
  owner : Owner
  toOwner : List ToOwner
  toWorker : List ToWorker

def State.initial : State := ⟨⟨none, 0⟩, ⟨fun _ => none, 0, 0⟩, [], []⟩

/-- `MEMSTORE_IPC_SUBSCRIBER_TIMEOUT`, in seconds. -/
def subscriberTimeout : Int := 5

/-! ## The worker's side -/

namespace Chanhead

/-- A chanhead as `chanhead_memstore_create` leaves it. -/
def create (address : Nat) : Chanhead := ⟨address, .notready, none, false, 0, 0, 0, false⟩

/-- `memstore_ensure_chanhead_is_ready`, with the alerts it sends. -/
def ensureReady (ipcSubscribeIfNeeded : Bool) (head : Chanhead) : Chanhead × List ToOwner :=
  -- a recycled chanhead is withdrawn from the gc queue, its status is left alone
  let head := { head with inGcQueue := false }
  match head.foreignOwnerIpcSub with
  | none =>
    if head.status ≠ .waiting then
      ({ head with status := .waiting },
        if ipcSubscribeIfNeeded then [.subscribe head.address] else [])
    else (head, [])
  | some _ =>
    if head.status = .waiting then ({ head with status := .ready }, []) else (head, [])

/-- `chanhead_gc_add` on a worker that does not own the channel.  One that waits for its owner is
    not collected yet, except with Redis. -/
def gcAdd (redis : Bool) (head : Chanhead) : Option Chanhead :=
  if head.foreignOwnerIpcSub ≠ none then none
  else
    let head := { head with shared := false }
    if head.status = .waiting ∧ ¬ redis then some head
    else if head.inGcQueue then some head
    else some { head with status := .inactive, inGcQueue := true }

/-- `assert(head->sub_count >= head->internal_sub_count)`. -/
def assertCounted (head : Chanhead) : Option Chanhead :=
  if head.internalSubCount ≤ head.subCount then some head else none

/-- `memstore_spooler_add_handler` and, for other than internal subscribers,
    `memstore_spooler_use_handler`; a shared chanhead must be ready. -/
def spoolerAdd (internal : Bool) (now : Int) (head : Chanhead) : Option Chanhead :=
  if head.shared ∧ head.status ≠ .ready then none
  else
    let head := { head with subCount := head.subCount + 1 }
    if internal then { head with internalSubCount := head.internalSubCount + 1 }.assertCounted
    else { head with lastSubscribedLocal := now }.assertCounted

/-- `memstore_spooler_bulk_dequeue_handler` for one subscriber. -/
def spoolerDequeue (redis internal : Bool) (head : Chanhead) : Option Chanhead :=
  let internalSubCount := if internal then head.internalSubCount - 1 else head.internalSubCount
  let head := { head with subCount := head.subCount - 1, internalSubCount := internalSubCount }
  head.assertCounted.bind fun head =>
    if head.subCount = 0 ∧ head.foreignOwnerIpcSub = none then gcAdd redis head else some head

def hasSubscriber (internal : Bool) (head : Chanhead) : Bool :=
  if internal then 0 < head.internalSubCount else head.internalSubCount < head.subCount

/-- `nchan_memstore_chanhead_ready_to_reap`, with the time it takes left to the environment. -/
def readyToReap (head : Chanhead) : Bool :=
  head.inGcQueue ∧ head.status = .inactive ∧ head.subCount = 0

/-- The answer of `receive_subscriber_keepalive` for a chanhead that is ready. -/
def keepaliveAction (sub : Nat) (now : Int) (head : Chanhead) : ReplyAction :=
  if head.foreignOwnerIpcSub ≠ some sub then .unhookNorenew
  else if head.subCount = 0 then
    if now - head.lastSubscribedLocal > subscriberTimeout then .norenew else .renew
  else .renew

end Chanhead

namespace Worker

/-- `nchan_memstore_find_chanhead`. -/
def findChanhead (w : Worker) : Option Chanhead × List ToOwner :=
  match w.chanhead with
  | none => (none, [])
  | some head => (some (head.ensureReady true).1, (head.ensureReady true).2)

def withChanhead (w : Worker) : Chanhead × Worker :=
  match w.chanhead with
  | none => (.create w.created, ⟨some (.create w.created), w.created + 1⟩)
  | some head => (head, w)

/-- `nchan_memstore_get_chanhead`, and `nchan_memstore_get_chanhead_no_ipc_sub`. -/
def getChanhead (ipcSub : Bool) (w : Worker) : Chanhead × Worker × List ToOwner :=
  let (head, w) := w.withChanhead
  let (head, alerts) := head.ensureReady ipcSub
  (head, w, alerts)

def set (head : Chanhead) (w : Worker) : Worker := { w with chanhead := some head }

/-- `receive_subscribe_reply`. -/
def receiveSubscribeReply (originChanhead sub : Nat) (w : Worker) :
    Option (Worker × List ToOwner) :=
  let (head, w, alerts) := w.getChanhead false
  if head.address ≠ originChanhead then
    some (w.set head, alerts ++ [.subscribeChanheadNevermindRelease sub])
  -- the subscribers so far are counted in the shared data now
  else if ¬ head.shared ∧ head.subCount < head.internalSubCount then none
  else
    let head := { head with shared := true }
    -- another subscriber feeds the chanhead already, this one is sent away
    if head.foreignOwnerIpcSub ≠ none ∧ head.foreignOwnerIpcSub ≠ some sub then
      some (w.set { head with status := .ready },
        alerts ++ [.subscribeChanheadNevermindRelease sub])
    else
      some (w.set { head with foreignOwnerIpcSub := some sub, status := .ready },
        alerts ++ [.subscribeChanheadRelease])

/-- `receive_subscriber_keepalive`.  A chanhead that is not ready is force-deleted, which
    asserts that the worker owns the channel. -/
def receiveSubscriberKeepalive (originator sub : Nat) (now : Int) (w : Worker) :
    Option (Worker × List ToOwner) :=
  match w.findChanhead with
  | (none, alerts) => some (w, alerts ++ [.subscriberKeepaliveReply sub .norenew])
  | (some head, alerts) =>
    if head.address ≠ originator then
      some (w.set head, alerts ++ [.subscriberKeepaliveReply sub .unhookNorenew])
    else if head.status ≠ .ready then none
    else
      some (w.set head, alerts ++ [.subscriberKeepaliveReply sub (head.keepaliveAction sub now)])

/-- `receive_unsubscribed`. -/
def receiveUnsubscribed (redis : Bool) (w : Worker) : Option (Worker × List ToOwner) :=
  match w.findChanhead with
  | (none, alerts) => some (w, alerts)
  | (some head, alerts) =>
    let head := { head with foreignOwnerIpcSub := none }
    if head.subCount = 0 then (head.gcAdd redis).map fun head => (w.set head, alerts)
    else some (w.set head, alerts)

/-- What the worker does with an alert that reaches it at the time `now`. -/
def receive (redis : Bool) (now : Int) (alert : ToWorker) (w : Worker) :
    Option (Worker × List ToOwner) :=
  match alert with
  | .subscribeReply originChanhead sub => w.receiveSubscribeReply originChanhead sub
  | .subscriberKeepalive originator sub => w.receiveSubscriberKeepalive originator sub now
  | .unsubscribed => w.receiveUnsubscribed redis

def join (internal : Bool) (now : Int) (w : Worker) : Option (Worker × List ToOwner) :=
  let (head, w, alerts) := w.getChanhead true
  (head.spoolerAdd internal now).map fun head => (w.set head, alerts)

def leave (redis internal : Bool) (w : Worker) : Option Worker :=
  match w.chanhead with
  | none => some w
  | some head =>
    if head.hasSubscriber internal then (head.spoolerDequeue redis internal).map w.set else some w

def reap (w : Worker) : Worker :=
  match w.chanhead with
  | none => w
  | some head => if head.readyToReap then { w with chanhead := none } else w

end Worker

/-! ## The owner's side -/

namespace IpcSub

/-- `memstore_ipc_subscriber_create`, which also starts the keepalive timer. -/
def create (foreignChanhead : Nat) : IpcSub := ⟨foreignChanhead, false, true, false, 0⟩

/-- `sub_dequeue`, once for a subscriber. -/
def dequeue (sub : IpcSub) : IpcSub × List ToWorker :=
  if sub.alreadyDequeued then (sub, [])
  else
    ({ sub with timerSet := false, alreadyDequeued := true },
      if sub.unhooked then [] else [.unsubscribed])

/-- `internal_subscriber_release`, and what of the subscriber is left after it. -/
def release (sub : IpcSub) : Option IpcSub :=
  let sub := { sub with reserved := sub.reserved - 1 }
  if sub.alreadyDequeued ∧ sub.reserved = 0 then none else some sub

end IpcSub

namespace Owner

/-- Write to the ipc subscriber `id`. -/
def set (id : Nat) (sub : Option IpcSub) (owner : Owner) : Owner :=
  { owner with subs := Function.update owner.subs id sub }

/-- `receive_subscribe`. -/
def receiveSubscribe (originChanhead : Nat) (owner : Owner) : Owner × List ToWorker :=
  ({ owner.set owner.created (some (.create originChanhead)) with
      created := owner.created + 1
      chanheadReserved := owner.chanheadReserved + 1 },
    [.subscribeReply originChanhead owner.created])

/-- `memstore_chanhead_release`. -/
def chanheadRelease (owner : Owner) : Owner :=
  { owner with chanheadReserved := owner.chanheadReserved - 1 }

/-- `receive_subscribe_chanhead_nevermind_release`: the subscriber is unhooked and answered 410,
    after which it is dequeued, and destroyed if nothing reserves it. -/
def receiveNevermindRelease (id : Nat) (owner : Owner) : Option (Owner × List ToWorker) :=
  (owner.subs id).map fun sub =>
    let (sub, alerts) := { sub with unhooked := true }.dequeue
    ((owner.set id (if sub.reserved = 0 then none else some sub)).chanheadRelease, alerts)

/-- `receive_subscriber_keepalive_reply`. -/
def receiveKeepaliveReply (id : Nat) (replyAction : ReplyAction) (owner : Owner) :
    Option (Owner × List ToWorker) :=
  (owner.subs id).map fun sub =>
    match replyAction with
    | .norenew =>
      let (sub, alerts) := sub.dequeue
      (owner.set id sub.release, alerts)
    | .renew => (owner.set id { sub with timerSet := true }.release, [])
    | .unhookNorenew => (owner.set id { sub with unhooked := true }.release, [])

def receive (alert : ToOwner) (owner : Owner) : Option (Owner × List ToWorker) :=
  match alert with
  | .subscribe originChanhead => some (owner.receiveSubscribe originChanhead)
  | .subscribeChanheadRelease => some (owner.chanheadRelease, [])
  | .subscribeChanheadNevermindRelease id => owner.receiveNevermindRelease id
  | .subscriberKeepaliveReply id replyAction => owner.receiveKeepaliveReply id replyAction

/-- `timeout_ev_handler` of a subscriber whose timer is set; a keepalive reserves it. -/
def timeoutEvHandler (id : Nat) (owner : Owner) : Owner × List ToWorker :=
  match owner.subs id with
  | none => (owner, [])
  | some sub =>
    if sub.timerSet then
      if sub.unhooked then (owner.set id (some { sub with timerSet := false }), [])
      else
        (owner.set id (some { sub with timerSet := false, reserved := sub.reserved + 1 }),
          [.subscriberKeepalive sub.foreignChanhead id])
    else (owner, [])

end Owner

/-! ## The two together -/

/-- What happens next.  `now` is the worker's clock. -/
inductive Op where
  | join (internal : Bool) (now : Int)
  | leave (internal : Bool)
  | reap
  | keepaliveTimer (sub : Nat)
  | deliverToOwner
  | deliverToWorker (now : Int)
  deriving DecidableEq

def State.worked (s : State) (result : Worker × List ToOwner) : State :=
  { s with worker := result.1, toOwner := s.toOwner ++ result.2 }

def State.owned (s : State) (result : Owner × List ToWorker) : State :=
  { s with owner := result.1, toWorker := s.toWorker ++ result.2 }

/-- One step, without Redis; a delivery with nothing in flight changes nothing. -/
def Op.apply (op : Op) (s : State) : Option State :=
  match op with
  | .join internal now => (s.worker.join internal now).map s.worked
  | .leave internal => (s.worker.leave false internal).map fun w => { s with worker := w }
  | .reap => some { s with worker := s.worker.reap }
  | .keepaliveTimer sub => some (s.owned (s.owner.timeoutEvHandler sub))
  | .deliverToOwner =>
    match s.toOwner with
    | [] => some s
    | alert :: rest => (s.owner.receive alert).map { s with toOwner := rest }.owned
  | .deliverToWorker now =>
    match s.toWorker with
    | [] => some s
    | alert :: rest => (s.worker.receive false now alert).map { s with toWorker := rest }.worked

end Nchan.Memstore.IpcSubscription
