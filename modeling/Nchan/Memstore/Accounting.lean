import Nchan.Lib.Table
import Nchan.Memstore.Groups
import Nchan.Memstore.SharedGroup

/-! # Accounting of a group on several workers

One group with the counters and limits that all workers share, and on every worker the
group's node, the chanheads with their messages and subscribers, and the updates and requests
that wait for the group.  What the workers exchange is as in `Groups`; here the chanheads a
node lists are a list of ids, and what matters is what is counted and who is called back.
-/

namespace Nchan.Memstore.Accounting

open Nchan.Lib
open Nchan.Memstore.Groups (Layout Alert maxGetgroupWaitTimeBeforeRetry)

/-- `memstore_channel_head_t`: the buffered messages, and how many subscribers are of the
    clients and how many `INTERNAL`. -/
structure Chanhead where
  messages : List Message
  subscribers : Nat
  internalSubscribers : Nat
  deriving DecidableEq

/-- What waits for the group: updates of the counters, something that looks at the group, and
    new limits for it or its deletion.  A group request is called back when its turn has come;
    publishers and subscribers look and set limits without one. -/
inductive Callback where
  | addChannel (multi selfOwned : Bool) (n : Int)
  | addMessage (memSz fileSz : Nat) (n : Int)
  | addSubscribers (n : Int)
  | groupFind (request : Option Nat)
  | setLimits (request : Option Nat) (limits : GroupLimits)
  | groupDelete (request : Nat)
  deriving DecidableEq

/-- `group_tree_node_t`; `group` says whether the pointer to the shared group is known. -/
structure Node (C : Type) where
  group : Bool
  whenReady : List Callback
  gettingGroup : Int
  ownedChanheads : List C
  deriving DecidableEq

structure Worker (C : Type) where
  node : Option (Node C)
  chanheads : Table C Chanhead
  deriving DecidableEq

structure View (C : Type) where
  worker : Worker C
  group : SharedGroup

/-- What comes of it: alerts to other workers, and the group requests that are called back. -/
structure Sent (W : Type) where
  alerts : Out W Alert
  called : List Nat

variable {W C : Type} [DecidableEq W] [DecidableEq C]

/-- What a worker does: it fails an assert, or changes what it works on and sends alerts. -/
abbrev Act (W C : Type) := View C → Option (View C × Sent W)

namespace Sent

def none : Sent W := ⟨Out.none, []⟩

def alert (out : Out W Alert) : Sent W := ⟨out, []⟩

def call (requests : List Nat) : Sent W := ⟨Out.none, requests⟩

def andThen (first second : Sent W) : Sent W :=
  ⟨first.alerts.andThen second.alerts, first.called ++ second.called⟩

end Sent

def Act.andThen (first second : Act W C) : Act W C := fun v => do
  let (v, out) ← first v
  let (v, out') ← second v
  some (v, out.andThen out')

def Act.nothing : Act W C := fun v => some (v, Sent.none)

namespace View

@[simp] def setNode (node : Node C) (v : View C) : View C :=
  { v with worker := { v.worker with node := some node } }

/-- Write to the chanhead of `c`. -/
def set (c : C) (ch : Chanhead) (v : View C) : View C :=
  { v with worker := { v.worker with chanheads := v.worker.chanheads.set c ch } }

end View

/-! ## Counting -/

/-- `APPLY_GROUP_LIMIT_IF_SET`. -/
def applyLimit (new old : Int) : Int := if new ≠ -1 then new else old

/-- `set_group_limits_callback` with the group at hand. -/
def applyLimits (new old : GroupLimits) : GroupLimits where
  channels := applyLimit new.channels old.channels
  subscribers := applyLimit new.subscribers old.subscribers
  messages := applyLimit new.messages old.messages
  messagesShmemBytes := applyLimit new.messagesShmemBytes old.messagesShmemBytes
  messagesFileBytes := applyLimit new.messagesFileBytes old.messagesFileBytes

/-- A callback with the group at hand, as far as it writes to the group. -/
def Callback.applyTo (cb : Callback) (group : SharedGroup) : SharedGroup :=
  match cb with
  | .addChannel multi selfOwned n =>
    { group with count := groupAddChannelInternal multi selfOwned n group.count }
  | .addMessage memSz fileSz n =>
    { group with count := groupAddMessageInternal memSz fileSz n group.count }
  | .addSubscribers n => { group with count := groupAddSubscribersInternal n group.count }
  | .setLimits _ limits => { group with limit := applyLimits limits group.limit }
  | .groupFind _ | .groupDelete _ => group

/-- The request that is called back, with a group or without. -/
def Callback.request : Callback → List Nat
  | .groupFind request | .setLimits request _ => request.toList
  | .groupDelete request => [request]
  | _ => []

/-- `add_whenready_callback`. -/
def addWhenreadyCallback (layout : Layout W C) (now : Int) (cb : Callback) : Act W C := fun v => do
  let node ← v.worker.node
  let node := { node with whenReady := node.whenReady ++ [cb] }
  if now - node.gettingGroup > maxGetgroupWaitTimeBeforeRetry then
    some (v.setNode { node with gettingGroup := now },
      Sent.alert (Out.send layout.groupOwner .getGroup))
  else some (v.setNode node, Sent.none)

/-- What only writes to the group or looks at it, now or when the group arrives. -/
def whenReady (layout : Layout W C) (now : Int) (cb : Callback) : Act W C := fun v => do
  let node ← v.worker.node
  if node.group then some ({ v with group := cb.applyTo v.group }, Sent.call cb.request)
  else addWhenreadyCallback layout now cb v

/-- `memstore_group_add_channel_generic`. -/
def memstoreGroupAddChannelGeneric (layout : Layout W C) (w : W) (now : Int) (c : C) (n : Int) :
    Act W C :=
  whenReady layout now (.addChannel (layout.multi c) (layout.owns w c) n)

/-- `memstore_group_add_message_generic`. -/
def memstoreGroupAddMessageGeneric (sizes : Sizes) (layout : Layout W C) (now : Int) (m : Message)
    (n : Int) : Act W C :=
  whenReady layout now (.addMessage (memstoreMsgMemsize sizes m) (msgFilesize m) n)

/-- `memstore_group_add_subscribers`. -/
def memstoreGroupAddSubscribers (layout : Layout W C) (now : Int) (n : Int) : Act W C :=
  whenReady layout now (.addSubscribers n)

/-! ## Messages and subscribers -/

/-- The channel's messages are here: it is a single channel that the worker owns. -/
def holdsMessages (layout : Layout W C) (w : W) (c : C) : Bool :=
  !layout.multi c && layout.channelOwner c = w

/-- `chanhead_push_message`. -/
def chanheadPushMessage (sizes : Sizes) (layout : Layout W C) (now : Int) (c : C) (m : Message) :
    Act W C := fun v => do
  let ch ← v.worker.chanheads.get c
  memstoreGroupAddMessageGeneric sizes layout now m 1
    (v.set c { ch with messages := ch.messages ++ [m] })

/-- `chanhead_delete_message` of the first message. -/
def chanheadDeleteMessage (sizes : Sizes) (layout : Layout W C) (now : Int) (c : C) :
    Act W C := fun v => do
  let ch ← v.worker.chanheads.get c
  match ch.messages with
  | [] => Act.nothing v
  | m :: rest =>
    memstoreGroupAddMessageGeneric sizes layout now m (-1) (v.set c { ch with messages := rest })

/-- The first `n` messages, one by one. -/
def deleteMessages (sizes : Sizes) (layout : Layout W C) (now : Int) (c : C) : Nat → Act W C
  | 0 => Act.nothing
  | n + 1 =>
    (chanheadDeleteMessage sizes layout now c).andThen (deleteMessages sizes layout now c n)

/-- `chanhead_messages_delete`: every message of a channel whose messages are here. -/
def chanheadMessagesDelete (sizes : Sizes) (layout : Layout W C) (w : W) (now : Int) (c : C) :
    Act W C := fun v => do
  let ch ← v.worker.chanheads.get c
  if holdsMessages layout w c then deleteMessages sizes layout now c ch.messages.length v
  else Act.nothing v

/-- `memstore_spooler_add_handler`. -/
def memstoreSpoolerAddHandler (layout : Layout W C) (now : Int) (c : C) (internal : Bool) :
    Act W C := fun v => do
  let ch ← v.worker.chanheads.get c
  if internal then
    Act.nothing (v.set c { ch with internalSubscribers := ch.internalSubscribers + 1 })
  else memstoreGroupAddSubscribers layout now 1 (v.set c { ch with subscribers := ch.subscribers + 1 })

/-- `memstore_spooler_bulk_dequeue_handler`. -/
def memstoreSpoolerBulkDequeueHandler (layout : Layout W C) (now : Int) (c : C) (internal : Bool)
    (n : Nat) : Act W C := fun v => do
  let ch ← v.worker.chanheads.get c
  if internal then
    if n ≤ ch.internalSubscribers then
      Act.nothing (v.set c { ch with internalSubscribers := ch.internalSubscribers - n })
    else none
  else if n ≤ ch.subscribers then
    memstoreGroupAddSubscribers layout now (-n) (v.set c { ch with subscribers := ch.subscribers - n })
  else none

/-- `broadcast_status` of a 410: every subscriber is dequeued. -/
def broadcastGone (layout : Layout W C) (now : Int) (c : C) : Act W C := fun v => do
  let ch ← v.worker.chanheads.get c
  ((memstoreSpoolerBulkDequeueHandler layout now c true ch.internalSubscribers).andThen
    (memstoreSpoolerBulkDequeueHandler layout now c false ch.subscribers)) v

/-- `nchan_memstore_force_delete_channel`. -/
def nchanMemstoreForceDeleteChannel (sizes : Sizes) (layout : Layout W C) (w : W) (now : Int)
    (c : C) : Act W C := fun v =>
  if layout.channelOwner c = w then
    match v.worker.chanheads.get c with
    | none => Act.nothing v
    | some _ =>
      ((broadcastGone layout now c).andThen (chanheadMessagesDelete sizes layout w now c)) v
  else none

/-! ## Channels -/

/-- `memstore_groupnode_get`, with `group_owner_create_node` and `group_create_node`. -/
def memstoreGroupnodeGet (layout : Layout W C) (w : W) : Act W C := fun v =>
  match v.worker.node with
  | some _ => Act.nothing v
  | none =>
    if w = layout.groupOwner then
      some (v.setNode ⟨true, [], 0, []⟩, Sent.alert (Out.broadcast w .group))
    else some (v.setNode ⟨false, [], 1, []⟩, Sent.alert (Out.send layout.groupOwner .getGroup))

/-- `memstore_group_associate_own_channel`, for the own channels. -/
def associateIfOwned (layout : Layout W C) (w : W) (c : C) : Act W C := fun v => do
  let node ← v.worker.node
  if holdsMessages layout w c then
    some (v.setNode { node with ownedChanheads := c :: node.ownedChanheads }, Sent.none)
  else Act.nothing v

/-- `memstore_group_dissociate_own_channel`, for the own channels. -/
def dissociateIfOwned (layout : Layout W C) (w : W) (c : C) : Act W C := fun v => do
  let node ← v.worker.node
  if holdsMessages layout w c then
    some (v.setNode { node with ownedChanheads := node.ownedChanheads.filter (· ≠ c) }, Sent.none)
  else Act.nothing v

def enterChanhead (layout : Layout W C) (w : W) (now : Int) (c : C) : Act W C := fun v =>
  memstoreGroupAddChannelGeneric layout w now c 1 (v.set c ⟨[], 0, 0⟩)

/-- `chanhead_memstore_create`, for an id that has no chanhead. -/
def chanheadMemstoreCreate (layout : Layout W C) (w : W) (now : Int) (c : C) : Act W C :=
  (memstoreGroupnodeGet layout w).andThen
    ((enterChanhead layout w now c).andThen (associateIfOwned layout w c))

/-- The chanhead, without messages and subscribers, goes with its count. -/
def dropChanhead (layout : Layout W C) (w : W) (now : Int) (c : C) : Act W C := fun v =>
  memstoreGroupAddChannelGeneric layout w now c (-1)
    { v with worker := { v.worker with chanheads := v.worker.chanheads.erase c } }

/-- `memstore_reap_chanhead`. -/
def memstoreReapChanhead (sizes : Sizes) (layout : Layout W C) (w : W) (now : Int) (c : C) :
    Act W C :=
  (chanheadMessagesDelete sizes layout w now c).andThen
    ((broadcastGone layout now c).andThen
      ((dissociateIfOwned layout w c).andThen (dropChanhead layout w now c)))

/-! ## Deleting the group -/

/-- The loop of `memstore_group_receive_delete` over the own chanheads. -/
def deleteOwned (sizes : Sizes) (layout : Layout W C) (w : W) (now : Int) : List C → Act W C
  | [] => Act.nothing
  | c :: cs =>
    (dissociateIfOwned layout w c).andThen
      ((nchanMemstoreForceDeleteChannel sizes layout w now c).andThen
        (deleteOwned sizes layout w now cs))

/-- `memstore_group_receive_delete`: the waiting callbacks are called without a group, and
    write nothing. -/
def memstoreGroupReceiveDelete (sizes : Sizes) (layout : Layout W C) (w : W) (now : Int) :
    Act W C := fun v =>
  match v.worker.node with
  | none => Act.nothing v
  | some node =>
    Act.andThen
      (fun v => some (v.setNode { node with whenReady := [] },
        Sent.call (node.whenReady.flatMap Callback.request)))
      (deleteOwned sizes layout w now node.ownedChanheads) v

/-- `group_delete_callback` with the group at hand; `d->owned` is whether the worker owns the
    group. -/
def groupDeleteCallback (sizes : Sizes) (layout : Layout W C) (w : W) (now : Int) (request : Nat) :
    Act W C :=
  (if w = layout.groupOwner then memstoreGroupReceiveDelete sizes layout w now
    else Act.nothing).andThen
    fun v => some (v, ⟨Out.broadcast w .groupDelete, [request]⟩)

/-- `memstore_group_find` for what only writes to the group or looks at it. -/
def memstoreGroupFind (layout : Layout W C) (w : W) (now : Int) (cb : Callback) : Act W C :=
  (memstoreGroupnodeGet layout w).andThen (whenReady layout now cb)

/-- `memstore_group_delete`. -/
def memstoreGroupDelete (sizes : Sizes) (layout : Layout W C) (w : W) (now : Int) (request : Nat) :
    Act W C :=
  (memstoreGroupnodeGet layout w).andThen fun v => do
    let node ← v.worker.node
    if node.group then groupDeleteCallback sizes layout w now request v
    else addWhenreadyCallback layout now (.groupDelete request) v

/-! ## Alerts -/

/-- `receive_get_group`: a new group is broadcast anyway. -/
def receiveGetGroup (layout : Layout W C) (sender w : W) : Act W C := fun v =>
  if w = layout.groupOwner then
    match v.worker.node with
    | some _ => some (v, Sent.alert (Out.send sender .group))
    | none => memstoreGroupnodeGet layout w v
  else none

/-- What a callback sends once the group is there, on a worker that does not own it. -/
def Callback.sends (w : W) : Callback → Out W Alert
  | .groupDelete _ => Out.broadcast w .groupDelete
  | _ => Out.none

/-- `call_whenready_callbacks` with the group at hand. -/
def callWhenreadyCallbacks (w : W) : List Callback → Act W C
  | [] => Act.nothing
  | cb :: cbs =>
    Act.andThen
      (fun v => some ({ v with group := cb.applyTo v.group }, ⟨cb.sends w, cb.request⟩))
      (callWhenreadyCallbacks w cbs)

/-- `memstore_group_receive`. -/
def memstoreGroupReceive (layout : Layout W C) (w : W) : Act W C := fun v =>
  if w = layout.groupOwner then none
  else
    match v.worker.node with
    | none => some (v.setNode ⟨true, [], 0, []⟩, Sent.none)
    | some node =>
      callWhenreadyCallbacks w node.whenReady
        (v.setNode { node with group := true, gettingGroup := 0, whenReady := [] })

def handle (sizes : Sizes) (layout : Layout W C) (sender w : W) (now : Int) : Alert → Act W C
  | .getGroup => receiveGetGroup layout sender w
  | .group => memstoreGroupReceive layout w
  | .groupDelete => memstoreGroupReceiveDelete sizes layout w now

/-! ## Runs -/

inductive Op (W C : Type) where
  | create (now : Int) (w : W) (c : C)
  | reap (now : Int) (w : W) (c : C)
  | push (now : Int) (w : W) (c : C) (m : Message)
  | expire (now : Int) (w : W) (c : C)
  | delete (now : Int) (w : W) (c : C)
  | subscribe (now : Int) (w : W) (c : C) (internal : Bool)
  | dequeue (now : Int) (w : W) (c : C) (internal : Bool) (n : Nat)
  | find (now : Int) (w : W) (request : Option Nat)
  | setLimits (now : Int) (w : W) (request : Option Nat) (limits : GroupLimits)
  | deleteGroup (now : Int) (w : W) (request : Nat)
  | deliver (now : Int) (src dst : W)

/-- The workers with the alerts between them, the shared group, and the group requests that have
    been called back so far. -/
structure State (W C : Type) where
  net : Net W (Worker C) Alert
  group : SharedGroup
  called : List Nat

def State.initial (W C : Type) : State W C where
  net := ⟨fun _ => ⟨none, []⟩, fun _ _ => []⟩
  group := ⟨fun _ => 0, ⟨0, 0, 0, 0, 0⟩⟩
  called := []

def State.at (w : W) (act : Act W C) (s : State W C) : Option (State W C) :=
  (act ⟨s.net.node w, s.group⟩).map fun (v, sent) =>
    ⟨s.net.act w v.worker sent.alerts, v.group, s.called ++ sent.called⟩

def State.has (s : State W C) (w : W) (c : C) : Bool := ((s.net.node w).chanheads.get c).isSome

/-- One step.  Chanheads are created for ids without one, and everything else is done to those
    there are; messages are where they are held. -/
def Op.apply (sizes : Sizes) (layout : Layout W C) (op : Op W C) (s : State W C) :
    Option (State W C) :=
  match op with
  | .create now w c => if s.has w c then some s else s.at w (chanheadMemstoreCreate layout w now c)
  | .reap now w c =>
    if s.has w c then s.at w (memstoreReapChanhead sizes layout w now c) else some s
  | .push now w c m =>
    if s.has w c && holdsMessages layout w c then
      s.at w (chanheadPushMessage sizes layout now c m)
    else some s
  | .expire now w c =>
    if s.has w c && holdsMessages layout w c then s.at w (chanheadDeleteMessage sizes layout now c)
    else some s
  | .delete now w c =>
    if holdsMessages layout w c then s.at w (nchanMemstoreForceDeleteChannel sizes layout w now c)
    else some s
  | .subscribe now w c internal =>
    if s.has w c then s.at w (memstoreSpoolerAddHandler layout now c internal) else some s
  | .dequeue now w c internal n =>
    if s.has w c then s.at w (memstoreSpoolerBulkDequeueHandler layout now c internal n) else some s
  | .find now w request => s.at w (memstoreGroupFind layout w now (.groupFind request))
  | .setLimits now w request limits =>
    s.at w (memstoreGroupFind layout w now (.setLimits request limits))
  | .deleteGroup now w request => s.at w (memstoreGroupDelete sizes layout w now request)
  | .deliver now src dst =>
    match s.net.wire src dst with
    | [] => some s
    | alert :: _ =>
      State.at dst (handle sizes layout src dst now alert) { s with net := s.net.pop src dst }

/-! ## The exchange of alerts is that of `Groups`

`Groups` has the same protocol, with the links between chanheads in place of the counters.  What
finding and receiving the group do to a worker's node, and the alerts they send, is the same. -/

section Exchange

variable (layout : Layout W C) (w : W)

def Callback.inGroups : Callback → Groups.Callback
  | .groupDelete _ => .groupDelete (w = layout.groupOwner)
  | _ => .groupFind

def Node.inGroups (node : Node C) : Groups.GroupNode C :=
  ⟨node.group, node.whenReady.map (Callback.inGroups layout w), node.gettingGroup,
    node.ownedChanheads.head?⟩

/-- A worker of `Groups` with this node; nothing is said about the rest of it. -/
def View.inGroups (rest : Groups.Worker C) (v : View C) : Groups.Worker C :=
  { rest with node := v.worker.node.map (Node.inGroups layout w) }

def Act.inGroups (rest : Groups.Worker C) (act : Act W C) (v : View C) :
    Option (Groups.Worker C × Out W Alert) :=
  (act v).map fun (v, sent) => (v.inGroups layout w rest, sent.alerts)

variable (rest : Groups.Worker C) (v : View C)

omit [DecidableEq C] in
theorem memstoreGroupnodeGet_inGroups :
    (memstoreGroupnodeGet layout w).inGroups layout w rest v =
      some (Groups.memstoreGroupnodeGet layout w (v.inGroups layout w rest)) := by
  obtain ⟨⟨_ | node, chanheads⟩, group⟩ := v
  · unfold Act.inGroups memstoreGroupnodeGet Groups.memstoreGroupnodeGet
    dsimp only [View.inGroups, Option.map_none]
    split <;> rfl
  · rfl

theorem whenReady_inGroups (now : Int) {cb : Callback}
    (counts : cb.inGroups layout w = .groupFind) :
    (whenReady layout now cb).inGroups layout w rest v =
      Groups.memstoreGroupFindFromGroupnode layout w now .groupFind (v.inGroups layout w rest) := by
  obtain ⟨⟨_ | ⟨ready, waiting, since, owned⟩, chanheads⟩, group⟩ := v
  · rfl
  · cases ready
    · by_cases late : now - since > maxGetgroupWaitTimeBeforeRetry <;>
        simp [Act.inGroups, whenReady, addWhenreadyCallback, View.inGroups, Node.inGroups, late,
          Groups.memstoreGroupFindFromGroupnode, Groups.addWhenreadyCallback, counts,
          Groups.Worker.setNode, Sent.alert, Sent.none]
    · rfl

theorem memstoreGroupFind_inGroups (now : Int) {cb : Callback}
    (counts : cb.inGroups layout w = .groupFind) :
    (memstoreGroupFind layout w now cb).inGroups layout w rest v =
      Groups.memstoreGroupFind layout w now .groupFind (v.inGroups layout w rest) := by
  obtain ⟨⟨v', asked⟩, got, is⟩ :=
    Option.map_eq_some_iff.mp (memstoreGroupnodeGet_inGroups layout w rest v)
  have found := whenReady_inGroups layout w rest v' now counts
  unfold Act.inGroups at found ⊢
  simp only [Groups.memstoreGroupFind, memstoreGroupFind, Act.andThen, ← is, ← found, got,
    Option.bind_eq_bind, Option.bind_some]
  cases whenReady layout now cb v' <;> rfl

omit [DecidableEq C] in
theorem receiveGetGroup_inGroups (sender : W) :
    (receiveGetGroup layout sender w).inGroups layout w rest v =
      Groups.receiveGetGroup layout sender w (v.inGroups layout w rest) := by
  unfold Act.inGroups receiveGetGroup Groups.receiveGetGroup
  split
  · obtain ⟨⟨_ | node, chanheads⟩, group⟩ := v
    · exact memstoreGroupnodeGet_inGroups layout w rest _
    · rfl
  · rfl

variable {layout w}

theorem callWhenreadyCallbacks_inGroups (other : w ≠ layout.groupOwner) (cbs : List Callback)
    (ws : Groups.Worker C) :
    ∃ group sent, callWhenreadyCallbacks w cbs v = some ({ v with group }, sent) ∧
      Groups.callWhenreadyCallbacks layout w (cbs.map (Callback.inGroups layout w)) ws =
        some (ws, sent.alerts) := by
  induction cbs generalizing v with
  | nil => exact ⟨v.group, Sent.none, rfl, rfl⟩
  | cons cb cbs ih =>
    obtain ⟨group, sent, here, there⟩ := ih { v with group := cb.applyTo v.group }
    -- a deletion tells the others, and deletes nothing on a worker that does not own the group
    have first : Groups.callback layout w (cb.inGroups layout w) ws = some (ws, cb.sends w) := by
      cases cb <;> simp [Callback.inGroups, Groups.callback, Callback.sends, other]
    exact ⟨group, _, by simp [callWhenreadyCallbacks, Act.andThen, here]; rfl,
      by simp [Groups.callWhenreadyCallbacks, first, there, Sent.andThen]⟩

theorem memstoreGroupReceive_inGroups :
    (memstoreGroupReceive layout w).inGroups layout w rest v =
      Groups.memstoreGroupReceive layout w (v.inGroups layout w rest) := by
  unfold Act.inGroups memstoreGroupReceive Groups.memstoreGroupReceive
  split
  · rfl
  · rename_i other
    obtain ⟨⟨_ | node, chanheads⟩, group⟩ := v
    · rfl
    · obtain ⟨counted, sent, here, there⟩ := callWhenreadyCallbacks_inGroups
        (v := View.setNode { node with group := true, gettingGroup := 0, whenReady := [] }
          ⟨⟨some node, chanheads⟩, group⟩) other node.whenReady
        { rest with node := some { node.inGroups layout w with group := true, gettingGroup := 0 } }
      simp only [Node.inGroups, here] at there ⊢
      simp [View.inGroups, Node.inGroups, Groups.Worker.setNode, there]

theorem handle_inGroups (sizes : Sizes) (sender : W) (now : Int) {alert : Alert}
    (exchange : alert ≠ .groupDelete) :
    (handle sizes layout sender w now alert).inGroups layout w rest v =
      Groups.handle layout sender w alert (v.inGroups layout w rest) := by
  cases alert with
  | getGroup => exact receiveGetGroup_inGroups layout w rest v sender
  | group => exact memstoreGroupReceive_inGroups rest v
  | groupDelete => contradiction

end Exchange

end Nchan.Memstore.Accounting
