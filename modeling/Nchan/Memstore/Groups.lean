import Nchan.Lib.Network

/-! # Channel groups on several workers

One channel group, as every worker sees it: the group's node with the list of the chanheads
the worker owns, the callbacks that wait for the group to arrive from its owner, and the
alerts `get_group`, `group` and `group_delete`.  A failed assert is `none`.

A chanhead stands for its channel's id, by which it is found in the worker's hash.  It is
created with group accounting on, so that it has a groupnode.  Messages and subscribers are
numbered per worker as they come; a subscriber of the owner's chanhead may be the ipc
subscriber of another worker.
-/

namespace Nchan.Memstore.Groups

open Nchan.Lib Function

/-- Which worker owns what: `memstore_str_owner` of the group's name and of channel ids, and
    which ids are of several channels. -/
structure Layout (W C : Type) where
  groupOwner : W
  channelOwner : C → W
  multi : C → Bool

/-- What the location of a chanhead has Redis for, and whether its nodeset is ready. -/
inductive Storage where
  | memory
  | backup (ready : Bool)
  | distributed (ready : Bool)
  deriving DecidableEq

/-- `memstore_channel_head_t`, as far as groups go; `storage` is that of its location, `ch->cf`. -/
structure Chanhead (C : Type) where
  storage : Storage
  groupnodeNext : Option C
  groupnodePrev : Option C
  inGcQueue : Bool
  messages : List Nat
  subscribers : List Nat
  deriving DecidableEq

/-- What waits for the group: the deletion of the group, with `d->owned`, or one of the
    callbacks that only count or check something. -/
inductive Callback where
  | groupDelete (owned : Bool)
  | groupFind
  deriving DecidableEq

/-- `group_tree_node_t`; `group` says whether the pointer to the shared group is known. -/
structure GroupNode (C : Type) where
  group : Bool
  whenReady : List Callback
  gettingGroup : Int
  ownedChanheadHead : Option C
  deriving DecidableEq

inductive Alert where
  | getGroup | group | groupDelete
  deriving DecidableEq

/-- How a subscriber went: it was sent 410 Gone, or it left by itself. -/
inductive Event where
  | gone (subscriber : Nat)
  | left (subscriber : Nat)
  deriving DecidableEq

/-- A worker.  `serial` counts the chanheads, messages and subscribers it has had. -/
structure Worker (C : Type) where
  node : Option (GroupNode C)
  chanheads : C → Option (Chanhead C)
  serial : Nat
  log : List Event

def Worker.new (C : Type) : Worker C := ⟨none, fun _ => none, 0, []⟩

variable {W C : Type} [DecidableEq W] [DecidableEq C]

/-- `ch->owner == memstore_slot()`; ids of several channels are owned everywhere. -/
def Layout.owns (layout : Layout W C) (w : W) (c : C) : Bool :=
  layout.multi c || layout.channelOwner c = w

namespace Worker

/-- Write to the chanhead of `c`. -/
def set (c : C) (ch : Chanhead C) (ws : Worker C) : Worker C :=
  { ws with chanheads := update ws.chanheads c (some ch) }

def setNode (node : GroupNode C) (ws : Worker C) : Worker C := { ws with node := some node }

end Worker

/-! ## The list of own chanheads -/

/-- `gtn->owned_chanhead_head->groupnode_prev = ch`, if there is a first one. -/
def linkBefore (head : Option C) (c : C) (ws : Worker C) : Option (Worker C) :=
  match head with
  | none => some ws
  | some head => do
    let first ← ws.chanheads head
    some (ws.set head { first with groupnodePrev := some c })

/-- `memstore_group_associate_own_channel`. -/
def memstoreGroupAssociateOwnChannel (layout : Layout W C) (c : C) (ws : Worker C) :
    Option (Worker C) := do
  let node ← ws.node
  let ch ← ws.chanheads c
  if layout.multi c then some ws
  else
    let ws := ws.set c { ch with groupnodeNext := node.ownedChanheadHead }
    let ws ← linkBefore node.ownedChanheadHead c ws
    some (ws.setNode { node with ownedChanheadHead := some c })

/-- `ch->groupnode_prev->groupnode_next = ch->groupnode_next`, with its assert. -/
def bypassNext (c : C) (ch : Chanhead C) (ws : Worker C) : Option (Worker C) :=
  match ch.groupnodePrev with
  | none => some ws
  | some prev => do
    let before ← ws.chanheads prev
    if before.groupnodeNext = some c then
      some (ws.set prev { before with groupnodeNext := ch.groupnodeNext })
    else none

/-- `ch->groupnode_next->groupnode_prev = ch->groupnode_prev`, with its assert. -/
def bypassPrev (c : C) (ch : Chanhead C) (ws : Worker C) : Option (Worker C) :=
  match ch.groupnodeNext with
  | none => some ws
  | some next => do
    let after ← ws.chanheads next
    if after.groupnodePrev = some c then
      some (ws.set next { after with groupnodePrev := ch.groupnodePrev })
    else none

/-- `memstore_group_dissociate_own_channel`. -/
def memstoreGroupDissociateOwnChannel (layout : Layout W C) (w : W) (c : C) (ws : Worker C) :
    Option (Worker C) := do
  let node ← ws.node
  let ch ← ws.chanheads c
  if layout.owns w c then
    if layout.multi c then
      if node.ownedChanheadHead = some c then none else some ws
    else
      let head := if node.ownedChanheadHead = some c then ch.groupnodeNext else node.ownedChanheadHead
      let ws ← bypassNext c ch (ws.setNode { node with ownedChanheadHead := head })
      let ws ← bypassPrev c ch ws
      let ws := ws.set c { ch with groupnodePrev := none, groupnodeNext := none }
      if head = some c then none else some ws
  else none

/-- The own chanheads only, as `memstore_reap_chanhead` does. -/
def dissociateIfOwned (layout : Layout W C) (w : W) (c : C) (ws : Worker C) : Option (Worker C) :=
  if layout.owns w c then memstoreGroupDissociateOwnChannel layout w c ws else some ws

/-- The own chanheads only, as `chanhead_memstore_create` does. -/
def associateIfOwned (layout : Layout W C) (w : W) (c : C) (ws : Worker C) : Option (Worker C) :=
  if layout.owns w c then memstoreGroupAssociateOwnChannel layout c ws else some ws

/-! ## Deleting channels -/

/-- `nchan_memstore_force_delete_channel`: the subscribers are sent 410, the messages are
    removed, and the chanhead goes to the garbage collector. -/
def nchanMemstoreForceDeleteChannel (layout : Layout W C) (w : W) (c : C) (ws : Worker C) :
    Option (Worker C) :=
  if layout.channelOwner c = w then
    match ws.chanheads c with
    | none => some ws
    | some ch =>
      some { ws.set c { ch with subscribers := [], messages := [], inGcQueue := true } with
        log := ws.log ++ ch.subscribers.map .gone }
  else none

/-- `nchan_store_delete_single_channel_id` on the owner, for the location of the chanhead: with a
    distributed storage mode only Redis is asked. -/
def nchanStoreDeleteSingleChannelId (layout : Layout W C) (w : W) (c : C) (ws : Worker C) :
    Option (Worker C) :=
  match (ws.chanheads c).map Chanhead.storage with
  -- `redisChannelDeleteCallback` is called without a node, which it reads
  | some (.backup false) | some (.distributed false) => none
  | some (.distributed true) => some ws
  | _ => nchanMemstoreForceDeleteChannel layout w c ws

/-- The loop of `memstore_group_receive_delete` over the own chanheads. -/
def deleteOwned (layout : Layout W C) (w : W) : Nat → Worker C → Option (Worker C)
  | fuel, ws =>
    match ws.node.bind (·.ownedChanheadHead), fuel with
    | none, _ => some ws
    | some _, 0 => none
    | some cur, fuel + 1 => do
      let ws ← memstoreGroupDissociateOwnChannel layout w cur ws
      let ws ← nchanStoreDeleteSingleChannelId layout w cur ws
      deleteOwned layout w fuel ws

/-- `memstore_group_receive_delete`.  The waiting callbacks are called without a group,
    which they only report. -/
def memstoreGroupReceiveDelete (layout : Layout W C) (w : W) (ws : Worker C) : Option (Worker C) :=
  match ws.node with
  | none => some ws
  | some node => deleteOwned layout w ws.serial (ws.setNode { node with whenReady := [] })

/-! ## Finding the group -/

/-- `memstore_groupnode_get`, with `group_owner_create_node` and `group_create_node`. -/
def memstoreGroupnodeGet (layout : Layout W C) (w : W) (ws : Worker C) : Worker C × Out W Alert :=
  match ws.node with
  | some _ => (ws, Out.none)
  | none =>
    if w = layout.groupOwner then (ws.setNode ⟨true, [], 0, none⟩, Out.broadcast w .group)
    else (ws.setNode ⟨false, [], 1, none⟩, Out.send layout.groupOwner .getGroup)

/-- `MAX_GETGROUP_WAIT_TIME_BEFORE_RETRY`. -/
abbrev maxGetgroupWaitTimeBeforeRetry : Int := 5

/-- `add_whenready_callback`. -/
def addWhenreadyCallback (layout : Layout W C) (now : Int) (cb : Callback) (node : GroupNode C) :
    GroupNode C × Out W Alert :=
  let node := { node with whenReady := node.whenReady ++ [cb] }
  if now - node.gettingGroup > maxGetgroupWaitTimeBeforeRetry then
    ({ node with gettingGroup := now }, Out.send layout.groupOwner .getGroup)
  else (node, Out.none)

/-- A callback with the group at hand; `group_delete_callback` deletes the own channels
    only if `d->owned`, and tells everyone else. -/
def callback (layout : Layout W C) (w : W) (cb : Callback) (ws : Worker C) :
    Option (Worker C × Out W Alert) :=
  match cb with
  | .groupFind => some (ws, Out.none)
  | .groupDelete owned => do
    let ws ← if owned then memstoreGroupReceiveDelete layout w ws else some ws
    some (ws, Out.broadcast w .groupDelete)

/-- `memstore_group_find_from_groupnode`. -/
def memstoreGroupFindFromGroupnode (layout : Layout W C) (w : W) (now : Int) (cb : Callback)
    (ws : Worker C) : Option (Worker C × Out W Alert) := do
  let node ← ws.node
  if node.group then callback layout w cb ws
  else
    let (node, out) := addWhenreadyCallback layout now cb node
    some (ws.setNode node, out)

/-- `memstore_group_find`. -/
def memstoreGroupFind (layout : Layout W C) (w : W) (now : Int) (cb : Callback) (ws : Worker C) :
    Option (Worker C × Out W Alert) := do
  let (ws, asked) := memstoreGroupnodeGet layout w ws
  let (ws, out) ← memstoreGroupFindFromGroupnode layout w now cb ws
  some (ws, asked.andThen out)

/-- `memstore_group_delete`. -/
def memstoreGroupDelete (layout : Layout W C) (w : W) (now : Int) (ws : Worker C) :
    Option (Worker C × Out W Alert) :=
  memstoreGroupFind layout w now (.groupDelete (w = layout.groupOwner)) ws

/-! ## Alerts -/

/-- `call_whenready_callbacks` with the group at hand. -/
def callWhenreadyCallbacks (layout : Layout W C) (w : W) :
    List Callback → Worker C → Option (Worker C × Out W Alert)
  | [], ws => some (ws, Out.none)
  | cb :: cbs, ws => do
    let (ws, out) ← callback layout w cb ws
    let (ws, outs) ← callWhenreadyCallbacks layout w cbs ws
    some (ws, out.andThen outs)

/-- `receive_get_group`: a new group is broadcast anyway. -/
def receiveGetGroup (layout : Layout W C) (sender w : W) (ws : Worker C) :
    Option (Worker C × Out W Alert) :=
  if w = layout.groupOwner then
    match ws.node with
    | some _ => some (ws, Out.send sender .group)
    | none => some (memstoreGroupnodeGet layout w ws)
  else none

/-- `memstore_group_receive`. -/
def memstoreGroupReceive (layout : Layout W C) (w : W) (ws : Worker C) :
    Option (Worker C × Out W Alert) :=
  if w = layout.groupOwner then none
  else
    match ws.node with
    | none => some (ws.setNode ⟨true, [], 0, none⟩, Out.none)
    | some node => do
      let (ws, out) ← callWhenreadyCallbacks layout w node.whenReady
        (ws.setNode { node with group := true, gettingGroup := 0 })
      some ({ ws with node := ws.node.map fun node => { node with whenReady := [] } }, out)

def handle (layout : Layout W C) (sender w : W) (alert : Alert) (ws : Worker C) :
    Option (Worker C × Out W Alert) :=
  match alert with
  | .getGroup => receiveGetGroup layout sender w ws
  | .group => memstoreGroupReceive layout w ws
  | .groupDelete => (memstoreGroupReceiveDelete layout w ws).map (·, Out.none)

/-! ## Channels -/

/-- `memstore_group_add_channel_generic`: the count is updated now or when the group arrives. -/
def memstoreGroupAddChannelGeneric (layout : Layout W C) (w : W) (now : Int) (ws : Worker C) :
    Option (Worker C × Out W Alert) :=
  memstoreGroupFindFromGroupnode layout w now .groupFind ws

/-- `chanhead_memstore_create`, for an id that has no chanhead. -/
def chanheadMemstoreCreate (layout : Layout W C) (w : W) (now : Int) (c : C) (storage : Storage)
    (ws : Worker C) : Option (Worker C × Out W Alert) := do
  let (ws, asked) := memstoreGroupnodeGet layout w ws
  let (ws, out) ← memstoreGroupAddChannelGeneric layout w now ws
  let ws := { ws.set c ⟨storage, none, none, false, [], []⟩ with serial := ws.serial + 1 }
  let ws ← associateIfOwned layout w c ws
  some (ws, asked.andThen out)

/-- `memstore_reap_chanhead`. -/
def memstoreReapChanhead (layout : Layout W C) (w : W) (now : Int) (c : C) (ws : Worker C) :
    Option (Worker C × Out W Alert) := do
  let ch ← ws.chanheads c
  let ws := { ws.set c { ch with subscribers := [], messages := [] } with
    log := ws.log ++ ch.subscribers.map .gone }
  let ws ← dissociateIfOwned layout w c ws
  let (ws, out) ← memstoreGroupAddChannelGeneric layout w now ws
  let ch ← ws.chanheads c
  if ch.groupnodePrev = none ∧ ch.groupnodeNext = none then
    some ({ ws with chanheads := update ws.chanheads c none }, out)
  else none

/-- Publish to an own channel: a chanhead in the garbage collector is withdrawn for it, and
    every one goes there afterwards. -/
def publish (c : C) (ws : Worker C) : Worker C :=
  match ws.chanheads c with
  | none => ws
  | some ch =>
    { ws.set c { ch with messages := ch.messages ++ [ws.serial], inGcQueue := true } with
      serial := ws.serial + 1 }

/-- Subscribe to an own channel, which withdraws its chanhead from the garbage collector. -/
def subscribe (c : C) (ws : Worker C) : Worker C :=
  match ws.chanheads c with
  | none => ws
  | some ch =>
    { ws.set c { ch with subscribers := ch.subscribers ++ [ws.serial], inGcQueue := false } with
      serial := ws.serial + 1 }

/-- `nchan_memstore_get_chanhead` for a location that can publish, which the chanhead then has; or
    a nodeset gets ready, or is not any more. -/
def setLocation (storage : Storage) (c : C) (ws : Worker C) : Worker C :=
  match ws.chanheads c with
  | none => ws
  | some ch => ws.set c { ch with storage := storage }

/-- The oldest `n` messages are removed. -/
def expire (n : Nat) (c : C) (ws : Worker C) : Worker C :=
  match ws.chanheads c with
  | none => ws
  | some ch => ws.set c { ch with messages := ch.messages.drop n }

def leave (subscriber : Nat) (c : C) (ws : Worker C) : Worker C :=
  match ws.chanheads c with
  | none => ws
  | some ch =>
    { ws.set c { ch with subscribers := ch.subscribers.filter (· ≠ subscriber) } with
      log := ws.log ++ [.left subscriber] }

/-! ## Runs -/

inductive Op (W C : Type) where
  | create (now : Int) (w : W) (c : C) (storage : Storage)
  | reap (now : Int) (w : W) (c : C)
  | setLocation (storage : Storage) (w : W) (c : C)
  | publish (w : W) (c : C)
  | subscribe (w : W) (c : C)
  | expire (n : Nat) (w : W) (c : C)
  | leave (subscriber : Nat) (w : W) (c : C)
  | find (now : Int) (w : W)
  | delete (now : Int) (w : W)
  | deliver (src dst : W)

abbrev State (W C : Type) := Net W (Worker C) Alert

def State.initial (W C : Type) : State W C := ⟨fun _ => Worker.new C, fun _ _ => []⟩

def State.at (w : W) (act : Worker C → Option (Worker C × Out W Alert)) (s : State W C) :
    Option (State W C) :=
  (act (s.node w)).map fun (ws, out) => s.act w ws out

/-- One step.  Chanheads are created for ids without one and reaped where there is one, and
    messages and subscribers are those of the channel's owner. -/
def Op.apply (layout : Layout W C) (op : Op W C) (s : State W C) : Option (State W C) :=
  match op with
  | .create now w c storage =>
    if ((s.node w).chanheads c).isSome then some s
    else s.at w (chanheadMemstoreCreate layout w now c storage)
  | .reap now w c =>
    if ((s.node w).chanheads c).isSome then s.at w (memstoreReapChanhead layout w now c) else some s
  | .setLocation storage w c =>
    s.at w fun ws => some (Groups.setLocation storage c ws, Out.none)
  | .publish w c =>
    if layout.owns w c then s.at w fun ws => some (Groups.publish c ws, Out.none) else some s
  | .subscribe w c =>
    if layout.owns w c then s.at w fun ws => some (Groups.subscribe c ws, Out.none) else some s
  | .expire n w c => s.at w fun ws => some (Groups.expire n c ws, Out.none)
  | .leave subscriber w c => s.at w fun ws => some (Groups.leave subscriber c ws, Out.none)
  | .find now w => s.at w (memstoreGroupFind layout w now .groupFind)
  | .delete now w => s.at w (memstoreGroupDelete layout w now)
  | .deliver src dst => s.deliver (handle layout) src dst

end Nchan.Memstore.Groups
