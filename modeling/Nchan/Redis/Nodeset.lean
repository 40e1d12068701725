import Nchan.Lib.Ranges
import Nchan.Lib.Run
import Nchan.Redis.Keyslot
import Nchan.Redis.ServerUrl

/-! # Sets of Redis nodes

A nodeset connects to its servers and to those it discovers, and keeps a status from what it counts
among its nodes.  Nodes are known by their addresses.  What the servers answer, and whether a
connection can be opened, is decided by the environment.  Masters and slaves do not know each other
here: those lists are used for discovering more nodes only.
-/

namespace Nchan.Redis

open Nchan.Lib

/-! ## Nodes -/

/-- The states of a node in which something can happen.  The states in between are passed without
    waiting. -/
inductive NodeState where
  | connectionTimedOut | failed | disconnected
  | cmdConnecting | pubsubConnecting | cmdCheckedConnection | pubsubCheckedConnection
  | cmdAuthenticating | pubsubAuthenticating | cmdSelectingDb | pubsubSelectingDb
  | scriptsLoadedCheck | scriptsLoading | gettingInfo | pubsubGettingInfo | subscribingWorker
  | getClusterinfo | gettingClusterinfo | gettingShardedPubsubSupport | gettingClusterNodes
  | ready
  deriving DecidableEq

def NodeState.code : NodeState → Int
  | .connectionTimedOut => -2
  | .failed => -1
  | .disconnected => 0
  | .cmdConnecting => 1
  | .pubsubConnecting => 2
  | .cmdCheckedConnection => 4
  | .pubsubCheckedConnection => 6
  | .cmdAuthenticating => 8
  | .pubsubAuthenticating => 9
  | .cmdSelectingDb => 11
  | .pubsubSelectingDb => 12
  | .scriptsLoadedCheck => 14
  | .scriptsLoading => 15
  | .gettingInfo => 17
  | .pubsubGettingInfo => 19
  | .subscribingWorker => 21
  | .getClusterinfo => 22
  | .gettingClusterinfo => 23
  | .gettingShardedPubsubSupport => 25
  | .gettingClusterNodes => 27
  | .ready => 100

/-- `REDIS_NODE_GET_INFO`, which is passed without waiting. -/
def getInfoCode : Int := 16

inductive NodeRole where
  | unknown | master | slave
  deriving DecidableEq

structure Node where
  params : ConnectParams
  state : NodeState
  role : NodeRole
  /-- `cluster.enabled` -/
  cluster : Bool
  connectTimeout : Bool

abbrev SlotRange := Range 16384

/-- What the connector reads from the answer to `INFO ALL`. -/
structure NodeInfo where
  /-- Another node has the `run_id`. -/
  duplicate : Bool
  /-- There is a version, and no data is being loaded. -/
  usable : Bool
  cluster : Bool
  role : NodeRole
  peersParsed : Bool

inductive NodeReply where
  /-- No answer, an error, or anything that the connector does not accept. -/
  | bad
  | ok
  | scriptMissing
  | info (info : NodeInfo)
  /-- `CLUSTER NODES`: the slots of this node, and whether all slaves have known masters.  The
      other nodes of the answer are discovered on their own. -/
  | clusterNodes (ranges : List SlotRange) (linked : Bool)

inductive Outcome where
  | waits (n : Node)
  | fails (n : Node)
  | duplicate
  | takesSlots (ranges : List SlotRange) (linked : Bool)
  | connected

namespace Node

/-- The connector waits for the answer to a command of its own.  Unlike the others the subscription
    of the worker is not answered by the connector if it is given up. -/
def outstanding (n : Node) : Bool :=
  match n.state with
  | .connectionTimedOut | .failed | .disconnected | .cmdConnecting | .pubsubConnecting
  | .subscribingWorker | .ready => false
  | .getClusterinfo => n.connectTimeout
  | _ => true

def waiting (n : Node) : Bool :=
  n.outstanding || n.state = .cmdConnecting || n.state = .pubsubConnecting ||
    n.state = .subscribingWorker

def failedSlave (n : Node) : Bool := n.state = .failed && n.role = .slave

@[simp] def readyMaster (n : Node) : Bool := n.state = .ready && n.role = .master

def proceed (reply : NodeReply) (next : NodeState) (n : Node) : Outcome :=
  match reply with
  | .ok => .waits { n with state := next }
  | _ => .fails n

def authenticated (n : Node) : NodeState :=
  if n.params.db > 0 then .cmdSelectingDb else .scriptsLoadedCheck

/-- `REDIS_NODE_SCRIPTS_LOADING`, with one script after the other. -/
def loadScripts (reply : NodeReply) (n : Node) : Outcome :=
  match reply with
  | .scriptMissing => .waits { n with state := .scriptsLoading }
  | reply => n.proceed reply .gettingInfo

/-- The role that is forced by the configuration, or else the one the node has. -/
def infoRole (info : NodeInfo) (n : Node) : NodeRole :=
  match n.params.forcedRole with
  | .master => .master
  | .slave => .slave
  | .none => info.role

/-- `REDIS_NODE_GETTING_INFO`. -/
def getInfo (info : NodeInfo) (n : Node) : Outcome :=
  if info.duplicate then .duplicate
  else if ¬ info.usable then .fails n
  else
    let n := { n with cluster := n.cluster || info.cluster }
    if n.infoRole info = .unknown then .fails n
    else
      let n := { n with role := n.infoRole info }
      if info.peersParsed then .waits { n with state := .pubsubGettingInfo } else .fails n

/-- `node_connector_callback` in the states in which the connector waits. -/
def connectorCallback (reply : NodeReply) (n : Node) : Outcome :=
  match n.state with
  | .cmdConnecting => n.proceed reply .pubsubConnecting
  | .pubsubConnecting => n.proceed reply .cmdCheckedConnection
  | .cmdCheckedConnection => n.proceed reply .pubsubCheckedConnection
  | .pubsubCheckedConnection =>
    n.proceed reply (if n.params.password ≠ [] then .cmdAuthenticating else n.authenticated)
  | .cmdAuthenticating => n.proceed reply .pubsubAuthenticating
  | .pubsubAuthenticating => n.proceed reply n.authenticated
  | .cmdSelectingDb => n.proceed reply .pubsubSelectingDb
  | .pubsubSelectingDb => n.proceed reply .scriptsLoadedCheck
  | .scriptsLoadedCheck | .scriptsLoading => n.loadScripts reply
  | .gettingInfo =>
    match reply with
    | .info info => n.getInfo info
    | _ => .fails n
  | .pubsubGettingInfo => n.proceed reply .subscribingWorker
  | .subscribingWorker =>
    match reply with
    | .ok => if n.cluster then .waits { n with state := .gettingClusterinfo } else .connected
    | _ => .fails n
  -- the state was reset while a command was on its way
  | .getClusterinfo =>
    if n.cluster then .waits { n with state := .gettingClusterinfo } else .connected
  | .gettingClusterinfo => n.proceed reply .gettingShardedPubsubSupport
  | .gettingShardedPubsubSupport => n.proceed reply .gettingClusterNodes
  | .gettingClusterNodes =>
    match reply with
    | .clusterNodes ranges linked => .takesSlots ranges linked
    | _ => .fails n
  | .connectionTimedOut | .failed | .disconnected | .ready => .fails n

end Node

/-! ## The nodeset -/

inductive NodesetStatus where
  | failed | clusterFailing | failing | invalid | disconnected | connecting | ready
  deriving DecidableEq

structure Nodeset where
  urls : List ConnectParams
  nodes : List Nat
  node : Nat → Node
  next : Nat
  keyslots : Ranges 16384 Nat
  /-- `cluster.enabled` -/
  clusterEnabled : Bool
  status : NodesetStatus
  /-- The status has been set or examined after everything else. -/
  settled : Bool

/-- What else the environment decides: whether a connection can be opened, and whether the recovery
    of a cluster can be begun. -/
structure Weather where
  opens : ConnectParams → Bool
  recovers : Bool

/-- `equal_redis_connect_params`, without the names of peers. -/
def ConnectParams.equal (p q : ConnectParams) : Bool :=
  p.port = q.port && p.db = q.db && p.hostname ≠ [] && p.hostname = q.hostname

namespace Nodeset

/-- There is nothing behind an address that was never given out. -/
def noNode : Node := ⟨⟨[], 0, [], [], 0, false, .none⟩, .disconnected, .unknown, false, false⟩

def start (urls : List ConnectParams) : Nodeset :=
  ⟨urls, [], fun _ => noNode, 0, [], false, .disconnected, false⟩

/-! ### Looking for a node -/

/-- `nodeset_node_find_by_range`. -/
def nodeFindByRange (r : SlotRange) (ns : Nodeset) : Option Nat := ns.keyslots.owner r

/-- `nodeset_node_find_any_ready_master`. -/
def nodeFindAnyReadyMaster (ns : Nodeset) : Option Nat :=
  ns.nodes.find? fun id => NodeState.code .ready ≤ (ns.node id).state.code &&
    (ns.node id).role = .master

theorem redisKeyslotFromChannelId_lt (chid : Bytes) : redisKeyslotFromChannelId chid < 16384 :=
  Nat.mod_lt _ (by decide)

/-- `nodeset_node_find_by_channel_id`. -/
def nodeFindByChannelId (chid : Bytes) (ns : Nodeset) : Option Nat :=
  if ¬ ns.clusterEnabled then ns.nodeFindAnyReadyMaster
  else ns.nodeFindByRange (.single _ (redisKeyslotFromChannelId_lt chid))

/-- `nodeset_cluster_keyslot_space_complete`. -/
def keyslotSpaceComplete (minNodeState : NodeState) (ns : Nodeset) : Bool :=
  ns.keyslots.complete (fun id => minNodeState.code ≤ (ns.node id).state.code &&
    (ns.node id).role = .master) 16384 0

/-! ### Nodes and slots -/

def put (id : Nat) (n : Node) (ns : Nodeset) : Nodeset :=
  { ns with node := Function.update ns.node id n }

/-- `node_set_role`. -/
def setRole (id : Nat) (role : NodeRole) (ns : Nodeset) : Nodeset :=
  ns.put id { ns.node id with role := role }

/-- `nodeset_node_create`. -/
def create (params : ConnectParams) (role : NodeRole) (cluster : Bool) (ns : Nodeset) : Nodeset :=
  { ns.put ns.next ⟨params, .disconnected, role, cluster, false⟩ with
    nodes := ns.nodes ++ [ns.next]
    next := ns.next + 1 }

/-- `nodeset_node_destroy`. -/
def destroy (id : Nat) (ns : Nodeset) : Nodeset :=
  { ns.setRole id .unknown with nodes := ns.nodes.filter (· ≠ id) }

/-- `node_unset_cluster_slots`. -/
def unsetClusterSlots (id : Nat) (ns : Nodeset) : Nodeset :=
  { ns with keyslots := ns.keyslots.filter (·.2 ≠ id) }

/-- `node_set_cluster_slots`, and whether it succeeds. -/
def setClusterSlots (id : Nat) (ranges : List SlotRange) (ns : Nodeset) : Nodeset × Bool :=
  let ns := ns.unsetClusterSlots id
  if ranges = [] ∨ ranges.any fun r => (ns.nodeFindByRange r).isSome then (ns, false)
  else ({ ns with keyslots := ns.keyslots ++ ranges.map fun r => (r, id) }, true)

def close (id : Nat) (n : Node) (state : NodeState) (ns : Nodeset) : Nodeset :=
  (if n.cluster then ns.unsetClusterSlots id else ns).put id
    { n with state := state, connectTimeout := false }

/-- `node_connector_fail`.  The command that failed was the only one. -/
def connectorFail (id : Nat) (n : Node) (ns : Nodeset) : Nodeset := ns.close id n .failed

/-- `node_connect`: the connector, in a state without connections. -/
def nodeConnect (w : Weather) (id : Nat) (ns : Nodeset) : Nodeset :=
  let n := ns.node id
  if n.state = .connectionTimedOut ∨ ¬ w.opens n.params then ns.connectorFail id n
  else ns.put id { n with state := .cmdConnecting, connectTimeout := true }

/-- `node_disconnect`.  The callback of an outstanding command is called without an answer when its
    connection is freed, and then the connector begins again. -/
def nodeDisconnect (w : Weather) (id : Nat) (state : NodeState) (ns : Nodeset) : Nodeset :=
  let n := ns.node id
  let ns := ns.close id n state
  if n.outstanding then ns.nodeConnect w id else ns

/-- `node_make_ready`. -/
def makeReady (id : Nat) (ns : Nodeset) : Nodeset :=
  ns.put id { ns.node id with state := .ready, connectTimeout := false }

def remove (w : Weather) (id : Nat) (ns : Nodeset) : Nodeset :=
  (ns.nodeDisconnect w id .failed).destroy id

/-! ### The status -/

/-- `nodeset_disconnect`. -/
def disconnect (w : Weather) (ns : Nodeset) : Nodeset :=
  ns.nodes.foldl (fun ns id =>
    (if NodeState.code .disconnected < (ns.node id).state.code then
      ns.nodeDisconnect w id .disconnected else ns).destroy id) ns

def createNodes (ns : Nodeset) : Nodeset :=
  ns.urls.foldl (fun ns p =>
    if ns.nodes.any fun id => p.equal (ns.node id).params then ns
    else ns.create p .unknown false) ns

def connectNodes (w : Weather) (ns : Nodeset) : Nodeset :=
  ns.nodes.foldl (fun ns id =>
    if (ns.node id).state.code ≤ NodeState.code .disconnected then ns.nodeConnect w id else ns) ns

/-- `nodeset_connect`, up to the status. -/
def connect (w : Weather) (ns : Nodeset) : Nodeset := ns.createNodes.connectNodes w

/-- What is known of the nodes of a cluster is forgotten. -/
def resetNode (n : Node) : Node :=
  { n with
    role := .unknown
    state := if NodeState.code .getClusterinfo < n.state.code then .getClusterinfo else n.state }

/-- `nodeset_reset_cluster_node_info`. -/
def resetClusterNodeInfo (ns : Nodeset) : Nodeset :=
  { ns with
    node := fun id =>
      if id ∈ ns.nodes ∧ (ns.node id).cluster then resetNode (ns.node id) else ns.node id
    keyslots := ns.keyslots.filter fun e => ¬ (e.2 ∈ ns.nodes ∧ (ns.node e.2).cluster) }

/-- `nodeset_set_status`. -/
def setStatus (w : Weather) (status : NodesetStatus) (ns : Nodeset) : Nodeset :=
  if ns.status = status then { ns with settled := true }
  else
    let ns := { ns with status := status, settled := true }
    match status with
    | .failed | .disconnected | .invalid => ns.disconnect w
    | .clusterFailing =>
      if w.recovers then ns.resetClusterNodeInfo
      else { ns.resetClusterNodeInfo with status := .failed }.disconnect w
    | .failing => { ns.connect w with status := .connecting }
    | .connecting | .ready => ns

def countNodes (p : Node → Bool) (ns : Nodeset) : Nat := ns.nodes.countP fun id => p (ns.node id)

def dropFailedSlaves (w : Weather) (ns : Nodeset) : Nodeset :=
  (ns.nodes.filter fun id => (ns.node id).failedSlave).foldl (fun ns id => ns.remove w id) ns

/-- `nodeset_examine`. -/
def examine (w : Weather) (ns : Nodeset) : Nodeset :=
  let cluster := ns.countNodes (·.cluster)
  let masters := ns.countNodes (·.role = .master)
  let total := ns.countNodes (!·.failedSlave)
  let connecting := ns.countNodes fun n =>
    NodeState.code .disconnected < n.state.code && n.state.code < NodeState.code .ready
  let ready := ns.countNodes (·.state = .ready)
  let readyCluster := ns.countNodes fun n => n.state = .ready && n.cluster
  let readyNonCluster := ns.countNodes fun n => n.state = .ready && !n.cluster
  let failedMasters := ns.countNodes fun n => n.state = .failed && n.role = .master
  let seen := { ns.dropFailedSlaves w with clusterEnabled := 0 < cluster, settled := true }
  if ns.status = .connecting ∧ connecting > 0 then seen
  else if ready = 0 ∧ total = 0 then seen.setStatus w .invalid
  else if cluster = 0 ∧ masters > 1 then seen.setStatus w .invalid
  else if readyCluster > 0 ∧ readyNonCluster > 0 then seen.setStatus w .invalid
  else if connecting > 0 then
    if ns.status ≠ .clusterFailing then seen.setStatus w .connecting else seen
  else if failedMasters > 0 then
    if ns.status = .ready then
      if cluster > 0 then seen.setStatus w .clusterFailing else seen.setStatus w .failing
    else seen.setStatus w .failed
  else if masters = 0 then seen.setStatus w .invalid
  else if cluster > 0 ∧ ¬ seen.keyslotSpaceComplete .ready then seen.setStatus w ns.status
  else if ns.status = .ready ∧ (ready = 0 ∨ ready < total) then seen.setStatus w .failing
  else if ready = 0 then seen.setStatus w .disconnected
  else seen.setStatus w .ready

/-! ### The check of a cluster -/

end Nodeset

/-- A line of `CLUSTER NODES` that is not skipped: masters come with their slots. -/
inductive ClusterLine where
  | failed (id : Nat)
  | myself (id : Nat) (slots : Option (List SlotRange))
  | peer (id : Nat) (slots : Option (List SlotRange))
  | discovered (params : ConnectParams) (slots : Option (List SlotRange))

def lineRole (slots : Option (List SlotRange)) : NodeRole :=
  if slots.isSome then .master else .slave

structure ClusterCheck where
  ns : Nodeset
  outdated : Nat
  failed : Nat

namespace Nodeset

/-- `nodeset_cluster_node_is_outdated`. -/
def nodeIsOutdated (id : Nat) (slots : Option (List SlotRange)) (ns : Nodeset) : Bool :=
  (ns.node id).role ≠ lineRole slots ||
    (ns.keyslots.filter (·.2 = id)).map (·.1) ≠ slots.getD []

def clusterPeer (id : Nat) (role : NodeRole) (ns : Nodeset) : Nodeset :=
  ns.put id { ns.node id with cluster := true, role := role }

/-- A node that is found by another one is connected at once. -/
def discover (w : Weather) (params : ConnectParams) (role : NodeRole) (cluster : Bool)
    (ns : Nodeset) : Nodeset :=
  (ns.create params role cluster).nodeConnect w ns.next

def checkLine (w : Weather) (line : ClusterLine) (c : ClusterCheck) : ClusterCheck :=
  match line with
  | .failed id =>
    if id ∈ c.ns.nodes then { c with ns := c.ns.remove w id, failed := c.failed + 1 } else c
  | .myself id slots =>
    if c.ns.nodeIsOutdated id slots then { c with outdated := c.outdated + 1 } else c
  | .peer id slots =>
    let c := { c with ns := c.ns.clusterPeer id (lineRole slots) }
    if c.ns.nodeIsOutdated id slots then { c with outdated := c.outdated + 1 } else c
  | .discovered params slots =>
    -- it has no slots yet
    { c with
      ns := c.ns.discover w params (lineRole slots) true
      outdated := if slots.getD [] = [] then c.outdated else c.outdated + 1 }

/-- `nodeset_cluster_check_event_callback` for a cluster that is ok. -/
def clusterCheck (w : Weather) (lines : List ClusterLine) (epochChanged : Bool) (ns : Nodeset) :
    Nodeset :=
  let c := lines.foldl (fun c line => checkLine w line c) ⟨ns, 0, 0⟩
  if c.outdated > 0 then c.ns.setStatus w .clusterFailing
  else if (epochChanged ∨ c.failed > 0) ∧ ¬ c.ns.keyslotSpaceComplete .ready then
    c.ns.setStatus w .clusterFailing
  else c.ns

end Nodeset

/-! ## Runs -/

inductive NodesetOp where
  /-- `nodeset_connect` -/
  | connect (w : Weather)
  | callback (w : Weather) (id : Nat) (reply : NodeReply)
  /-- `node_connector_connect_timeout` -/
  | connectTimeout (w : Weather) (id : Nat)
  | lost (w : Weather) (id : Nat)
  | discover (w : Weather) (params : ConnectParams) (role : NodeRole) (cluster : Bool)
  /-- `node_discover`, for a known node that has changed its role. -/
  | rediscover (w : Weather) (id : Nat)
  | setRole (id : Nat) (role : NodeRole)
  | clusterPeer (id : Nat) (role : NodeRole)
  | setSlots (id : Nat) (ranges : List SlotRange)
  | unsetSlots (id : Nat)
  | remove (w : Weather) (id : Nat)
  | makeReady (id : Nat)
  | clusterCheck (w : Weather) (lines : List ClusterLine) (epochChanged : Bool)
  | reset
  /-- `nodeset_node_reply_keyslot_ok`, for the error of a cluster from a node that is in none. -/
  | strangeReply (w : Weather) (id : Nat)
  | examine (w : Weather)
  | setStatus (w : Weather) (status : NodesetStatus)

namespace Nodeset

/-- `node_connector_callback`. -/
def connectorCallback (w : Weather) (id : Nat) (reply : NodeReply) (ns : Nodeset) : Nodeset :=
  match (ns.node id).connectorCallback reply with
  | .waits n => ns.put id n
  | .fails n => ns.connectorFail id n
  | .duplicate => ns.destroy id
  | .takesSlots ranges linked =>
    let (taken, ok) := if ranges = [] then (ns, true) else ns.setClusterSlots id ranges
    if ok ∧ linked then (taken.makeReady id).examine w else taken.connectorFail id (taken.node id)
  | .connected => (ns.makeReady id).examine w

/-- `node_connector_connect_timeout`. -/
def connectorConnectTimeout (w : Weather) (id : Nat) (ns : Nodeset) : Nodeset :=
  match (ns.node id).state with
  | .cmdConnecting | .pubsubConnecting => ns.connectorFail id (ns.node id)
  | _ => ns.nodeDisconnect w id .connectionTimedOut

/-- The known node is disconnected and connected again.  If its connector was waiting for an answer
    then that has begun to connect already, and an assertion fails. -/
def rediscover (w : Weather) (id : Nat) (ns : Nodeset) : Option Nodeset :=
  let ns := (ns.setRole id .unknown).nodeDisconnect w id .failed
  if (ns.node id).state.code ≤ NodeState.code .disconnected then some (ns.nodeConnect w id)
  else none

end Nodeset

open Nodeset in
def NodesetOp.step (op : NodesetOp) (ns : Nodeset) : Option Nodeset :=
  let before := { ns with settled := false }
  match op with
  | .connect w => some ((before.connect w).setStatus w .connecting)
  | .callback w id reply =>
    if id ∈ ns.nodes ∧ (ns.node id).waiting then some (before.connectorCallback w id reply)
    else none
  | .connectTimeout w id =>
    if id ∈ ns.nodes ∧ (ns.node id).connectTimeout ∧ (ns.node id).waiting then
      some (before.connectorConnectTimeout w id)
    else none
  | .lost w id =>
    if id ∈ ns.nodes then some ((before.nodeDisconnect w id .failed).examine w) else none
  | .discover w params role cluster => some (before.discover w params role cluster)
  | .rediscover w id =>
    if id ∈ ns.nodes ∧ getInfoCode < (ns.node id).state.code then before.rediscover w id else none
  | .setRole id role => if id ∈ ns.nodes then some (before.setRole id role) else none
  | .clusterPeer id role => if id ∈ ns.nodes then some (before.clusterPeer id role) else none
  | .setSlots id ranges => if id ∈ ns.nodes then some (before.setClusterSlots id ranges).1 else none
  | .unsetSlots id => if id ∈ ns.nodes then some (before.unsetClusterSlots id) else none
  | .remove w id => if id ∈ ns.nodes then some (before.remove w id) else none
  | .makeReady id =>
    -- both connections are there
    if id ∈ ns.nodes ∧ NodeState.code .getClusterinfo ≤ (ns.node id).state.code then
      some (before.makeReady id)
    else none
  | .clusterCheck w lines epochChanged =>
    if ns.clusterEnabled then some (before.clusterCheck w lines epochChanged) else none
  | .reset => some before.resetClusterNodeInfo
  | .strangeReply w id =>
    if id ∈ ns.nodes ∧ (ns.node id).cluster = false then
      some ((before.nodeDisconnect w id .failed).setStatus w .clusterFailing)
    else none
  | .examine w => some (before.examine w)
  | .setStatus w status => if status ≠ .ready then some (before.setStatus w status) else none

end Nchan.Redis
