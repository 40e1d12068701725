import Nchan.Redis.Nodeset

/-! # A nodeset that is ready

When a nodeset is ready there should be a master for every channel.  A master that gave up
connecting while it waited for the subscription of the worker is neither failed nor connecting, and
is taken for a master all the same.  A cluster that was ready stays so when it is found to be
incomplete.  In runs without these two the nodes that own slots are ready masters for as long as the
nodeset is ready.
-/

namespace Nchan.Redis

open Nchan.Lib List Nodeset NodeState Run Bool

namespace Nodeset

/-! ## The condition -/

/-- Outside of clusters all masters without a connection have failed. -/
def Steady (ns : Nodeset) : Prop :=
  (∃ id ∈ ns.nodes, (ns.node id).cluster = true) ∨
    ∀ id ∈ ns.nodes, (ns.node id).role = .master →
      (ns.node id).state.code ≤ NodeState.code .disconnected → (ns.node id).state = .failed

/-- The node has no slots of a cluster that is in use. -/
def Idle (id : Nat) (ns : Nodeset) : Prop :=
  ns.status = .ready → ns.clusterEnabled = true → ∀ e ∈ ns.keyslots, e.2 ≠ id

/-- While the nodeset is ready it is not found that it is a cluster. -/
def ClusterKnown (cluster : Bool) (ns : Nodeset) : Prop :=
  ns.status = .ready → cluster = true → ns.clusterEnabled = true

instance (ns : Nodeset) : Decidable ns.Steady :=
  inferInstanceAs (Decidable ((∃ id ∈ _, _) ∨ ∀ id ∈ _, _ → _ → _))

instance (id : Nat) (ns : Nodeset) : Decidable (ns.Idle id) :=
  inferInstanceAs (Decidable (_ → _ → ∀ e ∈ _, _))

instance (cluster : Bool) (ns : Nodeset) : Decidable (ns.ClusterKnown cluster) :=
  inferInstanceAs (Decidable (_ → _ → _))

end Nodeset

def NodeReply.cluster : NodeReply → Bool
  | .info i => i.cluster
  | _ => false

def NodeState.last : NodeState → Bool
  | .subscribingWorker | .getClusterinfo | .gettingClusterNodes => true
  | _ => false

/-- When the nodeset is examined, masters outside of clusters are connected or have failed.  While
    a nodeset is ready, no node is found to be the first of a cluster, and no node that has slots
    loses them or its role, other than by losing its connection or in a check of the cluster; nor
    does the recovery of a cluster fail. -/
def NodesetOp.Sound : NodesetOp → Nodeset → Prop
  | .callback _ id reply, ns =>
    ns.ClusterKnown reply.cluster ∧ ((ns.node id).state.last = true → ns.Steady)
  | .lost .., ns | .examine _, ns => ns.Steady
  | .discover _ _ _ cluster, ns => ns.ClusterKnown cluster
  | .setRole id role, ns => role = .master ∨ ns.Idle id
  | .clusterPeer id role, ns => ns.ClusterKnown true ∧ (role = .master ∨ ns.Idle id)
  | .rediscover _ id, ns | .setSlots id _, ns | .unsetSlots id, ns | .remove _ id, ns => ns.Idle id
  | .reset, ns => ns.status ≠ .ready
  | _, _ => True

instance : (op : NodesetOp) → (ns : Nodeset) → Decidable (op.Sound ns)
  | .callback .., _ => inferInstanceAs (Decidable (_ ∧ (_ → _)))
  | .lost .., _ | .examine _, _ => inferInstanceAs (Decidable (Steady _))
  | .discover .., _ => inferInstanceAs (Decidable (ClusterKnown _ _))
  | .setRole .., _ => inferInstanceAs (Decidable (_ ∨ _))
  | .clusterPeer .., _ => inferInstanceAs (Decidable (_ ∧ (_ ∨ _)))
  | .rediscover .., _ | .setSlots .., _ | .unsetSlots _, _ | .remove .., _ =>
    inferInstanceAs (Decidable (Idle _ _))
  | .reset, _ => inferInstanceAs (Decidable (_ ≠ _))
  | .connect _, _ | .connectTimeout .., _ | .makeReady _, _ | .clusterCheck .., _
  | .strangeReply .., _ | .setStatus .., _ => .isTrue trivial

/-! ## The connector -/

/-- What the connector may do with a node that waits. -/
def Outcome.Fits (reply : NodeReply) (n : Node) : Outcome → Prop
  | .waits n' =>
    n'.state ≠ .ready ∧ (n'.cluster = true → n.cluster = true ∨ reply.cluster = true)
  | .fails n' => n'.cluster = true → n.cluster = true ∨ reply.cluster = true
  | .duplicate => True
  | .takesSlots .. | .connected => n.state.last = true

namespace Node

variable {n : Node} {reply : NodeReply}

theorem proceed_fits {next : NodeState} (unready : next ≠ .ready) :
    (n.proceed reply next).Fits reply n := by
  unfold proceed
  split
  · exact ⟨unready, .inl⟩
  · exact .inl

theorem authenticated_ne : n.authenticated ≠ .ready := by
  unfold authenticated
  split <;> exact nofun

theorem loadScripts_fits : (n.loadScripts reply).Fits reply n := by
  unfold loadScripts
  split
  · exact ⟨nofun, .inl⟩
  · exact proceed_fits nofun

theorem getInfo_fits {info : NodeInfo} : (n.getInfo info).Fits (.info info) n := by
  have cluster : (n.cluster || info.cluster) = true →
      n.cluster = true ∨ (NodeReply.info info).cluster = true := by simp [NodeReply.cluster]
  unfold getInfo
  dsimp only
  split
  case isTrue => trivial
  split
  case isTrue => exact .inl
  split
  case isTrue => exact cluster
  split
  case isTrue => exact ⟨nofun, cluster⟩
  case isFalse => exact cluster

theorem connectorCallback_fits : (n.connectorCallback reply).Fits reply n := by
  unfold connectorCallback
  -- the numbered cases are the states whose callback branches itself
  split
  case h_4 =>
    refine proceed_fits ?_
    split
    · exact nofun
    · exact authenticated_ne
  case h_6 => exact proceed_fits authenticated_ne
  case h_9 => exact loadScripts_fits
  case h_10 => exact loadScripts_fits
  case h_11 =>
    split
    · exact getInfo_fits
    · exact .inl
  case h_13 state =>
    split
    · split
      · exact ⟨nofun, .inl⟩
      · exact congrArg last state
    · exact .inl
  case h_14 state =>
    split
    · exact ⟨nofun, .inl⟩
    · exact congrArg last state
  case h_17 state =>
    split
    · exact congrArg last state
    · exact .inl
  all_goals first | exact proceed_fits nofun | exact .inl

theorem waiting_unready (waits : n.waiting = true) : n.state ≠ .ready := by
  intro ready
  simp [waiting, outstanding, ready] at waits

end Node

namespace Nodeset

/-! ## Addresses and ranges -/

structure Based (ns : Nodeset) : Prop where
  agree : ns.keyslots.Agree
  live : ∀ id, (ns.node id).state = .ready → id ∈ ns.nodes
  fresh : ∀ id ∈ ns.nodes, id < ns.next

/-- A node that is not ready now has changed, or is gone; it may have lost its slots. -/
structure Changes (id : Nat) (ns ns' : Nodeset) : Prop where
  node : ∀ j, j ≠ id → ns'.node j = ns.node j
  unready : (ns'.node id).state ≠ .ready
  cluster : (ns'.node id).cluster = (ns.node id).cluster
  keyslots : ns'.keyslots = ns.keyslots ∨ ns'.keyslots = ns.keyslots.filter (·.2 ≠ id)
  nodes : ∀ j ∈ ns'.nodes, j ∈ ns.nodes
  others : ∀ j ∈ ns.nodes, j ≠ id → j ∈ ns'.nodes
  next : ns'.next = ns.next
  status : ns'.status = ns.status
  clusterEnabled : ns'.clusterEnabled = ns.clusterEnabled
  settled : ns'.settled = ns.settled

variable {ns ns' : Nodeset} {id : Nat} {w : Weather}

@[simp] theorem put_node (n : Node) : (ns.put id n).node id = n := Function.update_self ..

theorem put_node_ne (n : Node) {j : Nat} (other : j ≠ id) : (ns.put id n).node j = ns.node j :=
  Function.update_of_ne other ..

theorem Changes.trans {ns'' : Nodeset} (first : Changes id ns ns') (second : Changes id ns' ns'') :
    Changes id ns ns'' where
  node j other := (second.node j other).trans (first.node j other)
  unready := second.unready
  cluster := second.cluster.trans first.cluster
  keyslots := by
    rcases second.keyslots with same | less <;> rcases first.keyslots with same' | less'
    · exact .inl (same.trans same')
    · exact .inr (same.trans less')
    · exact .inr (same' ▸ less)
    · refine .inr ?_
      rw [less, less', filter_filter]
      simp
  nodes j on := first.nodes j (second.nodes j on)
  others j on other := second.others j (first.others j on other) other
  next := second.next.trans first.next
  status := second.status.trans first.status
  clusterEnabled := second.clusterEnabled.trans first.clusterEnabled
  settled := second.settled.trans first.settled

variable {n : Node}

theorem Changes.of_put (unready : n.state ≠ .ready) (cluster : n.cluster = (ns.node id).cluster) :
    Changes id ns (ns.put id n) where
  node _ other := put_node_ne n other
  unready := by rwa [put_node]
  cluster := by rwa [put_node]
  keyslots := .inl rfl
  nodes _ on := on
  others _ on _ := on
  next := rfl
  status := rfl
  clusterEnabled := rfl
  settled := rfl

variable {state : NodeState}

theorem close_changes (unready : state ≠ .ready) :
    Changes id ns (ns.close id (ns.node id) state) := by
  unfold close
  split
  case isTrue =>
    have put : Changes id ns
        (ns.put id { ns.node id with state := state, connectTimeout := false }) :=
      .of_put unready rfl
    exact { put with keyslots := .inr rfl }
  case isFalse => exact .of_put unready rfl

theorem nodeConnect_changes : Changes id ns (ns.nodeConnect w id) := by
  unfold nodeConnect
  dsimp only
  split
  case isTrue => exact close_changes nofun
  case isFalse => exact .of_put nofun rfl

theorem nodeDisconnect_changes (unready : state ≠ .ready) :
    Changes id ns (ns.nodeDisconnect w id state) := by
  unfold nodeDisconnect
  dsimp only
  split
  case isTrue => exact (close_changes unready).trans nodeConnect_changes
  case isFalse => exact close_changes unready

theorem destroy_changes (unready : (ns.node id).state ≠ .ready) : Changes id ns (ns.destroy id) :=
  { Changes.of_put (n := { ns.node id with role := .unknown }) unready rfl with
    nodes := fun _ on => (mem_filter.mp on).1
    others := fun _ on other => mem_filter.mpr ⟨on, by simpa using other⟩ }

theorem remove_changes : Changes id ns (ns.remove w id) :=
  have closed : Changes id ns (ns.nodeDisconnect w id .failed) :=
    nodeDisconnect_changes nofun
  closed.trans (destroy_changes closed.unready)

theorem Changes.based (change : Changes id ns ns') (based : Based ns) : Based ns' where
  agree := by
    rcases change.keyslots with same | less
    · rw [same]
      exact based.agree
    · rw [less]
      exact based.agree.of_subset (filter_subset_self _)
  live j ready := by
    have other : j ≠ id := fun same => change.unready (same ▸ ready)
    rw [change.node j other] at ready
    exact change.others j (based.live j ready) other
  fresh j on := change.next ▸ based.fresh j (change.nodes j on)

variable {params : ConnectParams} {role : NodeRole}

section

variable (based : Based ns)

include based

theorem Based.put (live : n.state = .ready → id ∈ ns.nodes) :
    Based (ns.put id n) where
  agree := based.agree
  live j ready := by
    by_cases same : j = id
    · subst same
      rw [put_node] at ready
      exact live ready
    · rw [put_node_ne n same] at ready
      exact based.live j ready
  fresh := based.fresh

theorem Based.create {cluster : Bool} :
    Based (ns.create params role cluster) where
  agree := based.agree
  live j ready := by
    have other : j ≠ ns.next := by
      rintro rfl
      rw [Nodeset.create, put_node] at ready
      cases ready
    have was : (ns.node j).state = .ready := by rwa [Nodeset.create, put_node_ne _ other] at ready
    exact mem_append_left _ (based.live j was)
  fresh j on := by
    change j < ns.next + 1
    rcases mem_append.mp on with old | new
    · have := based.fresh j old
      omega
    · have : j = ns.next := mem_singleton.mp new
      omega

theorem Based.of_eq (keyslots : ns'.keyslots = ns.keyslots)
    (node : ns'.node = ns.node) (nodes : ns'.nodes = ns.nodes) (next : ns'.next = ns.next) :
    Based ns' where
  agree := keyslots ▸ based.agree
  live := by
    rw [node, nodes]
    exact based.live
  fresh := by
    rw [nodes, next]
    exact based.fresh

theorem based_disconnect :
    Based (ns.disconnect w) ∧ (ns.disconnect w).status = ns.status := by
  refine List.foldlRecOn (motive := fun s : Nodeset => Based s ∧ s.status = ns.status) ns.nodes _
    ⟨based, rfl⟩ ?_
  rintro s ⟨based, same⟩ id -
  split
  case isTrue =>
    have closed : Changes id s (s.nodeDisconnect w id .disconnected) :=
      nodeDisconnect_changes nofun
    have gone := closed.trans (destroy_changes closed.unready)
    exact ⟨gone.based based, gone.status.trans same⟩
  case isFalse down =>
    have unready : (s.node id).state ≠ .ready := fun ready => down (ready ▸ by decide)
    exact ⟨(destroy_changes unready).based based, same⟩

theorem based_connect : Based (ns.connect w) := by
  have created : Based ns.createNodes := by
    refine List.foldlRecOn (motive := Based) ns.urls _ based ?_
    intro s based p _
    split
    case isTrue => exact based
    case isFalse => exact based.create
  refine List.foldlRecOn (motive := Based) _ _ created ?_
  intro s based id _
  split
  case isTrue => exact nodeConnect_changes.based based
  case isFalse => exact based

theorem based_reset : Based ns.resetClusterNodeInfo where
  agree := based.agree.of_subset (filter_subset_self _)
  live j ready := by
    refine based.live j ?_
    simp only [resetClusterNodeInfo] at ready
    split at ready
    case isFalse => exact ready
    case isTrue =>
      simp only [resetNode] at ready
      split at ready
      · cases ready
      · exact ready
  fresh := based.fresh

theorem based_setStatus {status : NodesetStatus} (other : status ≠ .ready) :
    Based (ns.setStatus w status) ∧ (ns.setStatus w status).status ≠ .ready := by
  have set : ∀ s : NodesetStatus, Based { ns with status := s, settled := true } :=
    fun _ => based.of_eq rfl rfl rfl rfl
  have torn : ∀ s : NodesetStatus, s ≠ .ready →
      Based ({ ns with status := s, settled := true }.disconnect w) ∧
        ({ ns with status := s, settled := true }.disconnect w).status ≠ .ready := by
    intro s unready
    obtain ⟨based, same⟩ := based_disconnect (w := w) (set s)
    exact ⟨based, same ▸ unready⟩
  unfold setStatus
  split
  case isTrue same => exact ⟨based.of_eq rfl rfl rfl rfl, same ▸ other⟩
  case isFalse =>
    cases status with
    | ready => exact absurd rfl other
    | failed => exact torn _ other
    | disconnected => exact torn _ other
    | invalid => exact torn _ other
    | connecting => exact ⟨set _, other⟩
    | failing =>
      exact ⟨(based_connect (set .failing)).of_eq rfl rfl rfl rfl, nofun⟩
    | clusterFailing =>
      have reset := based_reset (set .clusterFailing)
      dsimp only
      split
      case isTrue => exact ⟨reset, nofun⟩
      case isFalse =>
        let forgot := resetClusterNodeInfo { ns with status := .clusterFailing, settled := true }
        let lost := { forgot with status := .failed }
        have still : Based lost := reset.of_eq rfl rfl rfl rfl
        obtain ⟨based, same⟩ := based_disconnect (w := w) still
        exact ⟨based, same ▸ nofun⟩

end

/-! ## Nodesets that are ready -/

def Covered (ns : Nodeset) : Prop := ns.keyslots.Covered fun id => (ns.node id).readyMaster

structure Sane (ns : Nodeset) : Prop extends Based ns where
  covered : ns.status = .ready → ns.clusterEnabled = true → ns.Covered
  known : ∀ id ∈ ns.nodes, ns.ClusterKnown (ns.node id).cluster

/-- What the status promises after it has been set. -/
def Routed (ns : Nodeset) : Prop :=
  ns.settled = true → ns.status = .ready → ns.clusterEnabled = false →
    ∃ id ∈ ns.nodes, (ns.node id).readyMaster = true

def Good (ns : Nodeset) : Prop := ns.Sane ∧ ns.Routed

theorem readyMaster_iff : n.readyMaster = true ↔ n.state = .ready ∧ n.role = .master := by
  simp

theorem ready_code : NodeState.code .ready ≤ state.code ↔ state = .ready := by
  cases state <;> decide

theorem keyslotSpaceComplete_iff (agree : ns.keyslots.Agree) :
    ns.keyslotSpaceComplete .ready = true ↔ ns.Covered := by
  unfold keyslotSpaceComplete Covered
  rw [Ranges.complete_iff_covered agree]
  simp only [ready_code]
  rfl

theorem good_of_unready (based : Based ns) (unready : ns.status ≠ .ready) : ns.Good :=
  ⟨{ based with
      covered := fun ready => absurd ready unready
      known := fun _ _ ready => absurd ready unready },
    fun _ ready => absurd ready unready⟩

theorem good_setStatus (based : Based ns) {status : NodesetStatus} (other : status ≠ .ready) :
    (ns.setStatus w status).Good :=
  have set := based_setStatus based other
  good_of_unready set.1 set.2

section

variable (sane : ns.Sane)

include sane

theorem Sane.owner (ready : ns.status = .ready)
    (cluster : ns.clusterEnabled = true) {e : SlotRange × Nat} (on : e ∈ ns.keyslots) :
    (ns.node e.2).readyMaster = true :=
  (sane.covered ready cluster).owner_good sane.agree on

theorem Sane.idle (not : (ns.node id).readyMaster = false) : ns.Idle id := by
  intro ready cluster e on same
  have := sane.owner ready cluster on
  rw [same, not] at this
  cases this

omit sane in
theorem Covered.of_changes (covered : ns.Covered) (change : Changes id ns ns')
    (idle : ∀ e ∈ ns.keyslots, e.2 ≠ id) : ns'.Covered := by
  have same : ns'.keyslots = ns.keyslots := by
    rcases change.keyslots with same | less
    · exact same
    · rw [less]
      exact filter_eq_self.mpr fun e on => by simpa using idle e on
  unfold Covered
  rw [same]
  refine Ranges.Covered.mono covered fun e on fine => ?_
  rwa [change.node e.2 (idle e on)]

theorem Sane.changes (idle : ns.Idle id) (change : Changes id ns ns') : ns'.Sane :=
  { change.based sane.toBased with
    covered := by
      rw [change.status, change.clusterEnabled]
      exact fun ready cluster => (sane.covered ready cluster).of_changes change (idle ready cluster)
    known := by
      intro j on
      have same : (ns'.node j).cluster = (ns.node j).cluster := by
        by_cases this : j = id
        · exact this ▸ change.cluster
        · rw [change.node j this]
      unfold ClusterKnown
      rw [same, change.status, change.clusterEnabled]
      exact sane.known j (change.nodes j on) }

theorem Sane.put (live : n.state = .ready → id ∈ ns.nodes)
    (owner : (ns.node id).readyMaster = true → n.readyMaster = true ∨ ns.Idle id)
    (known : ns.ClusterKnown n.cluster) : (ns.put id n).Sane :=
  { sane.toBased.put live with
    covered := by
      intro ready cluster
      refine Ranges.Covered.mono (sane.covered ready cluster) fun e on fine => ?_
      by_cases same : e.2 = id
      · rcases owner (same ▸ fine) with still | idle
        · rwa [same, put_node]
        · exact absurd same (idle ready cluster e on)
      · rwa [put_node_ne n same]
    known := by
      intro j on
      by_cases same : j = id
      · rw [same, put_node]
        exact known
      · rw [put_node_ne n same]
        exact sane.known j on }

theorem Sane.create {cluster : Bool} (known : ns.ClusterKnown cluster) :
    (ns.create params role cluster).Sane :=
  { sane.toBased.create with
    covered := by
      intro ready cluster
      refine Ranges.Covered.mono (sane.covered ready cluster) fun e on fine => ?_
      -- an owner is a node, and the address of the new node is not in use
      have there := sane.live e.2 (readyMaster_iff.mp fine).1
      have other : e.2 ≠ ns.next := Nat.ne_of_lt (sane.fresh e.2 there)
      rwa [Nodeset.create, put_node_ne _ other]
    known := by
      intro j on
      by_cases same : j = ns.next
      · rw [same, Nodeset.create, put_node]
        exact known
      · rw [Nodeset.create, put_node_ne _ same]
        rcases mem_append.mp on with old | new
        · exact sane.known j old
        · exact absurd (mem_singleton.mp new) same }

theorem Sane.discover {cluster : Bool} (known : ns.ClusterKnown cluster) :
    (ns.discover w params role cluster).Sane := by
  have created : (ns.create params role cluster).Sane := sane.create known
  refine created.changes (created.idle ?_) nodeConnect_changes
  rw [Nodeset.create, put_node]
  rfl

theorem Sane.unsetClusterSlots (idle : ns.Idle id) :
    (ns.unsetClusterSlots id).Sane :=
  { sane.toBased with
    agree := sane.agree.of_subset (filter_subset_self _)
    covered := by
      intro ready cluster
      have same : ns.keyslots.filter (·.2 ≠ id) = ns.keyslots :=
        filter_eq_self.mpr fun e on => by simpa using idle ready cluster e on
      unfold Covered Nodeset.unsetClusterSlots
      rw [same]
      exact sane.covered ready cluster
    known := sane.known }

theorem Sane.setClusterSlots {ranges : List SlotRange} (idle : ns.Idle id) :
    (ns.setClusterSlots id ranges).1.Sane := by
  have unset := sane.unsetClusterSlots idle
  unfold Nodeset.setClusterSlots
  dsimp only
  split
  case isTrue => exact unset
  case isFalse free =>
    obtain ⟨some, free⟩ := not_or.mp free
    have clear : ∀ r ∈ ranges, (ns.unsetClusterSlots id).keyslots.owner r = none := by
      intro r on
      by_contra taken
      exact free (any_eq_true.mpr ⟨r, on, Option.isSome_iff_ne_none.mpr taken⟩)
    exact { unset with
      agree := unset.agree.append clear
      covered := by
        -- where every slot has an owner there is no free range
        intro ready cluster
        obtain ⟨r, on⟩ := exists_mem_of_ne_nil ranges some
        exact absurd (clear r on) ((unset.covered ready cluster).owner_ne_none r) }

end

/-! ## Examining the nodes -/

structure Dropped (ns ns' : Nodeset) : Prop where
  based : Based ns'
  ready : ∀ j, (ns.node j).state = .ready → ns'.node j = ns.node j ∧ (j ∈ ns.nodes → j ∈ ns'.nodes)
  unready : ∀ j, (ns.node j).state ≠ .ready → (ns'.node j).state ≠ .ready
  covered : ns.Covered → ns'.Covered
  nodes : ∀ j ∈ ns'.nodes, j ∈ ns.nodes
  cluster : ∀ j, (ns'.node j).cluster = (ns.node j).cluster
  status : ns'.status = ns.status

theorem Dropped.remove {j : Nat} (dropped : Dropped ns ns') (failed : (ns.node j).state ≠ .ready) :
    Dropped ns (ns'.remove w j) := by
  have change : Changes j ns' (ns'.remove w j) := remove_changes
  have cluster : ∀ i, ((ns'.remove w j).node i).cluster = (ns'.node i).cluster := by
    intro i
    by_cases same : i = j
    · exact same ▸ change.cluster
    · rw [change.node i same]
  have other : ∀ i, (ns.node i).state = .ready → i ≠ j := fun i ready same => failed (same ▸ ready)
  refine ⟨change.based dropped.based, fun i ready => ?_, fun i not => ?_, fun covered => ?_,
    fun i on => dropped.nodes i (change.nodes i on),
    fun i => (cluster i).trans (dropped.cluster i), change.status.trans dropped.status⟩
  · obtain ⟨same, stays⟩ := dropped.ready i ready
    exact ⟨(change.node i (other i ready)).trans same,
      fun on => change.others i (stays on) (other i ready)⟩
  · by_cases same : i = j
    · exact same ▸ change.unready
    · rw [change.node i same]
      exact dropped.unready i not
  · have still := dropped.covered covered
    refine still.of_changes change fun e on same => ?_
    have fine := still.owner_good dropped.based.agree on
    exact dropped.unready e.2 (same ▸ failed) (readyMaster_iff.mp fine).1

theorem dropped_dropFailedSlaves (based : Based ns) : Dropped ns (ns.dropFailedSlaves w) := by
  refine List.foldlRecOn (motive := Dropped ns) _ _
    ⟨based, fun _ _ => ⟨rfl, fun on => on⟩, fun _ not => not, fun covered => covered,
      fun _ on => on, fun _ => rfl, rfl⟩ ?_
  intro s dropped j on
  refine dropped.remove fun ready => ?_
  have slave := (mem_filter.mp on).2
  simp [Node.failedSlave, ready] at slave

theorem countNodes_pos {p : Node → Bool} :
    0 < ns.countNodes p ↔ ∃ id ∈ ns.nodes, p (ns.node id) = true :=
  countP_pos_iff

theorem countNodes_eq_zero {p : Node → Bool} :
    ns.countNodes p = 0 ↔ ∀ id ∈ ns.nodes, p (ns.node id) = false := by
  unfold countNodes
  rw [countP_eq_zero]
  simp

theorem Steady.readyMaster (steady : ns.Steady)
    (plain : ns.countNodes (·.cluster) = 0)
    (quiet : ns.countNodes (fun n => NodeState.code .disconnected < n.state.code &&
      n.state.code < NodeState.code .ready) = 0)
    (working : ns.countNodes (fun n => n.state = .failed && n.role = .master) = 0)
    (master : ns.countNodes (·.role = .master) ≠ 0) :
    ∃ id ∈ ns.nodes, (ns.node id).readyMaster = true := by
  obtain ⟨id, on, role⟩ := countNodes_pos.mp (Nat.pos_of_ne_zero master)
  rw [countNodes_eq_zero] at plain quiet working
  refine ⟨id, on, readyMaster_iff.mpr ⟨?_, by simpa using role⟩⟩
  rcases steady with ⟨j, at_, cluster⟩ | steady
  · rw [plain j at_] at cluster
    cases cluster
  · have settledDown := steady id on (by simpa using role)
    have notFailed : (ns.node id).state ≠ .failed := by simpa [role] using working id on
    have notConnecting := quiet id on
    rw [← ready_code]
    by_contra low
    by_cases up : NodeState.code .disconnected < (ns.node id).state.code
    · simp only [up, decide_true, Bool.true_and, decide_eq_false_iff_not] at notConnecting
      omega
    · exact notFailed (settledDown (by omega))

theorem setStatus_ready :
    ns.setStatus w .ready = { ns with status := .ready, settled := true } := by
  unfold setStatus
  split
  case isTrue same => rw [← same]
  case isFalse => rfl

theorem good_ite {p : Prop} [Decidable p] (yes : p → ns.Good) (no : ¬ p → ns'.Good) :
    Good (if p then ns else ns') := by
  split
  case isTrue holds => exact yes holds
  case isFalse fails => exact no fails

theorem examine_good (based : Based ns) (steady : ns.Steady)
    (held : ns.status = .ready → (∃ id ∈ ns.nodes, (ns.node id).cluster = true) →
      ns.Covered ∨ ∃ id ∈ ns.nodes, (ns.node id).state = .failed ∧ (ns.node id).role = .master) :
    (ns.examine w).Good := by
  have dropped : Dropped ns (ns.dropFailedSlaves w) := dropped_dropFailedSlaves based
  unfold examine
  dsimp only
  -- what is set in the end is set on these nodes
  generalize made : { ns.dropFailedSlaves w with
    clusterEnabled := decide (0 < ns.countNodes (·.cluster)), settled := true } = seen
  have basedSeen : Based seen := made ▸ dropped.based.of_eq rfl rfl rfl rfl
  have sameStatus : seen.status = ns.status := made ▸ dropped.status
  have complete : seen.keyslotSpaceComplete .ready = true ↔ (ns.dropFailedSlaves w).Covered :=
    (keyslotSpaceComplete_iff basedSeen.agree).trans (made ▸ Iff.rfl)
  have unready : ∀ {status}, ns.status = status → status ≠ .ready → seen.Good :=
    fun is other => good_of_unready basedSeen (sameStatus.trans is ▸ other)
  have set : ∀ {status}, status ≠ .ready → (seen.setStatus w status).Good :=
    fun other => good_setStatus basedSeen other
  refine good_ite (fun first => unready first.1 nofun) fun _ => ?_
  refine good_ite (fun _ => set nofun) fun _ => ?_
  refine good_ite (fun _ => set nofun) fun _ => ?_
  refine good_ite (fun _ => set nofun) fun _ => ?_
  refine good_ite (fun _ => ?_) fun quiet => ?_
  · exact good_ite (fun _ => set nofun) fun failing =>
      unready (Decidable.not_not.mp failing) nofun
  refine good_ite (fun _ => ?_) fun working => ?_
  · refine good_ite (fun _ => ?_) fun _ => set nofun
    exact good_ite (fun _ => set nofun) fun _ => set nofun
  refine good_ite (fun _ => set nofun) fun masters => ?_
  refine good_ite (fun gap => ?_) fun whole => ?_
  · -- the status is set again, which is wrong only for a nodeset that is ready
    by_cases ready : ns.status = .ready
    · rcases held ready (countNodes_pos.mp gap.1) with covered | ⟨id, on, failed, master⟩
      · exact absurd (complete.mpr (dropped.covered covered)) gap.2
      · exact absurd (countNodes_pos.mpr ⟨id, on, by simp [failed, master]⟩) working
    · exact set ready
  refine good_ite (fun _ => set nofun) fun _ => ?_
  refine good_ite (fun _ => set nofun) fun _ => ?_
  rw [setStatus_ready]
  refine ⟨{ basedSeen.of_eq rfl rfl rfl rfl with covered := fun _ cluster => ?_, known := ?_ }, ?_⟩
  · have cluster : 0 < ns.countNodes (·.cluster) := by simpa [← made] using cluster
    have covered := complete.mp (Decidable.not_not.mp fun not => whole ⟨cluster, not⟩)
    exact made ▸ covered
  · intro id on _ cluster
    subst made
    have flagged := (dropped.cluster id).symm.trans cluster
    exact decide_eq_true (countNodes_pos.mpr ⟨id, dropped.nodes id on, flagged⟩)
  · intro _ _ plain
    subst made
    have plain : ns.countNodes (·.cluster) = 0 := by simpa using plain
    obtain ⟨id, on, fine⟩ := steady.readyMaster plain (by omega) (by omega) masters
    obtain ⟨same, stays⟩ := dropped.ready id (readyMaster_iff.mp fine).1
    exact ⟨id, stays on, (congrArg Node.readyMaster same).trans fine⟩

theorem Sane.examine (sane : ns.Sane) (steady : ns.Steady) :
    (ns.examine w).Good := by
  refine examine_good sane.toBased steady fun ready cluster => .inl ?_
  obtain ⟨id, on, flagged⟩ := cluster
  exact sane.covered ready (sane.known id on ready flagged)

/-! ## Steps -/

theorem Sane.unsettle (sane : ns.Sane) : Sane { ns with settled := false } :=
  ⟨⟨sane.agree, sane.live, sane.fresh⟩, sane.covered, sane.known⟩

theorem Steady.of_node (steady : ns.Steady) (nodes : ns'.nodes = ns.nodes)
    (node : ∀ j, j ≠ id → ns'.node j = ns.node j)
    (cluster : (ns'.node id).cluster = (ns.node id).cluster)
    (down : (ns'.node id).state.code ≤ NodeState.code .disconnected →
      (ns'.node id).state = .failed) : ns'.Steady := by
  unfold Steady
  rw [nodes]
  rcases steady with ⟨j, on, flagged⟩ | steady
  · refine .inl ⟨j, on, ?_⟩
    by_cases same : j = id
    · rwa [same, cluster, ← same]
    · rwa [node j same]
  · refine .inr fun j on => ?_
    by_cases same : j = id
    · rw [same]
      exact fun _ => down
    · rw [node j same]
      exact steady j on

theorem Steady.makeReady (steady : ns.Steady) : (ns.makeReady id).Steady := by
  refine steady.of_node rfl (fun j other => put_node_ne _ other) ?_ ?_
  · rw [Nodeset.makeReady, put_node]
  · rw [Nodeset.makeReady, put_node]
    intro low
    cases low

theorem Sane.makeReady (sane : ns.Sane) (on : id ∈ ns.nodes) : (ns.makeReady id).Sane := by
  refine sane.put (fun _ => on) (fun owner => .inl ?_) (sane.known id on)
  exact readyMaster_iff.mpr ⟨rfl, (readyMaster_iff.mp owner).2⟩

theorem close_put (n : Node) (state : NodeState) :
    (ns.put id n).close id n state = ns.close id n state := by
  unfold close put unsetClusterSlots
  split <;> simp

theorem Sane.connectorFail (sane : ns.Sane) (on : id ∈ ns.nodes) (idle : ns.Idle id)
    (known : ns.ClusterKnown n.cluster) : (ns.connectorFail id n).Sane := by
  have put : (ns.put id n).Sane := sane.put (fun _ => on) (fun _ => .inr idle) known
  have change : Changes id (ns.put id n) ((ns.put id n).close id n .failed) := by
    have := @close_changes (ns.put id n) id .failed nofun
    rwa [put_node] at this
  have closed := put.changes idle change
  rwa [close_put] at closed

theorem close_settled (n : Node) (state : NodeState) :
    (ns.close id n state).settled = ns.settled := by
  unfold close
  split <;> rfl

theorem Sane.unpromised (sane : ns.Sane) (pending : ns.settled = false) : ns.Good :=
  ⟨sane, fun settled => Bool.noConfusion (pending.symm.trans settled)⟩

theorem setClusterSlots_frame (ranges : List SlotRange) :
    (ns.setClusterSlots id ranges).1.node = ns.node ∧
      (ns.setClusterSlots id ranges).1.nodes = ns.nodes ∧
      (ns.setClusterSlots id ranges).1.settled = ns.settled := by
  unfold setClusterSlots
  dsimp only
  split <;> exact ⟨rfl, rfl, rfl⟩

theorem Sane.takesSlots {ranges : List SlotRange} {linked : Bool} (sane : ns.Sane)
    (pending : ns.settled = false) (on : id ∈ ns.nodes) (waits : (ns.node id).readyMaster = false)
    (steady : ns.Steady) {taken : Nodeset} {ok : Bool}
    (took : (if ranges = [] then (ns, true) else ns.setClusterSlots id ranges) = (taken, ok)) :
    let done := if ok ∧ linked then (taken.makeReady id).examine w
      else taken.connectorFail id (taken.node id)
    done.Good := by
  have frame : taken.Sane ∧
      taken.node = ns.node ∧ taken.nodes = ns.nodes ∧ taken.settled = false := by
    split at took
    case isTrue =>
      cases took
      exact ⟨sane, rfl, rfl, pending⟩
    case isFalse =>
      obtain ⟨node, nodes, settled⟩ := @setClusterSlots_frame ns id ranges
      have kept : (ns.setClusterSlots id ranges).1.Sane := sane.setClusterSlots (sane.idle waits)
      rw [took] at node nodes settled kept
      exact ⟨kept, node, nodes, settled.trans pending⟩
  obtain ⟨kept, node, nodes, unsettled⟩ := frame
  have there : id ∈ taken.nodes := nodes ▸ on
  have still : taken.Steady := by
    unfold Steady
    rw [node, nodes]
    exact steady
  intro done
  by_cases finished : ok = true ∧ linked = true
  · have is : done = (taken.makeReady id).examine w := if_pos finished
    exact is ▸ (kept.makeReady there).examine still.makeReady
  · have is : done = taken.connectorFail id (taken.node id) := if_neg finished
    have idle : taken.Idle id := kept.idle (node ▸ waits)
    have failed := kept.connectorFail there idle (kept.known id there)
    exact is ▸ failed.unpromised ((close_settled _ _).trans unsettled)

theorem Sane.callback {reply : NodeReply} (sane : ns.Sane) (pending : ns.settled = false)
    (on : id ∈ ns.nodes) (waits : (ns.node id).waiting = true)
    (known : ns.ClusterKnown reply.cluster)
    (steady : (ns.node id).state.last = true → ns.Steady) :
    (ns.connectorCallback w id reply).Good := by
  have unready := Node.waiting_unready waits
  have plain : (ns.node id).readyMaster = false := by simp [unready]
  have idle := sane.idle plain
  have cluster : ∀ {n : Node},
      (n.cluster = true → (ns.node id).cluster = true ∨ reply.cluster = true) →
      ns.ClusterKnown n.cluster := by
    intro n learned ready flagged
    rcases learned flagged with was | said
    · exact sane.known id on ready was
    · exact known ready said
  have fits := @Node.connectorCallback_fits (ns.node id) reply
  unfold connectorCallback
  cases is : (ns.node id).connectorCallback reply with
  | waits n =>
    rw [is] at fits
    have put : (ns.put id n).Sane := sane.put (fun _ => on) (fun _ => .inr idle) (cluster fits.2)
    exact put.unpromised pending
  | fails n =>
    rw [is] at fits
    have failed := sane.connectorFail on idle (cluster fits)
    exact failed.unpromised ((close_settled _ _).trans pending)
  | duplicate =>
    exact (sane.changes idle (destroy_changes unready)).unpromised pending
  | takesSlots ranges linked =>
    rw [is] at fits
    dsimp only
    cases took : (if ranges = [] then (ns, true) else ns.setClusterSlots id ranges) with
    | mk taken ok => exact sane.takesSlots pending on plain (steady fits) took
  | connected =>
    rw [is] at fits
    exact (sane.makeReady on).examine (steady fits).makeReady

theorem Sane.connectTimeout (sane : ns.Sane) (pending : ns.settled = false) (on : id ∈ ns.nodes)
    (waits : (ns.node id).waiting = true) :
    (ns.connectorConnectTimeout w id).Good := by
  have unready := Node.waiting_unready waits
  have idle : ns.Idle id := sane.idle (by simp [unready])
  have failed := (sane.connectorFail on idle (sane.known id on)).unpromised
    ((close_settled _ _).trans pending)
  have change : Changes id ns (ns.nodeDisconnect w id .connectionTimedOut) :=
    nodeDisconnect_changes nofun
  unfold connectorConnectTimeout
  split
  · exact failed
  · exact failed
  · exact (sane.changes idle change).unpromised (change.settled.trans pending)

theorem nodeConnect_state :
    ((ns.nodeConnect w id).node id).state = .failed ∨
      ((ns.nodeConnect w id).node id).state = .cmdConnecting := by
  unfold nodeConnect
  dsimp only
  split
  · rw [connectorFail, close, put_node]
    exact .inl rfl
  · rw [put_node]
    exact .inr rfl

theorem nodeDisconnect_state :
    ((ns.nodeDisconnect w id .failed).node id).state = .failed ∨
      ((ns.nodeDisconnect w id .failed).node id).state = .cmdConnecting := by
  unfold nodeDisconnect
  dsimp only
  split
  · exact nodeConnect_state
  · rw [close, put_node]
    exact .inl rfl

theorem nodeDisconnect_nodes : (ns.nodeDisconnect w id state).nodes = ns.nodes := by
  unfold nodeDisconnect nodeConnect connectorFail close
  dsimp only
  split_ifs <;> rfl

theorem Sane.lost (sane : ns.Sane) (on : id ∈ ns.nodes) (steady : ns.Steady) :
    ((ns.nodeDisconnect w id .failed).examine w).Good := by
  have change : Changes id ns (ns.nodeDisconnect w id .failed) :=
    nodeDisconnect_changes nofun
  have still : (ns.nodeDisconnect w id .failed).Steady := by
    refine steady.of_node nodeDisconnect_nodes change.node change.cluster fun down => ?_
    rcases @nodeDisconnect_state ns id w with failed | connecting
    · exact failed
    · rw [connecting] at down
      cases down
  cases owner : (ns.node id).readyMaster with
  | false => exact (sane.changes (sane.idle owner) change).examine still
  | true =>
    -- the slots of this master are gone, but it is seen that it has failed
    obtain ⟨ready, master⟩ := readyMaster_iff.mp owner
    have closed : (ns.nodeDisconnect w id .failed).node id =
        { ns.node id with state := .failed, connectTimeout := false } := by
      have silent : (ns.node id).outstanding = false := by simp [Node.outstanding, ready]
      unfold nodeDisconnect
      dsimp only
      rw [silent, if_neg Bool.false_ne_true, close, put_node]
    refine examine_good (change.based sane.toBased) still fun _ _ => .inr ⟨id, ?_, ?_, ?_⟩
    · rwa [nodeDisconnect_nodes]
    · rw [closed]
    · rw [closed]
      exact master

theorem Sane.rediscover (sane : ns.Sane) (pending : ns.settled = false) (on : id ∈ ns.nodes)
    (idle : ns.Idle id) : Gives (ns.rediscover w id) Good := by
  have unknown : (ns.setRole id .unknown).Sane :=
    sane.put (fun _ => on) (fun _ => .inr idle) (sane.known id on)
  have closed : Changes id (ns.setRole id .unknown)
      ((ns.setRole id .unknown).nodeDisconnect w id .failed) :=
    nodeDisconnect_changes nofun
  have change := closed.trans (nodeConnect_changes (w := w))
  exact .guard fun _ =>
    .of_some ((unknown.changes idle change).unpromised (change.settled.trans pending))

theorem readyMaster_kept (kept : role = .master ∨ ns.Idle id)
    (owner : (ns.node id).readyMaster = true) {cluster : Bool} :
    Node.readyMaster { ns.node id with cluster := cluster, role := role } = true ∨ ns.Idle id :=
  kept.imp_left fun master => readyMaster_iff.mpr ⟨(readyMaster_iff.mp owner).1, master⟩

theorem Sane.clusterPeer (sane : ns.Sane) (known : ns.ClusterKnown true)
    (kept : role = .master ∨ ns.Idle id) : (ns.clusterPeer id role).Sane :=
  sane.put (sane.live id) (fun owner => readyMaster_kept kept owner) known

theorem idle_of_not_outdated (current : ns.nodeIsOutdated id none = false) : ns.Idle id := by
  intro _ _ e on same
  simp only [nodeIsOutdated, Option.getD_none, or_eq_false_iff, decide_eq_false_iff_not,
    Decidable.not_not, map_eq_nil_iff] at current
  exact filter_eq_nil_iff.mp current.2 e on (decide_eq_true same)

/-! ### The check of a cluster -/

/-- While the lines are read either nothing is wrong, or something has been counted. -/
structure Reading (c : ClusterCheck) : Prop where
  based : c.ns.Based
  cluster : c.ns.clusterEnabled = true
  pending : c.ns.settled = false
  noticed : c.ns.Sane ∨ 0 < c.outdated ∨ 0 < c.failed

variable {c : ClusterCheck}

section

variable (reading : Reading c)

include reading

theorem Reading.outdate {outdated : Nat} (more : c.outdated ≤ outdated) :
    Reading { c with outdated := outdated } where
  based := reading.based
  cluster := reading.cluster
  pending := reading.pending
  noticed := by
    rcases reading.noticed with sane | counted | counted
    · exact .inl sane
    · exact .inr (.inl (Nat.lt_of_lt_of_le counted more))
    · exact .inr (.inr counted)

theorem Reading.peer (slots : Option (List SlotRange)) :
    Reading (checkLine w (.peer id slots) c) := by
  have based : (c.ns.clusterPeer id (lineRole slots)).Based :=
    reading.based.put (reading.based.live id)
  unfold checkLine
  dsimp only
  split
  case isTrue => exact ⟨based, reading.cluster, reading.pending, .inr (.inl (Nat.succ_pos _))⟩
  case isFalse current =>
    refine ⟨based, reading.cluster, reading.pending, ?_⟩
    rcases reading.noticed with sane | counted
    · refine .inl (sane.clusterPeer (fun _ _ => reading.cluster) ?_)
      cases slots with
      | some ranges => exact .inl rfl
      | none =>
        have idle : (c.ns.clusterPeer id .slave).Idle id :=
          idle_of_not_outdated (eq_false_iff.mpr current)
        exact .inr idle
    · exact .inr counted

theorem Reading.discovered (params : ConnectParams)
    (slots : Option (List SlotRange)) : Reading (checkLine w (.discovered params slots) c) := by
  have change : Changes c.ns.next (c.ns.create params (lineRole slots) true) _ :=
    nodeConnect_changes (w := w)
  have found : Reading { c with ns := c.ns.discover w params (lineRole slots) true } := by
    refine ⟨change.based reading.based.create, change.clusterEnabled.trans reading.cluster,
      change.settled.trans reading.pending, ?_⟩
    rcases reading.noticed with sane | counted
    · exact .inl (sane.discover fun _ _ => reading.cluster)
    · exact .inr counted
  refine found.outdate ?_
  split
  · exact Nat.le_refl _
  · exact Nat.le_succ _

theorem Reading.line (line : ClusterLine) : Reading (checkLine w line c) := by
  cases line with
  | peer id slots => exact reading.peer slots
  | discovered params slots => exact reading.discovered params slots
  | myself id slots =>
    unfold checkLine
    dsimp only
    split
    case isTrue => exact reading.outdate (Nat.le_succ _)
    case isFalse => exact reading
  | failed id =>
    unfold checkLine
    dsimp only
    split
    case isTrue =>
      have change : Changes id c.ns (c.ns.remove w id) := remove_changes
      exact ⟨change.based reading.based, change.clusterEnabled.trans reading.cluster,
        change.settled.trans reading.pending, .inr (.inr (Nat.succ_pos _))⟩
    case isFalse => exact reading

end

theorem Sane.clusterCheck {lines : List ClusterLine} {epochChanged : Bool} (sane : ns.Sane)
    (pending : ns.settled = false) (cluster : ns.clusterEnabled = true) :
    (ns.clusterCheck w lines epochChanged).Good := by
  have read : Reading (lines.foldl (fun c line => checkLine w line c) ⟨ns, 0, 0⟩) :=
    List.foldlRecOn lines _ ⟨sane.toBased, cluster, pending, .inl sane⟩ fun c reading line _ =>
      reading.line line
  unfold Nodeset.clusterCheck
  dsimp only
  generalize lines.foldl (fun c line => checkLine w line c) ⟨ns, 0, 0⟩ = c at read
  split
  case isTrue => exact good_setStatus read.based nofun
  case isFalse current =>
  split
  case isTrue => exact good_setStatus read.based nofun
  case isFalse whole =>
    -- if nodes were removed, then the slots have been looked through
    refine Sane.unpromised ?_ read.pending
    rcases read.noticed with sane | counted | removed
    · exact sane
    · exact absurd counted current
    · have complete := Decidable.not_not.mp fun gap => whole ⟨.inr removed, gap⟩
      have covered := (keyslotSpaceComplete_iff read.based.agree).mp complete
      exact { read.based with covered := fun _ _ => covered, known := fun _ _ _ _ => read.cluster }

/-! ### Every step -/

theorem step_good {op : NodesetOp} (sane : ns.Sane) (sound : op.Sound ns) :
    Gives (op.step ns) Good := by
  have before := sane.unsettle
  cases op with
  | connect w =>
    exact .of_some (good_setStatus (based_connect before.toBased) nofun)
  | callback w id reply =>
    exact .guard fun ⟨on, waits⟩ => .of_some (before.callback rfl on waits sound.1 sound.2)
  | connectTimeout w id =>
    exact .guard fun ⟨on, _, waits⟩ => .of_some (before.connectTimeout rfl on waits)
  | lost w id => exact .guard fun on => .of_some (before.lost on sound)
  | discover w params role cluster =>
    exact .of_some ((before.discover sound).unpromised (nodeConnect_changes (w := w)).settled)
  | rediscover w id => exact .guard fun ⟨on, _⟩ => before.rediscover rfl on sound
  | setRole id role =>
    refine .guard fun on => .of_some (Sane.unpromised ?_ rfl)
    exact before.put (fun _ => on) (fun owner => readyMaster_kept sound owner) (before.known id on)
  | clusterPeer id role =>
    exact .guard fun _ => .of_some ((before.clusterPeer sound.1 sound.2).unpromised rfl)
  | setSlots id ranges =>
    exact .guard fun _ =>
      .of_some ((before.setClusterSlots sound).unpromised (setClusterSlots_frame ranges).2.2)
  | unsetSlots id =>
    exact .guard fun _ => .of_some ((before.unsetClusterSlots sound).unpromised rfl)
  | remove w id =>
    exact .guard fun _ => .of_some
      ((before.changes sound remove_changes).unpromised (remove_changes (w := w)).settled)
  | makeReady id => exact .guard fun ⟨on, _⟩ => .of_some ((before.makeReady on).unpromised rfl)
  | clusterCheck w lines epochChanged =>
    exact .guard fun cluster => .of_some (before.clusterCheck rfl cluster)
  | reset => exact .of_some (good_of_unready (based_reset before.toBased) sound)
  | strangeReply w id =>
    have closed : Changes id _ (nodeDisconnect w id .failed { ns with settled := false }) :=
      nodeDisconnect_changes nofun
    exact .guard fun _ => .of_some (good_setStatus (closed.based before.toBased) nofun)
  | examine w => exact .of_some (before.examine sound)
  | setStatus w status =>
    exact .guard fun other => .of_some (good_setStatus before.toBased other)

theorem Good.route (good : ns.Good) (settled : ns.settled = true) (ready : ns.status = .ready)
    (chid : Bytes) :
    ∃ id ∈ ns.nodes, ns.nodeFindByChannelId chid = some id ∧
      (ns.node id).role = .master ∧ (ns.node id).state = .ready := by
  obtain ⟨sane, routed⟩ := good
  unfold nodeFindByChannelId
  cases cluster : ns.clusterEnabled with
  | true =>
    obtain ⟨id, owned, fine⟩ :=
      sane.covered ready cluster _ (redisKeyslotFromChannelId_lt chid)
    obtain ⟨state, role⟩ := readyMaster_iff.mp fine
    exact ⟨id, sane.live id state, owned, role, state⟩
  | false =>
    obtain ⟨id, on, fine⟩ := routed settled ready cluster
    have good : ∀ j, (decide (NodeState.code .ready ≤ (ns.node j).state.code) &&
        decide ((ns.node j).role = .master)) = (ns.node j).readyMaster := by
      intro j
      simp [ready_code]
    have found : (ns.nodes.find? fun j => (ns.node j).readyMaster).isSome = true :=
      List.find?_isSome.mpr ⟨id, on, fine⟩
    obtain ⟨j, is⟩ := Option.isSome_iff_exists.mp found
    have ready : (ns.node j).readyMaster = true := by simpa using List.find?_some is
    obtain ⟨state, role⟩ := readyMaster_iff.mp ready
    refine ⟨j, mem_of_find?_eq_some is, ?_, role, state⟩
    simp only [nodeFindAnyReadyMaster, good]
    exact is

theorem good_run {urls : List ConnectParams} {ops : List NodesetOp}
    (sound : Run.Along NodesetOp.step NodesetOp.Sound ops (start urls))
    (reaches : run NodesetOp.step ops (start urls) = some ns) : ns.Good := by
  have initial : (start urls).Good := by
    refine good_of_unready ⟨fun e on => ?_, fun id ready => ?_, fun id on => ?_⟩
      nofun
    · cases on
    · cases ready
    · cases on
  exact run_invariant (fun _ _ s' good sound stepped => step_good good.1 sound s' stepped)
    initial sound reaches

/-- In every run that meets the condition a nodeset that is ready has a ready master for every
    channel, whenever the status has just been set or examined. -/
theorem ready_nodeset_routes {urls : List ConnectParams} {ops : List NodesetOp}
    (sound : Run.Along NodesetOp.step NodesetOp.Sound ops (start urls))
    (reaches : run NodesetOp.step ops (start urls) = some ns) (settled : ns.settled = true)
    (ready : ns.status = .ready) (chid : Bytes) :
    ∃ id ∈ ns.nodes, ns.nodeFindByChannelId chid = some id ∧
      (ns.node id).role = .master ∧ (ns.node id).state = .ready :=
  (good_run sound reaches).route settled ready chid

/-! ### Runs with a replica -/

def server (name : Char) : ConnectParams := ⟨[name], 6379, [], [], 0, false, .none⟩

def fair : Weather := ⟨fun _ => true, true⟩

def answers (id : Nat) (replies : List NodeReply) : List NodesetOp :=
  replies.map (.callback fair id)

/-- Up to `INFO ALL`. -/
def greeting : List NodeReply := [.ok, .ok, .ok, .ok, .ok]

/-- From `INFO ALL` to the subscription of the worker. -/
def presents (role : NodeRole) (cluster : Bool) : List NodeReply :=
  [.info ⟨false, true, cluster, role, true⟩, .ok]

/-- From the subscription to `CLUSTER NODES`. -/
def inCluster (ranges : List SlotRange) : List NodeReply :=
  [.ok, .ok, .ok, .clusterNodes ranges true]

def allSlots : SlotRange := ⟨0, 16383, by decide, by decide⟩

/-- A cluster of a master, which has all slots, and a slave. -/
def clusterRun : List NodesetOp :=
  [.connect fair] ++ answers 0 (greeting ++ presents .master true) ++
  [.discover fair (server 'b') .slave true] ++ answers 0 (inCluster [allSlots]) ++
  answers 1 (greeting ++ presents .slave true ++ inCluster [])

theorem ready_nodeset_routes_cluster :
    ∃ ns, run NodesetOp.step clusterRun (start [server 'a']) = some ns ∧
      ns.clusterEnabled = true ∧ ∀ chid, ∃ id ∈ ns.nodes, ns.nodeFindByChannelId chid = some id ∧
        (ns.node id).role = .master ∧ (ns.node id).state = .ready := by
  have checked : (run NodesetOp.step clusterRun (start [server 'a'])).map
      (fun ns => (ns.clusterEnabled, ns.settled, ns.status)) = some (true, true, .ready) := by
    decide +kernel
  obtain ⟨ns, reaches, is⟩ := Option.map_eq_some_iff.mp checked
  injection is with cluster rest
  injection rest with settled ready
  exact ⟨ns, reaches, cluster, fun chid =>
    ready_nodeset_routes (by decide +kernel) reaches settled ready chid⟩

/-- The master gives up while it waits for the subscription of the worker, and its slave
    connects. -/
def timedOutRun : List NodesetOp :=
  [.connect fair] ++ answers 0 greeting ++ [.discover fair (server 'b') .slave false] ++
  answers 0 (presents .master false) ++ answers 1 (greeting ++ presents .slave false) ++
  [.connectTimeout fair 0] ++ answers 1 [.ok]

/-- A node joins the cluster, and tells that master and slave have changed their roles. -/
def failoverRun : List NodesetOp :=
  clusterRun ++
  [.clusterCheck fair [.myself 0 (some [allSlots]), .peer 1 none, .discovered (server 'c') none]
    false] ++
  answers 2 (greeting ++ presents .slave true ++ [.ok, .ok, .ok]) ++
  [.clusterPeer 0 .slave, .clusterPeer 1 .master] ++ answers 2 [.clusterNodes [] true]

theorem ready_nodeset_without_master :
    (∃ ns, run NodesetOp.step timedOutRun (start [server 'a']) = some ns ∧
      ns.settled = true ∧ ns.status = .ready ∧ ∀ chid, ns.nodeFindByChannelId chid = none) ∧
    ∃ ns, run NodesetOp.step failoverRun (start [server 'a']) = some ns ∧
      ns.settled = true ∧ ns.status = .ready ∧
      ∃ id, ns.nodeFindByChannelId [] = some id ∧ (ns.node id).role = .slave := by
  constructor
  · have checked : (run NodesetOp.step timedOutRun (start [server 'a'])).map
        (fun ns => (ns.settled, ns.status, ns.clusterEnabled, ns.nodeFindAnyReadyMaster)) =
        some (true, .ready, false, none) := by decide +kernel
    obtain ⟨ns, reaches, is⟩ := Option.map_eq_some_iff.mp checked
    simp only [Prod.mk.injEq] at is
    obtain ⟨settled, ready, cluster, missing⟩ := is
    refine ⟨ns, reaches, settled, ready, fun chid => ?_⟩
    rw [nodeFindByChannelId, cluster, missing]
    rfl
  · have checked : (run NodesetOp.step failoverRun (start [server 'a'])).map
        (fun ns => (ns.settled, ns.status, ns.nodeFindByChannelId [], (ns.node 0).role)) =
        some (true, .ready, some 0, .slave) := by decide +kernel
    obtain ⟨ns, reaches, is⟩ := Option.map_eq_some_iff.mp checked
    simp only [Prod.mk.injEq] at is
    obtain ⟨settled, ready, found, role⟩ := is
    exact ⟨ns, reaches, settled, ready, 0, found, role⟩

end Nodeset

end Nchan.Redis
