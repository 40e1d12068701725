import Nchan.Redis.Nodeset

/-! # Masters and their slaves

A node knows its master, and a master has a list of its slaves.  They are kept in step only by the
functions that change them.  A slave that gets another master is to be removed from the list of the
old one; what is removed instead is the slave itself, from the list of all nodes.  A change of role
clears what a node knows of others, but not if it had that role already.
-/

namespace Nchan.Redis

open Nchan.Lib List Option Run
open Function (update update_apply update_eq_self update_of_ne update_self)

/-- The nodes of a nodeset, with `role` and `peers` of each. -/
@[ext]
structure PeerGraph (N : Type*) where
  nodes : List N := []
  role : N → NodeRole := fun _ => .unknown
  master : N → Option N := fun _ => none
  slaves : N → List N := fun _ => []

namespace PeerGraph

variable {N : Type*} [DecidableEq N]

/-- `node_remove_peer`. -/
def removePeer (node peer : N) (g : PeerGraph N) : PeerGraph N :=
  { g with
    master := fun s => if s = node ∧ g.master s = some peer then none else g.master s
    slaves := fun m => if m = node then (g.slaves m).erase peer else g.slaves m }

/-- A node leaves its master, which has to be there still. -/
def leaveMaster (node : N) (g : PeerGraph N) : Option (PeerGraph N) :=
  match g.master node with
  | none => some g
  | some master =>
    if master ∈ g.nodes then
      let g := g.removePeer master node
      some { g with master := update g.master node none }
    else none

/-- The slaves of a node forget it.  The list must not change while the loop goes over it. -/
def leaveSlaves (node : N) (g : PeerGraph N) : Option (PeerGraph N) :=
  ((g.slaves node).foldlM (fun g slave =>
    if slave ∈ g.nodes ∧ slave ≠ node then some (g.removePeer slave node) else none) g).map
      fun g => { g with slaves := update g.slaves node [] }

/-- `node_set_role`. -/
def setRole (node : N) (role : NodeRole) (g : PeerGraph N) : Option (PeerGraph N) :=
  if g.role node = role then some g
  else
    let g := { g with role := update g.role node role }
    match role with
    | .unknown => (g.leaveMaster node).bind (leaveSlaves node)
    | .master => g.leaveMaster node
    | .slave => some g

/-- `node_set_master_slave_relationship`.  A slave that has another master is taken out of the list
    of nodes and freed, and then written to. -/
def setMasterSlave (master slave : N) (g : PeerGraph N) : Option (PeerGraph N) :=
  if (g.master slave).any (· ≠ master) ∧ slave ∉ g.slaves master then none
  else
    some { g with
      master := update g.master slave (some master)
      slaves :=
        if slave ∈ g.slaves master then g.slaves
        else update g.slaves master (g.slaves master ++ [slave]) }

/-- A node that is not in the list is as a new one is. -/
def free (node : N) (g : PeerGraph N) : PeerGraph N where
  nodes := g.nodes.erase node
  role := update g.role node .unknown
  master := update g.master node none
  slaves := update g.slaves node []

/-- `nodeset_node_destroy`. -/
def destroy (node : N) (g : PeerGraph N) : Option (PeerGraph N) :=
  (g.setRole node .unknown).map (free node)

inductive Step (N : Type*) where
  | create (node : N)
  | setRole (node : N) (role : NodeRole)
  | setMasterSlave (master slave : N)
  | destroy (node : N)

def Step.apply : Step N → PeerGraph N → Option (PeerGraph N)
  | .create node, g => if node ∈ g.nodes then none else some { g with nodes := g.nodes ++ [node] }
  | .setRole node role, g => if node ∈ g.nodes then g.setRole node role else none
  | .setMasterSlave master slave, g =>
    if master ∈ g.nodes ∧ slave ∈ g.nodes then g.setMasterSlave master slave else none
  | .destroy node, g => if node ∈ g.nodes then g.destroy node else none

inductive Op (N : Type*) where
  | create (node : N)
  | setRole (node : N) (role : NodeRole)
  | setMasterSlave (master slave : N)
  | destroy (node : N)
  | deduplicate (node cur : N)
  /-- A node tells about its master or about a slave; `informed` if that one is past
      `REDIS_NODE_GET_INFO`. -/
  | discover (source node : N) (asMaster informed : Bool)

def discoverSteps (source node : N) (asMaster informed : Bool) (g : PeerGraph N) :
    List (Step N) :=
  let role : NodeRole := if asMaster then .master else .slave
  (if node ∈ g.nodes then
    if g.role node ≠ role ∧ informed then [.setRole node .unknown] else []
  else [.create node, .setRole node role]) ++
    [if asMaster then .setMasterSlave node source else .setMasterSlave source node]

def Op.steps : Op N → PeerGraph N → List (Step N)
  | .create node, _ => [.create node]
  | .setRole node role, _ => [.setRole node role]
  | .setMasterSlave master slave, _ => [.setMasterSlave master slave]
  | .destroy node, _ => [.destroy node]
  | .deduplicate node cur, g => (g.slaves node).map (.setMasterSlave cur) ++ [.destroy node]
  | .discover source node asMaster informed, g => discoverSteps source node asMaster informed g

def Op.apply (op : Op N) (g : PeerGraph N) : Option (PeerGraph N) :=
  run Step.apply (op.steps g) g

/-! ## What should hold -/

/-- Masters and slaves know each other, once, and are all there. -/
structure Symmetric (g : PeerGraph N) : Prop where
  edge : ∀ m s, s ∈ g.slaves m ↔ g.master s = some m
  once : ∀ m, (g.slaves m).Nodup
  live : ∀ m s, g.master s = some m → m ∈ g.nodes ∧ s ∈ g.nodes

def Step.nodes : Step N → List N → List N
  | .create node, nodes => nodes ++ [node]
  | .destroy node, nodes => nodes.erase node
  | _, nodes => nodes

def Op.nodes : Op N → List N → List N
  | .create node, nodes => nodes ++ [node]
  | .destroy node, nodes => nodes.erase node
  | .deduplicate node _, nodes => nodes.erase node
  | .discover _ node _ _, nodes => if node ∈ nodes then nodes else nodes ++ [node]
  | _, nodes => nodes

/-- No slave gets another master, two nodes are not each other's slaves when one of them becomes a
    master, and a node that is destroyed has a role or no peers. -/
def Step.Orderly : Step N → PeerGraph N → Prop
  | .create node, g => node ∉ g.nodes
  | .setRole node role, g => node ∈ g.nodes ∧
    (role = .master → ∀ m ∈ g.master node, m ≠ node → g.master m ≠ some node)
  | .setMasterSlave master slave, g => master ∈ g.nodes ∧ slave ∈ g.nodes ∧
    (g.master slave = none ∨ g.master slave = some master)
  | .destroy node, g => node ∈ g.nodes ∧
    (g.role node ≠ .unknown ∨ g.master node = none ∧ g.slaves node = [])

instance : (step : Step N) → (g : PeerGraph N) → Decidable (step.Orderly g)
  | .create _, _ => inferInstanceAs (Decidable (_ ∉ _))
  | .setRole _ _, _ => inferInstanceAs (Decidable (_ ∧ (_ → ∀ m ∈ _, _)))
  | .setMasterSlave _ _, _ => inferInstanceAs (Decidable (_ ∧ _ ∧ _))
  | .destroy _, _ => inferInstanceAs (Decidable (_ ∧ (_ ∨ _ ∧ _)))

def Op.Orderly (op : Op N) (g : PeerGraph N) : Prop :=
  Run.Along Step.apply Step.Orderly (op.steps g) g

instance (op : Op N) (g : PeerGraph N) : Decidable (op.Orderly g) :=
  inferInstanceAs (Decidable (Run.Along _ _ _ _))

/-! ## One step -/

section Steps

variable {g : PeerGraph N} {node master slave : N} {role : NodeRole}

/-- A node has left its master, which has forgotten it as a slave and as a master. -/
def left (node : N) (g : PeerGraph N) : PeerGraph N :=
  { g with
    master := fun s =>
      if s = node ∨ g.master node = some s ∧ g.master s = some node then none else g.master s
    slaves := fun m => (g.slaves m).erase node }

/-- Nobody knows a node, and it knows nobody. -/
def cleared (node : N) (g : PeerGraph N) : PeerGraph N :=
  { g with
    master := fun s => if s = node ∨ g.master s = some node then none else g.master s
    slaves := fun m => if m = node then [] else (g.slaves m).erase node }

section

variable (symmetric : Symmetric g)

include symmetric

theorem Symmetric.leaveMaster (node : N) :
    g.leaveMaster node = some (g.left node) := by
  have others (m : N) (other : g.master node ≠ some m) : (g.slaves m).erase node = g.slaves m :=
    erase_of_not_mem fun on => other ((symmetric.edge m node).mp on)
  unfold PeerGraph.leaveMaster left
  cases is : g.master node with
  | none =>
    refine congrArg some (PeerGraph.ext rfl rfl (funext fun s => ?_) (funext fun m => ?_))
    · by_cases same : s = node
      · simpa [same] using is
      · simp [same]
    · exact (others m (by simp [is])).symm
  | some master =>
    simp only [(symmetric.live master node is).1, if_true, removePeer, some.injEq, mk.injEq,
      true_and]
    refine ⟨funext fun s => ?_, funext fun m => ?_⟩
    · by_cases same : s = node
      · simp [same]
      · simp [same, eq_comm]
    · by_cases same : m = master
      · simp [same]
      · simp [others m (by simpa [is] using Ne.symm same)]

omit symmetric in
theorem foldlM_removePeer {slaves : List N}
    (here : ∀ slave ∈ slaves, slave ∈ g.nodes ∧ slave ≠ node)
    (gone : ∀ m, node ∉ g.slaves m) :
    slaves.foldlM (fun g slave =>
      if slave ∈ g.nodes ∧ slave ≠ node then some (g.removePeer slave node) else none) g =
      some { g with master := fun s =>
        if s ∈ slaves ∧ g.master s = some node then none else g.master s } := by
  induction slaves generalizing g with
  | nil => simp
  | cons slave slaves ih =>
    rw [forall_mem_cons] at here
    have same : (g.removePeer slave node).slaves = g.slaves := funext fun m => by
      simp [removePeer, erase_of_not_mem (gone m)]
    rw [foldlM_cons, if_pos here.1]
    refine (@ih (g.removePeer slave node) here.2 fun m => congrFun same m ▸ gone m).trans ?_
    refine congrArg some (PeerGraph.ext rfl rfl (funext fun s => ?_) same)
    simp only [removePeer, mem_cons]
    grind

theorem Symmetric.not_mem_erase (node m : N) :
    node ∉ (g.slaves m).erase node := fun on => ((symmetric.once m).mem_erase_iff.mp on).1 rfl

theorem Symmetric.leaveSlaves (node : N) :
    (g.left node).leaveSlaves node = some (g.cleared node) := by
  have known (s : N) : s ∈ (g.slaves node).erase node ↔ s ≠ node ∧ g.master s = some node := by
    rw [(symmetric.once node).mem_erase_iff, symmetric.edge]
  rw [PeerGraph.leaveSlaves, foldlM_removePeer (fun s on => ?_) (symmetric.not_mem_erase node)]
  · simp only [map_some, left, cleared, known, some.injEq, mk.injEq, true_and]
    refine ⟨funext fun s => ?_, funext fun m => ?_⟩
    · grind
    · by_cases same : m = node <;> simp [same]
  · have edge := (known s).mp on
    exact ⟨(symmetric.live node s edge.2).2, edge.1⟩

theorem Symmetric.cleared (node : N) : Symmetric (g.cleared node) where
  edge m s := by
    have edge := symmetric.edge m s
    simp only [PeerGraph.cleared]
    by_cases same : m = node
    · grind
    · rw [if_neg same, (symmetric.once m).mem_erase_iff]
      grind
  once m := by
    simp only [PeerGraph.cleared]
    split
    · exact .nil
    · exact (symmetric.once m).erase node
  live m s is := by
    simp only [PeerGraph.cleared] at is
    exact symmetric.live m s (by grind)

theorem Symmetric.left
    (apart : ∀ m ∈ g.master node, m ≠ node → g.master m ≠ some node) : Symmetric (g.left node) where
  edge m s := by
    have edge := symmetric.edge m s
    simp only [PeerGraph.left, (symmetric.once m).mem_erase_iff]
    grind
  once m := (symmetric.once m).erase node
  live m s is := by
    simp only [PeerGraph.left] at is
    exact symmetric.live m s (by grind)

omit [DecidableEq N] in
theorem Symmetric.withRole (role : N → NodeRole) :
    Symmetric { g with role := role } :=
  ⟨symmetric.edge, symmetric.once, symmetric.live⟩

theorem Symmetric.setRole
    (apart : role = .master → ∀ m ∈ g.master node, m ≠ node → g.master m ≠ some node) :
    ∃ g', g.setRole node role = some g' ∧ Symmetric g' ∧ g'.nodes = g.nodes := by
  rw [PeerGraph.setRole]
  split
  · exact ⟨g, rfl, symmetric, rfl⟩
  have changed := symmetric.withRole (update g.role node role)
  cases role with
  | unknown =>
    refine ⟨_, ?_, changed.cleared node, rfl⟩
    simp [changed.leaveMaster, changed.leaveSlaves]
  | master => exact ⟨_, changed.leaveMaster node, changed.left (apart rfl), rfl⟩
  | slave => exact ⟨_, rfl, changed, rfl⟩

theorem Symmetric.setMasterSlave (here : master ∈ g.nodes)
    (here' : slave ∈ g.nodes) (kept : g.master slave = none ∨ g.master slave = some master) :
    ∃ g', g.setMasterSlave master slave = some g' ∧ Symmetric g' ∧ g'.nodes = g.nodes := by
  have edge := symmetric.edge
  refine ⟨_, if_neg ?_, ⟨fun m s => ?_, fun m => ?_, fun m s is => ?_⟩, rfl⟩
  · rcases kept with is | is <;> simp [is]
  · simp only [update_apply]
    split <;> grind
  · simp only
    split
    · exact symmetric.once m
    · rename_i fresh
      by_cases same : m = master
      · rw [same, update_self]
        simpa [nodup_append, symmetric.once master] using
          fun s on (same : s = slave) => fresh (same ▸ on)
      · rw [update_of_ne same]
        exact symmetric.once m
  · simp only [update_apply] at is
    split at is
    · cases is
      exact ⟨here, by simp [*]⟩
    · exact symmetric.live m s is

theorem Symmetric.free (alone : g.master node = none)
    (childless : g.slaves node = []) : Symmetric (g.free node) := by
  have unknown (s : N) : g.master s ≠ some node := fun is => by
    simpa [childless] using (symmetric.edge node s).mpr is
  have same : update g.master node none = g.master ∧
      update g.slaves node [] = g.slaves := by
    rw [← alone, ← childless]
    exact ⟨update_eq_self node _, update_eq_self node _⟩
  refine ⟨?_, ?_, fun m s is => ?_⟩
  · simpa [PeerGraph.free, same] using symmetric.edge
  · simpa [PeerGraph.free, same] using symmetric.once
  · simp only [PeerGraph.free, same] at is ⊢
    have live := symmetric.live m s is
    have other : m ≠ node := fun same => unknown s (same ▸ is)
    have other' : s ≠ node := fun same => by simp [← same, is] at alone
    exact ⟨(mem_erase_of_ne other).mpr live.1, (mem_erase_of_ne other').mpr live.2⟩

theorem Symmetric.destroy
    (forgets : g.role node ≠ .unknown ∨ g.master node = none ∧ g.slaves node = []) :
    ∃ g', g.destroy node = some g' ∧ Symmetric g' ∧ g'.nodes = g.nodes.erase node := by
  unfold PeerGraph.destroy PeerGraph.setRole
  split
  case isTrue is =>
    -- the peers are not told
    obtain ⟨alone, childless⟩ := forgets.resolve_left (not_not.mpr is)
    exact ⟨_, rfl, symmetric.free alone childless, rfl⟩
  case isFalse =>
    have changed := symmetric.withRole (update g.role node .unknown)
    refine ⟨_, ?_, (changed.cleared node).free ?_ ?_, rfl⟩
    · simp [changed.leaveMaster, changed.leaveSlaves]
    · simp [PeerGraph.cleared]
    · simp [PeerGraph.cleared]

theorem Symmetric.step {step : Step N} (orderly : step.Orderly g) :
    ∃ g', step.apply g = some g' ∧ Symmetric g' ∧ g'.nodes = step.nodes g.nodes := by
  cases step with
  | create node =>
    refine ⟨_, if_neg orderly, ⟨symmetric.edge, symmetric.once, fun m s is => ?_⟩, rfl⟩
    exact (symmetric.live m s is).imp (mem_append_left _) (mem_append_left _)
  | setRole node role =>
    obtain ⟨g', sets, symmetric, nodes⟩ := symmetric.setRole orderly.2
    exact ⟨g', (if_pos orderly.1).trans sets, symmetric, nodes⟩
  | setMasterSlave master slave =>
    obtain ⟨g', sets, symmetric, nodes⟩ :=
      symmetric.setMasterSlave orderly.1 orderly.2.1 orderly.2.2
    exact ⟨g', (if_pos ⟨orderly.1, orderly.2.1⟩).trans sets, symmetric, nodes⟩
  | destroy node =>
    obtain ⟨g', destroys, symmetric, nodes⟩ := symmetric.destroy orderly.2
    exact ⟨g', (if_pos orderly.1).trans destroys, symmetric, nodes⟩

theorem Symmetric.run {steps : List (Step N)}
    (orderly : Run.Along Step.apply Step.Orderly steps g) :
    ∃ g', run Step.apply steps g = some g' ∧ Symmetric g' ∧
      g'.nodes = steps.foldl (fun nodes step => step.nodes nodes) g.nodes := by
  induction steps generalizing g with
  | nil => exact ⟨g, rfl, symmetric, rfl⟩
  | cons step steps ih =>
    obtain ⟨g', stepped, symmetric, nodes⟩ := symmetric.step orderly.1
    rw [run_cons, stepped, foldl_cons, ← nodes]
    exact ih symmetric (orderly.2 g' stepped)

end

theorem Op.foldl_nodes (op : Op N) (g : PeerGraph N) :
    (op.steps g).foldl (fun nodes step => step.nodes nodes) g.nodes = op.nodes g.nodes := by
  cases op with
  | deduplicate node cur =>
    rw [Op.steps, foldl_append, foldl_map]
    simp [Step.nodes, Op.nodes]
  | discover source node asMaster informed =>
    simp only [Op.steps, discoverSteps, Op.nodes]
    cases asMaster <;> split_ifs <;> rfl
  | _ => rfl

end Steps

/-- As long as nobody changes masters and nobody goes with peers left, masters and slaves know each
    other, and the list of nodes changes only as it should. -/
theorem peer_graph_symmetric {ops : List (Op N)}
    (orderly : Run.Along Op.apply Op.Orderly ops {}) :
    ∃ g, run Op.apply ops {} = some g ∧ Symmetric g ∧
      g.nodes = ops.foldl (fun nodes op => op.nodes nodes) [] := by
  have keeps (done : List (Op N)) (op : Op N) (g : PeerGraph N) (inv : Symmetric g ∧
      g.nodes = done.foldl (fun nodes op => op.nodes nodes) []) (orderly : op.Orderly g) :
      ∃ g', op.apply g = some g' ∧ Symmetric g' ∧
        g'.nodes = (done ++ [op]).foldl (fun nodes op => op.nodes nodes) [] := by
    obtain ⟨g', runs, symmetric, nodes⟩ := inv.1.run orderly
    refine ⟨g', runs, symmetric, ?_⟩
    rw [nodes, op.foldl_nodes, foldl_append, ← inv.2]
    rfl
  have initial : Symmetric ({} : PeerGraph N) := ⟨by simp, by simp, by simp⟩
  exact @Run.run_succeeds _ _ _ _ _ keeps ops [] {} ⟨initial, rfl⟩ orderly

theorem peer_graph_symmetric_pair :
    ∃ g, run Op.apply [.create 0, .discover 0 1 false true, .destroy 1] ({} : PeerGraph Nat) =
      some g ∧ Symmetric g ∧ g.nodes = [0] :=
  peer_graph_symmetric (by decide)

/-- A slave gets another master after a failover, and is freed.  A node of unknown role is
    destroyed, and its slave still points to it. -/
theorem peer_graph_broken :
    (run Op.apply [.create 0, .create 1, .create 2, .setMasterSlave 0 2, .setMasterSlave 1 2]
      ({} : PeerGraph Nat)).isNone ∧
    (∃ g ∈ run Op.apply [.create 0, .create 1, .setMasterSlave 0 1, .destroy 0]
      ({} : PeerGraph Nat), g.nodes = [1] ∧ g.master 1 = some 0 ∧ ¬ Symmetric g) := by
  refine ⟨by decide, _, rfl, by decide, by decide, fun symmetric => ?_⟩
  exact absurd (symmetric.live 0 1 (by decide)).1 (by decide)

end PeerGraph

end Nchan.Redis
