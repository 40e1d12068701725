import Mathlib.Algebra.BigOperators.Ring.Finset
import Mathlib.Algebra.Order.BigOperators.Group.Finset
import Nchan.Lib.Run
import Nchan.Memstore.AccountingSteps

/-! # Group accounting is conserved

In every run in which no worker is told to delete the group while updates of the counters
wait on it, the counters are never negative, and they are the numbers of what there is
whenever nothing waits.
-/

namespace Nchan.Memstore.Accounting

open Nchan.Lib Worker Option Function Run Int Finset
open Nchan.Memstore.Groups (Layout Alert)

variable {W C : Type} [DecidableEq W] [DecidableEq C] {sizes : Sizes} {layout : Layout W C}
  {w : W}

/-! ## All workers -/

variable [Fintype W]

/-- The counters are what the workers have put in, which is nothing for a worker that does not
    know the group. -/
structure Conserved (sizes : Sizes) (layout : Layout W C) (s : State W C) : Prop where
  sound : ∀ w, (s.net.node w).Sound
  counted : ∀ k, s.group.count k =
    ∑ w, ((s.net.node w).tally sizes layout w k - (s.net.node w).pending k)
  unapplied : ∀ w, (s.net.node w).hasGroup = false →
    ∀ k, (s.net.node w).tally sizes layout w k = (s.net.node w).pending k

omit [DecidableEq C] in
theorem Conserved.initial : Conserved sizes layout (State.initial W C) where
  sound _ := nofun
  counted k := by simp [State.initial, tally, pending, waiting]
  unapplied w _ k := by simp [State.initial, tally, pending, waiting]

omit [DecidableEq C] in
theorem Conserved.act {s : State W C} (conserved : Conserved sizes layout s)
    {base : Net W (Worker C) Alert} (nodes : base.node = s.net.node) {asked : List Nat}
    {v' : View C} {sent : Sent W}
    (keeps : Moves sizes layout w (fun _ => 0) asked ⟨s.net.node w, s.group⟩ v' sent)
    (out : Out W Alert) (called : List Nat) :
    Conserved sizes layout ⟨base.act w v'.worker out, v'.group, called⟩ := by
  have balance (k : Counter) := keeps.balance k
  simp only [View.surplus] at balance
  refine ⟨fun u => ?_, fun k => ?_, fun u lacks k => ?_⟩
  · rw [Net.act_node, nodes]
    split
    case isTrue => exact keeps.sound (conserved.sound w)
    case isFalse => exact conserved.sound u
  · change v'.group.count k = ∑ u, (((base.act w v'.worker out).node u).tally sizes layout u k
      - ((base.act w v'.worker out).node u).pending k)
    have before := conserved.counted k
    have moved := base.sum_act w v'.worker out fun u ws => ws.tally sizes layout u k - ws.pending k
    have here := balance k
    rw [nodes] at moved
    omega
  · rw [Net.act_node, nodes] at lacks ⊢
    split at lacks
    case isTrue here =>
      subst here
      -- without the group the worker has left the counters alone, before and now
      have lacked : (s.net.node u).hasGroup = false := by
        by_contra has
        rw [keeps.group (by simpa using has)] at lacks
        cases lacks
      have same := congrFun (keeps.untouched lacks) k
      have before := conserved.unapplied u lacked k
      have := balance k
      simp only [if_true]
      simp only at same
      omega
    case isFalse other =>
      rw [if_neg other]
      exact conserved.unapplied u lacks k

theorem Conserved.step {op : Op W C} {s s' : State W C} (conserved : Conserved sizes layout s)
    (quiet : Quiet op s) (stepped : op.apply sizes layout s = some s') :
    Conserved sizes layout s' := by
  rcases op.steps conserved.sound _ stepped with ⟨rfl, -⟩ | ⟨w, base, delta, v', sent, acted⟩
  · exact conserved
  · rw [acted.result]
    exact conserved.act acted.nodes (acted.moves.congr (acted.quiet quiet)) _ _

/-! ## The counters -/

omit [Fintype W] [DecidableEq C] in
theorem Chanhead.worth_nonneg (sizes : Sizes) (layout : Layout W C) (w : W) (c : C) (ch : Chanhead)
    (k : Counter) : 0 ≤ ch.worth sizes layout w c k := by
  have messages : 0 ≤ (ch.messages.map (msgCount sizes · k)).sum :=
    List.sum_nonneg fun _ is => by
      obtain ⟨m, -, rfl⟩ := List.mem_map.mp is
      exact messageCount_nonneg _ _ k
  have channel := channelCount_nonneg (layout.multi c) (layout.owns w c) k
  have subscribers := mul_nonneg (natCast_nonneg ch.subscribers) (subscriberCount_nonneg k)
  simp only [Chanhead.worth]
  split <;> omega

omit [DecidableEq C] in
theorem Conserved.nonneg {s : State W C} (conserved : Conserved sizes layout s) (k : Counter) :
    0 ≤ s.group.count k := by
  rw [conserved.counted]
  refine sum_nonneg fun w _ => ?_
  cases has : (s.net.node w).hasGroup with
  | false => rw [conserved.unapplied w has k, sub_self]
  | true =>
    obtain ⟨node, its, known⟩ := any_eq_true _ _ |>.mp has
    rw [(conserved.sound w).pending_eq_zero its known k, sub_zero]
    exact Table.weigh_nonneg (fun c ch => ch.worth_nonneg sizes layout w c k) _

def Worker.ownChanheads (layout : Layout W C) (w : W) (ws : Worker C) : List Chanhead :=
  (ws.chanheads.filter fun e => holdsMessages layout w e.1).map (·.2)

def Worker.ownMessages (layout : Layout W C) (w : W) (ws : Worker C) : List Message :=
  (ws.ownChanheads layout w).flatMap (·.messages)

def Worker.subscribers (ws : Worker C) : Nat := (ws.chanheads.map (·.2.subscribers)).sum

section

omit [Fintype W] [DecidableEq C]

theorem channelCount_channels (layout : Layout W C) (w : W) (c : C) :
    channelCount (layout.multi c) (layout.owns w c) .channels =
      if holdsMessages layout w c then 1 else 0 := by
  cases single : layout.multi c <;> simp [channelCount, Layout.owns, holdsMessages, single]

theorem Worker.tally_own {ws : Worker C} {k : Counter} (each : Chanhead → Int)
    (owned : ∀ c ch, Chanhead.worth sizes layout w c ch k =
      if holdsMessages layout w c then each ch else 0) :
    ws.tally sizes layout w k = ((ws.ownChanheads layout w).map each).sum := by
  simp only [tally, ownChanheads, owned]
  induction ws.chanheads with
  | nil => rfl
  | cons e t ih =>
    rw [Table.weigh_cons, ih, List.filter_cons]
    split <;> simp

theorem tally_channels (ws : Worker C) :
    ws.tally sizes layout w .channels = (ws.ownChanheads layout w).length := by
  rw [tally_own (fun _ => 1) fun c ch => by
    simp [Chanhead.worth, channelCount_channels, msgCount, subscriberCount]]
  simp

theorem tally_messages (ws : Worker C) :
    ws.tally sizes layout w .messages = (ws.ownMessages layout w).length := by
  rw [tally_own (fun ch => ch.messages.length) fun c ch => by
    simp [Chanhead.worth, channelCount, msgCount, subscriberCount]]
  simp [ownMessages, comp_def]

theorem tally_shmem (ws : Worker C) : ws.tally sizes layout w .messagesShmemBytes =
    ((ws.ownMessages layout w).map (memstoreMsgMemsize sizes)).sum := by
  rw [tally_own (fun ch => ((ch.messages.map (memstoreMsgMemsize sizes)).sum : Nat)) fun c ch => by
    simp [Chanhead.worth, channelCount, msgCount, subscriberCount, comp_def]]
  simp [ownMessages, List.flatMap_def, comp_def]

theorem tally_subscribers (ws : Worker C) :
    ws.tally sizes layout w .subscribers = ws.subscribers := by
  simp [tally, subscribers, Table.weigh, Chanhead.worth, channelCount, msgCount, subscriberCount,
    comp_def]

end

/-- In every run in which the updates that wait on a worker come to nothing whenever it is told
    to delete the group, no counter is ever negative, and once nothing waits on any worker each
    counter is what the chanheads of all workers count for. -/
theorem accounting_conserved (sizes : Sizes) (layout : Layout W C) {ops : List (Op W C)}
    {s : State W C}
    (quiet : Run.Along (Op.apply sizes layout) Quiet ops (State.initial W C))
    (reaches : run (Op.apply sizes layout) ops (State.initial W C) = some s) :
    (∀ k, 0 ≤ s.group.count k) ∧ ((∀ w, (s.net.node w).waiting = []) →
      s.group.count .channels = ∑ w, (((s.net.node w).ownChanheads layout w).length : Int) ∧
      s.group.count .messages = ∑ w, (((s.net.node w).ownMessages layout w).length : Int) ∧
      s.group.count .messagesShmemBytes =
        ∑ w, ((((s.net.node w).ownMessages layout w).map (memstoreMsgMemsize sizes)).sum : Int) ∧
      s.group.count .subscribers = ∑ w, ((s.net.node w).subscribers : Int)) := by
  have conserved : Conserved sizes layout s :=
    run_invariant (fun _ _ _ before good stepped => before.step good stepped)
      Conserved.initial quiet reaches
  refine ⟨conserved.nonneg, fun idle => ?_⟩
  have total (k : Counter) : s.group.count k = ∑ w, (s.net.node w).tally sizes layout w k := by
    rw [conserved.counted]
    exact sum_congr rfl fun w _ => by simp [pending, idle w]
  simp [total, tally_channels, tally_messages, tally_shmem, tally_subscribers]

/-- Worker 0 owns the group, and every worker the channel of its number. -/
def threeWorkers : Layout (Fin 3) (Fin 3) := ⟨0, id, fun _ => false⟩

/-- Worker 1 makes a channel, and the count waits until the group is there. -/
def countLater : List (Op (Fin 3) (Fin 3)) :=
  [.create 10 1 1, .subscribe 10 1 1 false, .deliver 10 1 0, .deliver 10 0 1]

theorem accounting_conserved_later : ∃ s,
    Run.Along (Op.apply ⟨0, 0, 0, 0⟩ threeWorkers) Quiet countLater (State.initial _ _) ∧
    run (Op.apply ⟨0, 0, 0, 0⟩ threeWorkers) countLater (State.initial _ _) = some s ∧
    s.group.count .channels = 1 ∧ ∀ k, 0 ≤ s.group.count k := by
  have quiet :
      Run.Along (Op.apply ⟨0, 0, 0, 0⟩ threeWorkers) Quiet countLater (State.initial _ _) := by
    refine .cons trivial rfl (.cons trivial rfl (.cons nofun rfl ?_))
    exact ⟨nofun, fun _ _ => trivial⟩
  have ends : (run (Op.apply ⟨0, 0, 0, 0⟩ threeWorkers) countLater (State.initial _ _)).any
      (fun s => decide (s.group.count .channels = 1)) = true := by
    decide +kernel
  obtain ⟨s, reaches, counted⟩ := any_eq_true _ _ |>.mp ends
  exact ⟨s, quiet, reaches, of_decide_eq_true counted, (accounting_conserved _ _ quiet reaches).1⟩

/-- Worker 2 makes a channel before it has the group, and worker 1, which has it, deletes the
    group.  The deletion is delivered before the group, and the channel is reaped later. -/
def deleteFirst : List (Op (Fin 3) (Fin 3)) :=
  [.find 10 1 none, .deliver 10 1 0, .deliver 10 0 1, .create 10 2 2, .deleteGroup 10 1 0,
    .deliver 10 1 2, .deliver 10 0 2, .reap 20 2 2,
    -- the rest of the alerts
    .deliver 20 1 0, .deliver 20 1 0, .deliver 20 2 0, .deliver 20 2 0, .deliver 20 0 1,
    .deliver 20 0 2, .deliver 20 0 2]

/-- There is no channel, and their number is minus one. -/
theorem waiting_count_lost : ∃ s,
    run (Op.apply ⟨0, 0, 0, 0⟩ threeWorkers) deleteFirst (State.initial _ _) = some s ∧
      (∀ w, (s.net.node w).waiting = []) ∧ (∀ i j, s.net.wire i j = []) ∧
      (∀ w, (s.net.node w).chanheads = []) ∧ s.group.count .channels = -1 := by
  have ends : (run (Op.apply ⟨0, 0, 0, 0⟩ threeWorkers) deleteFirst (State.initial _ _)).any
      (fun s => decide ((∀ w, (s.net.node w).waiting = []) ∧ (∀ i j, s.net.wire i j = []) ∧
        (∀ w, (s.net.node w).chanheads = []) ∧ s.group.count .channels = -1)) = true := by
    decide +kernel
  obtain ⟨s, reaches, holds⟩ := any_eq_true _ _ |>.mp ends
  exact ⟨s, reaches, of_decide_eq_true holds⟩

end Nchan.Memstore.Accounting
