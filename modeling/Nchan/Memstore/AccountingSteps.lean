import Nchan.Memstore.AccountingBalance

/-! # The steps of the workers

What creating and reaping channels, group requests, deleting the group and every alert do to
a worker's balance, and which group requests they take up and call back.
-/

namespace Nchan.Memstore.Accounting

open Nchan.Lib Worker Gives
open Nchan.Memstore.Groups (Layout Alert)

variable {W C : Type} [DecidableEq W] [DecidableEq C] {sizes : Sizes} {layout : Layout W C}
  {w : W} {now : Int} {c : C} {v : View C}

/-! ## Channels -/

omit [DecidableEq C] in
theorem memstoreGroupnodeGet_keeps : Keeping sizes layout w (memstoreGroupnodeGet layout w) v
    fun v' => v'.worker.chanheads = v.worker.chanheads := by
  unfold Keeping Does memstoreGroupnodeGet
  cases its : v.worker.node with
  | some node => exact .of_some ⟨Keeps.refl v, rfl⟩
  | none =>
    have wrote {group : Bool} {time : Int} {sent : Sent W} (quiet : sent.called = [])
        (asks : group = false →
          w ≠ layout.groupOwner ∧ .getGroup ∈ sent.alerts layout.groupOwner) :
        Keeps sizes layout w v (v.setNode ⟨group, [], time, []⟩) sent := by
      have asks : (v.setNode ⟨group, [], time, []⟩).worker.Waits →
          w ≠ layout.groupOwner ∧ .getGroup ∈ sent.alerts layout.groupOwner := by
        rintro ⟨node, its', lacks⟩
        cases its'
        exact asks lacks
      refine ⟨fun k => ?_, fun _ node its' _ => ?_, fun has => ?_, fun _ => rfl, fun id => ?_,
        fun waits => .inr (asks waits).2, fun here waits => absurd here (asks waits).1⟩
      · simp [pending, waiting, tally, its]
      · cases its'
        rfl
      · simp [its] at has
      · simp [quiet, requests, waiting, its]
    exact .ite (fun _ => .of_some ⟨wrote rfl (by simp), rfl⟩)
      fun other => .of_some ⟨wrote rfl fun _ => ⟨other, by simp [Sent.alert]⟩, rfl⟩

omit [DecidableEq C] in
theorem associateIfOwned_keeps :
    Keeping sizes layout w (associateIfOwned layout w c) v fun _ => True :=
  bind fun _ its => .ite (fun _ => .of_some ⟨setNode_keeps its rfl rfl, trivial⟩)
    fun _ => .of_some ⟨Keeps.refl v, trivial⟩

theorem dissociateIfOwned_keeps : Keeping sizes layout w (dissociateIfOwned layout w c) v
    fun v' => v'.worker.chanheads = v.worker.chanheads :=
  bind fun _ its => .ite (fun _ => .of_some ⟨setNode_keeps its rfl rfl, rfl⟩)
    fun _ => .of_some ⟨Keeps.refl v, rfl⟩

theorem chanheadMemstoreCreate_keeps (new : v.worker.chanheads.get c = none) :
    Keeping sizes layout w (chanheadMemstoreCreate layout w now c) v fun _ => True := by
  refine memstoreGroupnodeGet_keeps.andThen fun v₁ same => ?_
  have entered : Keeping sizes layout w (enterChanhead layout w now c) v₁ fun _ => True := by
    intro result counted
    refine ⟨((set_moves v₁ c ⟨[], 0, 0⟩).trans (whenReady_does result counted).1).congr fun k => ?_,
      trivial⟩
    simp [same, new, Chanhead.worth, Callback.worth]
  exact entered.andThen fun _ _ => associateIfOwned_keeps

theorem dropChanhead_keeps {ch : Chanhead} (has : v.worker.chanheads.get c = some ch)
    (empty : ∀ k, ch.worth sizes layout w c k =
      channelCount (layout.multi c) (layout.owns w c) k) :
    Keeping sizes layout w (dropChanhead layout w now c) v fun _ => True := by
  intro result dropped
  have erases : Moves sizes layout w (channelCount (layout.multi c) (layout.owns w c)) [] v
      { v with worker := { v.worker with chanheads := v.worker.chanheads.erase c } }
      Sent.none := by
    refine ⟨fun k => ?_, id, id, fun _ => rfl, fun _ => ?_, .inl, fun _ => id⟩
    · simp only [View.surplus, tally, pending, waiting, Table.weigh_erase, has,
        Option.elim, empty]
      ring
    · simp [Sent.none, requests, waiting]
  refine ⟨(erases.trans (whenReady_does result dropped).1).congr fun k => ?_, trivial⟩
  simp only [Callback.worth]
  ring

theorem memstoreReapChanhead_keeps {ch : Chanhead} (has : v.worker.chanheads.get c = some ch) :
    Keeping sizes layout w (memstoreReapChanhead sizes layout w now c) v fun _ => True := by
  refine (chanheadMessagesDelete_keeps has).andThen fun v₁ ⟨ms, has₁, drained⟩ => ?_
  refine (broadcastGone_keeps has₁).andThen fun v₂ has₂ => ?_
  refine dissociateIfOwned_keeps.andThen fun v₃ same => dropChanhead_keeps (same ▸ has₂) fun k => ?_
  simp only [Chanhead.worth]
  split
  case isTrue holds => simp [drained holds]
  case isFalse => simp

/-! ## Requests -/

omit [DecidableEq C] in
theorem memstoreGroupFind_moves {cb : Callback} :
    Does sizes layout w (memstoreGroupFind layout w now cb) v cb.worth cb.request fun _ => True :=
  memstoreGroupnodeGet_keeps.andThen fun _ _ => whenReady_does.forget

theorem deleteOwned_keeps (cs : List C) :
    Keeping sizes layout w (deleteOwned sizes layout w now cs) v fun _ => True := by
  induction cs generalizing v with
  | nil => exact Keeping.nothing trivial
  | cons c cs ih =>
    exact dissociateIfOwned_keeps.andThen fun _ _ => forceDelete_keeps.andThen fun _ _ => ih

theorem memstoreGroupReceiveDelete_moves :
    Does sizes layout w (memstoreGroupReceiveDelete sizes layout w now) v
      (fun k => - v.worker.pending k) [] fun _ => True := by
  unfold Does memstoreGroupReceiveDelete
  cases its : v.worker.node with
  | none =>
    have stays : Moves sizes layout w (fun k => - v.worker.pending k) [] v v Sent.none :=
      Moves.congr (Keeps.refl v) fun k => by simp [pending, waiting, its]
    exact .of_some ⟨stays, trivial⟩
  | some node =>
    have same : (v.setNode { node with whenReady := [] }).worker.Waits → v.worker.Waits := by
      rintro ⟨n, its', lacks⟩
      cases its'
      exact ⟨node, its, lacks⟩
    have flushed : Does sizes layout w (fun v => some (v.setNode { node with whenReady := [] },
        Sent.call (node.whenReady.flatMap Callback.request))) v (fun k => - v.worker.pending k) []
        fun _ => True := by
      refine .of_some ⟨⟨fun k => ?_, fun _ n its' _ => ?_, fun has => ?_, fun _ => rfl, fun _ => ?_,
        fun waits => .inl (same waits), fun _ => same⟩, trivial⟩
      · simp only [View.surplus, View.setNode, tally, pending, waiting,
          its, Option.elim, List.map_nil, List.sum_nil]
        ring
      · cases its'
        rfl
      · simpa [its] using has
      · simp [Sent.call, requests, waiting, its]
    exact (flushed.andThen fun _ _ => deleteOwned_keeps _).congr fun k => by ring

omit [DecidableEq W] [DecidableEq C] in
theorem Worker.Sound.pending_eq_zero {ws : Worker C} {node : Node C} (sound : ws.Sound)
    (its : ws.node = some node) (has : node.group = true) (k : Counter) : ws.pending k = 0 := by
  simp [pending, waiting, its, sound node its has]

theorem groupDeleteCallback_moves {request : Nat} (nothing : ∀ k, v.worker.pending k = 0) :
    Does sizes layout w (groupDeleteCallback sizes layout w now request) v (fun _ => 0) [request]
      fun _ => True := by
  have deleted : Keeping sizes layout w (if w = layout.groupOwner then
      memstoreGroupReceiveDelete sizes layout w now else Act.nothing) v fun _ => True := by
    split
    · exact memstoreGroupReceiveDelete_moves.congr fun k => by rw [nothing]; rfl
    · exact Keeping.nothing trivial
  exact deleted.andThen fun _ _ => .of_some
    ⟨⟨fun _ => by ring, id, id, fun _ => rfl, fun _ => Nat.add_comm _ _, .inl, fun _ => id⟩, trivial⟩

theorem memstoreGroupDelete_moves {request : Nat} (sound : v.worker.Sound) :
    Does sizes layout w (memstoreGroupDelete sizes layout w now request) v (fun _ => 0) [request]
      fun _ => True := by
  have got : Keeping sizes layout w (memstoreGroupnodeGet layout w) v (·.worker.Sound) :=
    memstoreGroupnodeGet_keeps.mono fun _ both => ⟨both.1, both.1.sound sound⟩
  refine got.andThen fun v₁ sound => bind fun node its => .ite
    (fun has => groupDeleteCallback_moves (sound.pending_eq_zero its has))
    fun lacks => (addWhenreadyCallback_does its (by simpa using lacks)).forget

/-! ## Alerts -/

omit [DecidableEq C] in
theorem receiveGetGroup_keeps {sender : W} : Gives (receiveGetGroup layout sender w v) fun result =>
    Keeps sizes layout w v result.1 result.2 ∧ w = layout.groupOwner ∧
      (sender ≠ w → .group ∈ result.2.alerts sender) := by
  refine .guard fun here => ?_
  cases its : v.worker.node with
  | some node =>
    have same : (Sent.alert (Out.send sender Alert.group) : Sent W).called = [] := rfl
    exact .of_some ⟨⟨fun _ => by ring, id, id, fun _ => rfl, fun _ => by simp [same], .inl,
      fun _ => id⟩, here, fun _ => by simp [Sent.alert]⟩
  | none =>
    intro result received
    refine ⟨(memstoreGroupnodeGet_keeps result received).1, here, fun other => ?_⟩
    simp only [memstoreGroupnodeGet, its, here, if_true] at received
    cases received
    simpa [Sent.alert, here] using other

omit [DecidableEq C] in
theorem callWhenreadyCallbacks_spec (cbs : List Callback) :
    Gives (callWhenreadyCallbacks w cbs v) fun result => result.1.worker = v.worker ∧
      result.2.called = cbs.flatMap Callback.request ∧
      ∀ k, result.1.group.count k = v.group.count k + (cbs.map (·.worth k)).sum := by
  induction cbs generalizing v with
  | nil => exact .of_some ⟨rfl, rfl, by simp⟩
  | cons cb cbs ih =>
    refine bind fun (v₁, sent₁) rest => .of_some ?_
    obtain ⟨same, calls, counts⟩ : _ ∧ sent₁.called = _ ∧ ∀ k, v₁.group.count k = _ := ih _ rest
    refine ⟨same, ?_, fun k => ?_⟩
    · simp [Sent.andThen, calls]
    · simp only [counts, Callback.applyTo_count, List.map_cons, List.sum_cons]
      ring

omit [DecidableEq C] in
theorem memstoreGroupReceive_keeps : Keeping sizes layout w (memstoreGroupReceive layout w) v
    fun v' => ¬ v'.worker.Waits := by
  refine assert fun _ => ?_
  cases its : v.worker.node with
  | none =>
    have has : ¬ (v.setNode ⟨true, [], 0, []⟩).worker.Waits := by
      simp [Worker.Waits]
    refine .of_some ⟨⟨fun k => ?_, fun _ node its' _ => ?_, fun _ => rfl, fun lacks => ?_,
      fun _ => ?_, fun waits => absurd waits has, fun _ waits => absurd waits has⟩, has⟩
    · simp [pending, waiting, tally, its]
    · cases its'
      rfl
    · simp at lacks
    · simp [Sent.none, requests, waiting, its]
  | some node =>
    intro result received
    obtain ⟨same, calls, counts⟩ := callWhenreadyCallbacks_spec _ result received
    have has : ¬ result.1.worker.Waits := by simp [same, Worker.Waits]
    refine ⟨⟨fun k => ?_, fun _ n its' _ => ?_, fun _ => ?_, fun lacks => ?_, fun _ => ?_,
      fun waits => absurd waits has, fun _ waits => absurd waits has⟩, has⟩
    · simp [pending, waiting, tally, its, same, counts]
    · rw [same] at its'
      cases its'
      rfl
    · simp [same]
    · simp [same] at lacks
    · simp [calls, requests, waiting, its, same]

/-! ## All workers -/

/-- The updates that wait on `dst` come to nothing when it is told to delete the group. -/
def Quiet (op : Op W C) (s : State W C) : Prop :=
  match op with
  | .deliver _ src dst => (s.net.wire src dst).head? = some .groupDelete →
      ∀ k, (s.net.node dst).pending k = 0
  | _ => True

def Op.asks : Op W C → List Nat
  | .find _ _ request | .setLimits _ _ request _ => request.toList
  | .deleteGroup _ _ request => [request]
  | _ => []

/-- The worker `w` acts in `base`, which is the state before without the alert that it acts on:
    another worker that had asked for the group gets it, and the worker that it comes to has it. -/
structure Acted (sizes : Sizes) (layout : Layout W C) (op : Op W C) (s s' : State W C) (w : W)
    (base : Net W (Worker C) Alert) (delta : Counters) (v' : View C) (sent : Sent W) : Prop where
  nodes : base.node = s.net.node
  moves : Moves sizes layout w delta op.asks ⟨s.net.node w, s.group⟩ v' sent
  quiet : Quiet op s → ∀ k, delta k = 0
  result : s' = ⟨base.act w v'.worker sent.alerts, v'.group, s.called ++ sent.called⟩
  getGroup : ∀ i, .getGroup ∈ s.net.wire i layout.groupOwner →
    .getGroup ∈ base.wire i layout.groupOwner ∨
      w = layout.groupOwner ∧ (i ≠ w → .group ∈ sent.alerts i)
  group : ∀ j, .group ∈ s.net.wire layout.groupOwner j →
    .group ∈ base.wire layout.groupOwner j ∨ j = w ∧ ¬ v'.worker.Waits

def Steps (sizes : Sizes) (layout : Layout W C) (op : Op W C) (s s' : State W C) : Prop :=
  s' = s ∧ op.asks = [] ∨
    ∃ w base delta v' sent, Acted sizes layout op s s' w base delta v' sent

omit [DecidableEq C] in
theorem at_steps {op : Op W C} {s : State W C} {act : Act W C} {asked : List Nat}
    {post : View C → Prop}
    (does : Does sizes layout w act ⟨s.net.node w, s.group⟩ (fun _ => 0) asked post)
    (asks : op.asks = asked) : Gives (s.at w act) (Steps sizes layout op s) :=
  .map fun (v', sent) done => .inr ⟨w, s.net, _, v', sent, rfl, asks ▸ (does _ done).1,
    fun _ _ => rfl, rfl, fun _ => .inl, fun _ => .inl⟩

theorem deliver_steps {s : State W C} (src dst : W) :
    Gives ((Op.deliver now src dst).apply sizes layout s)
      (Steps sizes layout (.deliver now src dst) s) := by
  rw [Op.apply]
  cases first : s.net.wire src dst with
  | nil => exact .of_some (.inl ⟨rfl, rfl⟩)
  | cons alert rest =>
    refine .map fun (v', sent) done => ?_
    have popped : ∀ {i j a}, a ∈ s.net.wire i j → (i = src → j = dst → a ≠ alert) →
        a ∈ (s.net.pop src dst).wire i j := Net.mem_pop_wire first
    cases alert with
    | getGroup =>
      obtain ⟨keeps, here, answers⟩ := receiveGetGroup_keeps _ done
      refine .inr ⟨dst, s.net.pop src dst, _, v', sent, rfl, keeps, fun _ _ => rfl, rfl,
        fun i asked => ?_, fun j on => .inl (popped on (by simp))⟩
      by_cases this : i = src
      · exact .inr ⟨here, this ▸ answers⟩
      · exact .inl (popped asked fun same => absurd same this)
    | group =>
      obtain ⟨keeps, has⟩ := memstoreGroupReceive_keeps _ done
      refine .inr ⟨dst, s.net.pop src dst, _, v', sent, rfl, keeps, fun _ _ => rfl, rfl,
        fun i on => .inl (popped on (by simp)), fun j on => ?_⟩
      by_cases this : j = dst
      · exact .inr ⟨this, has⟩
      · exact .inl (popped on fun _ same => absurd same this)
    | groupDelete =>
      refine .inr ⟨dst, s.net.pop src dst, _, v', sent, rfl,
        (memstoreGroupReceiveDelete_moves _ done).1, fun quiet k => ?_, rfl,
        fun i on => .inl (popped on (by simp)), fun j on => .inl (popped on (by simp))⟩
      exact neg_eq_zero.mpr (quiet (by rw [first]; rfl) k)

omit [DecidableEq W] in
theorem State.has_iff {s : State W C} :
    s.has w c = true ↔ ∃ ch, (s.net.node w).chanheads.get c = some ch :=
  Option.isSome_iff_exists

theorem Op.steps (op : Op W C) {s : State W C} (sound : ∀ w, (s.net.node w).Sound) :
    Gives (op.apply sizes layout s) (Steps sizes layout op s) := by
  have stays (nobody : op.asks = []) : Gives (some s) (Steps sizes layout op s) :=
    .of_some (.inl ⟨rfl, nobody⟩)
  cases op with
  | create now w c =>
    refine .ite (fun _ => stays rfl) fun missing => at_steps (chanheadMemstoreCreate_keeps ?_) rfl
    simpa [State.has] using missing
  | reap now w c =>
    refine .ite (fun there => ?_) fun _ => stays rfl
    obtain ⟨ch, has⟩ := State.has_iff.mp there
    exact at_steps (memstoreReapChanhead_keeps has) rfl
  | push now w c m =>
    exact .ite (fun there => at_steps
      (chanheadPushMessage_keeps (Bool.and_eq_true_iff.mp there).2) rfl) fun _ => stays rfl
  | expire now w c =>
    refine .ite (fun there => ?_) fun _ => stays rfl
    obtain ⟨here, holds⟩ := Bool.and_eq_true_iff.mp there
    obtain ⟨ch, has⟩ := State.has_iff.mp here
    exact at_steps (chanheadDeleteMessage_keeps holds has) rfl
  | delete now w c => exact .ite (fun _ => at_steps forceDelete_keeps rfl) fun _ => stays rfl
  | subscribe now w c internal =>
    exact .ite (fun _ => at_steps memstoreSpoolerAddHandler_keeps rfl) fun _ => stays rfl
  | dequeue now w c internal n =>
    refine .ite (fun there => ?_) fun _ => stays rfl
    obtain ⟨ch, has⟩ := State.has_iff.mp there
    exact at_steps (bulkDequeue_keeps has) rfl
  | find now w request => exact at_steps memstoreGroupFind_moves rfl
  | setLimits now w request limits => exact at_steps memstoreGroupFind_moves rfl
  | deleteGroup now w request => exact at_steps (memstoreGroupDelete_moves (sound w)) rfl
  | deliver now src dst => exact deliver_steps src dst

end Nchan.Memstore.Accounting
