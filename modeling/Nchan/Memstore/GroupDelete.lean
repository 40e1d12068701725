import Nchan.Lib.Run
import Nchan.Memstore.GroupSteps

/-! # Deleting a group

Once all alerts are delivered, no channel of the group has a message or a subscriber from
before the deletion, in every run in which
* a group is deleted by its owner, or by a worker that owns no channel of it,
* only chanheads that are on their worker's list are published and subscribed to, and
* no worker hears of another's deletion while one of its own waits for the group.
-/

namespace Nchan.Memstore.Groups

open Nchan.Lib Run

variable {W C : Type} [DecidableEq W] [DecidableEq C] {layout : Layout W C}

/-! ## All workers -/

/-- Every worker is in good order, one that lacks the group has asked for it or will get
    it, and alerts go to whom they are for. -/
structure Inv (layout : Layout W C) (s : State W C) : Prop where
  sound : ∀ w, Sound layout w (s.node w)
  asked : ∀ w node, (s.node w).node = some node → node.group = false →
    .getGroup ∈ s.wire w layout.groupOwner ∨ .group ∈ s.wire layout.groupOwner w
  getGroup : ∀ i j, .getGroup ∈ s.wire i j → j = layout.groupOwner ∧ i ≠ layout.groupOwner
  group : ∀ i j, .group ∈ s.wire i j → i = layout.groupOwner ∧ j ≠ layout.groupOwner

omit [DecidableEq W] [DecidableEq C] in
theorem Inv.initial (layout : Layout W C) : Inv layout (State.initial W C) :=
  ⟨fun w => .new layout w, nofun, nofun, nofun⟩

/-- `w` will be told to delete the group, now or when another worker gets the group. -/
def Coming (s : State W C) (w : W) : Prop :=
  (∃ i, .groupDelete ∈ s.wire i w) ∨ ∃ v, v ≠ w ∧ (s.node v).Pending

/-- What every step does: the workers evolve, and a coming deletion comes or has come. -/
structure Progress (layout : Layout W C) (s s' : State W C) : Prop where
  inv : Inv layout s'
  evolves : ∀ w, Evolves (s.node w) (s'.node w)
  coming : ∀ w, Coming s w → Coming s' w ∨ (s'.node w).Emptied layout

omit [DecidableEq C] in
/-- A worker acts in `base`, which is `s` or `s` without the alert that it acts on.  What others
    wait for is still there or was dealt with. -/
theorem act_progress {s base : State W C} {w : W} {ws : Worker C} {out : Out W Alert}
    (inv : Inv layout s) (step : StepOk layout w (s.node w) ws out) (nodes : base.node = s.node)
    (fewer : ∀ i j a, a ∈ base.wire i j → a ∈ s.wire i j)
    (asks : ∀ v, .getGroup ∈ s.wire v layout.groupOwner →
      .getGroup ∈ base.wire v layout.groupOwner ∨ layout.groupOwner = w ∧ .group ∈ out v)
    (comes : ∀ v, .group ∈ s.wire layout.groupOwner v →
      .group ∈ base.wire layout.groupOwner v ∨
        v = w ∧ ∃ node, ws.node = some node ∧ node.group = true)
    (deletes : ∀ i v, .groupDelete ∈ s.wire i v →
      .groupDelete ∈ base.wire i v ∨ v = w ∧ ws.Emptied layout) :
    Progress layout s (base.act w ws out) where
  inv := {
    sound := by
      intro v
      rw [Net.act_node, nodes]
      split
      case isTrue here => exact here ▸ step.sound
      case isFalse => exact inv.sound v
    asked := by
      intro v node its missing
      rw [Net.act_node, nodes] at its
      simp only [Net.mem_act_wire]
      -- it lacked the group before, or has just asked for it
      have before : (∃ node₀, (s.node v).node = some node₀ ∧ node₀.group = false) ∨
          v = w ∧ .getGroup ∈ out layout.groupOwner := by
        split at its
        case isTrue here =>
          subst here
          exact (step.waits node its missing).imp_right fun asks => ⟨rfl, asks⟩
        case isFalse => exact .inl ⟨node, its, missing⟩
      rcases before with ⟨node₀, its₀, missing₀⟩ | new
      · rcases inv.asked v node₀ its₀ missing₀ with asked | coming
        · rcases asks v asked with still | ⟨isOwner, answered⟩
          · exact .inl (.inl still)
          · exact .inr (.inr ⟨isOwner, answered⟩)
        · rcases comes v coming with still | ⟨rfl, node', its', has⟩
          · exact .inr (.inl still)
          · rw [if_pos rfl, its'] at its
            cases its
            simp [has] at missing
      · exact .inl (.inr new)
    getGroup := by
      intro i j on
      rcases Net.mem_act_wire.mp on with before | ⟨rfl, sent⟩
      · exact inv.getGroup i j (fewer i j _ before)
      · exact step.getGroup j sent
    group := by
      intro i j on
      rcases Net.mem_act_wire.mp on with before | ⟨rfl, sent⟩
      · exact inv.group i j (fewer i j _ before)
      · exact step.group j sent }
  evolves := by
    intro v
    rw [Net.act_node, nodes]
    split
    case isTrue here => exact here ▸ step.evolves
    case isFalse => exact (Relinked.refl _).evolves
  coming := by
    intro v coming
    simp only [Coming, Net.mem_act_wire, Net.act_node, nodes]
    rcases coming with ⟨i, on⟩ | ⟨u, other, pending⟩
    · rcases deletes i v on with still | ⟨rfl, emptied⟩
      · exact .inl (.inl ⟨i, .inl still⟩)
      · exact .inr (by simpa using emptied)
    · by_cases here : u = w
      · subst here
        rcases step.pending pending with still | told
        · exact .inl (.inr ⟨u, other, by simpa using still⟩)
        · exact .inl (.inl ⟨u, .inr ⟨rfl, told v (Ne.symm other)⟩⟩)
      · exact .inl (.inr ⟨u, other, by simpa [here] using pending⟩)

omit [DecidableEq C] in
theorem at_progress {s : State W C} {w : W} {ws : Worker C} {out : Out W Alert}
    {act : Worker C → Option (Worker C × Out W Alert)} (inv : Inv layout s)
    (acts : act (s.node w) = some (ws, out)) (step : StepOk layout w (s.node w) ws out) :
    s.at w act = some (s.act w ws out) ∧ Progress layout s (s.act w ws out) :=
  ⟨by simp [State.at, acts], act_progress inv step rfl (fun _ _ _ => id) (fun _ => .inl)
    (fun _ => .inl) fun _ _ => .inl⟩

theorem deliver_progress {s : State W C} (inv : Inv layout s) (src dst : W)
    (alone : (s.wire src dst).head? = some .groupDelete →
      ¬ (s.node dst).Pending ∧ (s.node dst).InMemory layout dst) :
    ∃ s', s.deliver (handle layout) src dst = some s' ∧ Progress layout s s' := by
  unfold Net.deliver
  cases first : s.wire src dst with
  | nil =>
    refine ⟨s, rfl, inv, fun _ => (Relinked.refl _).evolves, fun _ => .inl⟩
  | cons alert rest =>
    have popped : ∀ {i j a}, a ∈ s.wire i j → (i = src → j = dst → a ≠ alert) →
        a ∈ (s.pop src dst).wire i j := Net.mem_pop_wire first
    have fewer : ∀ i j a, a ∈ (s.pop src dst).wire i j → a ∈ s.wire i j :=
      fun _ _ _ => Net.mem_of_mem_pop
    have here : alert ∈ s.wire src dst := by simp [first]
    cases alert with
    | getGroup =>
      obtain ⟨isOwner, foreign⟩ := inv.getGroup src dst here
      obtain ⟨ws, out, received, step, answered⟩ :=
        receiveGetGroup_ok (inv.sound dst) isOwner foreign
      refine ⟨(s.pop src dst).act dst ws out, by simp only [handle, received]; rfl,
        act_progress inv step rfl fewer ?_
        (fun v on => .inl (popped on (by simp))) fun i v on => .inl (popped on (by simp))⟩
      intro v asked
      by_cases this : v = src
      · exact .inr ⟨isOwner.symm, this ▸ answered⟩
      · exact .inl (popped asked fun same => absurd same this)
    | group =>
      obtain ⟨_, foreign⟩ := inv.group src dst here
      obtain ⟨ws, out, received, step, there⟩ := groupReceive_ok (inv.sound dst) foreign
      refine ⟨(s.pop src dst).act dst ws out, by simp only [handle, received]; rfl,
        act_progress inv step rfl fewer
        (fun v on => .inl (popped on (by simp))) ?_ fun i v on => .inl (popped on (by simp))⟩
      intro v comes
      by_cases this : v = dst
      · exact .inr ⟨this, there⟩
      · exact .inl (popped comes fun _ same => absurd same this)
    | groupDelete =>
      obtain ⟨ws, deleted, step, emptied⟩ :=
        receiveDelete_ok (inv.sound dst) (alone (by simp [first])).1 (alone (by simp [first])).2
      refine ⟨(s.pop src dst).act dst ws Out.none, by simp only [handle, deleted]; rfl,
        act_progress inv step rfl fewer
        (fun v on => .inl (popped on (by simp))) (fun v on => .inl (popped on (by simp))) ?_⟩
      intro i v on
      by_cases this : v = dst
      · exact .inr ⟨this, emptied⟩
      · exact .inl (popped on fun _ same => absurd same this)

/-! ## Runs -/

def Good (layout : Layout W C) (op : Op W C) (s : State W C) : Prop :=
  match op with
  | .delete _ w =>
    w = layout.groupOwner ∧ (s.node w).InMemory layout w ∨
      w ≠ layout.groupOwner ∧ (s.node w).head = none
  | .publish w c | .subscribe w c => layout.owns w c = true → layout.multi c = false →
      ((s.node w).chanheads c).isSome → (s.node w).Linked c
  | .deliver src dst => (s.wire src dst).head? = some .groupDelete →
      ¬ (s.node dst).Pending ∧ (s.node dst).InMemory layout dst
  | _ => True

omit [DecidableEq W] [DecidableEq C] in
theorem inMemory_of_good {s : State W C} {w : W}
    (good : w = layout.groupOwner ∧ (s.node w).InMemory layout w ∨
      w ≠ layout.groupOwner ∧ (s.node w).head = none) (owner : w = layout.groupOwner) :
    (s.node w).InMemory layout w :=
  good.elim And.right fun foreign => absurd owner foreign.1

theorem step_progress {s : State W C} {op : Op W C} (inv : Inv layout s) (good : Good layout op s) :
    ∃ s', op.apply layout s = some s' ∧ Progress layout s s' := by
  have stays : Progress layout s s := ⟨inv, fun _ => (Relinked.refl _).evolves, fun _ => .inl⟩
  cases op with
  | create now w c storage =>
    simp only [Op.apply]
    cases its : (s.node w).chanheads c with
    | some ch => exact ⟨s, rfl, stays⟩
    | none =>
      obtain ⟨ws, out, created, step⟩ := create_ok (inv.sound w) now storage its
      exact ⟨_, at_progress inv created step⟩
  | reap now w c =>
    simp only [Op.apply]
    cases present : ((s.node w).chanheads c).isSome with
    | false => exact ⟨s, rfl, stays⟩
    | true =>
      obtain ⟨ws, out, reaped, step⟩ := reap_ok (inv.sound w) now present
      exact ⟨_, at_progress inv reaped step⟩
  | setLocation storage w c =>
    simp only [Op.apply]
    exact ⟨_, at_progress inv rfl (setLocation_ok storage (inv.sound w))⟩
  | publish w c =>
    simp only [Op.apply]
    split
    case isTrue owns => exact ⟨_, at_progress inv rfl (publish_ok (inv.sound w) (good owns))⟩
    case isFalse => exact ⟨s, rfl, stays⟩
  | subscribe w c =>
    simp only [Op.apply]
    split
    case isTrue owns => exact ⟨_, at_progress inv rfl (subscribe_ok (inv.sound w) (good owns))⟩
    case isFalse => exact ⟨s, rfl, stays⟩
  | expire n w c =>
    simp only [Op.apply]
    exact ⟨_, at_progress inv rfl (expire_ok n (inv.sound w))⟩
  | leave subscriber w c =>
    simp only [Op.apply]
    exact ⟨_, at_progress inv rfl (leave_ok subscriber (inv.sound w))⟩
  | find now w =>
    obtain ⟨ws₁, asked, got, step₁, _, hasNode⟩ := groupnodeGet_ok (inv.sound w)
    obtain ⟨ws, out, found, step, _⟩ := find_ok step₁.sound hasNode now
    refine ⟨_, at_progress inv (?_ : memstoreGroupFind layout w now .groupFind _ = some _)
      (step₁.trans step)⟩
    simp [memstoreGroupFind, got, found]
  | delete now w =>
    obtain ⟨ws, out, deleted, step, _⟩ :=
      delete_ok (inv.sound w) now fun owner => inMemory_of_good good owner
    exact ⟨_, at_progress inv deleted step⟩
  | deliver src dst => exact deliver_progress inv src dst good

/-- Since `s₀`, a worker with messages or subscribers from then will be told to delete. -/
structure Since (layout : Layout W C) (s₀ s : State W C) : Prop where
  inv : Inv layout s
  evolves : ∀ w, Evolves (s₀.node w) (s.node w)
  coming : ∀ w c ch, (s.node w).chanheads c = some ch → layout.multi c = false →
    ∀ i ∈ ch.items, i < (s₀.node w).serial → Coming s w

omit [DecidableEq C] [DecidableEq W] in
theorem Since.step {s₀ s s' : State W C} (since : Since layout s₀ s)
    (progress : Progress layout s s') :
    Since layout s₀ s' where
  inv := progress.inv
  evolves := fun w => (since.evolves w).trans (progress.evolves w)
  coming := by
    intro w c ch' its' notMulti i on old
    have oldHere := Nat.lt_of_lt_of_le old (since.evolves w).serial
    obtain ⟨ch, its, on'⟩ := (progress.evolves w).old c ch' its' i on oldHere
    refine (progress.coming w (since.coming w c ch its notMulti i on' old)).resolve_right ?_
    intro emptied
    simp [emptied c ch' its' notMulti] at on

theorem delete_since {s : State W C} {w : W} (inv : Inv layout s) (now : Int)
    (good : w = layout.groupOwner ∧ (s.node w).InMemory layout w ∨
      w ≠ layout.groupOwner ∧ (s.node w).head = none) :
    ∃ s', (Op.delete now w).apply layout s = some s' ∧ Since layout s s' := by
  obtain ⟨ws, out, deleted, step, told, emptied⟩ :=
    delete_ok (inv.sound w) now fun owner => inMemory_of_good good owner
  obtain ⟨applied, progress⟩ := at_progress inv deleted step
  refine ⟨_, applied, progress.inv, progress.evolves, ?_⟩
  intro v c ch its notMulti i on old
  by_cases here : v = w
  · subst here
    -- nothing is left here: everything was deleted, or there was nothing
    rcases good with ⟨owner, -⟩ | ⟨-, none⟩
    · rw [Net.act_node, if_pos rfl] at its
      simp [emptied owner c ch its notMulti] at on
    · obtain ⟨cells, owned⟩ := (inv.sound v).owned
      obtain ⟨ch₀, its₀, on₀⟩ := (progress.evolves v).old c ch its i on old
      have nothing : cells = [] := by
        have first := owned.lists.list.first_eq
        rw [none] at first
        exact List.head?_eq_none_iff.mp first.symm
      rw [owned.content c ch₀ its₀ notMulti (by simp [nothing])] at on₀
      simp at on₀
  · rcases told with told | pending
    · exact .inl ⟨w, Net.mem_act_wire.mpr (.inr ⟨rfl, told v here⟩)⟩
    · exact .inr ⟨w, Ne.symm here, by simpa using pending⟩

def Quiescent (s : State W C) : Prop := ∀ i j, s.wire i j = []

omit [DecidableEq C] [DecidableEq W] in
theorem Inv.not_coming {s : State W C} (inv : Inv layout s) (quiescent : Quiescent s) (w : W) :
    ¬ Coming s w := by
  rintro (⟨i, on⟩ | ⟨v, _, node, owned, its, on⟩)
  · simp [quiescent i w] at on
  · cases there : node.group with
    | true =>
      rw [((inv.sound v).node node its).called there] at on
      simp at on
    | false =>
      have := inv.asked v node its there
      simp [quiescent v, quiescent layout.groupOwner] at this

/-- In every run that keeps to the conditions, no assert fails, and once all alerts are
    delivered, the messages that a channel of the group had when the group was deleted are
    removed, and its subscribers were sent 410 unless they had left. -/
theorem group_delete_empties_channels (layout : Layout W C) (before after : List (Op W C))
    (now : Int) (issuer : W)
    (all : Run.Along (Op.apply layout) (Good layout) (before ++ .delete now issuer :: after)
      (State.initial W C)) :
    ∃ s s', run (Op.apply layout) before (State.initial W C) = some s ∧
      run (Op.apply layout) (before ++ .delete now issuer :: after) (State.initial W C) = some s' ∧
      (Quiescent s' → ∀ w c ch, (s.node w).chanheads c = some ch → layout.multi c = false →
        (∀ ch', (s'.node w).chanheads c = some ch' → ∀ m ∈ ch.messages, m ∉ ch'.messages) ∧
        ∃ new, (s'.node w).log = (s.node w).log ++ new ∧
          ∀ i ∈ ch.subscribers, .gone i ∈ new ∨ .left i ∈ new) := by
  obtain ⟨first, then'⟩ := along_split all
  have keepsInv : ∀ op s, Inv layout s → Good layout op s →
      ∃ s', op.apply layout s = some s' ∧ Inv layout s' := by
    intro op s inv good
    obtain ⟨s', applied, progress⟩ := step_progress inv good
    exact ⟨s', applied, progress.inv⟩
  obtain ⟨s, reached, inv⟩ := run_keeps keepsInv (Inv.initial layout) first
  have keepsSince : ∀ op t, Since layout s t → Good layout op t →
      ∃ t', op.apply layout t = some t' ∧ Since layout s t' := by
    intro op t since good
    obtain ⟨t', applied, progress⟩ := step_progress since.inv good
    exact ⟨t', applied, since.step progress⟩
  obtain ⟨good, rest⟩ := then' s reached
  obtain ⟨s₁, deleted, since⟩ := delete_since inv now good
  obtain ⟨s', reached', since'⟩ := run_keeps keepsSince since (rest s₁ deleted)
  refine ⟨s, s', reached, ?_, fun quiescent w c ch its notMulti => ?_⟩
  · rw [run_append, reached, Option.bind_some, run_cons, deleted]
    exact reached'
  · have past : ∀ i ∈ ch.items, i < (s.node w).serial := fun i on => (inv.sound w).past its on
    -- nothing from then is left
    have none : ∀ ch', (s'.node w).chanheads c = some ch' → ∀ i ∈ ch.items, i ∉ ch'.items := by
      intro ch' its' i old on
      exact since'.inv.not_coming quiescent w (since'.coming w c ch' its' notMulti i on (past i old))
    refine ⟨fun ch' its' m on on' => ?_, ?_⟩
    · exact none ch' its' m (List.mem_append_left _ on) (List.mem_append_left _ on')
    · obtain ⟨new, log, gone⟩ := (since'.evolves w).log
      refine ⟨new, log, fun i on => (gone c ch its i on).resolve_left ?_⟩
      rintro ⟨ch', its', on'⟩
      exact none ch' its' i (List.mem_append_right _ on) (List.mem_append_right _ on')

/-! ## Two workers -/

def twoWorkers : Layout Bool Bool := ⟨false, id, fun _ => false⟩

def createSecond : List (Op Bool Bool) :=
  [.create 10 true true .memory, .deliver true false, .deliver true false, .deliver false true,
    .deliver false true, .publish true true]

theorem group_delete_empties_channels_two_workers :
    ∃ s s', run (Op.apply twoWorkers) createSecond (State.initial Bool Bool) = some s ∧
      run (Op.apply twoWorkers) (createSecond ++ .delete 10 false :: [.deliver false true])
        (State.initial Bool Bool) = some s' ∧
      (Quiescent s' → ∀ w c ch, (s.node w).chanheads c = some ch → twoWorkers.multi c = false →
        (∀ ch', (s'.node w).chanheads c = some ch' → ∀ m ∈ ch.messages, m ∉ ch'.messages) ∧
        ∃ new, (s'.node w).log = (s.node w).log ++ new ∧
          ∀ i ∈ ch.subscribers, .gone i ∈ new ∨ .left i ∈ new) := by
  refine group_delete_empties_channels twoWorkers createSecond [.deliver false true] 10 false ?_
  -- the chanhead is the first of the list when it is published to, and nothing waits at the end
  refine .cons trivial rfl (.cons nofun rfl (.cons nofun rfl (.cons nofun rfl ?_)))
  refine .cons nofun rfl (.cons (fun _ _ _ => .inl rfl) rfl (.cons (.inl ⟨rfl, ?_⟩) rfl ?_))
  · intro c ch its _
    cases c <;> cases its
  · refine ⟨fun _ => ⟨?_, fun c ch its _ => ?_⟩, fun s applied => trivial⟩
    · rintro ⟨node, owned, its, on⟩
      cases its
      exact nomatch on
    · cases c <;> cases its
      exact .inl rfl

/-- The second worker deletes the group: its own channel keeps its message. -/
theorem group_delete_spares_own_channel :
    ∃ s s' ch ch', run (Op.apply twoWorkers) createSecond (State.initial Bool Bool) = some s ∧
      run (Op.apply twoWorkers) (createSecond ++ .delete 10 true :: [.deliver true false])
        (State.initial Bool Bool) = some s' ∧ Quiescent s' ∧
      (s.node true).chanheads true = some ch ∧ (s'.node true).chanheads true = some ch' ∧
      ∃ m ∈ ch.messages, m ∈ ch'.messages := by
  refine ⟨_, _, _, _, rfl, rfl, ?_, rfl, rfl, ?_⟩
  · intro i j
    cases i <;> cases j <;> rfl
  · decide

end Nchan.Memstore.Groups
