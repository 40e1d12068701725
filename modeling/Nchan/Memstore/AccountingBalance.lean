import Mathlib.Tactic.Ring
import Nchan.Lib.Partial
import Nchan.Memstore.Accounting

/-! # The balance of a worker

What a worker's chanheads count for is what it has put into the shared counters, together
with the updates that wait on it.  Every step of a worker keeps this balance, except that
updates are lost which wait when the group is deleted.
-/

namespace Nchan.Memstore.Accounting

open Nchan.Lib List Worker Callback Option Gives
open Nchan.Memstore.Groups (Layout)

variable {W C : Type} {sizes : Sizes} {layout : Layout W C} {w : W} {now : Int} {c : C}
  {v v' : View C} {sent : Sent W}

variable [DecidableEq W]

/-! ## What there is to count -/

def msgCount (sizes : Sizes) (m : Message) : Counters :=
  messageCount (memstoreMsgMemsize sizes m) (msgFilesize m)

/-- What a chanhead counts for: a channel where it is owned, or one of several, its messages if
    they are here, and the subscribers that are not internal. -/
def Chanhead.worth (sizes : Sizes) (layout : Layout W C) (w : W) (c : C) (ch : Chanhead) : Counters :=
  fun k => channelCount (layout.multi c) (layout.owns w c) k
    + (if holdsMessages layout w c then (ch.messages.map (msgCount sizes · k)).sum else 0)
    + ch.subscribers * subscriberCount k

/-- What a callback adds to the counters once the group is there. -/
def Callback.worth : Callback → Counters
  | .addChannel multi selfOwned n => fun k => n * channelCount multi selfOwned k
  | .addMessage memSz fileSz n => fun k => n * messageCount memSz fileSz k
  | .addSubscribers n => fun k => n * subscriberCount k
  | _ => fun _ => 0

theorem Callback.applyTo_count (cb : Callback) (group : SharedGroup) (k : Counter) :
    (cb.applyTo group).count k = group.count k + cb.worth k := by
  cases cb <;> simp [applyTo, worth, groupAddChannelInternal, groupAddMessageInternal,
    groupAddSubscribersInternal, addCount]

namespace Worker

@[simp] def hasGroup (ws : Worker C) : Bool := ws.node.any (·.group)

def waiting (ws : Worker C) : List Callback := ws.node.elim [] (·.whenReady)

def pending (ws : Worker C) (k : Counter) : Int := (ws.waiting.map (·.worth k)).sum

def tally (sizes : Sizes) (layout : Layout W C) (w : W) (ws : Worker C) (k : Counter) : Int :=
  ws.chanheads.weigh fun c ch => ch.worth sizes layout w c k

def requests (ws : Worker C) : List Nat := ws.waiting.flatMap request

def Waits (ws : Worker C) : Prop := ∃ node, ws.node = some node ∧ node.group = false

def Sound (ws : Worker C) : Prop :=
  ∀ node, ws.node = some node → node.group = true → node.whenReady = []

end Worker

/-- What the counters hold, with what waits, beyond what the worker's chanheads count for. -/
@[simp] def View.surplus (sizes : Sizes) (layout : Layout W C) (w : W) (v : View C)
    (k : Counter) : Int :=
  v.group.count k + v.worker.pending k - v.worker.tally sizes layout w k

/-- What a step of a worker does: how far it moves the balance, and which group requests it
    takes up, to be called back now or later.  A worker that begins to wait for the group asks
    its owner for it. -/
structure Moves (sizes : Sizes) (layout : Layout W C) (w : W) (delta : Counters) (asked : List Nat)
    (v v' : View C) (sent : Sent W) : Prop where
  balance : ∀ k, v'.surplus sizes layout w k = v.surplus sizes layout w k + delta k
  sound : v.worker.Sound → v'.worker.Sound
  group : v.worker.hasGroup = true → v'.worker.hasGroup = true
  untouched : v'.worker.hasGroup = false → v'.group.count = v.group.count
  answered : ∀ id, sent.called.count id + v'.worker.requests.count id =
    v.worker.requests.count id + asked.count id
  waits : v'.worker.Waits → v.worker.Waits ∨ .getGroup ∈ sent.alerts layout.groupOwner
  owner : w = layout.groupOwner → v'.worker.Waits → v.worker.Waits

/-- The step keeps the balance and takes up no request. -/
abbrev Keeps (sizes : Sizes) (layout : Layout W C) (w : W) (v v' : View C) (sent : Sent W) : Prop :=
  Moves sizes layout w (fun _ => 0) [] v v' sent

theorem Moves.trans {delta delta' : Counters} {asked asked' : List Nat} {v₁ v₂ v₃ : View C}
    {sent₁ sent₂ : Sent W} (first : Moves sizes layout w delta asked v₁ v₂ sent₁)
    (second : Moves sizes layout w delta' asked' v₂ v₃ sent₂) :
    Moves sizes layout w (fun k => delta k + delta' k) (asked ++ asked') v₁ v₃
      (sent₁.andThen sent₂) where
  balance k := by rw [second.balance, first.balance]; ring
  sound before := second.sound (first.sound before)
  group has := second.group (first.group has)
  untouched lacks := by
    have lacked : v₂.worker.hasGroup = false := by
      by_contra has
      rw [second.group (by simpa using has)] at lacks
      cases lacks
    rw [second.untouched lacks, first.untouched lacked]
  answered id := by
    have := first.answered id
    have := second.answered id
    simp only [Sent.andThen, count_append]
    omega
  waits waits := by
    simp only [Sent.andThen, Out.mem_andThen]
    rcases second.waits waits with before | asks
    · exact (first.waits before).imp_right .inl
    · exact .inr (.inr asks)
  owner here waits := first.owner here (second.owner here waits)

theorem Moves.congr {delta delta' : Counters} {asked : List Nat}
    (moves : Moves sizes layout w delta asked v v' sent) (same : ∀ k, delta k = delta' k) :
    Moves sizes layout w delta' asked v v' sent :=
  (funext same : delta = delta') ▸ moves

theorem Keeps.refl (v : View C) : Keeps sizes layout w v v Sent.none where
  balance _ := by ring
  sound := id
  group := id
  untouched _ := rfl
  answered _ := by simp [Sent.none]
  waits := .inl
  owner _ := id

/-- What an act does unless an assert fails; what it leaves has the property `post`. -/
abbrev Does (sizes : Sizes) (layout : Layout W C) (w : W) (act : Act W C) (v : View C)
    (delta : Counters) (asked : List Nat) (post : View C → Prop) : Prop :=
  Gives (act v) fun result => Moves sizes layout w delta asked v result.1 result.2 ∧ post result.1

abbrev Keeping (sizes : Sizes) (layout : Layout W C) (w : W) (act : Act W C) (v : View C)
    (post : View C → Prop) : Prop :=
  Does sizes layout w act v (fun _ => 0) [] post

section

variable {act act' : Act W C} {delta delta' : Counters} {asked asked' : List Nat}
  {mid post : View C → Prop}

theorem Does.congr (does : Does sizes layout w act v delta asked post)
    (same : ∀ k, delta k = delta' k) : Does sizes layout w act v delta' asked post :=
  does.mono fun _ both => ⟨both.1.congr same, both.2⟩

theorem Does.forget (does : Does sizes layout w act v delta asked post) :
    Does sizes layout w act v delta asked fun _ => True :=
  does.mono fun _ both => ⟨both.1, trivial⟩

theorem Does.andThen (first : Does sizes layout w act v delta asked mid)
    (second : ∀ v₁, mid v₁ → Does sizes layout w act' v₁ delta' asked' post) :
    Does sizes layout w (act.andThen act') v (fun k => delta k + delta' k) (asked ++ asked')
      post := by
  refine bind fun ⟨v₁, sent₁⟩ acted => bind fun ⟨v₂, sent₂⟩ acted' => .of_some ?_
  obtain ⟨moves, holds⟩ := first _ acted
  obtain ⟨moves', holds'⟩ := second v₁ holds _ acted'
  exact ⟨moves.trans moves', holds'⟩

theorem Keeping.andThen (first : Keeping sizes layout w act v mid)
    (second : ∀ v₁, mid v₁ → Does sizes layout w act' v₁ delta asked post) :
    Does sizes layout w (act.andThen act') v delta asked post :=
  (Does.andThen first second).congr fun _ => by ring

theorem Keeping.nothing (holds : post v) : Keeping sizes layout w Act.nothing v post :=
  of_some ⟨Keeps.refl v, holds⟩

end

/-! ## Counting -/

theorem setNode_keeps {node node' : Node C} (its : v.worker.node = some node)
    (group : node'.group = node.group) (waits : node'.whenReady = node.whenReady) :
    Keeps sizes layout w v (v.setNode node') Sent.none := by
  have same : (v.setNode node').worker.Waits → v.worker.Waits := by
    rintro ⟨n, its', lacks⟩
    obtain rfl : node' = n := some.inj its'
    exact ⟨node, its, group ▸ lacks⟩
  exact {
    balance := fun k => by
      simp [pending, waiting, tally, its, waits]
    sound := by
      intro sound n its' has
      obtain rfl : node' = n := some.inj its'
      rw [waits]
      exact sound node its (group ▸ has)
    group := by simp [its, group]
    untouched := fun _ => rfl
    answered := fun _ => by
      simp [Sent.none, requests, waiting, its, waits]
    waits := fun now => .inl (same now)
    owner := fun _ => same }

variable {cb : Callback}

theorem addWhenreadyCallback_does {node : Node C} (its : v.worker.node = some node)
    (lacks : node.group = false) :
    Does sizes layout w (addWhenreadyCallback layout now cb) v cb.worth cb.request
      fun v' => v'.worker.chanheads = v.worker.chanheads := by
  have before : v.worker.Waits := ⟨node, its, lacks⟩
  -- with or without another request for the group
  have wrote (time : Int) {sent : Sent W} (quiet : sent.called = []) :
      Moves sizes layout w cb.worth cb.request v
        (v.setNode ⟨node.group, node.whenReady ++ [cb], time, node.ownedChanheads⟩) sent := by
    refine ⟨fun k => ?_, fun _ n its' has => ?_, fun has => ?_, fun _ => rfl, fun id => ?_,
      fun _ => .inl before, fun _ _ => before⟩
    · simp only [View.surplus, View.setNode, pending, waiting, tally, its,
        Option.elim, map_append, sum_append, map_cons, map_nil, sum_cons, sum_nil]
      ring
    · cases its'
      simp [lacks] at has
    · simp [its, lacks] at has
    · simp [quiet, requests, waiting, its]
  exact known its <| .ite (fun _ => .of_some ⟨wrote now rfl, rfl⟩)
    fun _ => .of_some ⟨wrote node.gettingGroup rfl, rfl⟩

theorem whenReady_does : Does sizes layout w (whenReady layout now cb) v cb.worth cb.request
    fun v' => v'.worker.chanheads = v.worker.chanheads := by
  refine bind fun node its => .ite (fun has => .of_some ⟨?_, rfl⟩)
    fun lacks => addWhenreadyCallback_does its (by simpa using lacks)
  refine ⟨fun k => ?_, id, id, fun lacks => ?_, fun id => ?_, .inl, fun _ => id⟩
  · simp only [View.surplus, applyTo_count]
    ring
  · simp [its, has] at lacks
  · simp [Sent.call, Nat.add_comm]

/-! ## Writing to chanheads -/

variable [DecidableEq C]

theorem surplus_set (v : View C) (c : C) (ch : Chanhead) (k : Counter) :
    (v.set c ch).surplus sizes layout w k = v.surplus sizes layout w k
      + (v.worker.chanheads.get c).elim 0 (fun old => old.worth sizes layout w c k)
      - ch.worth sizes layout w c k := by
  simp only [View.surplus, View.set, tally, pending, waiting, Table.weigh_set]
  ring

theorem set_moves (v : View C) (c : C) (ch : Chanhead) :
    Moves sizes layout w (fun k => (v.worker.chanheads.get c).elim 0
      (fun old => old.worth sizes layout w c k) - ch.worth sizes layout w c k) []
      v (v.set c ch) Sent.none where
  balance k := by rw [surplus_set]; ring
  sound := id
  group := id
  untouched _ := rfl
  answered _ := by simp [Sent.none, requests, waiting, View.set]
  waits := .inl
  owner _ := id

variable {ch : Chanhead}

section

variable (has : v.worker.chanheads.get c = some ch)

include has

theorem Does.get {act : Chanhead → Act W C} {delta : Counters} {asked : List Nat}
    {post : View C → Prop}
    (does : Does sizes layout w (act ch) v delta asked post) :
    Does sizes layout w (fun v => (v.worker.chanheads.get c).bind fun ch => act ch v) v delta asked
      post :=
  known has does

theorem set_count_keeps {ch' : Chanhead}
    (nobody : cb.request = [])
    (difference : ∀ k, ch'.worth sizes layout w c k = ch.worth sizes layout w c k + cb.worth k) :
    Keeping sizes layout w (fun v => whenReady layout now cb (v.set c ch')) v
      fun v' => v'.worker.chanheads.get c = some ch' := by
  intro result counted
  obtain ⟨moves, same⟩ := whenReady_does _ counted
  rw [nobody] at moves
  refine ⟨((set_moves v c ch').trans moves).congr fun k => ?_, ?_⟩
  · rw [has, Option.elim, difference]
    ring
  · exact (congrArg _ same).trans (Table.get_set c ch' v.worker.chanheads)

theorem set_keeps {ch' : Chanhead}
    (same : ∀ k, ch'.worth sizes layout w c k = ch.worth sizes layout w c k) :
    Keeps sizes layout w v (v.set c ch') Sent.none := by
  refine (set_moves v c ch').congr fun k => ?_
  rw [has, Option.elim, same]
  ring

end

/-! ## Messages and subscribers -/

section

variable (holds : holdsMessages layout w c = true)

include holds

theorem chanheadPushMessage_keeps {m : Message} :
    Keeping sizes layout w (chanheadPushMessage sizes layout now c m) v fun _ => True := by
  refine bind fun ch has => (set_count_keeps has rfl fun k => ?_).forget
  simp only [Chanhead.worth, holds, if_true, map_append, sum_append, map_cons,
    map_nil, sum_cons, sum_nil, worth, msgCount]
  ring

theorem chanheadDeleteMessage_keeps
    (has : v.worker.chanheads.get c = some ch) :
    Keeping sizes layout w (chanheadDeleteMessage sizes layout now c) v
      fun v' => v'.worker.chanheads.get c = some { ch with messages := ch.messages.tail } := by
  refine Does.get has ?_
  obtain ⟨messages, subscribers, internal⟩ := ch
  cases messages with
  | nil => exact Keeping.nothing has
  | cons m rest =>
    refine set_count_keeps has rfl fun k => ?_
    simp only [Chanhead.worth, holds, if_true, map_cons, sum_cons, worth, msgCount]
    ring

theorem deleteMessages_keeps (n : Nat)
    (has : v.worker.chanheads.get c = some ch) :
    Keeping sizes layout w (deleteMessages sizes layout now c n) v
      fun v' => v'.worker.chanheads.get c = some { ch with messages := ch.messages.drop n } := by
  induction n generalizing v ch with
  | zero => exact Keeping.nothing has
  | succ n ih =>
    refine (chanheadDeleteMessage_keeps holds has).andThen fun v₁ has₁ => ?_
    simpa using ih has₁

end

theorem chanheadMessagesDelete_keeps (has : v.worker.chanheads.get c = some ch) :
    Keeping sizes layout w (chanheadMessagesDelete sizes layout w now c) v fun v' =>
      ∃ ms, v'.worker.chanheads.get c = some { ch with messages := ms } ∧
        (holdsMessages layout w c = true → ms = []) := by
  refine Does.get has <| ite (fun holds => ?_) fun elsewhere =>
    .of_some ⟨Keeps.refl v, ch.messages, has, fun holds => absurd holds elsewhere⟩
  exact (deleteMessages_keeps holds _ has).mono fun _ both =>
    ⟨both.1, [], by simpa using both.2, fun _ => rfl⟩

theorem memstoreSpoolerAddHandler_keeps {internal : Bool} :
    Keeping sizes layout w (memstoreSpoolerAddHandler layout now c internal) v fun _ => True := by
  refine bind fun ch has => .ite
    (fun _ => .of_some ⟨set_keeps has fun _ => rfl, trivial⟩)
    fun _ => (set_count_keeps has rfl fun k => ?_).forget
  simp only [Chanhead.worth, worth]
  push_cast
  ring

theorem bulkDequeue_keeps {internal : Bool} {n : Nat} (has : v.worker.chanheads.get c = some ch) :
    Keeping sizes layout w (memstoreSpoolerBulkDequeueHandler layout now c internal n) v
      fun v' => v'.worker.chanheads.get c = some (if internal
        then { ch with internalSubscribers := ch.internalSubscribers - n }
        else { ch with subscribers := ch.subscribers - n }) := by
  refine Does.get has ?_
  cases internal with
  | true => exact .guard fun _ => .of_some ⟨set_keeps has fun _ => rfl, Table.get_set _ _ _⟩
  | false =>
    refine .guard fun enough => set_count_keeps has rfl fun k => ?_
    simp only [Chanhead.worth, worth]
    push_cast [enough]
    ring

theorem broadcastGone_keeps (has : v.worker.chanheads.get c = some ch) :
    Keeping sizes layout w (broadcastGone layout now c) v fun v' => v'.worker.chanheads.get c =
      some { ch with subscribers := 0, internalSubscribers := 0 } := by
  refine Does.get has <| (bulkDequeue_keeps has).andThen fun v₁ has₁ => ?_
  exact (bulkDequeue_keeps has₁).mono fun _ both => ⟨both.1, by simpa using both.2⟩

theorem forceDelete_keeps :
    Keeping sizes layout w (nchanMemstoreForceDeleteChannel sizes layout w now c) v
      fun _ => True := by
  refine guard fun _ => ?_
  cases has : v.worker.chanheads.get c with
  | none => exact .of_some ⟨Keeps.refl v, trivial⟩
  | some ch =>
    exact (broadcastGone_keeps has).andThen fun _ has₁ => (chanheadMessagesDelete_keeps has₁).forget

end Nchan.Memstore.Accounting
