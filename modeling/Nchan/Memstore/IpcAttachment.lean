import Nchan.Memstore.IpcSubscription

/-! # A worker with subscribers stays attached to the owner

Subscribing and renewing go round in a circle of phases, in each of which one alert at most
matters; besides it only releases of the owner's chanhead are in flight.  The worker is attached
in every phase but the last: it has let its ipc subscriber go because nobody had subscribed for
a while, and has not been told yet that it is gone.  A subscriber that joins then is attached to
nothing.  When the news finds no subscribers, the circle closes.
-/

namespace Nchan.Memstore.IpcSubscription

open Nchan.Lib Function Worker Chanhead Run

/-! ## The chanhead between two alerts -/

namespace Chanhead

structure Inactive (head : Chanhead) : Prop where
  status : head.status = .inactive
  alone : head.foreignOwnerIpcSub = none
  unshared : head.shared = false
  empty : head.subCount = 0
  counted : head.internalSubCount ≤ head.subCount

structure Waiting (head : Chanhead) : Prop where
  status : head.status = .waiting
  alone : head.foreignOwnerIpcSub = none
  unshared : head.shared = false
  counted : head.internalSubCount ≤ head.subCount

/-- The ipc subscriber `sub` feeds the chanhead. -/
structure FedBy (sub : Nat) (head : Chanhead) : Prop where
  status : head.status = .ready
  fed : head.foreignOwnerIpcSub = some sub
  shared : head.shared = true
  counted : head.internalSubCount ≤ head.subCount

/-- What joining and leaving do not touch. -/
structure SameLink (head head' : Chanhead) : Prop where
  address : head'.address = head.address
  status : head'.status = head.status
  fed : head'.foreignOwnerIpcSub = head.foreignOwnerIpcSub
  shared : head'.shared = head.shared
  counted : head'.internalSubCount ≤ head'.subCount

variable {head head' : Chanhead}

theorem Waiting.same (waiting : head.Waiting) (same : head.SameLink head') : head'.Waiting where
  status := same.status.trans waiting.status
  alone := same.fed.trans waiting.alone
  unshared := same.shared.trans waiting.unshared
  counted := same.counted

variable {sub : Nat}

theorem FedBy.same (fed : head.FedBy sub) (same : head.SameLink head') : head'.FedBy sub where
  status := same.status.trans fed.status
  fed := same.fed.trans fed.fed
  shared := same.shared.trans fed.shared
  counted := same.counted

theorem ensureReady_inactive (alone : head.foreignOwnerIpcSub = none)
    (status : head.status ≠ .waiting) :
    head.ensureReady true =
      ({ head with inGcQueue := false, status := .waiting }, [.subscribe head.address]) := by
  simp [ensureReady, alone, status]

theorem Waiting.ensureReady (waiting : head.Waiting) (ipcSub : Bool) :
    head.ensureReady ipcSub = ({ head with inGcQueue := false }, []) := by
  simp [Chanhead.ensureReady, waiting.alone, waiting.status]

theorem FedBy.ensureReady (fed : head.FedBy sub) (ipcSub : Bool) :
    head.ensureReady ipcSub = ({ head with inGcQueue := false }, []) := by
  simp [Chanhead.ensureReady, fed.fed, fed.status]

theorem sameLink_withdrawn (counted : head.internalSubCount ≤ head.subCount) :
    head.SameLink { head with inGcQueue := false } :=
  ⟨rfl, rfl, rfl, rfl, counted⟩

theorem SameLink.trans {head'' : Chanhead} (first : head.SameLink head')
    (second : head'.SameLink head'') : head.SameLink head'' where
  address := second.address.trans first.address
  status := second.status.trans first.status
  fed := second.fed.trans first.fed
  shared := second.shared.trans first.shared
  counted := second.counted

theorem spoolerAdd_ok (head : Chanhead) (internal : Bool) (now : Int)
    (okay : head.shared = true → head.status = .ready)
    (counted : head.internalSubCount ≤ head.subCount) :
    ∃ head', head.spoolerAdd internal now = some head' ∧ head.SameLink head' := by
  have sharedOkay : ¬ (head.shared = true ∧ head.status ≠ .ready) := fun bad => bad.2 (okay bad.1)
  unfold spoolerAdd assertCounted
  rw [if_neg sharedOkay]
  cases internal with
  | true =>
    have counted' : head.internalSubCount + 1 ≤ head.subCount + 1 := by omega
    exact ⟨_, if_pos counted', rfl, rfl, rfl, rfl, counted'⟩
  | false =>
    have counted' : head.internalSubCount ≤ head.subCount + 1 := by omega
    exact ⟨_, if_pos counted', rfl, rfl, rfl, rfl, counted'⟩

variable {internal : Bool}

section

variable (present : head.hasSubscriber internal)

include present

theorem counted_left
    (counted : head.internalSubCount ≤ head.subCount) :
    (if internal then head.internalSubCount - 1 else head.internalSubCount) ≤
      head.subCount - 1 := by
  cases internal with
  | true => simpa using Nat.sub_le_sub_right counted 1
  | false =>
    have more : head.internalSubCount < head.subCount := by simpa [hasSubscriber] using present
    simp
    omega

theorem Waiting.spoolerDequeue (waiting : head.Waiting) :
    ∃ head', head.spoolerDequeue false internal = some head' ∧ head.SameLink head' := by
  have counted := counted_left present waiting.counted
  unfold Chanhead.spoolerDequeue assertCounted gcAdd
  simp only [counted, if_true, Option.bind_some, waiting.alone, waiting.status, ne_eq,
    not_true_eq_false, if_false, Bool.false_eq_true, not_false_eq_true, and_true, if_true]
  -- the last one to leave does not put a waiting chanhead on the gc queue
  split
  · exact ⟨_, rfl, rfl, waiting.status.symm, waiting.alone.symm, waiting.unshared.symm, counted⟩
  · exact ⟨_, rfl, rfl, waiting.status.symm, waiting.alone.symm, rfl, counted⟩

theorem FedBy.spoolerDequeue (fed : head.FedBy sub) :
    ∃ head', head.spoolerDequeue false internal = some head' ∧ head.SameLink head' := by
  have counted := counted_left present fed.counted
  unfold Chanhead.spoolerDequeue assertCounted
  simp only [counted, if_true, Option.bind_some, fed.fed, reduceCtorEq, and_false, if_false]
  exact ⟨_, rfl, rfl, rfl, fed.fed.symm, rfl, counted⟩

end

theorem Inactive.not_present (inactive : head.Inactive) (internal : Bool) :
    head.hasSubscriber internal = false := by
  have none : head.internalSubCount = 0 := by
    have := inactive.counted
    have := inactive.empty
    omega
  cases internal <;> simp [hasSubscriber, none, inactive.empty]

end Chanhead

/-! ## The phases -/

def noSubs : Nat → Option IpcSub := fun _ => none

def onlySub (id : Nat) (sub : IpcSub) : Nat → Option IpcSub := update noSubs id (some sub)

@[simp] def IpcSub.asking (foreignChanhead : Nat) : IpcSub := ⟨foreignChanhead, false, false, false, 1⟩

/-- The alerts to the owner other than releases. -/
def requests (alerts : List ToOwner) : List ToOwner :=
  alerts.filter (· ≠ .subscribeChanheadRelease)

@[simp] theorem requests_nil : requests [] = [] := rfl

@[simp] theorem requests_release (alerts : List ToOwner) :
    requests (.subscribeChanheadRelease :: alerts) = requests alerts := rfl

@[simp] theorem requests_append (alerts alerts' : List ToOwner) :
    requests (alerts ++ alerts') = requests alerts ++ requests alerts' :=
  List.filter_append ..

theorem requests_cons {alert : ToOwner} (alerts : List ToOwner)
    (request : alert ≠ .subscribeChanheadRelease) :
    requests (alert :: alerts) = alert :: requests alerts := by
  simp [requests, request]

/-- The worker's chanhead, the owner's ipc subscribers, the requests to the owner and the alerts
    to the worker, all the way round. -/
inductive Phase : Option Chanhead → (Nat → Option IpcSub) → List ToOwner → List ToWorker → Prop
  | absent : Phase none noSubs [] []
  | inactive {head : Chanhead} (inactive : head.Inactive) : Phase (some head) noSubs [] []
  | requesting {head : Chanhead} (waiting : head.Waiting) :
      Phase (some head) noSubs [.subscribe head.address] []
  | granted {head : Chanhead} {id : Nat} (waiting : head.Waiting) :
      Phase (some head) (onlySub id (.create head.address)) []
        [.subscribeReply head.address id]
  | grantedAsking {head : Chanhead} {id : Nat} (waiting : head.Waiting) :
      Phase (some head) (onlySub id (.asking head.address)) []
        [.subscribeReply head.address id, .subscriberKeepalive head.address id]
  | attached {head : Chanhead} {id : Nat} (fed : head.FedBy id) :
      Phase (some head) (onlySub id (.create head.address)) [] []
  | asking {head : Chanhead} {id : Nat} (fed : head.FedBy id) :
      Phase (some head) (onlySub id (.asking head.address)) []
        [.subscriberKeepalive head.address id]
  | answered {head : Chanhead} {id : Nat} {action : ReplyAction} (fed : head.FedBy id)
      (hooked : action ≠ .unhookNorenew) :
      Phase (some head) (onlySub id (.asking head.address))
        [.subscriberKeepaliveReply id action] []
  | dismissed {head : Chanhead} {id : Nat} (fed : head.FedBy id) :
      Phase (some head) noSubs [] [.unsubscribed]

def State.Inv (s : State) : Prop :=
  Phase s.worker.chanhead s.owner.subs (requests s.toOwner) s.toWorker

variable {chanhead : Option Chanhead} {head head' : Chanhead} {subs : Nat → Option IpcSub}
  {pending : List ToOwner} {coming : List ToWorker}

section

variable (phase : Phase (some head) subs pending coming)

include phase

theorem Phase.cases_head :
    (head.Inactive ∧ subs = noSubs ∧ pending = [] ∧ coming = []) ∨
      head.Waiting ∨ ∃ id, head.FedBy id := by
  cases phase with
  | inactive inactive => exact .inl ⟨inactive, rfl, rfl, rfl⟩
  | requesting waiting => exact .inr (.inl waiting)
  | granted waiting => exact .inr (.inl waiting)
  | grantedAsking waiting => exact .inr (.inl waiting)
  | attached fed => exact .inr (.inr ⟨_, fed⟩)
  | asking fed => exact .inr (.inr ⟨_, fed⟩)
  | answered fed => exact .inr (.inr ⟨_, fed⟩)
  | dismissed fed => exact .inr (.inr ⟨_, fed⟩)

theorem Phase.same (same : head.SameLink head')
    (inUse : head.status ≠ .inactive) : Phase (some head') subs pending coming := by
  cases phase with
  | inactive inactive => exact absurd inactive.status inUse
  | requesting waiting => exact same.address ▸ .requesting (waiting.same same)
  | granted waiting => exact same.address ▸ .granted (waiting.same same)
  | grantedAsking waiting => exact same.address ▸ .grantedAsking (waiting.same same)
  | attached fed => exact same.address ▸ .attached (fed.same same)
  | asking fed => exact same.address ▸ .asking (fed.same same)
  | answered fed hooked => exact same.address ▸ .answered (fed.same same) hooked
  | dismissed fed => exact .dismissed (fed.same same)

/-! ## Subscribers come and go -/

theorem Phase.ensureReady
    (inUse : head.status ≠ .inactive) (ipcSub : Bool) :
    head.ensureReady ipcSub = ({ head with inGcQueue := false }, []) ∧
      head.SameLink { head with inGcQueue := false } ∧
      (head.shared = true → head.status = .ready) := by
  rcases phase.cases_head with ⟨inactive, _⟩ | waiting | ⟨id, fed⟩
  · exact absurd inactive.status inUse
  · refine ⟨waiting.ensureReady ipcSub, sameLink_withdrawn waiting.counted, ?_⟩
    simp [waiting.unshared]
  · exact ⟨fed.ensureReady ipcSub, sameLink_withdrawn fed.counted, fun _ => fed.status⟩

end

variable {w : Worker}

theorem join_requests (head : Chanhead) {made : Worker} (internal : Bool) (now : Int)
    (got : w.withChanhead = (head, made)) (alone : head.foreignOwnerIpcSub = none)
    (unshared : head.shared = false) (counted : head.internalSubCount ≤ head.subCount)
    (status : head.status ≠ .waiting) :
    ∃ w' alerts, w.join internal now = some (w', alerts) ∧
      Phase w'.chanhead noSubs (requests alerts) [] := by
  have waiting : Chanhead.Waiting { head with inGcQueue := false, status := .waiting } :=
    ⟨rfl, alone, unshared, counted⟩
  obtain ⟨head', added, same⟩ :=
    spoolerAdd_ok { head with inGcQueue := false, status := .waiting }
      internal now (by simp [unshared]) counted
  refine ⟨made.set head', [.subscribe head.address], ?_, ?_⟩
  · simp [join, getChanhead, got, ensureReady_inactive alone status, added]
  · exact same.address ▸ Phase.requesting (waiting.same same)

section

variable (phase : Phase w.chanhead subs pending coming)

include phase

theorem join_phase (internal : Bool) (now : Int) :
    ∃ w' alerts, w.join internal now = some (w', alerts) ∧
      Phase w'.chanhead subs (pending ++ requests alerts) coming := by
  obtain ⟨chanhead, created⟩ := w
  cases chanhead with
  | none =>
    cases phase
    exact join_requests (.create created) internal now rfl rfl rfl (Nat.le_refl 0) nofun
  | some head =>
    by_cases idle : head.status = .inactive
    · rcases phase.cases_head with ⟨inactive, rfl, rfl, rfl⟩ | waiting | ⟨id, fed⟩
      · exact join_requests head internal now rfl inactive.alone inactive.unshared inactive.counted
          (by simp [idle])
      · simp [waiting.status] at idle
      · simp [fed.status] at idle
    · obtain ⟨ensured, same, okay⟩ := phase.ensureReady idle true
      obtain ⟨head', added, same'⟩ := spoolerAdd_ok
        { head with inGcQueue := false } internal now okay same.counted
      refine ⟨⟨some head', created⟩, [], ?_, ?_⟩
      · simp [Worker.join, Worker.getChanhead, Worker.withChanhead, ensured, added, Worker.set]
      · simpa using phase.same (same.trans same') idle

theorem leave_phase (internal : Bool) :
    ∃ w', w.leave false internal = some w' ∧ Phase w'.chanhead subs pending coming := by
  obtain ⟨chanhead, created⟩ := w
  cases chanhead with
  | none => exact ⟨_, rfl, phase⟩
  | some head =>
    by_cases present : head.hasSubscriber internal
    · -- whoever leaves a chanhead in use leaves the link as it is
      obtain ⟨head', dequeued, same⟩ : ∃ head', head.spoolerDequeue false internal = some head' ∧
          head.SameLink head' ∧ head.status ≠ .inactive := by
        rcases phase.cases_head with ⟨inactive, _⟩ | waiting | ⟨id, fed⟩
        · simp [inactive.not_present] at present
        · obtain ⟨head', dequeued, same⟩ := waiting.spoolerDequeue present
          exact ⟨head', dequeued, same, by simp [waiting.status]⟩
        · obtain ⟨head', dequeued, same⟩ := fed.spoolerDequeue present
          exact ⟨head', dequeued, same, by simp [fed.status]⟩
      refine ⟨⟨some head', created⟩, ?_, phase.same same.1 same.2⟩
      simp [Worker.leave, present, dequeued, Worker.set]
    · exact ⟨⟨some head, created⟩, by simp [Worker.leave, present], phase⟩

theorem reap_phase :
    Phase w.reap.chanhead subs pending coming := by
  obtain ⟨chanhead, created⟩ := w
  cases chanhead with
  | none => exact phase
  | some head =>
    by_cases ready : head.readyToReap
    · have idle : head.status = .inactive := by
        simp only [readyToReap, decide_eq_true_eq] at ready
        exact ready.2.1
      rcases phase.cases_head with ⟨_, rfl, rfl, rfl⟩ | waiting | ⟨id, fed⟩
      · simpa [reap, ready] using Phase.absent
      · simp [waiting.status] at idle
      · simp [fed.status] at idle
    · simpa [reap, ready] using phase

end

/-! ## Alerts and timers -/

section Subs

variable {id : Nat} {sub sub' : IpcSub}

@[simp] theorem onlySub_self : onlySub id sub id = some sub := update_self ..

theorem onlySub_of_ne {other : Nat} (ne : other ≠ id) : onlySub id sub other = none :=
  update_of_ne ne ..

@[simp] theorem update_noSubs : update noSubs id (some sub) = onlySub id sub := rfl

@[simp] theorem update_onlySub :
    update (onlySub id sub) id (some sub') = onlySub id sub' := update_idem ..

@[simp] theorem erase_onlySub : update (onlySub id sub) id none = noSubs := by
  rw [onlySub, update_idem]
  exact Function.update_eq_self id noSubs

end Subs

variable {owner : Owner} {address id : Nat}

theorem timer_unset (unset : ∀ sub, owner.subs id = some sub → sub.timerSet = false) :
    owner.timeoutEvHandler id = (owner, []) := by
  unfold Owner.timeoutEvHandler
  cases found : owner.subs id with
  | none => rfl
  | some sub => simp [unset sub found]

theorem timer_set (only : owner.subs = onlySub id (.create address)) :
    (owner.timeoutEvHandler id).1.subs = onlySub id (.asking address) ∧
      (owner.timeoutEvHandler id).2 = [.subscriberKeepalive address id] := by
  simp [Owner.timeoutEvHandler, only, IpcSub.create, Owner.set]

/-- Only a timer that is set does something, and none is set while a keepalive is under way. -/
theorem timer_phase (id : Nat) (phase : Phase chanhead owner.subs pending coming) :
    Phase chanhead (owner.timeoutEvHandler id).1.subs pending
      (coming ++ (owner.timeoutEvHandler id).2) := by
  by_cases unset : ∀ sub, owner.subs id = some sub → sub.timerSet = false
  · rw [timer_unset unset]
    simpa using phase
  · obtain ⟨sub, found, set⟩ : ∃ sub, owner.subs id = some sub ∧ sub.timerSet = true := by
      simpa using unset
    generalize subsEq : owner.subs = subs at phase found
    have atId : ∀ {other sub'}, onlySub other sub' id = some sub → other = id ∧ sub' = sub := by
      intro other sub' at_id
      by_cases same : id = other
      · subst same
        exact ⟨rfl, Option.some.inj (onlySub_self.symm.trans at_id)⟩
      · simp [onlySub_of_ne same] at at_id
    -- elsewhere there is no ipc subscriber, or its timer is not set
    cases phase with
    | absent => cases found
    | inactive => cases found
    | requesting => cases found
    | dismissed => cases found
    | granted waiting =>
      obtain ⟨rfl, rfl⟩ := atId found
      obtain ⟨subsAfter, sent⟩ := timer_set subsEq
      rw [subsAfter, sent]
      exact .grantedAsking waiting
    | attached fed =>
      obtain ⟨rfl, rfl⟩ := atId found
      obtain ⟨subsAfter, sent⟩ := timer_set subsEq
      rw [subsAfter, sent]
      exact .asking fed
    | grantedAsking =>
      obtain ⟨rfl, rfl⟩ := atId found
      cases set
    | asking =>
      obtain ⟨rfl, rfl⟩ := atId found
      cases set
    | answered =>
      obtain ⟨rfl, rfl⟩ := atId found
      cases set

theorem keepaliveReply_renew (only : owner.subs = onlySub id (.asking address)) :
    owner.receiveKeepaliveReply id .renew = some (owner.set id (some (.create address)), []) := by
  simp [Owner.receiveKeepaliveReply, only, IpcSub.release, IpcSub.create]

theorem keepaliveReply_norenew (only : owner.subs = onlySub id (.asking address)) :
    owner.receiveKeepaliveReply id .norenew = some (owner.set id none, [.unsubscribed]) := by
  simp [Owner.receiveKeepaliveReply, only, IpcSub.dequeue, IpcSub.release]

theorem owner_receive_phase {alert : ToOwner}
    (phase : Phase chanhead owner.subs (alert :: pending) coming) :
    ∃ owner' alerts, owner.receive alert = some (owner', alerts) ∧
      Phase chanhead owner'.subs pending (coming ++ alerts) := by
  generalize subsEq : owner.subs = subs at phase
  cases phase with
  | requesting waiting =>
    refine ⟨_, _, rfl, ?_⟩
    simpa [Owner.set, subsEq] using Phase.granted waiting
  | @answered head id action fed hooked =>
    cases action with
    | renew =>
      refine ⟨_, _, keepaliveReply_renew subsEq, ?_⟩
      simpa [Owner.set, subsEq] using Phase.attached fed
    | norenew =>
      refine ⟨_, _, keepaliveReply_norenew subsEq, ?_⟩
      simpa [Owner.set, subsEq] using Phase.dismissed fed
    | unhookNorenew => exact absurd rfl hooked

section

variable (found : w.chanhead = some head)

include found

theorem subscribeReply_waiting (id : Nat)
    (waiting : head.Waiting) :
    ∃ head', w.receiveSubscribeReply head.address id =
        some (w.set head', [.subscribeChanheadRelease]) ∧
      head'.address = head.address ∧ head'.FedBy id := by
  have counted : ¬ head.subCount < head.internalSubCount := Nat.not_lt.mpr waiting.counted
  refine ⟨{ head with
      inGcQueue := false, shared := true, foreignOwnerIpcSub := some id, status := .ready }, ?_,
    rfl, rfl, rfl, rfl, waiting.counted⟩
  simp [receiveSubscribeReply, getChanhead, withChanhead, found, waiting.ensureReady, counted,
    waiting.alone]

theorem keepalive_fed (now : Int) (fed : head.FedBy id) :
    ∃ head' action, w.receiveSubscriberKeepalive head.address id now =
        some (w.set head', [.subscriberKeepaliveReply id action]) ∧
      head.SameLink head' ∧ action ≠ .unhookNorenew := by
  refine ⟨{ head with inGcQueue := false },
    { head with inGcQueue := false }.keepaliveAction id now, ?_,
    sameLink_withdrawn fed.counted, ?_⟩
  · simp [receiveSubscriberKeepalive, findChanhead, found, fed.ensureReady, fed.status]
  · simp only [keepaliveAction, fed.fed, ne_eq, not_true_eq_false, if_false]
    split
    · split <;> nofun
    · nofun

theorem unsubscribed_empty (fed : head.FedBy id)
    (empty : head.subCount = 0) :
    ∃ head', w.receiveUnsubscribed false = some (w.set head', []) ∧ head'.Inactive := by
  refine ⟨{ head with
      foreignOwnerIpcSub := none, shared := false, status := .inactive, inGcQueue := true }, ?_,
    rfl, rfl, rfl, empty, fed.counted⟩
  simp [receiveUnsubscribed, findChanhead, found, fed.ensureReady, empty, gcAdd, fed.status]

end

/-- What the worker does with an alert takes the two to the next phase, if it has no subscribers
    when it is told that its ipc subscriber is gone. -/
theorem worker_receive_phase {alert : ToWorker} (now : Int)
    (phase : Phase w.chanhead subs pending (alert :: coming))
    (unwanted : alert = .unsubscribed → ∀ head, w.chanhead = some head → head.subCount = 0) :
    ∃ w' alerts, w.receive false now alert = some (w', alerts) ∧
      Phase w'.chanhead subs (pending ++ requests alerts) coming := by
  generalize found : w.chanhead = chanhead at phase
  cases phase with
  | granted waiting =>
    obtain ⟨head', replied, address, fed⟩ := subscribeReply_waiting found _ waiting
    exact ⟨_, _, replied, address ▸ .attached fed⟩
  | grantedAsking waiting =>
    obtain ⟨head', replied, address, fed⟩ := subscribeReply_waiting found _ waiting
    exact ⟨_, _, replied, address ▸ .asking fed⟩
  | asking fed =>
    obtain ⟨head', action, answered, same, hooked⟩ := keepalive_fed found now fed
    exact ⟨_, _, answered, same.address ▸ .answered (fed.same same) hooked⟩
  | dismissed fed =>
    obtain ⟨head', told, inactive⟩ := unsubscribed_empty found fed (unwanted rfl _ found)
    exact ⟨_, _, told, .inactive inactive⟩

/-! ## Runs -/

/-- The worker has no subscribers at the moment it is told that its ipc subscriber is gone. -/
def Good (op : Op) (s : State) : Prop :=
  match op with
  | .deliverToWorker _ => s.toWorker.head? = some .unsubscribed →
      ∀ head, s.worker.chanhead = some head → head.subCount = 0
  | _ => True

theorem step_inv (op : Op) (s : State) (inv : s.Inv) (good : Good op s) :
    ∃ s', op.apply s = some s' ∧ s'.Inv := by
  unfold State.Inv at inv
  cases op with
  | join internal now =>
    obtain ⟨w', alerts, joined, phase⟩ := join_phase inv internal now
    exact ⟨s.worked (w', alerts), by simp [Op.apply, joined], by
      simpa [State.Inv, State.worked] using phase⟩
  | leave internal =>
    obtain ⟨w', left, phase⟩ := leave_phase inv internal
    exact ⟨{ s with worker := w' }, by simp [Op.apply, left], phase⟩
  | reap => exact ⟨_, rfl, reap_phase inv⟩
  | keepaliveTimer id => exact ⟨_, rfl, timer_phase id inv⟩
  | deliverToOwner =>
    obtain ⟨w, owner, toOwner, toWorker⟩ := s
    cases toOwner with
    | nil => exact ⟨_, rfl, inv⟩
    | cons alert rest =>
      -- a release only changes the reservations
      by_cases release : alert = .subscribeChanheadRelease
      · subst release
        exact ⟨_, rfl, by simpa [State.Inv, State.owned, Owner.chanheadRelease] using inv⟩
      · rw [requests_cons rest release] at inv
        obtain ⟨owner', alerts, received, phase⟩ := owner_receive_phase inv
        exact ⟨_, congrArg (Option.map _) received, phase⟩
  | deliverToWorker now =>
    obtain ⟨w, owner, toOwner, toWorker⟩ := s
    cases toWorker with
    | nil => exact ⟨_, rfl, inv⟩
    | cons alert rest =>
      obtain ⟨w', alerts, received, phase⟩ := worker_receive_phase now inv
        fun told => good (congrArg some told)
      exact ⟨_, congrArg (Option.map _) received, by
        simpa [State.Inv, State.worked] using phase⟩

/-- The owner's spooler holds a hooked ipc subscriber for the worker. -/
def Owner.HoldsHooked (owner : Owner) : Prop :=
  ∃ id sub, owner.subs id = some sub ∧ sub.alreadyDequeued = false ∧ sub.unhooked = false

theorem Phase.attached_of_quiet (phase : Phase (some head) subs pending coming)
    (answered : pending = []) (delivered : coming = []) (ready : head.status = .ready) :
    ∃ id, subs = onlySub id (.create head.address) := by
  cases phase with
  | attached fed => exact ⟨_, rfl⟩
  | inactive inactive => simp [inactive.status] at ready
  | requesting => cases answered
  | answered => cases answered
  | granted => cases delivered
  | grantedAsking => cases delivered
  | asking => cases delivered
  | dismissed => cases delivered

/-- In a run in which the worker is told of the end of its ipc subscriber only while it has no
    subscribers, nothing aborts, and whenever no alert is in flight and its chanhead is ready
    with subscribers, the owner holds a hooked ipc subscriber for it. -/
theorem worker_stays_attached (ops : List Op) (good : Run.Along Op.apply Good ops .initial) :
    ∃ s, run Op.apply ops .initial = some s ∧
      (s.toOwner = [] → s.toWorker = [] → ∀ head, s.worker.chanhead = some head →
        head.status = .ready → 0 < head.subCount → s.owner.HoldsHooked) := by
  have initially : State.initial.Inv := Phase.absent
  obtain ⟨s, reaches, inv⟩ := run_keeps step_inv initially good
  refine ⟨s, reaches, fun noRequests noAlerts head found ready _ => ?_⟩
  unfold State.Inv at inv
  rw [found] at inv
  obtain ⟨id, only⟩ := inv.attached_of_quiet (by simp [noRequests]) noAlerts ready
  exact ⟨id, .create head.address, by rw [only, onlySub_self], rfl, rfl⟩

/-- A subscriber comes and goes, the ipc subscriber is let go, and another subscriber comes. -/
def onceAround : List Op :=
  [.join false 0, .deliverToOwner, .deliverToWorker 0, .deliverToOwner, .leave false,
    .keepaliveTimer 0, .deliverToWorker 6, .deliverToOwner, .deliverToWorker 6,
    .join false 7, .deliverToOwner, .deliverToWorker 7, .deliverToOwner]

theorem worker_stays_attached_once_around :
    Run.Along Op.apply Good onceAround .initial ∧
      ∃ s head, run Op.apply onceAround .initial = some s ∧ s.toOwner = [] ∧
        s.toWorker = [] ∧ s.worker.chanhead = some head ∧ head.status = .ready ∧
        head.subCount = 1 ∧ s.owner.HoldsHooked := by
  have good : Run.Along Op.apply Good onceAround .initial := by
    refine .cons trivial rfl (.cons trivial rfl (.cons nofun rfl (.cons trivial rfl ?_)))
    refine .cons trivial rfl (.cons trivial rfl (.cons nofun rfl (.cons trivial rfl ?_)))
    refine .cons (fun _ head found => ?_) rfl ?_
    · cases found
      rfl
    exact .cons trivial rfl (.cons trivial rfl (.cons nofun rfl (.cons trivial rfl trivial)))
  obtain ⟨s, reaches, attached⟩ := worker_stays_attached onceAround good
  cases reaches
  exact ⟨good, _, _, rfl, rfl, rfl, rfl, rfl, rfl,
    attached rfl rfl _ rfl rfl Nat.zero_lt_one⟩

/-- A subscriber joins after the worker has let its ipc subscriber go and before it is told. -/
def joinBetween : List Op :=
  [.join false 0, .deliverToOwner, .deliverToWorker 0, .deliverToOwner, .leave false,
    .keepaliveTimer 0, .deliverToWorker 6, .join false 6, .deliverToOwner, .deliverToWorker 6]

theorem join_between_detaches :
    ∃ s head, run Op.apply joinBetween .initial = some s ∧ s.toOwner = [] ∧
      s.toWorker = [] ∧ s.worker.chanhead = some head ∧ head.status = .ready ∧
      head.subCount = 1 ∧ ¬ s.owner.HoldsHooked := by
  refine ⟨_, _, rfl, rfl, rfl, rfl, rfl, rfl, ?_⟩
  rintro ⟨id, sub, found, -⟩
  cases id with
  | zero => cases found
  | succ id => cases found

-- The next one to join fails the assert that a shared chanhead is ready.
example : run Op.apply (joinBetween ++ [.join false 7]) .initial = none := rfl

end Nchan.Memstore.IpcSubscription
