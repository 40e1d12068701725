import Nchan.Memstore.IpcSubscription
import Mathlib.Algebra.BigOperators.Ring.Finset
import Mathlib.Algebra.Order.BigOperators.Group.Finset
import Mathlib.Data.Fintype.BigOperators

/-! # How many workers use the owner's shared channel data

`gc.outside_refcount` keeps the owner from reaping its chanhead while other workers point at the
shared data.  The owner adds one for each subscribe request it grants, and a worker takes one off
when `chanhead_gc_add` clears its pointer.

Any number of workers, each with its own two FIFOs to and from the owner.  A worker and what the
owner keeps for it are those of `IpcSubscription`, with Redis or without; here the owner's chanhead
also comes and goes, a request can be refused for want of shared memory, and a subscription can be
turned away after the chanhead was got for it, or wait for the limits of its group first.
-/

namespace Nchan.Memstore.IpcSubscription

open Nchan.Lib List Function Worker Chanhead Finset Option Run

/-! ## A worker -/

/-- What a step does to `gc.outside_refcount`. -/
inductive RefChange where
  | unchanged | incremented | decremented
  deriving DecidableEq

/-- Alerts to a worker, with the reply of an owner that could not make its chanhead. -/
inductive Coming where
  | alert (alert : ToWorker)
  | subscribeFailed (originChanhead : Nat)
  deriving DecidableEq

namespace Worker

/-- The chanhead is got and nobody is added to it: the answer is 400 or 403. -/
def turnAway (w : Worker) : Worker × List ToOwner :=
  let (head, w, alerts) := w.getChanhead true
  (w.set head, alerts)

/-- `group_subscribe_accounting_check` on the chanhead that was reserved for it. -/
def groupSubscribeAccountingCheck (accepted internal : Bool) (now : Int) (w : Worker) :
    Option (Worker × List ToOwner) :=
  w.chanhead.bind fun head =>
    let (head, alerts) := head.ensureReady false
    if accepted then (head.spoolerAdd internal now).map fun head => (w.set head, alerts)
    else some (w.set head, alerts)

/-- `chanhead_gc_add` for any other reason. -/
def gcAdd (redis : Bool) (w : Worker) : Option Worker :=
  match w.chanhead with
  | none => some w
  | some head => (head.gcAdd redis).map w.set

/-- `receive_subscribe_reply` for a request that was refused.  Those who are answered 507 leave
    in steps of their own. -/
def receiveSubscribeFailed (redis : Bool) (originChanhead : Nat) (w : Worker) :
    Option (Worker × List ToOwner) :=
  let (head, w, alerts) := w.getChanhead false
  -- `assert(d->owner_chanhead)`, and the assert of `nchan_memstore_publish_generic`
  if head.address ≠ originChanhead ∨ (head.shared ∧ head.status ≠ .ready) then none
  else ({ head with status := .notready }.gcAdd redis).map fun head => (w.set head, alerts)

/-- What the worker does with what reaches it at the time `now`. -/
def receiveComing (redis : Bool) (now : Int) (coming : Coming) (w : Worker) :
    Option (Worker × List ToOwner) :=
  match coming with
  | .subscribeFailed originChanhead => w.receiveSubscribeFailed redis originChanhead
  | .alert alert => w.receive redis now alert

def points (w : Worker) : Bool := w.chanhead.any (·.shared)

end Worker

def Owner.spooled (owner : Owner) : Bool :=
  (List.range owner.created).any fun id => (owner.subs id).any (!·.alreadyDequeued)

/-! ## A worker and the owner -/

/-- A worker, what the owner keeps for it and the alerts between them.  `checking` subscriptions
    wait for the limits of their group and reserve the worker's chanhead. -/
structure Link where
  worker : Worker
  owner : Owner
  toOwner : List ToOwner
  toWorker : List Coming
  checking : Nat

inductive LinkOp where
  | join (internal : Bool) (now : Int)
  | turnAway
  | check
  | checked (accepted internal : Bool) (now : Int)
  | leave (internal : Bool)
  | gcAdd
  | reap
  | keepaliveTimer (sub : Nat)
  | deliverToOwner (outOfMemory : Bool)
  | deliverToWorker (now : Int)
  deriving DecidableEq

namespace Link

def initial : Link := ⟨⟨none, 0⟩, ⟨fun _ => none, 0, 0⟩, [], [], 0⟩

/-- The worker has done something.  Its pointer is cleared by `chanhead_gc_add` only, which takes
    the worker off the count. -/
def worked (l : Link) (result : Worker × List ToOwner) : Link × RefChange :=
  ({ l with worker := result.1, toOwner := l.toOwner ++ result.2 },
    if l.worker.points && !result.1.points then .decremented else .unchanged)

def owned (l : Link) (result : Owner × List ToWorker) : Link :=
  { l with owner := result.1, toWorker := l.toWorker ++ result.2.map .alert }

/-- The owner receives an alert.  Without a chanhead it needs shared memory for one to grant a
    request. -/
def receiveAtOwner (present outOfMemory : Bool) (alert : ToOwner) (l : Link) :
    Option (Link × RefChange) :=
  match alert with
  | .subscribe originChanhead =>
    if outOfMemory ∧ ¬ present then
      some ({ l with toWorker := l.toWorker ++ [.subscribeFailed originChanhead] }, .unchanged)
    else some (l.owned (l.owner.receiveSubscribe originChanhead), .incremented)
  | alert => (l.owner.receive alert).map fun result => (l.owned result, .unchanged)

/-- One step; `present` says whether the owner has a chanhead.  A delivery with nothing in flight
    changes nothing. -/
def apply (redis present : Bool) (op : LinkOp) (l : Link) : Option (Link × RefChange) :=
  match op with
  | .join internal now => (l.worker.join internal now).map l.worked
  | .turnAway => some (l.worked l.worker.turnAway)
  | .check => some ({ l with checking := l.checking + 1 }.worked l.worker.turnAway)
  | .checked accepted internal now =>
    if l.checking = 0 then some (l, .unchanged)
    else
      (l.worker.groupSubscribeAccountingCheck accepted internal now).map
        { l with checking := l.checking - 1 }.worked
  | .leave internal => (l.worker.leave redis internal).map fun w => l.worked (w, [])
  | .gcAdd => (l.worker.gcAdd redis).map fun w => l.worked (w, [])
  | .reap => some (if l.checking = 0 then { l with worker := l.worker.reap } else l, .unchanged)
  | .keepaliveTimer sub => some (l.owned (l.owner.timeoutEvHandler sub), .unchanged)
  | .deliverToOwner outOfMemory =>
    match l.toOwner with
    | [] => some (l, .unchanged)
    | alert :: rest => { l with toOwner := rest }.receiveAtOwner present outOfMemory alert
  | .deliverToWorker now =>
    match l.toWorker with
    | [] => some (l, .unchanged)
    | coming :: rest =>
      (l.worker.receiveComing redis now coming).map { l with toWorker := rest }.worked

end Link

/-! ## All workers -/

/-- Every other worker, and `gc.outside_refcount` while the owner has a chanhead. -/
structure Cluster (ι : Type) where
  links : ι → Link
  outsideRefcount : Option Int

inductive ClusterOp (ι : Type) where
  | link (i : ι) (op : LinkOp)
  | ownerGet
  | ownerReap
  deriving DecidableEq

namespace Cluster

variable {ι : Type} [Fintype ι] [DecidableEq ι]

def initial : Cluster ι := ⟨fun _ => .initial, none⟩

/-- `gc.outside_refcount` after a change.  The owner makes its chanhead, with a count of 0, when
    it has none; a worker that writes to shared data that has been freed is an abort. -/
def count (change : RefChange) (outsideRefcount : Option Int) : Option (Option Int) :=
  match change with
  | .unchanged => some outsideRefcount
  | .incremented => some (some (outsideRefcount.getD 0 + 1))
  | .decremented => outsideRefcount.map fun refcount => some (refcount - 1)

/-- `memstore_chanhead_reserved_or_in_use` on the owner, as far as other workers are concerned. -/
def ReservedOrInUse (c : Cluster ι) : Prop :=
  (∃ i, (c.links i).owner.spooled = true) ∨ 0 < ∑ i, (c.links i).owner.chanheadReserved ∨
    c.outsideRefcount ≠ some 0

instance (c : Cluster ι) : Decidable c.ReservedOrInUse :=
  inferInstanceAs (Decidable (_ ∨ _ ∨ _))

/-- One step.  The owner reaps its chanhead when its own subscribers and messages are gone. -/
def apply (redis : Bool) (op : ClusterOp ι) (c : Cluster ι) : Option (Cluster ι) :=
  match op with
  | .link i op =>
    ((c.links i).apply redis c.outsideRefcount.isSome op).bind fun result =>
      (count result.2 c.outsideRefcount).map fun outsideRefcount =>
        ⟨update c.links i result.1, outsideRefcount⟩
  | .ownerGet => some { c with outsideRefcount := some (c.outsideRefcount.getD 0) }
  | .ownerReap => some (if c.ReservedOrInUse then c else { c with outsideRefcount := none })

/-- `gc.outside_refcount`, 0 if the owner has no chanhead. -/
def refcount (c : Cluster ι) : Int := c.outsideRefcount.getD 0

def pointing (c : Cluster ι) : Nat :=
  (univ.filter fun i => (c.links i).worker.points = true).card

def Quiet (c : Cluster ι) : Prop := ∀ i, (c.links i).toOwner = [] ∧ (c.links i).toWorker = []

end Cluster

/-! ## What a worker does to its pointer -/

def Coming.grants : Coming → Bool
  | .alert (.subscribeReply _ _) => true
  | _ => false

@[simp] def RefChange.value : RefChange → Int
  | .unchanged => 0
  | .incremented => 1
  | .decremented => -1

variable {redis internal : Bool} {now : Int}

namespace Chanhead

/-- On its way to be reaped, the chanhead has let go of the shared data. -/
def LetGo (head : Chanhead) : Prop := head.status = .inactive → head.shared = false

/-- What may happen to a chanhead between replies: its pointer is not set. -/
structure Moves (head head' : Chanhead) : Prop where
  letGo : head.LetGo → head'.LetGo
  unset : head'.shared = true → head.shared = true

variable {head head' head'' : Chanhead}

theorem Moves.trans (first : head.Moves head') (second : head'.Moves head'') :
    head.Moves head'' :=
  ⟨fun letGo => second.letGo (first.letGo letGo), fun set => first.unset (second.unset set)⟩

theorem Moves.of_same (status : head'.status = head.status) (shared : head'.shared = head.shared) :
    head.Moves head' :=
  ⟨fun letGo inactive => shared.trans (letGo (status.symm.trans inactive)),
    fun set => shared.symm.trans set⟩

theorem Moves.of_unshared (unshared : head'.shared = false) : head.Moves head' :=
  ⟨fun _ _ => unshared, fun set => by simp [unshared] at set⟩

@[simp] theorem ensureReady_shared (ipcSub : Bool) (head : Chanhead) :
    (head.ensureReady ipcSub).1.shared = head.shared := by
  unfold ensureReady
  dsimp only
  split <;> split <;> rfl

@[simp] theorem ensureReady_address (ipcSub : Bool) (head : Chanhead) :
    (head.ensureReady ipcSub).1.address = head.address := by
  unfold ensureReady
  dsimp only
  split <;> split <;> rfl

theorem ensureReady_moves (ipcSub : Bool) (head : Chanhead) :
    head.Moves (head.ensureReady ipcSub).1 := by
  refine ⟨fun letGo inactive => ?_, fun set => by simpa using set⟩
  rw [ensureReady_shared]
  refine letGo ?_
  -- a chanhead is left inactive only if it was
  unfold ensureReady at inactive
  dsimp only at inactive
  split at inactive <;> split at inactive <;> first | cases inactive | exact inactive

theorem spoolerAdd_moves : Gives (head.spoolerAdd internal now) head.Moves := by
  refine .assert fun _ => ?_
  cases internal with
  | true => exact .guard fun _ => .of_some (.of_same rfl rfl)
  | false => exact .guard fun _ => .of_some (.of_same rfl rfl)

theorem gcAdd_moves (head : Chanhead) : Gives (head.gcAdd redis) head.Moves :=
  .assert fun _ => .ite (fun _ => .of_some (.of_unshared rfl)) fun _ => .ite
    (fun _ => .of_some (.of_unshared rfl)) fun _ => .of_some (.of_unshared rfl)

theorem spoolerDequeue_moves : Gives (head.spoolerDequeue redis internal) head.Moves := by
  refine .seq (Q := head.Moves) (.guard fun _ => .of_some (.of_same rfl rfl)) fun less same => ?_
  exact .ite (fun _ => less.gcAdd_moves.mono fun _ => same.trans) fun _ => .of_some same

end Chanhead

namespace Worker

variable {w w' : Worker} {head head' : Chanhead}

def LetGo (w : Worker) : Prop := ∀ head, w.chanhead = some head → head.LetGo

structure Moves (w w' : Worker) : Prop where
  letGo : w.LetGo → w'.LetGo
  unset : w'.points = true → w.points = true

theorem Moves.of_same (same : w'.chanhead = w.chanhead) : w.Moves w' :=
  ⟨fun letGo head found => letGo head (same.symm.trans found),
    fun set => by simpa [points, same] using set⟩

theorem LetGo.of_found (found : w.chanhead = some head) (letGo : head.LetGo) : w.LetGo := by
  intro head' found'
  obtain rfl := some.inj (found.symm.trans found')
  exact letGo

@[simp] theorem points_set (head : Chanhead) (w : Worker) : (w.set head).points = head.shared := rfl

@[simp] theorem withChanhead_shared (w : Worker) : w.withChanhead.1.shared = w.points := by
  unfold withChanhead points
  cases w.chanhead <;> rfl

theorem LetGo.withChanhead (letGo : w.LetGo) : w.withChanhead.1.LetGo := by
  unfold Worker.withChanhead
  cases found : w.chanhead with
  | none => exact fun _ => rfl
  | some head => exact letGo head found

theorem Moves.of_got (found : w'.chanhead = some head')
    (moves : w.withChanhead.1.Moves head') : w.Moves w' where
  letGo := fun letGo => .of_found found (moves.letGo letGo.withChanhead)
  unset := fun set => by
    rw [← withChanhead_shared]
    exact moves.unset (by simpa [points, found] using set)

theorem Moves.of_found (found : w.chanhead = some head) (found' : w'.chanhead = some head')
    (moves : head.Moves head') : w.Moves w' := by
  refine .of_got found' ?_
  rwa [withChanhead, found]

theorem turnAway_moves (w : Worker) : w.Moves w.turnAway.1 :=
  .of_got rfl (w.withChanhead.1.ensureReady_moves true)

theorem join_moves : Gives (w.join internal now) fun result => w.Moves result.1 :=
  .map fun _ added =>
    .of_got rfl ((w.withChanhead.1.ensureReady_moves true).trans (spoolerAdd_moves _ added))

theorem accountingCheck_moves {accepted : Bool} :
    Gives (w.groupSubscribeAccountingCheck accepted internal now) fun result =>
      w.Moves result.1 := by
  refine .bind fun head found => ?_
  have ensured := head.ensureReady_moves false
  refine .ite (fun _ => .map fun _ added => ?_) fun _ => .of_some (.of_found found rfl ensured)
  exact .of_found found rfl (ensured.trans (spoolerAdd_moves _ added))

theorem leave_moves : Gives (w.leave redis internal) w.Moves := by
  unfold leave
  cases found : w.chanhead with
  | none => exact .of_some (.of_same rfl)
  | some head =>
    exact .ite (fun _ => .map fun _ left => .of_found found rfl (spoolerDequeue_moves _ left))
      fun _ => .of_some (.of_same rfl)

theorem gcAdd_moves : Gives (w.gcAdd redis) w.Moves := by
  unfold gcAdd
  cases found : w.chanhead with
  | none => exact .of_some (.of_same rfl)
  | some head => exact .map fun _ added => .of_found found rfl (head.gcAdd_moves _ added)

theorem keepalive_moves {originator sub : Nat} :
    Gives (w.receiveSubscriberKeepalive originator sub now) fun result => w.Moves result.1 := by
  unfold receiveSubscriberKeepalive findChanhead
  cases found : w.chanhead with
  | none => exact .of_some (.of_same rfl)
  | some head =>
    have ensured := head.ensureReady_moves true
    exact .ite (fun _ => .of_some (.of_found found rfl ensured))
      fun _ => .assert fun _ => .of_some (.of_found found rfl ensured)

theorem unsubscribed_moves :
    Gives (w.receiveUnsubscribed redis) fun result => w.Moves result.1 := by
  unfold receiveUnsubscribed findChanhead
  cases found : w.chanhead with
  | none => exact .of_some (.of_same rfl)
  | some head =>
    have ensured : head.Moves { (head.ensureReady true).1 with foreignOwnerIpcSub := none } :=
      (head.ensureReady_moves true).trans (.of_same rfl rfl)
    refine .ite (fun _ => .map fun _ gced => ?_) fun _ => .of_some (.of_found found rfl ensured)
    exact .of_found found rfl (ensured.trans (Chanhead.gcAdd_moves _ _ gced))

theorem subscribeFailed_moves {originChanhead : Nat} :
    Gives (w.receiveSubscribeFailed redis originChanhead) fun result => w.Moves result.1 := by
  refine .assert fun _ => .map fun head gced => .of_got rfl ?_
  refine .trans ⟨fun _ inactive => ?_, fun set => ?_⟩ (Chanhead.gcAdd_moves _ head gced)
  · cases inactive
  · exact (ensureReady_shared false _).symm.trans set

theorem LetGo.reap (letGo : w.LetGo) : w.reap.LetGo ∧ w.reap.points = w.points := by
  unfold Worker.reap
  cases found : w.chanhead with
  | none => exact ⟨letGo, rfl⟩
  | some head =>
    dsimp only
    split
    next ready =>
      simp only [readyToReap, decide_eq_true_eq] at ready
      have unshared := letGo head found ready.2.1
      refine ⟨fun _ gone => ?_, by simp [points, found, unshared]⟩
      cases gone
    next => exact ⟨letGo, rfl⟩

/-- The reply to a request that was granted is for the chanhead that is got for it, and that one
    does not point at the shared data yet. -/
def takes (originChanhead : Nat) (w : Worker) : Bool :=
  w.withChanhead.1.address = originChanhead && !w.points

theorem LetGo.subscribeReply (letGo : w.LetGo) {originChanhead sub : Nat} :
    Gives (w.receiveSubscribeReply originChanhead sub) fun result => result.1.LetGo ∧
      result.1.points = (w.takes originChanhead || w.points) := by
  have got := (w.withChanhead.1.ensureReady_moves false).letGo letGo.withChanhead
  have set {head : Chanhead} (here : w.withChanhead.1.address = originChanhead)
      (ready : head.status = .ready) (shared : head.shared = true) :
      (w.withChanhead.2.set head).LetGo ∧
        (w.withChanhead.2.set head).points = (w.takes originChanhead || w.points) := by
    refine ⟨.of_found rfl fun inactive => ?_, ?_⟩
    · rw [ready] at inactive
      cases inactive
    · cases was : w.points <;> simp [shared, takes, here, was]
  refine .ite (fun other => .of_some ?_) fun same => .assert fun _ => ?_
  · have other : w.withChanhead.1.address ≠ originChanhead := fun same =>
      other ((ensureReady_address false _).trans same)
    refine ⟨.of_found rfl got, (ensureReady_shared false w.withChanhead.1).trans ?_⟩
    simp [takes, other]
  · have here : w.withChanhead.1.address = originChanhead :=
      (ensureReady_address false _).symm.trans (not_not.mp same)
    exact .ite (fun _ => .of_some (set here rfl rfl)) fun _ => .of_some (set here rfl rfl)

end Worker

/-! ## A link -/

/-- What the owner sends other than to grant a request. -/
def Unasked (alerts : List ToWorker) : Prop :=
  ∀ alert ∈ alerts, (Coming.alert alert).grants = false

theorem IpcSub.dequeue_unasked (sub : IpcSub) : Unasked sub.dequeue.2 := by
  unfold IpcSub.dequeue
  split
  · exact forall_mem_nil _
  · cases sub.unhooked <;> simp [Unasked, Coming.grants]

theorem Owner.timeoutEvHandler_unasked (id : Nat) (owner : Owner) :
    Unasked (owner.timeoutEvHandler id).2 := by
  unfold Owner.timeoutEvHandler
  cases owner.subs id with
  | none => exact forall_mem_nil _
  | some sub =>
    dsimp only
    cases sub.timerSet <;> cases sub.unhooked <;> simp [Unasked, Coming.grants]

theorem Owner.receive_unasked {owner : Owner} {alert : ToOwner}
    (other : ∀ originChanhead, alert ≠ .subscribe originChanhead) :
    Gives (owner.receive alert) fun result => Unasked result.2 := by
  have nothing : Unasked [] := forall_mem_nil _
  cases alert with
  | subscribe originChanhead => exact absurd rfl (other originChanhead)
  | subscribeChanheadRelease => exact .of_some nothing
  | subscribeChanheadNevermindRelease id => exact .map fun _ _ => IpcSub.dequeue_unasked _
  | subscriberKeepaliveReply id action =>
    refine .map fun _ _ => ?_
    cases action with
    | norenew => exact IpcSub.dequeue_unasked _
    | renew => exact nothing
    | unhookNorenew => exact nothing

namespace Link

/-- The worker's part of the count: its pointer, and what the owner has added for requests whose
    replies it has not got. -/
def weight (l : Link) : Int :=
  (if l.worker.points then 1 else 0) + l.toWorker.countP Coming.grants

/-- The worker's chanhead is in order, and the link's part of the count has changed with the
    count. -/
def Settles (l : Link) (result : Link × RefChange) : Prop :=
  result.1.worker.LetGo ∧ result.1.weight = l.weight + result.2.value

variable {l : Link}

theorem settles_same (letGo : l.worker.LetGo) : l.Settles (l, .unchanged) :=
  ⟨letGo, (Int.add_zero _).symm⟩

theorem settles_worked (letGo : l.worker.LetGo) {result : Worker × List ToOwner}
    (moves : l.worker.Moves result.1) : l.Settles (l.worked result) := by
  refine ⟨moves.letGo letGo, ?_⟩
  cases after : result.1.points with
  | true => simp [weight, worked, after, moves.unset after]
  | false =>
    cases before : l.worker.points <;> simp [weight, worked, after, before]

theorem settles_owned (letGo : l.worker.LetGo) {result : Owner × List ToWorker}
    (unasked : Unasked result.2) : l.Settles (l.owned result, .unchanged) := by
  have same : (l.owned result).toWorker.countP Coming.grants = l.toWorker.countP Coming.grants := by
    simpa [owned, Unasked] using unasked
  refine ⟨letGo, ?_⟩
  rw [weight, weight, same]
  exact (Int.add_zero _).symm

theorem settles_receiveAtOwner (letGo : l.worker.LetGo) {present outOfMemory : Bool}
    (alert : ToOwner) (rest : List ToOwner) :
    Gives ({ l with toOwner := rest }.receiveAtOwner present outOfMemory alert) l.Settles := by
  have others (other : ∀ originChanhead, alert ≠ .subscribe originChanhead) :
      Gives ((l.owner.receive alert).map fun result =>
        (({ l with toOwner := rest } : Link).owned result, RefChange.unchanged)) l.Settles :=
    .map fun result done => settles_owned letGo (Owner.receive_unasked other result done)
  cases alert with
  | subscribe originChanhead =>
    refine .ite (fun _ => .of_some ⟨letGo, ?_⟩) fun _ => .of_some ⟨letGo, ?_⟩
    · simp [weight, Coming.grants]
    · simp [weight, Link.owned, Owner.receiveSubscribe, Coming.grants]
      omega
  | subscribeChanheadRelease => exact others nofun
  | subscribeChanheadNevermindRelease sub => exact others nofun
  | subscriberKeepaliveReply sub action => exact others nofun

/-- The worker is about to get the reply to a request that was granted, and does not point at the
    shared data because of it. -/
def overcounts (op : LinkOp) (l : Link) : Bool :=
  match op, l.toWorker with
  | .deliverToWorker _, .alert (.subscribeReply originChanhead _) :: _ =>
    !l.worker.takes originChanhead
  | _, _ => false

def StepsTo (op : LinkOp) (l : Link) (result : Link × RefChange) : Prop :=
  result.1.worker.LetGo ∧
    result.1.weight = l.weight + result.2.value - if overcounts op l then 1 else 0

theorem Settles.stepsTo {op : LinkOp} {result : Link × RefChange} (settles : l.Settles result)
    (counted : overcounts op l = false) : StepsTo op l result := by
  simpa [StepsTo, Settles, counted] using settles

theorem stepsTo_deliverToWorker (letGo : l.worker.LetGo) {coming : Coming} {rest : List Coming}
    (first : l.toWorker = coming :: rest) :
    Gives (l.worker.receiveComing redis now coming) fun result =>
      StepsTo (.deliverToWorker now) l ({ l with toWorker := rest }.worked result) := by
  -- all but the reply to a granted request leave the count as it is
  have others (other : coming.grants = false) {result : Worker × List ToOwner}
      (moves : l.worker.Moves result.1) :
      StepsTo (.deliverToWorker now) l ({ l with toWorker := rest }.worked result) := by
    have popped : ({ l with toWorker := rest } : Link).weight = l.weight := by
      simp [weight, first, other]
    have settles : l.Settles (({ l with toWorker := rest } : Link).worked result) := by
      rw [Settles, ← popped]
      exact @settles_worked { l with toWorker := rest } letGo result moves
    refine settles.stepsTo ?_
    unfold overcounts
    rw [first]
    split
    next is =>
      cases is
      cases other
    next => rfl
  cases coming with
  | subscribeFailed originChanhead => exact subscribeFailed_moves.mono fun _ => others rfl
  | alert alert =>
    cases alert with
    | subscribeReply originChanhead sub =>
      refine letGo.subscribeReply.mono fun result replied => ⟨replied.1, ?_⟩
      have taken : overcounts (.deliverToWorker now) l = !l.worker.takes originChanhead := by
        simp [overcounts, first]
      have one : l.toWorker.countP Coming.grants = rest.countP Coming.grants + 1 := by
        rw [first]
        exact countP_cons_of_pos rfl
      rw [taken]
      -- the reference is taken by the chanhead, or is one too many
      cases takes : l.worker.takes originChanhead <;> cases was : l.worker.points <;>
        simp_all [weight, worked, Worker.takes] <;> omega
    | subscriberKeepalive originator sub => exact keepalive_moves.mono fun _ => others rfl
    | unsubscribed => exact unsubscribed_moves.mono fun _ => others rfl

theorem stepsTo_apply (letGo : l.worker.LetGo) (present : Bool) (op : LinkOp) :
    Gives (l.apply redis present op) (StepsTo op l) := by
  cases op with
  | join internal now =>
    exact .map fun result joined => (settles_worked letGo (join_moves result joined)).stepsTo rfl
  | turnAway => exact .of_some ((settles_worked letGo l.worker.turnAway_moves).stepsTo rfl)
  | check => exact .of_some (Settles.stepsTo (settles_worked letGo l.worker.turnAway_moves) rfl)
  | checked accepted internal now =>
    refine .ite (fun _ => .of_some ((settles_same letGo).stepsTo rfl)) fun _ => ?_
    exact .map fun result checked =>
      Settles.stepsTo (settles_worked letGo (accountingCheck_moves result checked)) rfl
  | leave internal =>
    exact .map fun w left => (settles_worked letGo (leave_moves w left)).stepsTo rfl
  | gcAdd =>
    exact .map fun w added => (settles_worked letGo (Worker.gcAdd_moves w added)).stepsTo rfl
  | reap =>
    refine .of_some (Settles.stepsTo ?_ rfl)
    split
    · exact ⟨letGo.reap.1, by simp [weight, letGo.reap.2]⟩
    · exact settles_same letGo
  | keepaliveTimer sub =>
    exact .of_some ((settles_owned letGo (l.owner.timeoutEvHandler_unasked sub)).stepsTo rfl)
  | deliverToOwner outOfMemory =>
    simp only [Link.apply]
    cases l.toOwner with
    | nil => exact .of_some ((settles_same letGo).stepsTo rfl)
    | cons alert rest =>
      exact (settles_receiveAtOwner letGo alert rest).mono fun _ settles => settles.stepsTo rfl
  | deliverToWorker now =>
    simp only [Link.apply]
    cases first : l.toWorker with
    | nil => exact .of_some ((settles_same letGo).stepsTo (by simp [overcounts, first]))
    | cons coming rest => exact .map (stepsTo_deliverToWorker letGo first)

end Link

/-! ## Runs of all workers -/

namespace Cluster

variable {ι : Type} {c c' : Cluster ι}

def LetGo (c : Cluster ι) : Prop := ∀ i, (c.links i).worker.LetGo

theorem initial_letGo : (initial : Cluster ι).LetGo := fun _ _ found => by cases found

theorem count_value {change : RefChange} {before after : Option Int}
    (counted : count change before = some after) :
    after.getD 0 = before.getD 0 + change.value := by
  cases change with
  | unchanged =>
    cases counted
    exact (Int.add_zero _).symm
  | incremented =>
    cases counted
    rfl
  | decremented =>
    obtain ⟨refcount, rfl, is⟩ := map_eq_some_iff.mp counted
    obtain rfl := is
    rfl

variable [Fintype ι]

/-- How much `gc.outside_refcount` is above what the workers account for. -/
def excess (c : Cluster ι) : Int := c.refcount - ∑ i, (c.links i).weight

theorem initial_excess : (initial : Cluster ι).excess = 0 := by
  simp [excess, refcount, initial, Link.weight, Link.initial, points]

theorem sum_pointing (c : Cluster ι) :
    ∑ i, (if (c.links i).worker.points then (1 : Int) else 0) = c.pointing := by
  rw [pointing, card_filter, Nat.cast_sum]
  exact sum_congr rfl fun i _ => by split <;> simp [*]

variable [DecidableEq ι]

/-- A reply that grants a request reaches the chanhead the request was for, which does not point at
    the shared data yet. -/
def Single (op : ClusterOp ι) (c : Cluster ι) : Prop :=
  match op with
  | .link i op => (c.links i).overcounts op = false
  | _ => True

instance : (op : ClusterOp ι) → (c : Cluster ι) → Decidable (Single op c)
  | .link i op, c => inferInstanceAs (Decidable ((c.links i).overcounts op = false))
  | .ownerGet, _ => .isTrue trivial
  | .ownerReap, _ => .isTrue trivial

theorem sum_weight_update (links : ι → Link) (i : ι) (l : Link) :
    ∑ j, (update links i l j).weight =
      ∑ j, (links j).weight - (links i).weight + l.weight := by
  have others : ∑ j ∈ univ.erase i, (update links i l j).weight =
      ∑ j ∈ univ.erase i, (links j).weight :=
    sum_congr rfl fun j other => by
      rw [update_of_ne (ne_of_mem_erase other)]
  rw [← add_sum_erase _ _ (mem_univ i), update_self, others,
    ← add_sum_erase _ (fun j => (links j).weight) (mem_univ i)]
  omega

theorem apply_excess (letGo : c.LetGo) (op : ClusterOp ι) : Gives (c.apply redis op) fun c' =>
    c'.LetGo ∧ c'.excess = c.excess + if Single op c then 0 else 1 := by
  cases op with
  | link i op =>
    refine .bind fun result stepped => .map fun outsideRefcount changed => ?_
    obtain ⟨linkLetGo, weight⟩ := Link.stepsTo_apply (letGo i) _ op result stepped
    have value := count_value changed
    refine ⟨fun j => ?_, ?_⟩
    · by_cases same : j = i
      · subst same
        simpa using linkLetGo
      · simpa [update_of_ne same] using letGo j
    · cases more : (c.links i).overcounts op <;>
        simp only [excess, refcount, sum_weight_update, Single, more, value, weight,
          Bool.false_eq_true, Bool.true_eq_false, if_false, if_true] <;>
        omega
  | ownerGet => exact .of_some ⟨letGo, by simp [excess, refcount, Single]⟩
  | ownerReap =>
    by_cases inUse : c.ReservedOrInUse
    · exact .of_some (by simpa [inUse, Single] using letGo)
    · -- a chanhead is reaped at a count of 0
      have zero : c.outsideRefcount = some 0 := by
        by_contra other
        exact inUse (.inr (.inr other))
      refine .of_some ?_
      simpa [inUse, Single, excess, refcount, zero, LetGo] using letGo

theorem run_excess {ops : List (ClusterOp ι)} (reaches : run (apply redis) ops initial = some c) :
    c.excess = 0 ↔ Run.Along (apply redis) Single ops initial := by
  have measured : c.LetGo ∧ initial.excess ≤ c.excess ∧
      (c.excess = initial.excess ↔ Run.Along (apply redis) Single ops initial) :=
    run_measure (fun op _ s' letGo applied => (apply_excess letGo op s' applied).1)
      (fun op _ s' letGo applied single => by simp [(apply_excess letGo op s' applied).2, single])
      (fun op _ s' letGo applied double => by simp [(apply_excess letGo op s' applied).2, double])
      initial_letGo reaches
  rw [initial_excess] at measured
  exact measured.2.2

/-- With no alert in flight, `gc.outside_refcount` is the number of workers that point at the
    shared data if and only if every reply in the run that granted a request reached the chanhead it
    was for, and that one did not point there already. -/
theorem outside_refcount_exact_iff (redis : Bool) (ops : List (ClusterOp ι)) (c : Cluster ι)
    (reaches : run (apply redis) ops initial = some c) (quiet : c.Quiet) :
    c.refcount = c.pointing ↔ Run.Along (apply redis) Single ops initial := by
  have settled : ∑ i, (c.links i).weight = c.pointing := by
    rw [← sum_pointing]
    exact sum_congr rfl fun i _ => by simp [Link.weight, (quiet i).2]
  rw [← run_excess reaches, excess, settled]
  omega

/-- Two workers subscribe, and one lets go again. -/
def twoWorkers : List (ClusterOp Bool) :=
  [.link false (.join false 0), .link true (.join false 0), .link false (.deliverToOwner false),
    .link true (.deliverToOwner false), .link false (.deliverToWorker 0),
    .link true (.deliverToWorker 0), .link false (.deliverToOwner false),
    .link true (.deliverToOwner false), .link true (.leave false), .link true (.keepaliveTimer 0),
    .link true (.deliverToWorker 6), .link true (.deliverToOwner false),
    .link true (.deliverToWorker 6)]

theorem outside_refcount_exact_two_workers :
    ∃ c, run (apply false) twoWorkers initial = some c ∧ c.Quiet ∧ c.pointing = 1 ∧
      c.refcount = c.pointing := by
  refine ⟨_, rfl, ?quiet, rfl, (outside_refcount_exact_iff false twoWorkers _ rfl ?quiet).mpr ?single⟩
  case quiet =>
    intro i
    cases i <;> exact ⟨rfl, rfl⟩
  case single => decide

/-- A subscriber joins between the last keepalive and the news that the ipc subscriber is gone;
    the next one is turned away, but not before the owner was asked again. -/
def askedTwice : List (ClusterOp Unit) :=
  [.link () (.join false 0), .link () (.deliverToOwner false), .link () (.deliverToWorker 0),
    .link () (.deliverToOwner false), .link () (.leave false), .link () (.keepaliveTimer 0),
    .link () (.deliverToWorker 6), .link () (.join false 6), .link () (.deliverToOwner false),
    .link () (.deliverToWorker 6), .link () .turnAway, .link () (.deliverToOwner false),
    .link () (.deliverToWorker 7), .link () (.deliverToOwner false)]

/-- With Redis, a chanhead that waits for the reply is reaped when its subscriber leaves. -/
def askedAndLeft : List (ClusterOp Unit) :=
  [.link () (.join false 0), .link () (.leave false), .link () .reap,
    .link () (.deliverToOwner false), .link () (.deliverToWorker 0), .link () (.deliverToOwner false)]

theorem asked_twice_counted_twice :
    (∃ c, run (apply false) askedTwice initial = some c ∧ c.Quiet ∧ c.pointing = 1 ∧
      c.refcount = 2) ∧
    ∃ c, run (apply true) askedAndLeft initial = some c ∧ c.Quiet ∧ c.pointing = 0 ∧
      c.refcount = 1 :=
  ⟨⟨_, rfl, fun _ => ⟨rfl, rfl⟩, rfl, rfl⟩, _, rfl, fun _ => ⟨rfl, rfl⟩, rfl, rfl⟩

/-- Whatever is in flight, the count covers all workers that point at the shared data, and while
    there is one the owner keeps its chanhead. -/
theorem pointed_at_kept (redis : Bool) (ops : List (ClusterOp ι)) (c : Cluster ι)
    (reaches : run (apply redis) ops initial = some c) :
    c.pointing ≤ c.refcount ∧ ∀ i, (c.links i).worker.points = true →
      c.outsideRefcount ≠ none ∧ c.apply redis .ownerReap = some c := by
  have never : Gives (run (apply redis) ops initial) fun c => c.LetGo ∧ 0 ≤ c.excess := by
    refine run_gives (fun op s inv s' applied => ?_) ops ⟨initial_letGo, initial_excess.ge⟩
    obtain ⟨letGo, is⟩ := apply_excess inv.1 op s' applied
    exact ⟨letGo, by split at is <;> omega⟩
  have counted : c.pointing ≤ c.refcount := by
    have less := sum_le_sum (s := univ) fun i _ =>
      show (if (c.links i).worker.points then (1 : Int) else 0) ≤ (c.links i).weight by
        simp [Link.weight]
    have covered : 0 ≤ c.refcount - _ := (never c reaches).2
    rw [sum_pointing] at less
    omega
  refine ⟨counted, fun i points => ?_⟩
  have one : 0 < c.pointing := card_pos.mpr ⟨i, by simpa using points⟩
  unfold refcount at counted
  cases is : c.outsideRefcount with
  | none => grind
  | some n => simp [apply, ReservedOrInUse, is, show n ≠ 0 by grind]

theorem pointed_at_kept_asked_twice :
    ∃ c, run (apply false) askedTwice initial = some c ∧ c.apply false .ownerReap = some c :=
  ⟨_, rfl, ((pointed_at_kept false askedTwice _ rfl).2 () rfl).2⟩

end Cluster

end Nchan.Memstore.IpcSubscription
