import Nchan.Lib.Run

/-! # Deleting a channel while Redis is not ready

When a channel is deleted while the nodeset is not ready, the subscriber that the memory store has
in Redis leaves a callback, to subscribe again.  But the channel head does not know the subscriber
any more, which the callback asserts, and the callback looks at the subscriber before it asks
whether there still is one.
-/

namespace Nchan.Redis

open Nchan.Lib Option Run

/-- A memstore-redis subscriber, with its channel head and its nodeset.  Of a pointer it is known
    whether it is `NULL`. -/
structure RedisSub where
  /-- `nodeset_ready` -/
  ready : Bool := false
  reserved : Nat := 0
  enqueued : Bool := false
  alreadyDequeued : Bool := false
  awaitingDestruction : Bool := false
  dequeueAfterResponse : Bool := false
  destroyAfterDequeue : Bool := false
  freed : Bool := false
  /-- `d->chanhead` -/
  chanhead : Bool := true
  /-- `d->onconnect_callback_pd`, and what it points to -/
  onconnectCallbackPd : Bool := false
  sd : Bool := false
  /-- `chanhead->redis_sub` is this subscriber. -/
  redisSub : Bool := true
  reaped : Bool := false
  /-- `reconnect_callback` is among the `onready_callbacks` of the nodeset. -/
  waiting : Bool := false
  deleted : Bool := false
  resubscribed : Nat := 0

/-- `NGX_HTTP_GONE`, `NGX_HTTP_CLOSE`, and all others. -/
inductive DeletingStatus where
  | gone | close | other
  deriving DecidableEq

namespace RedisSub

/-- Free the subscriber, after `sub_destroy_handler`. -/
@[grind] def free (s : RedisSub) : RedisSub :=
  { s with sd := s.sd && !s.onconnectCallbackPd, freed := true }

/-- `internal_subscriber_destroy`. -/
@[grind] def destroy (s : RedisSub) : RedisSub :=
  if 0 < s.reserved then { s with awaitingDestruction := true } else s.free

/-- `internal_release`. -/
@[grind] def release (s : RedisSub) : RedisSub :=
  let s := { s with reserved := s.reserved - 1 }
  if s.awaitingDestruction ∧ s.reserved = 0 then s.free else s

/-- `internal_dequeue`. -/
@[grind] def dequeue (s : RedisSub) : RedisSub :=
  if s.alreadyDequeued then s
  else
    let s := { s with alreadyDequeued := true, enqueued := false }
    if s.destroyAfterDequeue then s.destroy else s

/-- `sub_respond_status`.  A channel head that was freed must not be used. -/
@[grind] def subRespondStatus (status : DeletingStatus) (s : RedisSub) : Option RedisSub :=
  if !s.chanhead || status = .other then some s
  else if s.reaped then none
  else
    let s := { s with destroyAfterDequeue := true, deleted := true, redisSub := false }
    if !s.ready && !s.onconnectCallbackPd then
      some { s with onconnectCallbackPd := true, sd := true, waiting := true }
    else some s

/-- `internal_respond_status`. -/
@[grind] def respondStatus (status : DeletingStatus) (s : RedisSub) : Option RedisSub :=
  let s := if status = .gone then { s with dequeueAfterResponse := true } else s
  (s.subRespondStatus status).map fun s => if s.dequeueAfterResponse then s.dequeue else s

/-- `reconnect_callback`, which fails where it uses what is not there, and at its asserts. -/
@[grind] def reconnectCallback (s : RedisSub) : Option RedisSub :=
  if !s.sd then none
  else if !s.chanhead || !s.ready then some s
  else if s.reaped || !s.redisSub then none
  else
    some { s with
      resubscribed := s.resubscribed + 1, onconnectCallbackPd := false
      dequeueAfterResponse := false, alreadyDequeued := false }

/-- Run `reconnect_callback` if it is among the `onready_callbacks`, and remove it. -/
@[grind] def runCallbacks (s : RedisSub) : Option RedisSub :=
  if s.waiting then s.reconnectCallback.map ({ · with waiting := false }) else some s

/-- `memstore_reap_chanhead`, for `redis_sub`. -/
@[grind] def reap (s : RedisSub) : RedisSub :=
  let s := if s.redisSub && s.enqueued then s.dequeue else s
  if s.redisSub then destroy { s with chanhead := false, redisSub := false, reaped := true }
  else { s with reaped := true }

inductive Op where
  | status (code : DeletingStatus)
  | enqueue | dequeue | reserve | release
  /-- The nodeset becomes ready, or it is not any more. -/
  | ready | unready
  /-- The wait for the nodeset expires, or is given up. -/
  | expire
  | reap

/-- A subscriber that was freed is not called, and a channel head is reaped once. -/
@[grind] def Op.step : Op → RedisSub → Option RedisSub
  | .status code, s => if s.freed then none else s.respondStatus code
  | .enqueue, s => if s.freed then none else some { s with enqueued := true }
  | .dequeue, s => if s.freed then none else some s.dequeue
  | .reserve, s => if s.freed then none else some { s with reserved := s.reserved + 1 }
  | .release, s => if s.freed ∨ s.reserved = 0 then none else some s.release
  | .ready, s => runCallbacks { s with ready := true }
  | .unready, s => some { s with ready := false }
  | .expire, s => s.runCallbacks
  | .reap, s => if s.reaped then none else some s.reap

/-! ## What the callback finds -/

/-- While the callback waits, the channel is deleted and the channel head has let go of the
    subscriber. -/
@[grind] structure LetGo (s : RedisSub) : Prop where
  never : s.resubscribed = 0
  waits : s.waiting = true → s.ready = false ∧ s.chanhead = true ∧ s.deleted = true ∧
    s.redisSub = false ∧ s.onconnectCallbackPd = true ∧ s.sd = !s.freed

variable {s : RedisSub}

theorem LetGo.dequeue (letGo : LetGo s) : LetGo s.dequeue := by grind

theorem LetGo.step (letGo : LetGo s) (op : Op) : Gives (op.step s) LetGo := by
  intro s' stepped
  cases op with
  | status code =>
    obtain ⟨alive, responded⟩ := ite_none_left_eq_some.mp stepped
    obtain ⟨t, responded, rfl⟩ := map_eq_some_iff.mp responded
    have letGo : LetGo t := by cases code <;> grind
    split
    · exact letGo.dequeue
    · exact letGo
  | reap =>
    obtain ⟨-, reaped⟩ := ite_none_left_eq_some.mp stepped
    obtain rfl := Option.some.inj reaped
    cases known : s.redisSub with
    | false => grind
    | true =>
      constructor <;> grind
  | _ => grind

/-- Where the callback waits, the channel is deleted and nothing was subscribed again.  The worker
    does not survive that the nodeset becomes ready, and that the wait expires if and only if the
    subscriber is still there. -/
theorem reconnect_callback_survives_iff {ops : List Op}
    (reaches : run Op.step ops {} = some s) (waits : s.waiting = true) :
    s.deleted = true ∧ s.resubscribed = 0 ∧ Op.ready.step s = none ∧
      (Op.expire.step s ≠ none ↔ s.freed = false) := by
  have letGo : LetGo s := run_gives (fun op _ letGo => letGo.step op) ops ⟨rfl, nofun⟩ s reaches
  obtain ⟨unready, there, deleted, unknown, -, sd⟩ := letGo.waits waits
  refine ⟨deleted, letGo.never, ?_, ?_⟩
  · simp [Op.step, runCallbacks, reconnectCallback, waits, there, unknown]
  · simp [Op.step, runCallbacks, reconnectCallback, waits, unready, sd]

/-- The channel is closed, and Redis does not come back in time. -/
theorem reconnect_callback_survives_close : ∃ s,
    run Op.step [.enqueue, .status .close] {} = some s ∧ s.waiting = true ∧
      s.deleted = true ∧ Op.expire.step s ≠ none := by
  have survives := @reconnect_callback_survives_iff _ [.enqueue, .status .close] rfl rfl
  exact ⟨_, rfl, rfl, rfl, survives.2.2.2.mpr rfl⟩

/-- A deleted channel has no subscriber any more when the wait expires. -/
theorem reconnect_callback_crashes :
    (run Op.step [.enqueue, .status .gone] {}).isSome = true ∧
      run Op.step [.enqueue, .status .gone, .expire] {} = none :=
  ⟨rfl, rfl⟩

end RedisSub

end Nchan.Redis
