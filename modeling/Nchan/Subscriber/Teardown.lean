import Nchan.Subscriber.Session

/-! # Tearing down, answering and enqueueing a subscriber

The functions that answer a subscriber or tear it down are made of the same few parts.  A relation
that holds across these holds across the functions.

None of them calls the store or makes a subrequest that could.  They are `Tame`, so that what
depends on a session's log or on its other subrequests need not look into them.
-/

namespace Nchan.Subscriber

open Nchan.Lib Session

structure Stays (s s' : Session) : Prop where
  log : s'.log = s.log
  call : s'.call = s.call
  machine : s'.upstreamRequestmachine = s.upstreamRequestmachine
  enqueued : s'.enqueued = s.enqueued
  alive : s'.alive = s.alive
  freed : s'.freed = s.freed
  awaitingDestruction : s'.awaitingDestruction = s.awaitingDestruction
  ctxSub : s'.ctxSub = s.ctxSub
  sentUnsubscribeRequest : s'.sentUnsubscribeRequest = s.sentUnsubscribeRequest

variable {cf : Location} {type : SubscriberType} {s s' s'' : Session} {code : Nat} {line : Bool}

theorem Stays.sets {reserved publishing : Nat} {finalizeRequest shookHands holding gathered
    sentCloseFrame closingTimer cln abortHandler finalized requestFreed : Bool} :
    Stays s { s with
      reserved := reserved, finalizeRequest := finalizeRequest, shookHands := shookHands
      holding := holding, gathered := gathered, sentCloseFrame := sentCloseFrame
      closingTimer := closingTimer, cln := cln, abortHandler := abortHandler
      finalized := finalized, requestFreed := requestFreed, publishing := publishing } :=
  ⟨rfl, rfl, rfl, rfl, rfl, rfl, rfl, rfl, rfl⟩

theorem Stays.refl (s : Session) : Stays s s := .sets

theorem longpollDequeue_ctxSub :
    Gives (s.longpollDequeue cf type) fun s' => s'.ctxSub = false :=
  .ite (fun _ => .of_some rfl) fun _ => .ite (fun _ => .of_none) fun _ => .of_some rfl

/-! ## What the functions are made of -/

structure TearsDown (R : Session → Session → Prop) : Prop where
  trans : ∀ {s s' s''}, R s s' → R s' s'' → R s s''
  stays : ∀ {s s'}, Stays s s' → R s s'
  dies : ∀ {s finalizeRequest abortHandler finalized requestFreed}, R s { s with
    alive := false, finalizeRequest := finalizeRequest, abortHandler := abortHandler
    finalized := finalized, requestFreed := requestFreed }
  announces : ∀ {s} cf type, R s (s.announceLeaving cf type)
  leaves : ∀ {s finalized alive}, (s.alive = false → alive = false) → Gives
    { s with enqueued := false, ctxSub := false, finalized := finalized
             alive := alive }.longpollSubscriberDestroy (R s)
  lies : ∀ {s sent}, s.ctxSub = false →
    R s { s with sentUnsubscribeRequest := sent, finalized := true }
  unlists : ∀ {s sentCloseFrame}, R s { s with
    enqueued := false, sentCloseFrame := sentCloseFrame, closingTimer := false }
  destroys : ∀ {s}, R s s.websocketSubscriberDestroy
  shutDown : ∀ {s}, R s s.shutDown

namespace TearsDown

variable {R : Session → Session → Prop} (is : TearsDown R)

include is

theorem refl (s : Session) : R s s := is.stays (.refl s)

theorem longpollDequeue : Gives (s.longpollDequeue cf type) (R s) :=
  (is.leaves (by simp +contextual)).mono fun _ => is.trans (is.announces cf type)

theorem websocketDequeue : R s s.websocketDequeue := is.trans is.unlists is.destroys

theorem dequeue : Gives (s.dequeue cf type) (R s) := by
  unfold Session.dequeue
  split
  · exact .of_some is.websocketDequeue
  · exact is.longpollDequeue

theorem websocketFinalizeRequest : R s (s.websocketFinalizeRequest cf) := by
  have disarmed : R s s.disarm := is.stays .sets
  have down := is.trans disarmed (is.trans (is.announces cf .websocket) is.shutDown)
  unfold Session.websocketFinalizeRequest
  dsimp only
  split
  · exact is.trans down is.websocketDequeue
  · exact down

theorem websocketSendCloseFrame : R s (s.websocketSendCloseFrame cf) := by
  unfold Session.websocketSendCloseFrame
  split
  · exact is.websocketFinalizeRequest
  · exact is.stays .sets

theorem websocketReadingFinalize : R s (s.websocketReadingFinalize cf) := by
  have stopped : R s { s with closingTimer := false } := is.stays .sets
  unfold Session.websocketReadingFinalize
  split
  · exact is.trans stopped is.websocketFinalizeRequest
  · exact is.refl s

theorem respondAndDequeue : Gives (s.respondAndDequeue cf type) (R s) :=
  is.longpollDequeue.mono fun _ => is.trans (is.stays .sets)

theorem longpollRespondStatus : Gives (s.longpollRespondStatus cf type code line) (R s) :=
  .ite (fun _ => is.respondAndDequeue) fun _ => .ite
    (fun _ => .ite (fun _ => is.respondAndDequeue) fun _ => .of_some (is.refl s))
    fun _ => is.respondAndDequeue

theorem unqueuedStatus : Gives (s.subscriberRespondUnqueuedStatus cf type) (R s) := by
  refine .map fun t dequeued => ?_
  have left : R s t := is.trans is.dies (is.longpollDequeue t dequeued)
  exact is.trans left (is.lies (longpollDequeue_ctxSub t dequeued))

theorem streamRespondStatus : Gives (s.streamRespondStatus cf type code line) (R s) :=
  .ite (fun _ => .of_some (is.refl s)) fun _ => .ite (fun _ => is.unqueuedStatus) fun _ =>
    .ite (fun _ => is.longpollDequeue.mono fun _ => is.trans (is.stays .sets))
      fun _ => .of_some (is.stays .sets)

theorem websocketRespondStatus : Gives (s.websocketRespondStatus cf code line) (R s) :=
  .ite (fun _ => .of_some (is.refl s)) fun _ => .ite (fun _ => .of_some (is.stays .sets)) fun _ =>
    .guard fun _ => .of_some is.websocketSendCloseFrame

theorem respondStatus : Gives (s.respondStatus cf type code line) (R s) := by
  unfold Session.respondStatus
  split
  · exact is.longpollRespondStatus
  · exact is.longpollRespondStatus
  · exact is.websocketRespondStatus
  · exact is.streamRespondStatus

theorem requestCleanup : Gives (s.requestCleanup cf type) (R s) := by
  refine .ite (fun _ => .of_some (is.stays .sets)) fun _ => .ite (fun _ => .of_none) fun _ => ?_
  split
  · exact .of_some (is.trans (is.stays .sets) is.websocketDequeue)
  · exact is.longpollDequeue.mono fun _ => is.trans is.dies

end TearsDown

theorem release_cases {nodestroy : Bool} : Gives (s.release type nodestroy) fun (s', aborted) =>
    aborted = false ∧ s' = { s with reserved := s.reserved - 1 } ∨
      nodestroy = false ∧ s.awaitingDestruction = true ∧ aborted = true ∧
        { s with reserved := s.reserved - 1 }.destroy type = some s' := by
  refine .ite (fun _ => .of_none) fun _ => .ite (fun awaits => .map fun t destroyed => ?_)
    fun _ => .of_some (.inl ⟨rfl, rfl⟩)
  simp only [Bool.and_eq_true, Bool.not_eq_true'] at awaits
  exact .inr ⟨awaits.1.1, awaits.1.2, rfl, destroyed⟩

/-! ## Functions that are tame -/

/-- What the functions have in common that neither call the store nor ask for more than an
    unsubscribe request. -/
structure Tame (s s' : Session) : Prop where
  log : s'.log = s.log
  call : s'.call = s.call
  outstanding : ∀ p, p ≠ .unsubscribe →
    s'.upstreamRequestmachine.outstanding p ≤ s.upstreamRequestmachine.outstanding p

namespace Tame

theorem flags (log : s'.log = s.log) (call : s'.call = s.call)
    (machine : s'.upstreamRequestmachine = s.upstreamRequestmachine) : Tame s s' :=
  ⟨log, call, fun _ _ => machine ▸ Nat.le_refl _⟩

theorem trans (first : Tame s s') (second : Tame s' s'') : Tame s s'' where
  log := second.log.trans first.log
  call := second.call.trans first.call
  outstanding p other := Nat.le_trans (second.outstanding p other) (first.outstanding p other)

theorem after_flags {t : Session} (tame : Tame t s') (log : t.log = s.log) (call : t.call = s.call)
    (machine : t.upstreamRequestmachine = s.upstreamRequestmachine) : Tame s s' :=
  (flags log call machine).trans tame

theorem then_flags {t : Session} (tame : Tame s t) (log : s'.log = t.log) (call : s'.call = t.call)
    (machine : s'.upstreamRequestmachine = t.upstreamRequestmachine) : Tame s s' :=
  tame.trans (flags log call machine)

theorem cleanup (s : Session) : Tame s s.nchanSubscriberSubrequestCleanup :=
  ⟨rfl, rfl, fun p _ => Sequential.outstanding_abort_le p _⟩

theorem announceLeaving : Tame s (s.announceLeaving cf type) := by
  unfold Session.announceLeaving nchanSubscriberUnsubscribeRequest
  split
  · split
    · exact flags rfl rfl rfl
    · split
      · exact flags rfl rfl rfl
      · refine ⟨rfl, rfl, fun p other => ?_⟩
        rw [nchanSubscriberSubrequest, Sequential.outstanding_request, if_neg other.symm]
        exact Nat.le_refl _
  · exact flags rfl rfl rfl

theorem longpollDestroy : Gives s.longpollSubscriberDestroy (Tame s) :=
  .ite (fun _ => .of_some (flags rfl rfl rfl)) fun _ => .ite (fun _ => .of_none) fun _ =>
    .of_some ((cleanup s).then_flags rfl rfl rfl)

theorem websocketDestroy : Tame s s.websocketSubscriberDestroy := by
  unfold websocketSubscriberDestroy
  dsimp only
  split
  · exact flags rfl rfl rfl
  · exact (cleanup s).then_flags rfl rfl rfl

theorem made : TearsDown Tame where
  trans := trans
  stays same := flags same.log same.call same.machine
  dies := flags rfl rfl rfl
  announces _ _ := announceLeaving
  leaves _ := longpollDestroy.mono fun _ tame => tame.after_flags rfl rfl rfl
  lies _ := flags rfl rfl rfl
  unlists := flags rfl rfl rfl
  destroys := websocketDestroy
  shutDown := (cleanup _).then_flags rfl rfl rfl

theorem destroy : Gives (s.destroy type) (Tame s) := by
  unfold Session.destroy
  split
  · exact .of_some websocketDestroy
  · exact longpollDestroy

theorem release {nodestroy : Bool} : Gives (s.release type nodestroy) fun (s', _) => Tame s s' := by
  refine release_cases.mono fun (s', aborted) cases_ => ?_
  rcases cases_ with ⟨-, rfl⟩ | ⟨-, -, -, destroyed⟩
  · exact flags rfl rfl rfl
  · exact (destroy s' destroyed).after_flags rfl rfl rfl

theorem ensureHandshake (succeeds : Bool) (s : Session) : Tame s (s.ensureHandshake succeeds) := by
  unfold Session.ensureHandshake
  split
  · exact made.refl s
  · split <;> exact flags rfl rfl rfl

theorem respondMessage {proceeds : Bool} : Gives (s.respondMessage cf type proceeds) (Tame s) := by
  unfold Session.respondMessage
  split
  case h_1 | h_2 =>
    exact .ite (fun _ => .of_some (flags rfl rfl rfl)) fun _ => made.respondAndDequeue
  case h_3 => exact .of_some (ensureHandshake proceeds s)
  all_goals exact .of_some (flags rfl rfl rfl)

theorem websocketEnqueue (handshake : Bool) (s : Session) :
    Tame s (s.websocketEnqueue handshake) :=
  (ensureHandshake handshake s).then_flags rfl rfl rfl

theorem enqueue {handshake : Bool} : Gives (s.enqueue type handshake) (Tame s) := by
  unfold Session.enqueue
  split
  · exact .of_some (websocketEnqueue handshake s)
  · refine .ite (fun _ => .of_none) fun _ => ?_
    split <;> exact .of_some (flags rfl rfl rfl)

theorem publishCallback {status : Session.PublishStatus} :
    Gives (s.websocketPublishCallback cf status) (Tame s) := by
  refine .seq release fun (t, aborted) released => ?_
  have answers (code : Nat) : Gives (t.websocketRespondStatus cf code false) (Tame s) :=
    made.websocketRespondStatus.mono fun _ => released.trans
  refine .ite (fun _ => .of_some released) fun _ => ?_
  cases status with
  | accepted | other => exact .of_some released
  | insufficientStorage => exact answers 507
  | internalServerError => exact answers 500

end Tame

end Nchan.Subscriber
