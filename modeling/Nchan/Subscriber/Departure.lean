import Nchan.Subscriber.Teardown

/-! # Teardown and departure

What the functions that tear a subscriber down do to its upstream requests.  A subscriber that is
not enqueued is torn down without a request.  One that is enqueued, and has nothing running
upstream, has its unsubscribe request started at once.
-/

namespace Nchan.Subscriber

open Nchan.Lib Session Bool

namespace Session

abbrev started (s : Session) : List Purpose := s.upstreamRequestmachine.started

def Torn (s : Session) : Prop :=
  s.freed = true ∨ s.awaitingDestruction = true ∨ s.alive = false

def statusEnds (type : SubscriberType) (code : Nat) (line : Bool) (s : Session) : Bool :=
  !ignored code line &&
    match type with
    | .websocket => s.shookHands && s.sentCloseFrame
    | .longpoll | .intervalpoll => true
    | _ => (!s.shookHands && 400 ≤ code && code < 600) || endsStream type code

end Session

open Session (statusEnds)

/-- A living subscriber that its request still knows has not been torn down. -/
def Intact (s : Session) : Prop :=
  s.ctxSub = true → s.alive = true →
    s.freed = false ∧ s.awaitingDestruction = false ∧ s.sentUnsubscribeRequest = false

/-! ## Functions that announce nothing -/

/-- A function that makes no subrequest, and may tear down. -/
structure Sheds (s s' : Session) : Prop extends Tame s s' where
  started : s'.started = s.started
  waiting : ∀ q, s'.upstreamRequestmachine.waiting.count q ≤ s.upstreamRequestmachine.waiting.count q
  enqueued : s'.enqueued = true → s.enqueued = true
  ctxSub : s'.ctxSub = true → s.ctxSub = true
  intact : Intact s → Intact s'
  torn : s.Torn → s'.Torn

variable {s s' s'' : Session}

theorem Stays.intact (stays : Stays s s') (intact : Intact s) : Intact s' := by
  unfold Intact
  rw [stays.ctxSub, stays.alive, stays.freed, stays.awaitingDestruction,
    stays.sentUnsubscribeRequest]
  exact intact

theorem Stays.sheds (stays : Stays s s') : Sheds s s' where
  toTame := .flags stays.log stays.call stays.machine
  started := congrArg Sequential.started stays.machine
  waiting q := stays.machine ▸ Nat.le_refl _
  enqueued := stays.enqueued ▸ id
  ctxSub := stays.ctxSub ▸ id
  intact := stays.intact
  torn := by
    unfold Session.Torn
    rw [stays.freed, stays.awaitingDestruction, stays.alive]
    exact id

theorem Sheds.trans (first : Sheds s s') (second : Sheds s' s'') : Sheds s s'' where
  toTame := first.toTame.trans second.toTame
  started := second.started.trans first.started
  waiting q := Nat.le_trans (second.waiting q) (first.waiting q)
  enqueued := first.enqueued ∘ second.enqueued
  ctxSub := first.ctxSub ∘ second.ctxSub
  intact := second.intact ∘ first.intact
  torn := second.torn ∘ first.torn

variable {code : Nat} {line : Bool}

namespace Sheds

variable {cf : Location} {type : SubscriberType} {s s' : Session}

theorem refl (s : Session) : Sheds s s := (Stays.refl s).sheds

theorem abort (s : Session) (toTame : Tame s s')
    (machine : s'.upstreamRequestmachine = s.upstreamRequestmachine.abort)
    (enqueued : s'.enqueued = true → s.enqueued = true)
    (ctxSub : s'.ctxSub = true → s.ctxSub = true) (intact : Intact s → Intact s')
    (torn : s'.Torn) : Sheds s s' where
  toTame := toTame
  started := by simp [Session.started, machine]
  waiting q := by simp [machine]
  enqueued := enqueued
  ctxSub := ctxSub
  intact := intact
  torn _ := torn

theorem longpollDestroy (lost : Intact s → s.ctxSub = true → s.alive = false) :
    Gives s.longpollSubscriberDestroy (Sheds s) := by
  refine .ite (fun reserved => .of_some ?_) fun _ => .ite (fun _ => .of_none) fun dead =>
    .of_some (abort s ((Tame.cleanup s).then_flags rfl rfl rfl) rfl id id
      (fun _ _ alive => absurd alive dead) (.inl rfl))
  refine ⟨.flags rfl rfl rfl, rfl, fun _ => Nat.le_refl _, id, id, fun intact known alive => ?_,
    fun _ => .inr (.inl rfl)⟩
  simp [lost intact known] at alive

theorem websocketDestroy (s : Session) : Sheds s s.websocketSubscriberDestroy := by
  have tame : Tame s s.websocketSubscriberDestroy := .websocketDestroy
  unfold websocketSubscriberDestroy at tame ⊢
  dsimp only at tame ⊢
  split at tame
  · rename_i positive
    rw [if_pos positive]
    refine ⟨tame, rfl, fun _ => Nat.le_refl _, id, fun known => (and_eq_true_iff.mp known).1,
      fun _ _ alive => ?_, fun _ => .inr (.inl rfl)⟩
    cases alive
  · rename_i none
    rw [if_neg none]
    refine .abort s tame rfl id (fun known => (and_eq_true_iff.mp known).1)
      (fun intact known alive => ?_) (.inl rfl)
    obtain ⟨isSub, awaiting⟩ := and_eq_true_iff.mp known
    simp [(intact isSub alive).2.1] at awaiting

theorem release {nodestroy : Bool} : Gives (s.release type nodestroy) fun (s', _) =>
    Sheds s s' := by
  refine release_cases.mono fun (s', aborted) releases => ?_
  have less : Stays s { s with reserved := s.reserved - 1 } := .sets
  rcases releases with ⟨-, rfl⟩ | ⟨-, awaits, -, destroyed⟩
  · exact less.sheds
  · refine less.sheds.trans ?_
    unfold destroy at destroyed
    split at destroyed
    · exact Option.some.inj destroyed ▸ websocketDestroy _
    · refine longpollDestroy (fun intact known => ?_) s' destroyed
      cases alive : s.alive with
      | false => rfl
      | true => simpa [awaits] using (intact known alive).2.1

theorem unlists {sent : Bool} :
    Sheds s { s with enqueued := false, sentCloseFrame := sent, closingTimer := false } :=
  ⟨.flags rfl rfl rfl, rfl, fun _ => Nat.le_refl _, by simp, id, id, id⟩

theorem websocketDequeue (s : Session) : Sheds s s.websocketDequeue :=
  unlists.trans (websocketDestroy _)

theorem lie {sent finalized : Bool} (unknown : s.ctxSub = false) :
    Sheds s { s with sentUnsubscribeRequest := sent, finalized := finalized } :=
  ⟨.flags rfl rfl rfl, rfl, fun _ => Nat.le_refl _, id, id, by simp [Intact, unknown], id⟩

theorem absent (sheds : Sheds s s') (absent : s.enqueued = false) : s'.enqueued = false := by
  cases enqueued : s'.enqueued with
  | false => rfl
  | true => simp [sheds.enqueued enqueued] at absent

theorem made : TearsDown fun s s' => s.enqueued = false → Sheds s s' where
  trans first second absent := (first absent).trans (second ((first absent).absent absent))
  stays same _ := same.sheds
  dies _ := ⟨.flags rfl rfl rfl, rfl, fun _ => Nat.le_refl _, id, id, by simp [Intact],
    fun _ => .inr (.inr rfl)⟩
  announces {s} cf type absent := by
    have same : s.announceLeaving cf type = s := by simp [announceLeaving, absent]
    rw [same]
    exact refl s
  leaves {s finalized alive} stays := by
    have flagged : Sheds s { s with
        enqueued := false, ctxSub := false, finalized := finalized, alive := alive } := by
      refine ⟨.flags rfl rfl rfl, rfl, fun _ => Nat.le_refl _, by simp, by simp, by simp [Intact],
        ?_⟩
      exact Or.imp_right (Or.imp_right stays)
    exact (longpollDestroy fun _ known => by cases known).mono fun _ sheds _ => flagged.trans sheds
  lies unknown _ := lie unknown
  unlists _ := unlists
  destroys _ := websocketDestroy _
  shutDown {s} _ := .abort s Tame.made.shutDown rfl id id (fun _ _ alive => by cases alive)
    (.inr (.inr rfl))

end Sheds

/-! ## Functions that report a departure -/

/-- A subscriber whose departure can be reported at once. -/
structure Leaving (cf : Location) (s : Session) : Prop where
  url : cf.unsubscribeRequestUrl = true
  enqueued : s.enqueued = true
  empty : s.upstreamRequestmachine.queue = []
  idle : s.upstreamRequestmachine.completing = false
  unsent : s.sentUnsubscribeRequest = false

/-- A function that starts the unsubscribe request. -/
structure Departs (s s' : Session) : Prop extends Tame s s' where
  started : s'.started = s.started ++ [.unsubscribe]
  waiting : s'.upstreamRequestmachine.waiting = []
  enqueued : s'.enqueued = false
  intact : Intact s'
  torn : s'.Torn

variable {cf : Location}

theorem Leaving.flags (leaving : Leaving cf s) (enqueued : s'.enqueued = s.enqueued)
    (machine : s'.upstreamRequestmachine = s.upstreamRequestmachine)
    (sent : s'.sentUnsubscribeRequest = s.sentUnsubscribeRequest) : Leaving cf s' where
  url := leaving.url
  enqueued := enqueued.trans leaving.enqueued
  empty := machine ▸ leaving.empty
  idle := machine ▸ leaving.idle
  unsent := sent.trans leaving.unsent

theorem Departs.after_flags {t : Session} (departs : Departs t s') (log : t.log = s.log)
    (call : t.call = s.call) (machine : t.upstreamRequestmachine = s.upstreamRequestmachine) :
    Departs s s' :=
  { departs with
    toTame := departs.toTame.after_flags log call machine
    started := departs.started.trans (congrArg (·.started ++ _) machine) }

theorem Leaving.stays (leaving : Leaving cf s) (stays : Stays s s') : Leaving cf s' :=
  leaving.flags stays.enqueued stays.machine stays.sentUnsubscribeRequest

theorem Stays.departs (stays : Stays s s') (departs : Departs s' s'') :
    Departs s s'' := departs.after_flags stays.log stays.call stays.machine

theorem Departs.sheds (departs : Departs s s') (sheds : Sheds s' s'') : Departs s s'' where
  toTame := departs.toTame.trans sheds.toTame
  started := sheds.started.trans departs.started
  waiting := List.eq_nil_iff_forall_not_mem.mpr fun q mem => by
    have := sheds.waiting q
    rw [departs.waiting, List.count_nil, Nat.le_zero, List.count_eq_zero] at this
    exact this mem
  enqueued := by
    cases enqueued : s''.enqueued with
    | false => rfl
    | true => exact absurd (sheds.enqueued enqueued) (by simp [departs.enqueued])
  intact := sheds.intact departs.intact
  torn := sheds.torn departs.torn

theorem Leaving.announce (leaving : Leaving cf s) (type : SubscriberType)
    (enabled : type.enableSubUnsubCallbacks = true) :
    s.announceLeaving cf type =
      { s with
        sentUnsubscribeRequest := true
        upstreamRequestmachine :=
          { s.upstreamRequestmachine with
            queue := [.unsubscribe]
            started := s.started ++ [.unsubscribe] } } := by
  simp [announceLeaving, nchanSubscriberUnsubscribeRequest, nchanSubscriberSubrequest,
    leaving.url, leaving.enqueued, leaving.unsent, enabled,
    Sequential.request_of_idle leaving.empty leaving.idle]

variable {type : SubscriberType}

theorem Leaving.longpollDequeue (leaving : Leaving cf s)
    (enabled : type.enableSubUnsubCallbacks = true) :
    Gives (s.longpollDequeue cf type) (Departs s) := by
  intro s' dequeued
  have tame := Tame.made.longpollDequeue s' dequeued
  unfold Session.longpollDequeue at dequeued
  rw [leaving.announce type enabled] at dequeued
  dsimp only at dequeued
  unfold longpollSubscriberDestroy at dequeued
  split at dequeued
  · cases dequeued
    refine ⟨tame, rfl, ?_, rfl, by simp [Intact], .inr (.inl rfl)⟩
    simp [Sequential.waiting, leaving.idle]
  · split at dequeued
    · cases dequeued
    · cases dequeued
      exact ⟨tame, rfl, rfl, rfl, by simp [Intact, nchanSubscriberSubrequestCleanup], .inl rfl⟩

theorem Leaving.flaggedDequeue {t : Session} (leaving : Leaving cf s)
    (enabled : type.enableSubUnsubCallbacks = true) (log : t.log = s.log) (call : t.call = s.call)
    (machine : t.upstreamRequestmachine = s.upstreamRequestmachine)
    (enqueued : t.enqueued = s.enqueued)
    (sent : t.sentUnsubscribeRequest = s.sentUnsubscribeRequest) :
    Gives (t.longpollDequeue cf type) (Departs s) :=
  ((leaving.flags enqueued machine sent).longpollDequeue enabled).mono fun _ departs =>
    departs.after_flags log call machine

theorem websocketDequeue_enqueued (s : Session) : s.websocketDequeue.enqueued = false := by
  unfold websocketDequeue websocketSubscriberDestroy
  dsimp only
  split <;> rfl

theorem Leaving.websocketFinalizeRequest (leaving : Leaving cf s) :
    Departs s (s.websocketFinalizeRequest cf) := by
  have tame : Tame s (s.websocketFinalizeRequest cf) := Tame.made.websocketFinalizeRequest
  have disarmed : Stays s s.disarm := .sets
  have announce := (leaving.stays disarmed).announce .websocket rfl
  have enqueued : (s.disarm.announceLeaving cf .websocket).shutDown.enqueued = true := by
    rw [announce]
    exact leaving.enqueued
  have started : (s.disarm.announceLeaving cf .websocket).shutDown.started =
      s.started ++ [.unsubscribe] := by
    rw [announce]
    rfl
  have same : s.websocketFinalizeRequest cf =
      (s.disarm.announceLeaving cf .websocket).shutDown.websocketDequeue := if_pos enqueued
  rw [same] at tame ⊢
  have gone := Sheds.websocketDequeue (s.disarm.announceLeaving cf .websocket).shutDown
  refine ⟨tame, gone.started.trans started, ?_, websocketDequeue_enqueued _, ?_, ?_⟩
  · exact List.eq_nil_iff_forall_not_mem.mpr fun q mem =>
      absurd (List.count_pos_iff.mpr mem) (Nat.not_lt.mpr (gone.waiting q))
  · exact gone.intact fun _ alive => by cases alive
  · exact gone.torn (.inr (.inr rfl))

theorem Leaving.websocketSendCloseFrame (leaving : Leaving cf s) (sent : s.sentCloseFrame = true) :
    Departs s (s.websocketSendCloseFrame cf) := by
  rw [Session.websocketSendCloseFrame, if_pos sent]
  exact leaving.websocketFinalizeRequest

theorem Leaving.websocketReadingFinalize (leaving : Leaving cf s) (known : s.ctxSub = true) :
    Departs s (s.websocketReadingFinalize cf) := by
  have stopped : Stays s { s with closingTimer := false } := .sets
  rw [Session.websocketReadingFinalize, if_pos known]
  exact stopped.departs (leaving.stays stopped).websocketFinalizeRequest

theorem Stays.websocketSendCloseFrame (unsent : s.sentCloseFrame = false) :
    Stays s (s.websocketSendCloseFrame cf) := by
  rw [Session.websocketSendCloseFrame, if_neg (by simp [unsent])]
  exact .sets

theorem Leaving.closes (leaving : Leaving cf s) (known : s.ctxSub = true) :
    Departs s ((s.websocketSendCloseFrame cf).websocketReadingFinalize cf) := by
  cases sent : s.sentCloseFrame with
  | true =>
    have departs := leaving.websocketSendCloseFrame sent
    exact departs.sheds (Sheds.made.websocketReadingFinalize departs.enqueued)
  | false =>
    have stays : Stays s (s.websocketSendCloseFrame cf) := .websocketSendCloseFrame sent
    exact stays.departs ((leaving.stays stays).websocketReadingFinalize (stays.ctxSub.trans known))

/-! ### Responses -/

theorem Stays.websocketRespondStatus
    (harmless : (!ignored code line && (s.shookHands && s.sentCloseFrame)) = false) :
    Gives (s.websocketRespondStatus cf code line) (Stays s) :=
  .ite (fun _ => .of_some (refl s)) fun _ => .ite (fun _ => .of_some .sets) fun _ =>
    .guard fun _ => .of_some (websocketSendCloseFrame (by simp_all))

theorem Leaving.websocketRespondStatus (leaving : Leaving cf s)
    (ends : (!ignored code line && (s.shookHands && s.sentCloseFrame)) = true) :
    Gives (s.websocketRespondStatus cf code line) (Departs s) := by
  simp only [and_eq_true, not_eq_true'] at ends
  obtain ⟨heeded, shook, sent⟩ := ends
  unfold Session.websocketRespondStatus
  rw [if_neg (by simp [heeded]), if_neg (by simp [shook])]
  exact .guard fun _ => .of_some (leaving.websocketSendCloseFrame sent)

section

variable (enabled : type.enableSubUnsubCallbacks = true)

include enabled

theorem respondStatus_enabled :
    s.respondStatus cf type code line =
      if type = .websocket then s.websocketRespondStatus cf code line
      else s.streamRespondStatus cf type code line := by
  cases type <;> first | rfl | cases enabled

theorem statusEnds_enabled :
    s.statusEnds type code line = (!ignored code line &&
      if type = .websocket then s.shookHands && s.sentCloseFrame
      else (!s.shookHands && 400 ≤ code && code < 600) || endsStream type code) := by
  cases type <;> first | rfl | cases enabled

theorem Stays.respondStatus
    (harmless : s.statusEnds type code line = false) :
    Gives (s.respondStatus cf type code line) (Stays s) := by
  rw [statusEnds_enabled enabled] at harmless
  rw [respondStatus_enabled enabled]
  refine .ite (fun websocket => ?_) fun stream => ?_
  · rw [if_pos websocket] at harmless
    exact websocketRespondStatus harmless
  · rw [if_neg stream] at harmless
    refine .ite (fun _ => .of_some (refl s)) fun heeded => ?_
    simp only [heeded, Bool.not_false, Bool.true_and, or_eq_false_iff] at harmless
    rw [if_neg (by simp [harmless.1]), if_neg (by simp [harmless.2])]
    exact .of_some .sets

end

variable (enabled : type.enableSubUnsubCallbacks = true)

include enabled

theorem Leaving.unqueuedStatus (leaving : Leaving cf s) :
    Gives (s.subscriberRespondUnqueuedStatus cf type) (Departs s) := by
  refine .map fun t dequeued => ?_
  have left : Departs s t := by
    refine leaving.flaggedDequeue enabled ?_ ?_ ?_ ?_ ?_ t dequeued <;> rfl
  exact left.sheds (.lie (longpollDequeue_ctxSub t dequeued))

theorem Leaving.respondStatus (leaving : Leaving cf s) (ends : s.statusEnds type code line = true) :
    Gives (s.respondStatus cf type code line) (Departs s) := by
  rw [statusEnds_enabled enabled] at ends
  rw [respondStatus_enabled enabled]
  refine .ite (fun websocket => ?_) fun stream => ?_
  · rw [if_pos websocket] at ends
    exact leaving.websocketRespondStatus ends
  · rw [if_neg stream] at ends
    obtain ⟨heeded, ends⟩ := and_eq_true_iff.mp ends
    unfold streamRespondStatus
    rw [if_neg (by simpa using heeded)]
    refine .ite (fun _ => leaving.unqueuedStatus enabled) fun queued => ?_
    have ends : endsStream type code = true := by
      rcases or_eq_true_iff.mp ends with unqueued | ends
      · exact absurd unqueued queued
      · exact ends
    rw [if_pos ends]
    exact leaving.flaggedDequeue enabled rfl rfl rfl rfl rfl

theorem Leaving.requestCleanup (leaving : Leaving cf s) (stream : type ≠ .websocket)
    (armed : s.abortHandler = true) : Gives (s.requestCleanup cf type) (Departs s) := by
  unfold Session.requestCleanup
  rw [if_neg (by simp [armed])]
  refine .ite (fun _ => .of_none) fun _ => ?_
  split
  · exact absurd rfl stream
  · exact leaving.flaggedDequeue enabled rfl rfl rfl rfl rfl

theorem Leaving.dequeue (leaving : Leaving cf s)
    (stream : type ≠ .websocket) : Gives (s.dequeue cf type) (Departs s) := by
  unfold Session.dequeue
  split
  · exact absurd rfl stream
  · exact leaving.longpollDequeue enabled

end Nchan.Subscriber
