import Nchan.Subscriber.Departure

/-! # Subscribe and unsubscribe requests

The upstream requests that tell of a subscriber's coming and going.  A subscriber is unannounced
until the store's `subscribe` returns, announced while its subscribe request is under way or
answered, and departed once its unsubscribe request is started.  A teardown of an announced
subscriber only leads to the last if it is `Orderly`.
-/

namespace Nchan.Subscriber

open Nchan.Lib List Session Sequential Run

/-! ## The property -/

/-- No unsubscribe request is started without an earlier subscribe request. -/
def Follows (started : List Purpose) : Prop :=
  ∀ before after, started = before ++ .unsubscribe :: after → .subscribe ∈ before

/-- And at most one request of each kind is started. -/
structure Paired (started : List Purpose) : Prop where
  subscribe : started.count .subscribe ≤ 1
  unsubscribe : started.count .unsubscribe ≤ 1
  follows : Follows started

variable {p : Purpose}

theorem Follows.append {started : List Purpose} (follows : Follows started)
    (later : p = .unsubscribe → .subscribe ∈ started) : Follows (started ++ [p]) := by
  intro before after split
  rcases eq_nil_or_concat after with rfl | ⟨after, last, rfl⟩
  · obtain ⟨rfl, same⟩ := List.append_inj' split rfl
    exact later (head_eq_of_cons_eq same)
  · rw [concat_eq_append, ← cons_append, ← append_assoc] at split
    exact follows before after (List.append_inj' split rfl).1

theorem Follows.of_not_mem {started : List Purpose} (absent : .unsubscribe ∉ started) :
    Follows started := by
  rintro before after rfl
  exact absurd (by simp) absent

namespace Session

/-- The subscriber is gone and nothing is outstanding. -/
def Over (s : Session) : Prop :=
  (s.freed = true ∨ s.alive = false) ∧ s.call = .idle ∧ s.upstreamRequestmachine.queue = [] ∧
    s.upstreamRequestmachine.orphans = [] ∧ s.reserved = 0

instance (s : Session) : Decidable s.Over := by
  unfold Over
  infer_instance

/-- Who has been announced has been reported gone in the end. -/
def Reported (s : Session) : Prop :=
  s.Over → .subscribe ∈ s.started → .unsubscribe ∈ s.started

/-! ## Orderly teardowns -/

def upstreamRefuses : Outcome → Bool
  | .ok code _ => !(code == 200 || code == 201 || code == 202 || code == 304 || code == 204)
  | .failed rc => rc != -6

end Session

open Session (statusEnds upstreamRefuses)

/-- The steps that dequeue the subscriber or finalize its request. -/
def Op.tearsDown (cf : Location) (type : SubscriberType) (op : Op) (s : Session) : Bool :=
  match op with
  | .status code line => s.statusEnds type code line
  | .dequeue => true
  | .published .insufficientStorage => s.shookHands && s.sentCloseFrame
  | .published .internalServerError => s.shookHands && s.sentCloseFrame
  | .answered outcome =>
    s.upstreamRequestmachine.queue.head? == some .publishUpstream && upstreamRefuses outcome &&
      s.shookHands && s.sentCloseFrame
  | .frame (.data _) => !cf.pubWebsocket
  | .frame .close => true
  | .frame .invalid => true
  | .disconnect => s.ctxSub
  | .readable => s.ctxSub
  | .cleanup => s.abortHandler
  | .timer => true
  | .timeout => s.statusEnds type 408 true
  | _ => false

/-- Teardowns that go through `dequeue` alone. -/
def Op.isPlainDequeue : Op → Bool
  | .dequeue | .cleanup => true
  | _ => false

def Call.isSubscribing : Call → Bool
  | .subscribing _ => true
  | _ => false

/-- An enqueued subscriber is torn down when its subscribe request is started and nothing is
    running upstream, and a WebSocket by finalizing its request.  Another is torn down before its
    subscribe request is made, or once more; a WebSocket in the store's `subscribe` by
    dequeueing it. -/
def Orderly (cf : Location) (type : SubscriberType) (op : Op) (s : Session) : Prop :=
  op.tearsDown cf type s = true →
    if s.enqueued then
      .subscribe ∈ s.started ∧ s.upstreamRequestmachine.queue = [] ∧
        s.upstreamRequestmachine.completing = false ∧
        (type = .websocket → op.isPlainDequeue = false)
    else
      (0 < s.upstreamRequestmachine.asked .subscribe → s.Torn) ∧
        (type = .websocket → s.call.isSubscribing = true → op.isPlainDequeue = true)

instance (cf : Location) (type : SubscriberType) (op : Op) (s : Session) :
    Decidable (Orderly cf type op s) := by
  unfold Orderly Session.Torn
  infer_instance

/-! ## Invariant -/

/-- Ways to `nchan_subscriber_subscribe` that are still open. -/
def Call.entries : Call → Nat
  | .created | .subscribing _ => 1
  | _ => 0

/-- The subscriber is handed to the store once, and not enqueued before. -/
structure Entry (s : Session) : Prop where
  once : s.call.entries + s.upstreamRequestmachine.outstanding .authorize ≤ 1
  fresh : s.call = .created ∨ 0 < s.upstreamRequestmachine.outstanding .authorize →
    .store .subscribe ∉ s.log ∧ s.enqueued = false

inductive Presence (s : Session) : Prop where
  | unannounced (subscribe : s.upstreamRequestmachine.asked .subscribe = 0)
      (unsubscribe : s.upstreamRequestmachine.asked .unsubscribe = 0)
  | announced (subscribe : s.upstreamRequestmachine.asked .subscribe = 1)
      (unsubscribe : s.upstreamRequestmachine.asked .unsubscribe = 0)
      (entered : s.call.entries + s.upstreamRequestmachine.outstanding .authorize = 0)
      (alive : s.alive = true) (kept : s.freed = false) (wanted : s.awaitingDestruction = false)
      (unsent : s.sentUnsubscribeRequest = false)
  | departed (subscribe : s.upstreamRequestmachine.asked .subscribe = 1)
      (unsubscribe : s.upstreamRequestmachine.asked .unsubscribe = 1)
      (entered : s.call.entries + s.upstreamRequestmachine.outstanding .authorize = 0)
      (left : s.enqueued = false) (torn : s.Torn) (follows : Follows s.started)
      (reported : .unsubscribe ∈ s.started)

structure Known (s : Session) : Prop where
  entry : Entry s
  intact : Intact s
  /-- Until the store's `subscribe` returns the request only knows a living subscriber. -/
  attached : s.call.entries = 1 → s.ctxSub = true → s.alive = true
  presence : Presence s

theorem started_count_le (q : Purpose) (s : Session) :
    s.started.count q ≤ s.upstreamRequestmachine.asked q := Nat.le_add_right _ _

variable {s s' : Session}

theorem not_started {q : Purpose} (none : s.upstreamRequestmachine.asked q = 0) : q ∉ s.started :=
  count_eq_zero.mp (Nat.le_zero.mp (none ▸ started_count_le q s))

theorem Presence.paired (presence : Presence s) : Paired s.started := by
  have one := started_count_le .subscribe s
  have other := started_count_le .unsubscribe s
  cases presence with
  | unannounced subscribe unsubscribe =>
    exact ⟨by omega, by omega, .of_not_mem (not_started unsubscribe)⟩
  | announced subscribe unsubscribe =>
    exact ⟨by omega, by omega, .of_not_mem (not_started unsubscribe)⟩
  | departed subscribe unsubscribe _ _ _ follows => exact ⟨by omega, by omega, follows⟩

theorem Presence.reported (presence : Presence s) : s.Reported := by
  intro ended subscribed
  cases presence with
  | unannounced subscribe => exact absurd subscribed (not_started subscribe)
  | announced _ _ _ alive kept => simp [Session.Over, alive, kept] at ended
  | departed _ _ _ _ _ _ reported => exact reported

/-! ## What the invariant survives -/

theorem Entry.tame (entry : Entry s) (tame : Tame s s')
    (enqueued : s'.enqueued = true → s.enqueued = true) : Entry s' where
  once := by
    have := entry.once
    have := tame.outstanding .authorize (by decide)
    rw [tame.call]
    omega
  fresh early := by
    have fewer := tame.outstanding .authorize (by decide)
    obtain ⟨unsubscribed, absent⟩ := entry.fresh (early.imp (tame.call ▸ id) (by omega))
    refine ⟨tame.log ▸ unsubscribed, ?_⟩
    cases isEnqueued : s'.enqueued with
    | false => rfl
    | true => simp [enqueued isEnqueued] at absent

/-- The machine may have moved on, but nothing was announced and nobody left. -/
structure Carries (s s' : Session) : Prop where
  subscribe : s'.upstreamRequestmachine.asked .subscribe = s.upstreamRequestmachine.asked .subscribe
  unsubscribe : s'.upstreamRequestmachine.asked .unsubscribe =
    s.upstreamRequestmachine.asked .unsubscribe
  started : s'.started = s.started ∨ ∃ p ≠ .unsubscribe, s'.started = s.started ++ [p]
  entries : s'.call.entries + s'.upstreamRequestmachine.outstanding .authorize ≤
    s.call.entries + s.upstreamRequestmachine.outstanding .authorize
  enqueued : s'.enqueued = s.enqueued
  alive : s'.alive = s.alive
  freed : s'.freed = s.freed
  awaitingDestruction : s'.awaitingDestruction = s.awaitingDestruction
  sentUnsubscribeRequest : s'.sentUnsubscribeRequest = s.sentUnsubscribeRequest

theorem Presence.carries (presence : Presence s) (carries : Carries s s') : Presence s' := by
  have fewer := carries.entries
  cases presence with
  | unannounced subscribe unsubscribe =>
    exact .unannounced (carries.subscribe.trans subscribe) (carries.unsubscribe.trans unsubscribe)
  | announced subscribe unsubscribe entered alive kept wanted unsent =>
    exact .announced (carries.subscribe.trans subscribe) (carries.unsubscribe.trans unsubscribe)
      (by omega) (carries.alive.trans alive) (carries.freed.trans kept)
      (carries.awaitingDestruction.trans wanted) (carries.sentUnsubscribeRequest.trans unsent)
  | departed subscribe unsubscribe entered left torn follows reported =>
    refine .departed (carries.subscribe.trans subscribe) (carries.unsubscribe.trans unsubscribe)
      (by omega) (carries.enqueued.trans left) ?_ ?_ ?_
    · unfold Session.Torn
      rw [carries.freed, carries.awaitingDestruction, carries.alive]
      exact torn
    · rcases carries.started with same | ⟨p, other, more⟩
      · exact same ▸ follows
      · exact more ▸ follows.append fun unsubscribe => absurd unsubscribe other
    · rcases carries.started with same | ⟨p, other, more⟩
      · exact same ▸ reported
      · exact more ▸ mem_append_left _ reported

theorem Stays.carries (stays : Stays s s') : Carries s s' where
  subscribe := congrArg (asked _) stays.machine
  unsubscribe := congrArg (Sequential.asked _) stays.machine
  started := .inl (congrArg Sequential.started stays.machine)
  entries := Nat.le_of_eq (by rw [stays.call, stays.machine])
  enqueued := stays.enqueued
  alive := stays.alive
  freed := stays.freed
  awaitingDestruction := stays.awaitingDestruction
  sentUnsubscribeRequest := stays.sentUnsubscribeRequest

theorem Known.stays (known : Known s) (stays : Stays s s') : Known s' where
  entry := known.entry.tame stays.sheds.toTame stays.sheds.enqueued
  intact := stays.intact known.intact
  attached := stays.call ▸ stays.ctxSub ▸ stays.alive ▸ known.attached
  presence := known.presence.carries stays.carries

/-- Whoever was announced has been reported gone. -/
def Balanced (s : Session) : Prop :=
  0 < s.upstreamRequestmachine.asked .subscribe → .unsubscribe ∈ s.started

theorem Presence.balanced (presence : Presence s)
    (torn : 0 < s.upstreamRequestmachine.asked .subscribe → s.Torn) : Balanced s := by
  intro announced
  have torn := torn announced
  cases presence with
  | unannounced subscribe => omega
  | announced _ _ _ alive kept wanted => simp [Session.Torn, alive, kept, wanted] at torn
  | departed _ _ _ _ _ _ reported => exact reported

theorem Presence.sheds (presence : Presence s) (balanced : Balanced s) (sheds : Sheds s s') :
    Presence s' := by
  have fewer := sheds.outstanding .authorize (by decide)
  have started (q : Purpose) : s'.started.count q = s.started.count q := by rw [sheds.started]
  have atMost (q : Purpose) : s'.upstreamRequestmachine.asked q ≤ s.upstreamRequestmachine.asked q :=
    Nat.add_le_add (Nat.le_of_eq (started q)) (sheds.waiting q)
  have atLeast (q : Purpose) : s.started.count q ≤ s'.upstreamRequestmachine.asked q :=
    started q ▸ Nat.le_add_right _ _
  have one := atMost .subscribe
  have other := atMost .unsubscribe
  cases presence with
  | unannounced subscribe unsubscribe => exact .unannounced (by omega) (by omega)
  | announced subscribe unsubscribe =>
    exact absurd (balanced (by omega)) (not_started unsubscribe)
  | departed subscribe unsubscribe entered left torn follows reported =>
    obtain ⟨before, after, split⟩ := append_of_mem reported
    have isSubscribed : .subscribe ∈ s.started :=
      split ▸ mem_append_left _ (follows before after split)
    have subscribed := Nat.le_trans (count_pos_iff.mpr isSubscribed) (atLeast .subscribe)
    have unsubscribed := Nat.le_trans (count_pos_iff.mpr reported) (atLeast .unsubscribe)
    refine .departed (by omega) (by omega) (by rw [sheds.call]; omega) ?_ (sheds.torn torn)
      (sheds.started ▸ follows) (sheds.started ▸ reported)
    cases enqueued : s'.enqueued with
    | false => rfl
    | true => simp [sheds.enqueued enqueued] at left

theorem Known.sheds (known : Known s) (balanced : Balanced s) (sheds : Sheds s s')
    (attached : s'.call.entries = 1 → s'.ctxSub = true → s'.alive = true) : Known s' where
  entry := known.entry.tame sheds.toTame sheds.enqueued
  intact := sheds.intact known.intact
  attached := attached
  presence := known.presence.sheds balanced sheds

theorem Known.departs (known : Known s) (enqueued : s.enqueued = true)
    (subscribed : .subscribe ∈ s.started) (departs : Departs s s') : Known s' := by
  have fewer := departs.outstanding .authorize (by decide)
  have count (q : Purpose) : s'.upstreamRequestmachine.asked q =
      s.started.count q + [Purpose.unsubscribe].count q := by
    change s'.started.count q + _ = _
    rw [departs.waiting, departs.started, count_append, count_nil, Nat.add_zero]
  have one := count .subscribe
  have other := count .unsubscribe
  have atMost := started_count_le .subscribe s
  have atLeast := count_pos_iff.mpr subscribed
  cases known.presence with
  | unannounced subscribe => exact absurd subscribed (not_started subscribe)
  | departed _ _ _ left => simp [enqueued] at left
  | announced subscribe unsubscribe entered =>
    have none := not_started unsubscribe
    rw [count_eq_zero.mpr none] at other
    have entered : s'.call.entries + s'.upstreamRequestmachine.outstanding .authorize = 0 := by
      rw [departs.call]
      omega
    refine ⟨known.entry.tame departs.toTame (by simp [departs.enqueued]), departs.intact, ?_,
      .departed (by simp at one; omega) (by simpa using other) entered departs.enqueued
        departs.torn ?_ ?_⟩
    · omega
    · exact departs.started ▸ (Follows.of_not_mem none).append fun _ => subscribed
    · simp [departs.started]

theorem Known.spares (known : Known s) (sheds : Sheds s s')
    (stays : s.awaitingDestruction = false → Stays s s') : Known s' := by
  have attached : s'.call.entries = 1 → s'.ctxSub = true → s'.alive = true := by
    intro entering isSub
    have alive := known.attached (sheds.call ▸ entering) (sheds.ctxSub isSub)
    exact (stays (known.intact (sheds.ctxSub isSub) alive).2.1).alive.trans alive
  cases known.presence with
  | unannounced subscribe => exact known.sheds (by simp [Balanced, subscribe]) sheds attached
  | announced _ _ _ _ _ wanted => exact known.stays (stays wanted)
  | departed _ _ _ _ _ _ reported => exact known.sheds (fun _ => reported) sheds attached

variable {cf : Location} {type : SubscriberType} {op : Op}

section

variable (url : cf.unsubscribeRequestUrl = true) (known : Known s) (orderly : Orderly cf type op s)
  (harmless : op.tearsDown cf type s = false →
    Sheds s s' ∧ (s.awaitingDestruction = false → Stays s s'))
  (sheds : s.enqueued = false → Sheds s s')
include url known orderly harmless sheds

theorem Known.leave
    (attached : op.tearsDown cf type s = true → s.enqueued = false → s.call.entries = 1 →
      (type = .websocket → s.call.isSubscribing = true → op.isPlainDequeue = true) →
      s'.ctxSub = true → s'.alive = true)
    (departs : op.tearsDown cf type s = true → s.alive = true → s.awaitingDestruction = false →
      Leaving cf s → (type = .websocket → op.isPlainDequeue = false) → Departs s s') :
    Known s' := by
  cases tears : op.tearsDown cf type s with
  | false =>
    obtain ⟨sheds, stays⟩ := harmless tears
    exact known.spares sheds stays
  | true =>
    have condition := orderly tears
    split at condition
    · rename_i enqueued
      obtain ⟨subscribed, empty, idle, proper⟩ := condition
      cases presence : known.presence with
      | unannounced subscribe => exact absurd subscribed (not_started subscribe)
      | departed _ _ _ left => simp [enqueued] at left
      | announced _ _ _ alive _ wanted unsent =>
        exact known.departs enqueued subscribed
          (departs tears alive wanted ⟨url, enqueued, empty, idle, unsent⟩ proper)
    · rename_i absent
      have absent : s.enqueued = false := by simpa using absent
      have sheds := sheds absent
      exact known.sheds (known.presence.balanced condition.1) sheds fun entering =>
        attached tears absent (sheds.call ▸ entering) condition.2

theorem Known.leave_idle (idle : s.call = .idle)
    (departs : op.tearsDown cf type s = true → s.alive = true → s.awaitingDestruction = false →
      Leaving cf s → Departs s s') : Known s' :=
  known.leave url orderly harmless sheds
    (fun _ _ entering => by simp [idle, Call.entries] at entering)
    fun tears alive wanted leaving _ => departs tears alive wanted leaving

end

/-! ## Steps -/

variable {aborted line nodestroy : Bool}

theorem release_kept (kept : nodestroy = true ∨ s.awaitingDestruction = false) :
    Gives (s.release type nodestroy) fun (s', _) => s' = { s with reserved := s.reserved - 1 } := by
  refine release_cases.mono fun (s', aborted) releases => ?_
  rcases releases with ⟨-, less⟩ | ⟨destroys, awaits, -⟩
  · exact less
  · simp [destroys, awaits] at kept

theorem Stays.release (kept : nodestroy = true ∨ s.awaitingDestruction = false) :
    Gives (s.release type nodestroy) fun (s', _) => Stays s s' := by
  refine (release_kept kept).mono ?_
  rintro ⟨s', _⟩ rfl
  exact .sets

theorem Known.release (known : Known s) :
    Gives (s.release type nodestroy) fun (s', _) => Known s' :=
  fun a released => known.spares (Sheds.release a released) fun wanted =>
    Stays.release (.inr wanted) a released

theorem release_of_not_aborted (released : s.release type nodestroy = some (s', false)) :
    s' = { s with reserved := s.reserved - 1 } := by
  rcases release_cases _ released with ⟨-, less⟩ | ⟨-, -, aborted, -⟩
  · exact less
  · cases aborted

theorem Stays.ensureHandshake (succeeds : Bool) (s : Session) :
    Stays s (s.ensureHandshake succeeds) := by
  unfold Session.ensureHandshake
  split
  · exact refl s
  · split <;> exact .sets

theorem Stays.respondMessage {proceeds : Bool} (enabled : type.enableSubUnsubCallbacks = true) :
    Gives (s.respondMessage cf type proceeds) (Stays s) := by
  cases type with
  | longpoll | intervalpoll => cases enabled
  | websocket => exact .of_some (ensureHandshake proceeds s)
  | eventsource | httpMultipart | httpChunked | httpRawStream => exact .of_some .sets

/-! ### Entering -/

structure Fresh (m : Sequential Purpose) : Prop where
  subscribe : m.asked .subscribe = 0
  unsubscribe : m.asked .unsubscribe = 0
  none : m.outstanding .authorize = 0

theorem Fresh.known (fresh : Fresh s.upstreamRequestmachine) (intact : Intact s)
    (entered : s.call.entries = 0) (called : s.call ≠ .created) : Known s :=
  ⟨⟨by simp [entered, fresh.none], by simp [called, fresh.none]⟩, intact, by simp [entered],
    .unannounced fresh.subscribe fresh.unsubscribe⟩

theorem Known.unannounced (known : Known s)
    (entering : 0 < s.call.entries + s.upstreamRequestmachine.outstanding .authorize) :
    s.upstreamRequestmachine.asked .subscribe = 0 ∧
      s.upstreamRequestmachine.asked .unsubscribe = 0 := by
  cases known.presence with
  | unannounced subscribe unsubscribe => exact ⟨subscribe, unsubscribe⟩
  | announced _ _ entered => omega
  | departed _ _ entered => omega

theorem Known.fresh (known : Known s) (entering : s.call.entries = 1) :
    Fresh s.upstreamRequestmachine := by
  have once := known.entry.once
  obtain ⟨subscribe, unsubscribe⟩ := known.unannounced (by omega)
  exact ⟨subscribe, unsubscribe, by omega⟩

theorem Known.callbackReturns (known : Known s) : Known s.callbackReturns where
  entry := by
    refine ⟨?_, fun early => ?_⟩
    · have := known.entry.once
      simp only [Session.callbackReturns, outstanding_finish, Call.entries]
      omega
    · simp only [Session.callbackReturns, outstanding_finish, reduceCtorEq,
        false_or] at early
      exact known.entry.fresh (.inr early)
  intact := known.intact
  attached := by simp [Call.entries]
  presence := by
    refine known.presence.carries
      ⟨asked_finish .., asked_finish .., ?_, ?_, rfl, rfl, rfl, rfl, rfl⟩
    · refine (started_finish s.upstreamRequestmachine).imp_right ?_
      rintro ⟨p, waits, more⟩
      refine ⟨p, ?_, more⟩
      rintro rfl
      -- an unsubscribe request does not wait: it is started at once or not made
      have waiting := count_pos_iff.mpr waits
      have asked : s.upstreamRequestmachine.asked .unsubscribe =
        s.started.count .unsubscribe + s.upstreamRequestmachine.waiting.count .unsubscribe := rfl
      cases known.presence with
      | unannounced _ unsubscribe => omega
      | announced _ unsubscribe => omega
      | departed _ unsubscribe _ _ _ _ reported =>
        have := count_pos_iff.mpr reported
        omega
    · simp [Call.entries]

theorem Known.subscribed {fromCallback : Bool} (known : Known s) (cf : Location)
    (type : SubscriberType) (entering : s.call = .subscribing fromCallback) (ok : Bool)
    (call : Call) (entered : call.entries = 0) (called : call ≠ .created) :
    Known { s.subscribed cf type ok with call := call } := by
  have entries : s.call.entries = 1 := by rw [entering]; rfl
  have fresh := known.fresh entries
  unfold Session.subscribed
  split
  · rename_i announces
    have isSub : s.ctxSub = true := by simp only [Bool.and_eq_true] at announces; exact announces.2
    have alive := known.attached entries isSub
    obtain ⟨kept, wanted, unsent⟩ := known.intact isSub alive
    have asks (q : Purpose) := asked_request .subscribe q s.upstreamRequestmachine
    have still := outstanding_request Purpose.subscribe Purpose.authorize
      s.upstreamRequestmachine
    rw [if_neg (by decide), fresh.none] at still
    refine ⟨⟨?_, ?_⟩, known.intact, fun entering => ?_, .announced ?_ ?_ ?_ alive kept wanted unsent⟩
    · simp [nchanSubscriberSubrequest, entered, still]
    · simp [nchanSubscriberSubrequest, called, still]
    · simp [entered] at entering
    · simpa [nchanSubscriberSubrequest, fresh.subscribe] using asks .subscribe
    · simpa [nchanSubscriberSubrequest, fresh.unsubscribe] using asks .unsubscribe
    · simp [nchanSubscriberSubrequest, entered, still]
  · exact Fresh.known fresh known.intact entered called

theorem Known.storeReturns {ok : Bool} (known : Known s) :
    Gives (s.storeReturns cf type ok) Known := by
  unfold Session.storeReturns
  split
  · rename_i entering
    have called := known.subscribed cf type entering ok .callback rfl (by simp)
    exact .of_some called.callbackReturns
  · rename_i entering
    have idle := known.subscribed cf type entering ok .idle rfl (by simp)
    exact .of_some (idle.stays .sets)
  · exact .of_none

theorem Known.enqueue {handshake : Bool} (known : Known s) (inStore : s.inStore = true)
    (alive : s.alive = true) (wanted : s.awaitingDestruction = false) :
    Gives (s.enqueue type handshake) Known := by
  have stays : Gives (s.enqueue type handshake) fun s' =>
      Stays { s with enqueued := s'.enqueued } s' := by
    unfold Session.enqueue longpollEnqueue
    split
    · have shook := Stays.ensureHandshake handshake s
      exact .of_some ⟨shook.log, shook.call, shook.machine, rfl, shook.alive, shook.freed,
        shook.awaitingDestruction, shook.ctxSub, shook.sentUnsubscribeRequest⟩
    · refine .ite (fun _ => .of_none) fun _ => ?_
      split <;> exact .of_some .sets
  refine stays.mono fun s' stays => ?_
  simp only [Session.inStore, Bool.and_eq_true, Bool.not_eq_true'] at inStore
  obtain ⟨kept, stored⟩ := inStore
  have late : ¬ (s.call = .created ∨ 0 < s.upstreamRequestmachine.outstanding .authorize) := by
    intro early
    have fresh := (known.entry.fresh early).1
    have once := known.entry.once
    cases call : s.call with
    | idle => simp [call, fresh] at stored
    | subscribing =>
      rw [call] at once early
      simp only [Call.entries, reduceCtorEq, false_or] at once early
      omega
    | created | callback | aborted => simp [call] at stored
  refine Known.stays (s := { s with enqueued := s'.enqueued })
    ⟨⟨known.entry.once, fun early => absurd early late⟩, known.intact, known.attached, ?_⟩ stays
  cases known.presence with
  | unannounced subscribe unsubscribe => exact .unannounced subscribe unsubscribe
  | announced subscribe unsubscribe entered alive kept wanted unsent =>
    exact .announced subscribe unsubscribe entered alive kept wanted unsent
  | departed _ _ _ _ torn => simp [Session.Torn, kept, wanted, alive] at torn

/-! ### Leaving -/

variable {code : Nat}

section

variable (enabled : type.enableSubUnsubCallbacks = true)

include enabled

theorem respondStatus_ctxSub
    (stream : type ≠ .websocket) (ends : s.statusEnds type code line = true) :
    Gives (s.respondStatus cf type code line) fun s' => s'.ctxSub = false := by
  rw [statusEnds_enabled enabled, if_neg stream, Bool.and_eq_true, Bool.not_eq_true'] at ends
  rw [respondStatus_enabled enabled, if_neg stream]
  unfold streamRespondStatus
  rw [if_neg (by simp [ends.1])]
  refine .ite (fun _ => .map fun t dequeued => longpollDequeue_ctxSub t dequeued) fun shook => ?_
  rw [if_pos (by simpa [shook] using ends.2)]
  exact longpollDequeue_ctxSub

variable (known : Known s)

include known

omit enabled in
theorem websocketDequeue_ctxSub (entering : s.call.entries = 1) :
    s.websocketDequeue.ctxSub = false := by
  have unknown : (s.ctxSub && s.awaitingDestruction) = false := by
    cases isSub : s.ctxSub with
    | false => rfl
    | true => simp [(known.intact isSub (known.attached entering isSub)).2.1]
  unfold websocketDequeue websocketSubscriberDestroy
  dsimp only
  split
  · exact unknown
  · exact unknown

variable (url : cf.unsubscribeRequestUrl = true)

include url

theorem Known.status
    (tears : op.tearsDown cf type s = s.statusEnds type code line)
    (indirect : op.isPlainDequeue = false) (asked : s.call ≠ .created)
    (orderly : Orderly cf type op s) : Gives (s.respondStatus cf type code line) Known := by
  intro s' responded
  refine known.leave url orderly (fun harmless => ?_) (Sheds.made.respondStatus s' responded)
    (fun ends _ entering proper isSub => ?_)
    fun ends _ _ leaving _ => leaving.respondStatus enabled (tears ▸ ends) s' responded
  · have stays := Stays.respondStatus enabled (tears ▸ harmless) s' responded
    exact ⟨stays.sheds, fun _ => stays⟩
  · by_cases websocket : type = .websocket
    · cases call : s.call with
      | created => exact absurd call asked
      | subscribing fromCallback =>
        rw [proper websocket (by rw [call]; rfl)] at indirect
        cases indirect
      | idle | callback | aborted => simp [call, Call.entries] at entering
    · simp [respondStatus_ctxSub enabled websocket (tears ▸ ends) s' responded] at isSub

omit url in
omit enabled in
theorem dequeue_ctxSub (entering : s.call.entries = 1) :
    Gives (s.dequeue cf type) fun s' => s'.ctxSub = false := by
  unfold dequeue
  split
  · exact .of_some (websocketDequeue_ctxSub known entering)
  · exact longpollDequeue_ctxSub

theorem Known.dequeue
    (orderly : Orderly cf type .dequeue s) : Gives (s.dequeue cf type) Known := by
  intro s' dequeued
  refine known.leave url orderly (by simp [Op.tearsDown]) (Sheds.made.dequeue s' dequeued)
    (fun _ _ entering _ isSub => ?_) fun _ _ _ leaving proper => ?_
  · simp [dequeue_ctxSub known entering s' dequeued] at isSub
  · refine leaving.dequeue enabled (fun websocket => ?_) s' dequeued
    cases proper websocket

omit url in
omit enabled in
theorem requestCleanup_ctxSub (entering : s.call.entries = 1)
    (armed : s.abortHandler = true) :
    Gives (s.requestCleanup cf type) fun s' => s'.ctxSub = false := by
  have flagged : Stays s { s with finalized := true, requestFreed := true, abortHandler := false } :=
    .sets
  unfold requestCleanup
  rw [if_neg (by simp [armed])]
  refine .ite (fun _ => .of_none) fun _ => ?_
  split
  · exact .of_some (websocketDequeue_ctxSub (known.stays flagged) entering)
  · exact longpollDequeue_ctxSub

theorem Known.cleanup
    (orderly : Orderly cf type .cleanup s) : Gives (s.requestCleanup cf type) Known := by
  intro s' freed
  refine known.leave url orderly (fun disarmed => ?_) (Sheds.made.requestCleanup s' freed)
    (fun armed _ entering _ isSub => ?_) fun armed _ _ leaving proper => ?_
  · unfold requestCleanup at freed
    rw [if_pos (by simpa [Op.tearsDown] using disarmed)] at freed
    cases freed
    have stays : Stays s { s with finalized := true, requestFreed := true } := .sets
    exact ⟨stays.sheds, fun _ => stays⟩
  · simp [requestCleanup_ctxSub known entering armed s' freed] at isSub
  · refine leaving.requestCleanup enabled (fun websocket => ?_) armed s' freed
    cases proper websocket

end

/-! ### Messages over a WebSocket -/

theorem Known.closeStatus (known : Known s) (type : SubscriberType) (op : Op)
    (url : cf.unsubscribeRequestUrl = true) (orderly : Orderly cf type op s)
    (tears : op.tearsDown cf type s = (s.shookHands && s.sentCloseFrame))
    (heeded : ignored code line = false) (idle : s.call = .idle) :
    Gives (s.websocketRespondStatus cf code line) Known := by
  intro s' responded
  have ends : op.tearsDown cf type s =
      (!ignored code line && (s.shookHands && s.sentCloseFrame)) := by
    rw [tears, heeded]
    rfl
  refine known.leave_idle url orderly (fun harmless => ?_)
    (Sheds.made.websocketRespondStatus s' responded) idle
    fun closing _ _ leaving => leaving.websocketRespondStatus (ends ▸ closing) s' responded
  have stays := Stays.websocketRespondStatus (ends ▸ harmless) s' responded
  exact ⟨stays.sheds, fun _ => stays⟩

theorem Known.record (known : Known s) {e : Event} (other : e ≠ .store .subscribe) :
    Known (s.record e) where
  entry := by
    refine ⟨known.entry.once, fun early => ?_⟩
    obtain ⟨unsubscribed, absent⟩ := known.entry.fresh early
    refine ⟨?_, absent⟩
    simpa [Session.record, unsubscribed] using other.symm
  intact := known.intact
  attached := known.attached
  presence := known.presence.carries
    ⟨rfl, rfl, .inl rfl, Nat.le_refl _, rfl, rfl, rfl, rfl, rfl⟩

theorem Known.publishContinue (known : Known s) : Known s.websocketPublishContinue :=
  (known.record (e := .store .publish) (by simp)).stays .sets

theorem Known.request (known : Known s) (authorize : p ≠ .authorize) (subscribe : p ≠ .subscribe)
    (unsubscribe : p ≠ .unsubscribe) : Known (s.nchanSubscriberSubrequest p) := by
  have asks (q : Purpose) (other : p ≠ q) :
      (s.upstreamRequestmachine.request p).asked q = s.upstreamRequestmachine.asked q := by
    simpa [other] using asked_request p q s.upstreamRequestmachine
  have still : (s.upstreamRequestmachine.request p).outstanding .authorize =
      s.upstreamRequestmachine.outstanding .authorize := by
    simpa [authorize] using outstanding_request p .authorize s.upstreamRequestmachine
  refine ⟨⟨?_, ?_⟩, known.intact, known.attached, known.presence.carries ?_⟩
  · exact Nat.le_trans (Nat.le_of_eq (congrArg _ still)) known.entry.once
  · exact fun early => known.entry.fresh (early.imp_right (still ▸ id))
  · exact
      { subscribe := asks _ subscribe
        unsubscribe := asks _ unsubscribe
        started := (started_request p _).imp_right fun more => ⟨p, unsubscribe, more⟩
        entries := Nat.le_of_eq (congrArg _ still)
        enqueued := rfl, alive := rfl, freed := rfl, awaitingDestruction := rfl
        sentUnsubscribeRequest := rfl }

theorem Known.publish (known : Known s) : Known (s.websocketPublish cf) := by
  unfold websocketPublish
  split
  · exact (known.request (p := .publishUpstream) (by simp) (by simp) (by simp)).stays .sets
  · exact known.publishContinue

theorem Known.reading {f : Session.Frame} (url : cf.unsubscribeRequestUrl = true) (known : Known s)
    (orderly : Orderly cf .websocket (.frame f) s) (idle : s.call = .idle)
    (isSub : s.ctxSub = true) : Known (s.websocketReading cf f) := by
  have closes (tears : (Op.frame f).tearsDown cf .websocket s = true) :
      Known ((s.websocketSendCloseFrame cf).websocketReadingFinalize cf) := by
    refine known.leave_idle url orderly (by simp [tears]) (fun absent => ?_) idle
      fun _ _ _ leaving => leaving.closes isSub
    have sent : Sheds s (s.websocketSendCloseFrame cf) := Sheds.made.websocketSendCloseFrame absent
    exact sent.trans (Sheds.made.websocketReadingFinalize (sent.absent absent))
  unfold websocketReading
  cases f with
  | control => exact known
  | invalid => exact closes rfl
  | close =>
    dsimp only
    split
    · exact known.leave_idle url orderly (by simp [Op.tearsDown])
        Sheds.made.websocketReadingFinalize idle
        fun _ _ _ leaving => leaving.websocketReadingFinalize isSub
    · exact closes rfl
  | data heartbeat =>
    dsimp only
    split
    · rename_i plain
      exact closes plain
    · split
      · exact known
      · exact known.publish

theorem Known.published {result : Session.PublishStatus} (url : cf.unsubscribeRequestUrl = true)
    (known : Known s) (orderly : Orderly cf type (.published result) s) (idle : s.call = .idle) :
    Gives ({ s with publishing := s.publishing - 1 }.websocketPublishCallback cf result) Known := by
  have flagged : Stays s { s with publishing := s.publishing - 1 } := .sets
  refine .bind fun (t, aborted) released => ?_
  have known : Known t := (known.stays flagged).release _ released
  refine .ite (fun _ => .of_some known) fun kept => ?_
  simp only [Bool.or_eq_true, Bool.not_eq_true', not_or, Bool.not_eq_true] at kept
  obtain ⟨rfl, alive⟩ := kept
  obtain rfl := release_of_not_aborted released
  cases result with
  | accepted | other => exact .of_some known
  | insufficientStorage =>
    exact known.closeStatus type (.published .insufficientStorage) url orderly rfl rfl idle
  | internalServerError =>
    exact known.closeStatus type (.published .internalServerError) url orderly rfl rfl idle

/-! ### Callbacks -/

structure Completes (p : Purpose) (m m' : Sequential Purpose) : Prop where
  started : m'.started = m.started
  waiting : m'.waiting = m.waiting
  outstanding : ∀ q, m.outstanding q = m'.outstanding q + if p = q then 1 else 0

variable {m m' : Sequential Purpose}

theorem Completes.complete (done : m.complete = some (p, m')) : Completes p m m' :=
  ⟨(complete_keeps done).1, (complete_keeps done).2,
    outstanding_complete done⟩

theorem Completes.completeOrphan (done : m.completeOrphan p = some m') : Completes p m m' :=
  ⟨(completeOrphan_keeps done).1, (completeOrphan_keeps done).2,
    outstanding_completeOrphan done⟩

theorem Completes.asked (done : Completes p m m') (q : Purpose) : m'.asked q = m.asked q := by
  unfold Sequential.asked
  rw [done.started, done.waiting]

theorem Known.called (known : Known s) (done : Completes p s.upstreamRequestmachine m) :
    Known { s with upstreamRequestmachine := m, call := .callback } := by
  have fewer := done.outstanding .authorize
  have once := known.entry.once
  refine ⟨⟨?_, fun early => ?_⟩, known.intact, by simp [Call.entries], ?_⟩
  · simp only [Call.entries]
    omega
  · refine known.entry.fresh (.inr ?_)
    simp only [reduceCtorEq, false_or] at early
    omega
  · refine known.presence.carries
      ⟨done.asked _, done.asked _, .inl done.started, ?_, rfl, rfl, rfl, rfl, rfl⟩
    simp only [Call.entries]
    omega

theorem Known.subscribe (known : Known s) (fresh : Fresh s.upstreamRequestmachine)
    (attached : s.ctxSub = true → s.alive = true) (fromCallback : Bool) :
    Known (s.nchanSubscriberSubscribe fromCallback) where
  entry := by
    refine ⟨?_, fun early => ?_⟩
    · simp [nchanSubscriberSubscribe, Session.record, Call.entries, fresh.none]
    · simp [nchanSubscriberSubscribe, Session.record, fresh.none] at early
  intact := known.intact
  attached _ := attached
  presence := .unannounced fresh.subscribe fresh.unsubscribe

variable {answer : Outcome}

theorem Known.authorizationAnswered (known : Known s) (absent : s.enqueued = false)
    (fresh : Fresh s.upstreamRequestmachine) (entered : s.call.entries = 0)
    (alive : s.alive = true) : Gives (s.authorizationAnswered cf type answer) Known := by
  have refuses {code : Nat} : Gives (s.respondStatus cf type code false) Known := by
    refine Sheds.made.respondStatus.mono fun s' sheds => ?_
    have sheds := sheds absent
    refine known.sheds (by simp [Balanced, fresh.subscribe]) sheds fun entering => ?_
    rw [sheds.call, entered] at entering
    cases entering
  unfold Session.authorizationAnswered
  split
  · exact .ite (fun _ => .of_some (known.subscribe fresh (fun _ => alive) true)) fun _ =>
      .guard fun _ => refuses
  · exact .ite (fun _ => refuses) fun _ => refuses

theorem Known.authorizeCallback (known : Known { s.record .release with call := .callback })
    (absent : s.enqueued = false) (fresh : Fresh s.upstreamRequestmachine) :
    Gives (s.subscriberAuthorizeCallback cf type answer) Known := by
  unfold subscriberAuthorizeCallback
  dsimp only
  split
  · exact .of_some (Fresh.known fresh known.intact rfl (by simp))
  · rename_i t aborted released
    have known : Known t := known.release _ released
    refine .ite (fun alive => ?_) fun _ => .of_some known
    have stays : Stays _ t := Stays.release (.inl alive) _ released
    refine known.authorizationAnswered (stays.enqueued.trans absent) ?_ ?_ (stays.alive.trans alive)
    · exact stays.machine ▸ fresh
    · rw [stays.call]
      rfl

theorem Known.publishUpstreamHandler (known : Known s) (entered : s.call.entries = 0)
    (orderly : upstreamRefuses answer = true → s.shookHands = true →
      s.sentCloseFrame = true → s.enqueued = false ∧ Balanced s) :
    Gives (s.websocketPublishUpstreamHandler cf answer) Known := by
  refine .bind fun (t, aborted) released => ?_
  have known : Known t := known.release _ released
  refine .ite (fun _ => .of_some known) fun kept => ?_
  simp only [Bool.or_eq_true, not_or, Bool.not_eq_true, beq_eq_false_iff_ne] at kept
  obtain ⟨rfl, heard⟩ := kept
  obtain rfl := release_of_not_aborted released
  have refuses {code : Nat} (refused : upstreamRefuses answer = true) :
      Gives (websocketRespondStatus cf code false { s with reserved := s.reserved - 1 })
        Known := by
    cases closing : s.shookHands && s.sentCloseFrame with
    | false => exact (Stays.websocketRespondStatus (by simp [closing])).mono fun _ => known.stays
    | true =>
      obtain ⟨shook, sent⟩ := Bool.and_eq_true_iff.mp closing
      obtain ⟨absent, balanced⟩ := orderly refused shook sent
      refine Sheds.made.websocketRespondStatus.mono fun s' sheds => ?_
      have sheds := sheds absent
      refine known.sheds balanced sheds fun entering => ?_
      rw [sheds.call] at entering
      exact absurd entering (by simp [entered])
  split
  · refine .ite (fun _ => .of_some ?_) fun refused =>
      .ite (fun _ => .of_some known.publishContinue) fun _ => .ite (fun _ => .of_some known)
        fun _ => refuses (by simp_all [upstreamRefuses])
    split
    · exact known.publishContinue
    · exact known
  · refine refuses ?_
    simpa [upstreamRefuses, Outcome.abort] using heard

theorem Known.subrequestCallback {outcome : Outcome} (known : Known s)
    (done : Completes p s.upstreamRequestmachine m)
    (orderly : p = .publishUpstream → upstreamRefuses answer = true →
      s.shookHands = true → s.sentCloseFrame = true → s.enqueued = false ∧ Balanced s) :
    Gives ({ s with upstreamRequestmachine := m }.subrequestCallback cf type p outcome answer)
      Known := by
  have begun := known.called done
  unfold Session.subrequestCallback
  split
  · have one := done.outstanding .authorize
    have once := known.entry.once
    rw [if_pos rfl] at one
    obtain ⟨-, absent⟩ := known.entry.fresh (.inr (by omega))
    obtain ⟨subscribe, unsubscribe⟩ := known.unannounced (by omega)
    refine Known.authorizeCallback
      (s := { s with upstreamRequestmachine := m }.record (.authorization outcome)) ?_ absent
      ⟨(done.asked _).trans subscribe, (done.asked _).trans unsubscribe, ?_⟩
    · exact (begun.record (e := .authorization outcome) (by simp)).record (e := .release) (by simp)
    · change m.outstanding .authorize = 0
      omega
  · refine begun.publishUpstreamHandler rfl (fun refused shook sent => ?_)
    obtain ⟨absent, balanced⟩ := orderly rfl refused shook sent
    refine ⟨absent, fun announced => ?_⟩
    change .unsubscribe ∈ m.started
    rw [done.started]
    exact balanced (done.asked .subscribe ▸ announced)
  · exact .of_some begun
  · exact .of_some begun

theorem Known.start {launch : Session.Launch} (known : Known s) (created : s.call = .created) :
    Gives (s.nchanSubscriberAuthorizeSubscribeRequest cf type launch) Known := by
  have entries : s.call.entries = 1 := by rw [created]; rfl
  obtain ⟨unsubscribed, absent⟩ := known.entry.fresh (.inl created)
  have fresh := known.fresh entries
  refine .ite (fun _ => .of_some ?_) fun _ => ?_
  · exact known.subscribe fresh (known.attached entries) false
  · cases launch with
    | failed => exact .of_some (Fresh.known fresh known.intact rfl (by simp))
    | pending =>
      have asks (q : Purpose) := asked_request .authorize q s.upstreamRequestmachine
      have running := outstanding_request Purpose.authorize Purpose.authorize
        s.upstreamRequestmachine
      rw [if_pos rfl, fresh.none] at running
      refine .of_some
        ⟨⟨?_, fun _ => ⟨?_, absent⟩⟩, known.intact, by simp [Call.entries], .unannounced ?_ ?_⟩
      · exact Nat.le_of_eq ((Nat.zero_add _).trans running)
      · simpa [Session.record, reserve, nchanSubscriberSubrequest] using unsubscribed
      · exact (asks .subscribe).trans fresh.subscribe
      · exact (asks .unsubscribe).trans fresh.unsubscribe
    | atOnce outcome =>
      exact Known.authorizeCallback (s := s.record (.authorization outcome))
        (Fresh.known fresh known.intact rfl (by simp)) absent fresh

/-! ### The whole step -/

theorem idle_of_reading (reading : s.reading = true) : s.call = .idle := by
  simp only [Session.reading, Bool.and_eq_true, beq_iff_eq] at reading
  exact reading.1.1.1

theorem Op.known (enabled : type.enableSubUnsubCallbacks = true)
    (url : cf.unsubscribeRequestUrl = true) (known : Known s) (orderly : Orderly cf type op s) :
    Gives (op.apply cf (.subscriber type) s) Known := by
  cases op with
  | begin launch handshake => exact .guard known.start
  | answered outcome =>
    refine .guard fun _ => .bind fun result completed => ?_
    obtain ⟨p, m⟩ := result
    refine known.subrequestCallback (.complete completed) ?_
    rintro rfl refused shook sent
    have front := complete_front completed
    have condition := orderly (by simp [Op.tearsDown, front, refused, shook, sent])
    split at condition
    · simp [condition.2.1] at front
    · rename_i absent
      exact ⟨by simpa using absent, known.presence.balanced condition.1⟩
  | orphanAnswered p outcome =>
    exact .guard fun _ => .bind fun m completed => known.subrequestCallback
      (.completeOrphan completed) (by simp [upstreamRefuses, Outcome.abort])
  | returns => exact .guard fun _ => .of_some known.callbackReturns
  | storeReturns ok => exact known.storeReturns
  | enqueue handshake =>
    refine .guard fun allowed => ?_
    simp only [Bool.and_eq_true, Bool.not_eq_true'] at allowed
    exact known.enqueue allowed.1.1 allowed.1.2 allowed.2
  | message proceeds => exact .guard fun _ => (Stays.respondMessage enabled).mono fun _ => known.stays
  | status code line =>
    refine .guard fun inStore => known.status enabled url rfl rfl (fun created => ?_) orderly
    simp [Session.inStore, created] at inStore
  | dequeue => exact .guard fun _ => known.dequeue enabled url orderly
  | storeReserve => exact .guard fun _ => .of_some (known.stays .sets)
  | storeRelease nodestroy => exact .guard fun _ => .map known.release
  | published result => exact .guard fun enters => known.published url orderly enters.1
  | frame f =>
    refine .guard fun enters => .of_some ?_
    obtain rfl : type = .websocket := enters.1
    obtain ⟨reading, isSub⟩ := Bool.and_eq_true_iff.mp enters.2
    exact known.reading url orderly (idle_of_reading reading) isSub
  | disconnect =>
    refine .guard fun enters => .of_some ?_
    split
    · rename_i isSub
      exact known.leave_idle url orderly (by simp [Op.tearsDown, isSub])
        Sheds.made.websocketReadingFinalize (idle_of_reading enters.2)
        fun _ _ _ leaving => leaving.websocketReadingFinalize isSub
    · exact known.stays .sets
  | readable =>
    refine .guard fun enters => .ite (fun isSub => ?_) fun _ => .of_some known
    change Gives (s.respondStatus cf type _ _) Known
    refine known.status enabled url ?_ rfl (by simp [idle_of_reading enters.2]) orderly
    cases type <;> first
      | exact absurd rfl enters.1
      | simp [Op.tearsDown, isSub, statusEnds, ignored, endsStream]
  | cleanup => exact .guard fun _ => known.cleanup enabled url orderly
  | timer =>
    exact .guard fun enters => .of_some (known.leave_idle url orderly
      (by simp [Op.tearsDown]) Sheds.made.websocketFinalizeRequest enters.2.1
      fun _ _ _ leaving => leaving.websocketFinalizeRequest)
  | timeout =>
    exact .guard fun enters => known.status enabled url rfl rfl (by simp [enters.1]) orderly

theorem Known.init : Known {} where
  entry := ⟨by decide, fun _ => ⟨by simp, rfl⟩⟩
  intact _ _ := ⟨rfl, rfl, rfl⟩
  attached _ _ := rfl
  presence := .unannounced rfl rfl

/-- In every run whose teardowns are orderly, subscribe and unsubscribe requests are paired. -/
theorem presence_paired {cf : Location} {type : SubscriberType} {ops : List Op} {s : Session}
    (enabled : type.enableSubUnsubCallbacks = true) (url : cf.unsubscribeRequestUrl = true)
    (orderly : Run.Along (Op.apply cf (.subscriber type)) (Orderly cf type) ops {})
    (reaches : run (Op.apply cf (.subscriber type)) ops {} = some s) :
    Paired s.started ∧ s.Reported := by
  have known : Known s :=
    run_invariant (fun _ _ s' known orderly => Op.known enabled url known orderly s') .init orderly
      reaches
  exact ⟨known.presence.paired, known.presence.reported⟩

def presenceLocation : Location := { subscribeRequestUrl := true, unsubscribeRequestUrl := true }

def patientVisit : List Op :=
  [.begin .pending true, .enqueue true, .storeReturns true, .answered (.ok 200 true), .returns,
    .cleanup, .orphanAnswered .unsubscribe (.ok 200 true), .returns]

/-- An EventSource client that leaves after its subscribe request has been answered. -/
theorem presence_paired_patient : ∃ s,
    run (Op.apply presenceLocation (.subscriber .eventsource)) patientVisit {} = some s ∧
      s.Over ∧ s.started = [.subscribe, .unsubscribe] ∧ Paired s.started ∧ s.Reported := by
  have orderly : Run.Along (Op.apply presenceLocation (.subscriber .eventsource))
      (Orderly presenceLocation .eventsource) patientVisit {} := by decide
  exact ⟨_, rfl, by decide, rfl, presence_paired rfl rfl orderly rfl⟩

/-- One that leaves earlier is gone without an unsubscribe request. -/
theorem presence_unpaired : ∃ s,
    run (Op.apply presenceLocation (.subscriber .eventsource))
      [.begin .pending true, .enqueue true, .storeReturns true, .cleanup,
        .orphanAnswered .subscribe (.ok 200 true), .returns] {} = some s ∧
    s.started = [.subscribe] ∧ s.Over ∧ ¬ s.Reported := by
  refine ⟨_, rfl, rfl, by decide, fun reported => ?_⟩
  exact absurd (reported (by decide) (by decide)) (by decide)

end Nchan.Subscriber
