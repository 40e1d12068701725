import Nchan.Subscriber.Exchange
import Nchan.Subscriber.Teardown

/-! # Authorization gates the store

What a request does before and after its authorization subrequest is answered, for HTTP
publishers and for sessions.  The gate of a session only moves in the steps that launch, answer
or follow the authorization; all others are `Tame`.
-/

namespace Nchan.Subscriber

open Nchan.Lib List Session Sequential Tame Option

/-! ## What a log says -/

def Event.answer : Event → Option Outcome
  | .authorization outcome => some outcome
  | _ => none

def answers (log : List Event) : List Outcome := log.filterMap Event.answer

def Event.isBooking : Event → Bool
  | .reserve | .release => true
  | _ => false

def bookings (log : List Event) : List Event := log.filter Event.isBooking

/-- The operations on a channel.  The limits of a group are not one. -/
def StoreOp.onChannel : StoreOp → Bool
  | .setGroupLimits => false
  | _ => true

/-- Every channel operation comes after the one answer of the authorization subrequest, and that
    was a 2xx. -/
def Gated (log : List Event) : Prop :=
  ∀ before op after, log = before ++ .store op :: after → op.onChannel = true →
    ∃ outcome, answers before = [outcome] ∧ outcome.isSuccess = true

/-- The subscriber is not released before it is reserved, and once the subrequest has completed
    both have happened once. -/
def BookedOnce (log : List Event) : Prop :=
  bookings log <+: [.reserve, .release] ∧
    (answers log ≠ [] → bookings log = [.reserve, .release])

def Untouched (log : List Event) : Prop := ∀ op, .store op ∈ log → op.onChannel = false

@[simp] theorem answers_append (log log' : List Event) :
    answers (log ++ log') = answers log ++ answers log' := filterMap_append

@[simp] theorem bookings_append (log log' : List Event) :
    bookings (log ++ log') = bookings log ++ bookings log' := filter_append ..

section
variable (op : StoreOp) (outcome : Outcome) (log : List Event)

@[simp] theorem answers_nil : answers [] = [] := rfl
@[simp] theorem answers_store : answers (.store op :: log) = answers log := rfl
@[simp] theorem answers_authorization :
    answers (.authorization outcome :: log) = outcome :: answers log := rfl
@[simp] theorem answers_reserve : answers (.reserve :: log) = answers log := rfl
@[simp] theorem answers_release : answers (.release :: log) = answers log := rfl

@[simp] theorem bookings_nil : bookings [] = [] := rfl
@[simp] theorem bookings_store : bookings (.store op :: log) = bookings log := rfl
@[simp] theorem bookings_authorization :
    bookings (.authorization outcome :: log) = bookings log := rfl
@[simp] theorem bookings_reserve : bookings (.reserve :: log) = .reserve :: bookings log := rfl
@[simp] theorem bookings_release : bookings (.release :: log) = .release :: bookings log := rfl

end

variable {log : List Event}

theorem Untouched.gated (untouched : Untouched log) : Gated log := by
  rintro before op after rfl channel
  rw [untouched op (by simp)] at channel
  cases channel

theorem Untouched.append (untouched : Untouched log) {e : Event}
    (quiet : ∀ op, e = .store op → op.onChannel = false) : Untouched (log ++ [e]) := by
  intro op mem
  rcases mem_append.mp mem with old | new
  · exact untouched op old
  · exact quiet op (mem_singleton.mp new).symm

theorem Gated.append (gated : Gated log) {e : Event}
    (passed : ∀ op, e = .store op → op.onChannel = true →
      ∃ outcome, answers log = [outcome] ∧ outcome.isSuccess = true) : Gated (log ++ [e]) := by
  intro before op after split channel
  rcases eq_nil_or_concat after with rfl | ⟨after, last, rfl⟩
  · obtain ⟨rfl, same⟩ := List.append_inj' split rfl
    exact passed op (head_eq_of_cons_eq same) channel
  · rw [concat_eq_append, ← cons_append, ← append_assoc] at split
    exact gated before op after (List.append_inj' split rfl).1 channel

/-! ## The gate of a session -/

/-- Nothing has reached a channel, and nothing is under way that could. -/
structure Closed (s : Session) : Prop where
  untouched : Untouched s.log
  publishing : s.upstreamRequestmachine.outstanding .publishUpstream = 0
  subscribing : ∀ fromCallback, s.call ≠ .subscribing fromCallback

inductive Gate (s : Session) : Prop where
  | unasked (answers : answers s.log = []) (bookings : bookings s.log = [])
      (idle : s.upstreamRequestmachine.outstanding .authorize = 0) (closed : Closed s)
  | waiting (answers : answers s.log = []) (bookings : bookings s.log = [.reserve])
      (asked : s.call ≠ .created) (running : s.upstreamRequestmachine.outstanding .authorize ≤ 1)
      (closed : Closed s)
  | answered (outcome : Outcome) (answers : answers s.log = [outcome])
      (bookings : bookings s.log = [.reserve, .release]) (asked : s.call ≠ .created)
      (idle : s.upstreamRequestmachine.outstanding .authorize = 0) (gated : Gated s.log)
      (closed : outcome.isSuccess = false → Closed s)

/-- A step that neither records anything nor asks for more, and enters no call of the store. -/
structure Holds (s s' : Session) : Prop where
  log : s'.log = s.log
  created : s'.call = .created → s.call = .created
  subscribing : ∀ fromCallback, s'.call = .subscribing fromCallback →
    s.call = .subscribing fromCallback
  authorize : s'.upstreamRequestmachine.outstanding .authorize ≤
    s.upstreamRequestmachine.outstanding .authorize
  publishUpstream : s'.upstreamRequestmachine.outstanding .publishUpstream ≤
    s.upstreamRequestmachine.outstanding .publishUpstream

variable {s s' t : Session}

theorem Tame.holds (tame : Tame s s') : Holds s s' where
  log := tame.log
  created := tame.call ▸ id
  subscribing _ := tame.call ▸ id
  authorize := tame.outstanding _ (by decide)
  publishUpstream := tame.outstanding _ (by decide)

theorem Closed.hold (closed : Closed s) (holds : Holds s s') : Closed s' where
  untouched := holds.log ▸ closed.untouched
  publishing := Nat.le_zero.mp (closed.publishing ▸ holds.publishUpstream)
  subscribing fromCallback enters := closed.subscribing _ (holds.subscribing fromCallback enters)

variable {cf : Location} {type : SubscriberType}
variable {outcome : Outcome}
variable {role : Role}

section

variable (gate : Gate s)

include gate

theorem Gate.hold (holds : Holds s s') : Gate s' := by
  have fewer := holds.authorize
  cases gate with
  | unasked answers bookings idle closed =>
    exact .unasked (holds.log ▸ answers) (holds.log ▸ bookings) (by omega) (closed.hold holds)
  | waiting answers bookings asked running closed =>
    exact .waiting (holds.log ▸ answers) (holds.log ▸ bookings) (asked ∘ holds.created) (by omega)
      (closed.hold holds)
  | answered outcome answers bookings asked idle gated closed =>
    exact .answered outcome (holds.log ▸ answers) (holds.log ▸ bookings) (asked ∘ holds.created)
      (by omega) (holds.log ▸ gated) fun failed => (closed failed).hold holds

theorem Gate.tame (tame : Tame s s') : Gate s' :=
  gate.hold tame.holds

theorem Gate.gated : Gated s.log := by
  cases gate with
  | unasked _ _ _ closed => exact closed.untouched.gated
  | waiting _ _ _ _ closed => exact closed.untouched.gated
  | answered _ _ _ _ _ gated => exact gated

theorem Gate.bookedOnce : BookedOnce s.log := by
  unfold BookedOnce
  cases gate with
  | unasked answers bookings => simp [answers, bookings]
  | waiting answers bookings => simp [answers, bookings]
  | answered _ _ bookings => simp [bookings]

def Granted (log : List Event) : Prop := ∃ outcome ∈ answers log, outcome.isSuccess = true

instance (log : List Event) : Decidable (Granted log) :=
  inferInstanceAs (Decidable (∃ outcome ∈ _, _))

theorem Gate.passes (granted : Granted s.log) :
    ∃ outcome, answers s.log = [outcome] ∧ outcome.isSuccess = true := by
  obtain ⟨outcome, member, success⟩ := granted
  cases gate with
  | unasked answers => simp [answers] at member
  | waiting answers => simp [answers] at member
  | answered only answers =>
    rw [answers, mem_singleton] at member
    exact ⟨only, answers, member ▸ success⟩

theorem Gate.granted_of_open (isOpen : ¬ Closed s) : Granted s.log := by
  cases gate with
  | unasked _ _ _ closed => exact absurd closed isOpen
  | waiting _ _ _ _ closed => exact absurd closed isOpen
  | answered outcome answers _ _ _ _ closed =>
    cases success : outcome.isSuccess with
    | true => exact ⟨outcome, by simp [answers], success⟩
    | false => exact absurd (closed success) isOpen

theorem Gate.proceed (granted : Granted s.log)
    (log : s'.log = s.log ∨ ∃ op, s'.log = s.log ++ [.store op]) (asked : s'.call ≠ .created)
    (idle : s'.upstreamRequestmachine.outstanding .authorize ≤
      s.upstreamRequestmachine.outstanding .authorize) : Gate s' := by
  obtain ⟨outcome, only, success⟩ := gate.passes granted
  cases gate with
  | unasked answers => simp [answers] at only
  | waiting answers => simp [answers] at only
  | answered first answers bookings _ settled gated _ =>
    obtain rfl : first = outcome := by simpa using answers.symm.trans only
    have failed : first.isSuccess = false → Closed s' := fun no => by simp [no] at success
    rcases log with same | ⟨op, more⟩
    · exact .answered _ (same ▸ answers) (same ▸ bookings) asked (by omega) (same ▸ gated) failed
    · refine .answered _ ?_ ?_ asked (by omega) (more ▸ gated.append ?_) failed
      · simp [more, answers]
      · simp [more, bookings]
      · intro _ _ _
        exact ⟨_, answers, success⟩

/-! ### The answer -/

omit gate in
theorem Gate.released (outcome : Outcome) (answers : answers s.log = [])
    (bookings : bookings s.log = [.reserve]) (closed : Closed s)
    (log : t.log = s.log ++ [.authorization outcome] ++ [.release])
    (call : t.call = .callback ∨ t.call = .aborted)
    (idle : t.upstreamRequestmachine.outstanding .authorize = 0)
    (publishing : t.upstreamRequestmachine.outstanding .publishUpstream = 0) :
    Gate t ∧ Closed t := by
  have untouched : Untouched t.log := by
    rw [log]
    exact (closed.untouched.append (by simp)).append (by simp)
  have still : Closed t := ⟨untouched, publishing, by rcases call with h | h <;> simp [h]⟩
  refine ⟨.answered outcome ?_ ?_ ?_ idle untouched.gated fun _ => still, still⟩
  · simp [log, answers]
  · simp [log, bookings]
  · rcases call with h | h <;> simp [h]

theorem Gate.respondStatus {code : Nat} {line : Bool} :
    Gives (s.respondStatus cf type code line) Gate :=
  made.respondStatus.mono fun _ => gate.tame

theorem Gate.authorizationAnswered {answer : Outcome}
    (granted : answer.isSuccess = true → Granted s.log) :
    Gives (s.authorizationAnswered cf type answer) Gate := by
  unfold Session.authorizationAnswered
  split
  · refine .ite (fun inRange => .of_some ?_) fun _ => .guard fun _ => gate.respondStatus
    have success : Granted s.log := granted (by simp [Outcome.isSuccess]; omega)
    exact gate.proceed success (.inr ⟨_, rfl⟩) (by simp [nchanSubscriberSubscribe])
      (Nat.le_refl _)
  · exact .ite (fun _ => gate.respondStatus) fun _ => gate.respondStatus

theorem Gate.authorizeCallback {answer : Outcome} (log : t.log = s.log)
    (completed : ∀ q, s.upstreamRequestmachine.outstanding q =
      t.upstreamRequestmachine.outstanding q + if .authorize = q then 1 else 0)
    (faithful : answer.isSuccess = true → outcome.isSuccess = true) :
    Gives ((t.record (.authorization outcome)).subscriberAuthorizeCallback cf type answer)
      Gate := by
  have one := completed .authorize
  have other := completed .publishUpstream
  rw [if_pos rfl] at one
  cases gate with
  | unasked _ _ idle => omega
  | answered _ _ _ _ idle => omega
  | waiting answers bookings _ running closed =>
    have idle : t.upstreamRequestmachine.outstanding .authorize = 0 := by omega
    have quiet : t.upstreamRequestmachine.outstanding .publishUpstream = 0 := by
      have := closed.publishing
      omega
    have recorded := congrArg (· ++ [.authorization outcome] ++ [.release]) log
    unfold subscriberAuthorizeCallback
    dsimp only
    split
    · refine .of_some (Gate.released outcome answers bookings closed ?_ (.inr rfl) ?_ ?_).1
      exacts [recorded, idle, quiet]
    · rename_i released aborted isReleased
      have tame : Tame _ released := release _ isReleased
      have gate := (Gate.released outcome answers bookings closed (tame.log.trans recorded)
        (.inl tame.call) (Nat.le_zero.mp (idle ▸ tame.outstanding .authorize (by decide)))
        (Nat.le_zero.mp (quiet ▸ tame.outstanding .publishUpstream (by decide)))).1
      refine .ite (fun _ => gate.authorizationAnswered fun success => ?_) fun _ => .of_some gate
      refine ⟨outcome, ?_, faithful success⟩
      simp [tame.log, record]

/-! ### Steps -/

/-- The steps that authorization covers: it is a subscriber that is authorized, the answer takes
    its time, and no message is sent over the WebSocket before. -/
def Foreseen (cf : Location) (role : Role) : Op → Session → Prop
  | .begin launch _, _ => role ≠ .websocketPublisher ∧ launch.isAtOnce = false
  | .frame (.data false), s => cf.pubWebsocket = true → Granted s.log
  | _, _ => True

instance (cf : Location) (role : Role) (op : Op) (s : Session) :
    Decidable (Foreseen cf role op s) := by
  unfold Foreseen
  split <;> infer_instance

theorem Gate.start {launch : Session.Launch} {handshake : Bool}
    (created : s.call = .created) (authorize : cf.authorizeRequestUrl = true)
    (foreseen : Foreseen cf role (.begin launch handshake) s) :
    Gives (s.start cf role launch handshake) Gate := by
  cases gate with
  | waiting _ _ asked => exact absurd created asked
  | answered _ _ _ asked => exact absurd created asked
  | unasked answers bookings idle closed =>
    cases role with
    | websocketPublisher => exact absurd rfl foreseen.1
    | subscriber type =>
      simp only [start, nchanSubscriberAuthorizeSubscribeRequest, authorize]
      cases launch with
      | failed =>
        exact .of_some (.unasked answers bookings idle ⟨closed.untouched, closed.publishing, by simp⟩)
      | atOnce outcome => exact absurd foreseen.2 (by simp [Session.Launch.isAtOnce])
      | pending =>
        have asks := outstanding_request .authorize .authorize s.upstreamRequestmachine
        have others := outstanding_request .authorize .publishUpstream
          s.upstreamRequestmachine
        rw [if_pos rfl, idle] at asks
        rw [if_neg (by decide), closed.publishing] at others
        refine .of_some (.waiting ?_ ?_ (by simp) (Nat.le_of_eq asks) ⟨?_, others, by simp⟩)
        · simp [record, reserve, nchanSubscriberSubrequest, answers]
        · simp [record, reserve, nchanSubscriberSubrequest, bookings]
        · exact closed.untouched.append (by simp)

theorem Gate.publishContinue (granted : Granted s.log) (asked : s.call ≠ .created) :
    Gate s.websocketPublishContinue :=
  gate.proceed granted (.inr ⟨_, rfl⟩) asked (Nat.le_refl _)

theorem Gate.publish (granted : Granted s.log) (asked : s.call ≠ .created) :
    Gate (s.websocketPublish cf) := by
  unfold websocketPublish
  split
  · have asks := outstanding_request .publishUpstream .authorize
      s.upstreamRequestmachine
    exact gate.proceed granted (.inl rfl) asked (Nat.le_of_eq asks)
  · exact gate.publishContinue granted asked

theorem Gate.publishUpstreamHandler (granted : Granted s.log)
    (asked : s.call ≠ .created) : Gives (s.websocketPublishUpstreamHandler cf outcome) Gate := by
  refine .seq release fun (t, aborted) tame => ?_
  have gate := gate.tame tame
  have publishes : Gate t.websocketPublishContinue :=
    gate.publishContinue (tame.log ▸ granted) (tame.call ▸ asked)
  have refused {code : Nat} : Gives (t.websocketRespondStatus cf code false) Gate :=
    made.websocketRespondStatus.mono fun _ => gate.tame
  refine .ite (fun _ => .of_some gate) fun _ => ?_
  split
  · refine .ite (fun _ => .of_some ?_) fun _ => .ite (fun _ => .of_some publishes) fun _ =>
      .ite (fun _ => .of_some gate) fun _ => refused
    split
    · exact publishes
    · exact gate
  · exact refused

theorem Gate.subrequestCallback {p : Purpose} {answer : Outcome}
    (log : t.log = s.log) (completed : ∀ q, s.upstreamRequestmachine.outstanding q =
      t.upstreamRequestmachine.outstanding q + if p = q then 1 else 0)
    (faithful : answer.isSuccess = true → outcome.isSuccess = true) :
    Gives (t.subrequestCallback cf type p outcome answer) Gate := by
  have fewer : ∀ q, t.upstreamRequestmachine.outstanding q ≤
      s.upstreamRequestmachine.outstanding q := fun q => by
    have := completed q
    omega
  have called : Gate { t with call := .callback } :=
    gate.hold ⟨log, by simp, by simp, fewer _, fewer _⟩
  unfold Session.subrequestCallback
  split
  · exact gate.authorizeCallback log completed faithful
  · have isOpen : ¬ Closed s := fun closed => by
      have := completed .publishUpstream
      rw [if_pos rfl, closed.publishing] at this
      omega
    exact called.publishUpstreamHandler (log ▸ gate.granted_of_open isOpen) (by simp)
  · exact .of_some called
  · exact .of_some called

theorem Gate.callbackReturns : Gate s.callbackReturns := by
  refine gate.hold ⟨rfl, by simp, by simp, ?_, ?_⟩
  · exact Nat.le_of_eq (outstanding_finish ..)
  · exact Nat.le_of_eq (outstanding_finish ..)

theorem Gate.subscribed (ok : Bool) : Gate (s.subscribed cf type ok) := by
  unfold Session.subscribed
  split
  · refine gate.hold ⟨rfl, id, fun _ => id, Nat.le_of_eq ?_, Nat.le_of_eq ?_⟩
    · exact outstanding_request Purpose.subscribe Purpose.authorize _
    · exact outstanding_request Purpose.subscribe Purpose.publishUpstream _
  · exact gate

theorem Gate.storeReturns {ok : Bool} :
    Gives (s.storeReturns cf type ok) Gate := by
  have gate : Gate (s.subscribed cf type ok) := gate.subscribed ok
  unfold Session.storeReturns
  split
  · exact .of_some gate.callbackReturns
  · exact .of_some (gate.hold ⟨rfl, by simp, by simp, Nat.le_refl _, Nat.le_refl _⟩)
  · exact .of_none

theorem Gate.reading {f : Session.Frame} (asked : s.call ≠ .created)
    (foreseen : Foreseen cf role (.frame f) s) : Gate (s.websocketReading cf f) := by
  have closes : Gate ((s.websocketSendCloseFrame cf).websocketReadingFinalize cf) :=
    gate.tame (made.websocketSendCloseFrame.trans made.websocketReadingFinalize)
  unfold websocketReading
  cases f with
  | control => exact gate
  | invalid => exact closes
  | close =>
    dsimp only
    split
    · exact gate.tame made.websocketReadingFinalize
    · exact closes
  | data heartbeat =>
    dsimp only
    split
    · exact closes
    · cases heartbeat with
      | true => exact gate
      | false =>
        rename_i publisher
        exact gate.publish (foreseen (by simpa using publisher)) asked

end

theorem Op.gate {op : Op} (authorize : cf.authorizeRequestUrl = true) (gate : Gate s)
    (foreseen : Foreseen cf role op s) : Gives (op.apply cf role s) Gate := by
  cases op with
  | begin launch handshake =>
    exact .guard fun created => gate.start created authorize foreseen
  | answered outcome =>
    refine .guard fun _ => .bind fun (p, machine) completed => ?_
    exact gate.subrequestCallback (t := { s with upstreamRequestmachine := machine }) rfl
      (outstanding_complete completed) id
  | orphanAnswered p outcome =>
    refine .guard fun _ => .bind fun machine completed => ?_
    exact gate.subrequestCallback (t := { s with upstreamRequestmachine := machine }) rfl
      (outstanding_completeOrphan completed) (by simp [Outcome.abort, Outcome.isSuccess])
  | returns => exact .guard fun _ => .of_some gate.callbackReturns
  | storeReturns ok => exact gate.storeReturns
  | enqueue handshake => exact .guard fun _ => Tame.enqueue.mono fun _ => gate.tame
  | message proceeds => exact .guard fun _ => respondMessage.mono fun _ => gate.tame
  | status code line => exact .guard fun _ => gate.respondStatus
  | dequeue => exact .guard fun _ => made.dequeue.mono fun _ => gate.tame
  | storeReserve => exact .guard fun _ => .of_some (gate.tame (.flags rfl rfl rfl))
  | storeRelease nodestroy =>
    exact .guard fun _ => .map fun _ released => gate.tame (release _ released)
  | published result =>
    exact .guard fun _ => publishCallback.mono fun _ tame =>
      gate.tame (tame.after_flags rfl rfl rfl)
  | frame f =>
    refine .guard fun enabled => .of_some ?_
    have idle : s.call = .idle := by
      have := enabled.2
      simp only [reading, Bool.and_eq_true, beq_iff_eq] at this
      exact this.1.1.1.1
    exact gate.reading (by simp [idle]) foreseen
  | disconnect =>
    refine .guard fun _ => .of_some ?_
    split
    · exact gate.tame made.websocketReadingFinalize
    · exact gate.tame (.flags rfl rfl rfl)
  | readable => exact .guard fun _ => .ite (fun _ => gate.respondStatus) fun _ => .of_some gate
  | cleanup => exact .guard fun _ => made.requestCleanup.mono fun _ => gate.tame
  | timer => exact .guard fun _ => .of_some (gate.tame made.websocketFinalizeRequest)
  | timeout => exact .guard fun _ => gate.respondStatus

/-! ## The gate of a publisher -/

structure PublisherGate (p : Publisher) : Prop where
  gated : Gated p.log
  fresh : p.bodyRead = false → answers p.log = [] ∧ p.subrequest = none
  asking : p.subrequest = some .authorize → answers p.log = []
  publishing : p.subrequest = some .publishUpstream →
    ∃ outcome, answers p.log = [outcome] ∧ outcome.isSuccess = true

variable {p : Publisher}

theorem PublisherGate.of_none (gated : Gated p.log) (read : p.bodyRead = true)
    (none : p.subrequest = none) : PublisherGate p :=
  ⟨gated, by simp [read], by simp [none], by simp [none]⟩

variable {r : Request}

theorem PublisherGate.continued (gated : Gated p.log) (read : p.bodyRead = true)
    (none : p.subrequest = none) (answers : answers p.log = [outcome])
    (success : outcome.isSuccess = true) :
    PublisherGate (p.nchanPublisherBodyHandlerContinued cf r) := by
  have calls (op : StoreOp) : PublisherGate (p.record (.store op)) :=
    .of_none (gated.append fun _ _ _ => ⟨outcome, answers, success⟩) read none
  unfold Publisher.nchanPublisherBodyHandlerContinued
  cases r.method with
  | get => exact calls .findChannel
  | delete => exact calls .deleteChannel
  | put | post =>
    dsimp only
    split
    · exact ⟨gated, by simp [read], by simp, fun _ => ⟨outcome, answers, success⟩⟩
    · exact calls .publish
  | options | other => exact .of_none gated read none

theorem PublisherGate.answered (gate : PublisherGate p) (asking : p.subrequest = some .authorize)
    (read : p.bodyRead = true) (outcome : Outcome) :
    PublisherGate ({ p.record (.authorization outcome) with
      subrequest := none }.nchanPublisherBodyAuthorizeHandler cf r outcome) := by
  have unanswered := gate.asking asking
  have gated : Gated (p.log ++ [.authorization outcome]) := gate.gated.append (by simp)
  have answers : answers (p.log ++ [.authorization outcome]) = [outcome] := by simp [unanswered]
  have refused : PublisherGate { p.record (.authorization outcome) with subrequest := none } :=
    .of_none gated read rfl
  unfold Publisher.nchanPublisherBodyAuthorizeHandler
  split
  · split
    · rename_i code _ inRange
      have success : (Outcome.ok code ‹_›).isSuccess = true := by simp [Outcome.isSuccess]; omega
      exact PublisherGate.continued gated read rfl answers success
    · exact refused
  · exact refused

theorem PublisherGate.upstreamAnswered (gate : PublisherGate p)
    (publishing : p.subrequest = some .publishUpstream) (read : p.bodyRead = true)
    (outcome : Outcome) :
    PublisherGate ({ p with subrequest := none }.nchanPublisherUpstreamHandler outcome) := by
  have cancelled : PublisherGate { p with subrequest := none } := .of_none gate.gated read rfl
  unfold Publisher.nchanPublisherUpstreamHandler
  split
  · split
    · exact .of_none (gate.gated.append fun _ _ _ => gate.publishing publishing) read rfl
    · exact cancelled
  · exact cancelled

theorem PublisherOp.gate {op : PublisherOp} {p' : Publisher}
    (authorize : cf.authorizeRequestUrl = true) (gate : PublisherGate p)
    (stepped : op.apply cf r p = some p') : PublisherGate p' := by
  have read {purpose : Purpose} (running : p.subrequest = some purpose) : p.bodyRead = true := by
    cases body : p.bodyRead with
    | true => rfl
    | false => simp [(gate.fresh body).2] at running
  cases op with
  | body =>
    obtain ⟨unread, stepped⟩ := ite_none_left_eq_some.mp stepped
    cases stepped
    obtain ⟨unanswered, none⟩ := gate.fresh (by simpa using unread)
    unfold Publisher.nchanPublisherBodyHandler
    simp only [authorize]
    split
    · exact .of_none gate.gated rfl none
    · exact ⟨gate.gated, by simp, fun _ => unanswered, by simp⟩
  | answered outcome =>
    unfold PublisherOp.apply at stepped
    dsimp only at stepped
    split at stepped
    · rename_i asking
      exact some.inj stepped ▸ gate.answered asking (read asking) outcome
    · rename_i publishing
      exact some.inj stepped ▸ gate.upstreamAnswered publishing (read publishing) outcome
    · cases stepped

/-! ## Exchanges -/

def Exchange.Gate : Exchange → Prop
  | .responded log => Gated log
  | .publisher p => PublisherGate p
  | .session _ s => Subscriber.Gate s

theorem Exchange.start_gate (cf : Location) (r : Request) : (Exchange.start cf r).Gate := by
  have limits : Untouched (if r.wellFormed then [.store .setGroupLimits] else []) := by
    split <;> simp [Untouched, StoreOp.onChannel]
  have unanswered : answers (if r.wellFormed then [.store .setGroupLimits] else []) = [] := by
    split <;> rfl
  have unbooked : bookings (if r.wellFormed then [.store .setGroupLimits] else []) = [] := by
    split <;> rfl
  unfold Exchange.start
  dsimp only
  split
  · exact limits.gated
  · exact ⟨limits.gated, fun _ => ⟨unanswered, rfl⟩, by simp, by simp⟩
  · exact .unasked unanswered unbooked rfl ⟨limits, rfl, by simp⟩

/-- `Foreseen` for whatever a request has become. -/
def ExchangeOp.Foreseen (cf : Location) : ExchangeOp → Exchange → Prop
  | .session op, .session role s => Subscriber.Foreseen cf role op s
  | _, _ => True

instance (cf : Location) (op : ExchangeOp) (x : Exchange) : Decidable (op.Foreseen cf x) := by
  unfold ExchangeOp.Foreseen
  split <;> infer_instance

theorem ExchangeOp.gate (authorize : cf.authorizeRequestUrl = true) (op : ExchangeOp)
    (x x' : Exchange) (gate : x.Gate) (foreseen : op.Foreseen cf x)
    (stepped : op.apply cf r x = some x') : x'.Gate := by
  unfold ExchangeOp.apply at stepped
  split at stepped
  · obtain ⟨p', applied, rfl⟩ := map_eq_some_iff.mp stepped
    exact PublisherOp.gate authorize gate applied
  · obtain ⟨s', applied, rfl⟩ := map_eq_some_iff.mp stepped
    exact Op.gate authorize gate foreseen s' applied
  · cases stepped

def Exchange.BookedOnce : Exchange → Prop
  | .session _ s => Subscriber.BookedOnce s.log
  | _ => True

/-- In every run without unforeseen steps, no channel operation reaches the store before the
    authorization subrequest has completed with a 2xx or after it has completed otherwise, and
    its reservation is taken and released once. -/
theorem authorization_gates_store {cf : Location} {r : Request} {ops : List ExchangeOp}
    {x : Exchange} (authorize : cf.authorizeRequestUrl = true)
    (foreseen : Run.Along (ExchangeOp.apply cf r) (ExchangeOp.Foreseen cf) ops (.start cf r))
    (reaches : Exchange.after cf r ops = some x) :
    Gated x.log ∧ x.BookedOnce := by
  have gate := Run.run_invariant (ExchangeOp.gate authorize) (Exchange.start_gate cf r) foreseen
    reaches
  cases x with
  | responded log => exact ⟨gate, trivial⟩
  | publisher p => exact ⟨gate.gated, trivial⟩
  | session role s => exact ⟨Gate.gated gate, Gate.bookedOnce gate⟩

def websocketLocation : Location :=
  { pubWebsocket := true, subWebsocket := true, authorizeRequestUrl := true }

def websocketRequest : Request := { method := .get, websocket := true }

def patientClient : List ExchangeOp :=
  [.session (.begin .pending true), .session (.answered (.ok 200 true)),
    .session (.enqueue true), .session (.storeReturns true), .session (.frame (.data false))]

theorem authorization_gates_store_patient : ∃ x,
    Exchange.after websocketLocation websocketRequest patientClient = some x ∧
      .store .publish ∈ x.log ∧ Gated x.log ∧ x.BookedOnce := by
  have foreseen : Run.Along (ExchangeOp.apply websocketLocation websocketRequest)
      (ExchangeOp.Foreseen websocketLocation) patientClient
      (.start websocketLocation websocketRequest) := by decide
  exact ⟨_, rfl, by decide, authorization_gates_store rfl foreseen rfl⟩

def hastyClient : List ExchangeOp :=
  [.session (.begin .pending true), .session (.frame (.data false))]

/-- Three ways past the authorization: a message sent while the subrequest is running, a
    location for publishers only, and an answer that comes before the reservation. -/
theorem authorization_passed_by :
    (∃ x, Exchange.after websocketLocation websocketRequest hastyClient = some x ∧
      ¬ Gated x.log) ∧
    (∃ x, Exchange.after { websocketLocation with subWebsocket := false } websocketRequest
        hastyClient = some x ∧ ¬ Gated x.log) ∧
    (∃ x, Exchange.after websocketLocation websocketRequest
        [.session (.begin (.atOnce (.ok 200 true)) true)] = some x ∧ ¬ x.BookedOnce) := by
  refine ⟨⟨_, rfl, fun gated => ?_⟩, ⟨_, rfl, fun gated => ?_⟩, ⟨_, rfl, fun booked => ?_⟩⟩
  · obtain ⟨outcome, answered, _⟩ := gated [.store .setGroupLimits, .reserve] .publish [] rfl rfl
    cases answered
  · obtain ⟨outcome, answered, _⟩ := gated [.store .setGroupLimits] .publish [] rfl rfl
    cases answered
  · have both := booked.2 (by decide)
    revert both
    decide

end Nchan.Subscriber
