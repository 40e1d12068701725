import Nchan.Lib.Run
import Nchan.Lib.Sequential

/-! # Subscribers and their upstream requests

One client request that has become a subscriber: the flags that its reservation, its teardown
and its upstream requests depend on, and the code of the two subscriber families that moves
them, the long-poll family and the WebSocket.

nginx, the client, the store and the upstream server are the environment.  What they do is a
label of `Op`.  A call into the store or into a callback takes several labels: `Session.call`
says which one is being executed, and only what the callee may do is possible until it returns.
A failed assertion, and any use of freed memory, is `none`.
-/

namespace Nchan.Subscriber

open Nchan.Lib

/-! ## Configuration -/

inductive SubscriberType where
  | longpoll
  | intervalpoll
  | eventsource
  | httpChunked
  | httpMultipart
  | httpRawStream
  | websocket
  deriving DecidableEq

def SubscriberType.enableSubUnsubCallbacks : SubscriberType → Bool
  | .longpoll | .intervalpoll => false
  | _ => true

inductive Role where
  | subscriber (type : SubscriberType)
  /-- `nchan_create_websocket_publisher` -/
  | websocketPublisher
  deriving DecidableEq

def Role.type : Role → SubscriberType
  | .subscriber type => type
  | .websocketPublisher => .websocket

/-- The parts of `nchan_loc_conf_t` that matter here.  Of a URL only its presence does. -/
structure Location where
  pubHttp : Bool := false
  pubWebsocket : Bool := false
  subWebsocket : Bool := false
  subEventsource : Bool := false
  subHttpChunked : Bool := false
  subHttpMultipart : Bool := false
  subPoll : Bool := false
  subHttpRawStream : Bool := false
  subLongpoll : Bool := false
  longpollMultimsg : Bool := false
  authorizeRequestUrl : Bool := false
  publisherUpstreamRequestUrl : Bool := false
  subscribeRequestUrl : Bool := false
  unsubscribeRequestUrl : Bool := false

/-! ## State -/

inductive Purpose where
  | authorize
  | publishUpstream
  | subscribe
  | unsubscribe
  deriving DecidableEq

inductive Outcome where
  /-- `NGX_OK` with a status; `proxied` when there is an `sr->upstream`. -/
  | ok (status : Nat) (proxied : Bool)
  /-- Any other `rc`. -/
  | failed (rc : Int)
  deriving DecidableEq

def Outcome.isSuccess : Outcome → Bool
  | .ok status _ => 200 ≤ status && status < 300
  | .failed _ => false

/-- `NGX_ABORT` -/
def Outcome.abort : Outcome := .failed (-6)

inductive StoreOp where
  | publish
  | subscribe
  | deleteChannel
  | findChannel
  | setGroupLimits
  deriving DecidableEq

inductive Event where
  | store (op : StoreOp)
  | authorization (outcome : Outcome)
  /-- `sub->fn->reserve` for the authorization subrequest -/
  | reserve
  /-- `sub->fn->release` for the authorization subrequest -/
  | release
  deriving DecidableEq

/-- The call that is being executed, with the labels that are possible in it. -/
inductive Call where
  /-- `sub->fn->subscribe` has not been called yet. -/
  | created
  | idle
  | callback
  /-- `subscribe` of the storage engine, called from a callback or directly. -/
  | subscribing (fromCallback : Bool)
  /-- The worker has failed the assertion of `release`. -/
  | aborted
  deriving DecidableEq

structure Session where
  /-- `status` is not `DEAD`. -/
  alive : Bool := true
  reserved : Nat := 0
  enqueued : Bool := false
  awaitingDestruction : Bool := false
  freed : Bool := false
  /-- `finalize_request` of the long-poll family -/
  finalizeRequest : Bool := true
  shookHands : Bool := false
  holding : Bool := false
  /-- `multimsg_first` is set. -/
  gathered : Bool := false
  sentCloseFrame : Bool := false
  closingTimer : Bool := false
  /-- `fsub->cln` of the WebSocket still points to its cleanup. -/
  cln : Bool := true
  /-- `ctx->sub` is the subscriber. -/
  ctxSub : Bool := true
  sentUnsubscribeRequest : Bool := false
  /-- nginx will call `sudden_abort_handler` when it frees the request. -/
  abortHandler : Bool := true
  finalized : Bool := false
  requestFreed : Bool := false
  publishing : Nat := 0
  upstreamRequestmachine : Sequential Purpose := {}
  call : Call := .created
  log : List Event := []

namespace Session

variable (cf : Location) (type : SubscriberType)

def record (e : Event) (s : Session) : Session := { s with log := s.log ++ [e] }

/-! ## Subrequests -/

def nchanSubscriberSubrequest (p : Purpose) (s : Session) : Session :=
  { s with upstreamRequestmachine := s.upstreamRequestmachine.request p }

def nchanSubscriberSubrequestCleanup (s : Session) : Session :=
  { s with upstreamRequestmachine := s.upstreamRequestmachine.abort }

def nchanSubscriberUnsubscribeRequest (s : Session) : Session :=
  if !type.enableSubUnsubCallbacks then s
  else if s.sentUnsubscribeRequest then s
  else { s with sentUnsubscribeRequest := true }.nchanSubscriberSubrequest .unsubscribe

/-! ## Destruction and reservations -/

def longpollSubscriberDestroy (s : Session) : Option Session :=
  if 0 < s.reserved then some { s with awaitingDestruction := true }
  else if s.alive then none
  else some { s.nchanSubscriberSubrequestCleanup with freed := true }

def websocketSubscriberDestroy (s : Session) : Session :=
  let s := { s with ctxSub := s.ctxSub && s.awaitingDestruction }
  if 0 < s.reserved then { s with awaitingDestruction := true, alive := false }
  else { s.nchanSubscriberSubrequestCleanup with closingTimer := false, freed := true }

def destroy (s : Session) : Option Session :=
  match type with
  | .websocket => some s.websocketSubscriberDestroy
  | _ => s.longpollSubscriberDestroy

/-- `longpoll_reserve` and `websocket_reserve` -/
def reserve (s : Session) : Session := { s with holding := true, reserved := s.reserved + 1 }

/-- `longpoll_release` and `websocket_release`; the flag is the `NGX_ABORT` of a release that
    destroys the subscriber. -/
def release (nodestroy : Bool) (s : Session) : Option (Session × Bool) :=
  if s.reserved = 0 then none
  else
    let s := { s with reserved := s.reserved - 1 }
    if !nodestroy && s.awaitingDestruction && s.reserved == 0 then
      (s.destroy type).map fun s => (s, true)
    else some (s, false)

/-! ## Enqueueing and dequeueing -/

/-- The `enqueue` of the long-poll family.  All but the polling types send their headers. -/
def longpollEnqueue (s : Session) : Option Session :=
  if s.enqueued then none
  else
    match type with
    | .longpoll | .intervalpoll =>
      some { s with finalizeRequest := true, enqueued := true, holding := true }
    | _ =>
      some { s with finalizeRequest := false, enqueued := true, holding := true, shookHands := true }

/-- `ensure_handshake`.  A handshake that fails has sent its error and finalized the request. -/
def ensureHandshake (succeeds : Bool) (s : Session) : Session :=
  if s.shookHands then s
  else if succeeds then { s with holding := true, shookHands := true }
  else { s with holding := true, finalized := true }

def websocketEnqueue (handshake : Bool) (s : Session) : Session :=
  let s := s.ensureHandshake handshake
  { s with enqueued := s.enqueued || s.shookHands }

def enqueue (handshake : Bool) (s : Session) : Option Session :=
  match type with
  | .websocket => some (s.websocketEnqueue handshake)
  | _ => s.longpollEnqueue type

/-- The unsubscribe request of a subscriber that is about to be dequeued. -/
def announceLeaving (s : Session) : Session :=
  if cf.unsubscribeRequestUrl && s.enqueued then s.nchanSubscriberUnsubscribeRequest type else s

def longpollDequeue (s : Session) : Option Session :=
  let s := s.announceLeaving cf type
  -- the request is finalized, and the subscriber dead, if `finalize_request` says so
  { s with
    enqueued := false
    ctxSub := false
    finalized := s.finalized || s.finalizeRequest
    alive := s.alive && !s.finalizeRequest }.longpollSubscriberDestroy

/-- The timer of a close frame sent here is deleted with the others. -/
def websocketDequeue (s : Session) : Session :=
  { s with
    enqueued := false
    sentCloseFrame := s.sentCloseFrame || s.shookHands
    closingTimer := false }.websocketSubscriberDestroy

def dequeue (s : Session) : Option Session :=
  match type with
  | .websocket => some s.websocketDequeue
  | _ => s.longpollDequeue cf type

/-- The subscriber dies and its request is finalized, with all subrequests given up. -/
def shutDown (s : Session) : Session :=
  { s.nchanSubscriberSubrequestCleanup with alive := false, finalized := true }

/-- The cleanup handler is emptied, if the WebSocket still has it. -/
def disarm (s : Session) : Session := { s with abortHandler := s.abortHandler && !s.cln }

def websocketFinalizeRequest (s : Session) : Session :=
  let s := (s.disarm.announceLeaving cf .websocket).shutDown
  if s.enqueued then s.websocketDequeue else s

def websocketSendCloseFrame (s : Session) : Session :=
  if s.sentCloseFrame then s.websocketFinalizeRequest cf
  else { s with sentCloseFrame := true, closingTimer := true }

/-- `websocket_reading_finalize` -/
def websocketReadingFinalize (s : Session) : Session :=
  if s.ctxSub then { s with closingTimer := false }.websocketFinalizeRequest cf else s

/-! ## Responses -/

/-- Statuses that no subscriber reacts to. -/
def ignored (code : Nat) (line : Bool) : Bool := code == 204 || (code == 304 && !line)

/-- The abort handler is disabled, the response sent and the subscriber dequeued. -/
def respondAndDequeue (s : Session) : Option Session :=
  { s with abortHandler := false }.longpollDequeue cf type

def longpollRespondStatus (code : Nat) (line : Bool) (s : Session) : Option Session :=
  if type = .intervalpoll then s.respondAndDequeue cf type
  else if ignored code line then
    if cf.longpollMultimsg && s.gathered then s.respondAndDequeue cf type else some s
  else s.respondAndDequeue cf type

def subscriberRespondUnqueuedStatus (s : Session) : Option Session :=
  let s := { s with abortHandler := false, finalizeRequest := false, alive := false }
  -- a request that was never queued is marked as if its unsubscribe request were sent
  let lie := cf.unsubscribeRequestUrl || cf.subscribeRequestUrl
  (s.longpollDequeue cf type).map fun s =>
    let sent := s.sentUnsubscribeRequest || lie
    { s with sentUnsubscribeRequest := sent, finalized := true }

/-- Whether a status ends a stream.  EventSource leaves out 599. -/
def endsStream (code : Nat) : Bool :=
  (400 ≤ code && code < if type = .eventsource then 599 else 600) || code == 304

/-- `es_respond_status`, `chunked_respond_status`, `multipart_respond_status` and
    `rawstream_respond_status`; the last sends no headers. -/
def streamRespondStatus (code : Nat) (line : Bool) (s : Session) : Option Session :=
  if ignored code line then some s
  else if !s.shookHands && 400 ≤ code && code < 600 then
    s.subscriberRespondUnqueuedStatus cf type
  else
    let s := { s with shookHands := s.shookHands || type ≠ .httpRawStream }
    if endsStream type code then
      { s with abortHandler := false, finalizeRequest := true }.longpollDequeue cf type
    else some s

def websocketRespondStatus (code : Nat) (line : Bool) (s : Session) : Option Session :=
  if ignored code line then some s
  else if !s.shookHands then some { s with cln := false, finalized := true }
  else if (400 ≤ code && code < 600) || code == 304 then some (s.websocketSendCloseFrame cf)
  else none

def respondStatus (code : Nat) (line : Bool) (s : Session) : Option Session :=
  match type with
  | .longpoll | .intervalpoll => s.longpollRespondStatus cf type code line
  | .websocket => s.websocketRespondStatus cf code line
  | _ => s.streamRespondStatus cf type code line

/-- `respond_message`.  It `proceeds` when a WebSocket's handshake succeeds, and when there is
    anything to put into a chunk or a raw stream. -/
def respondMessage (proceeds : Bool) (s : Session) : Option Session :=
  match type with
  | .longpoll | .intervalpoll =>
    if cf.longpollMultimsg then some { s with gathered := true }
    else s.respondAndDequeue cf type
  | .websocket => some (s.ensureHandshake proceeds)
  | .eventsource | .httpMultipart => some { s with shookHands := true }
  | .httpChunked | .httpRawStream => some { s with shookHands := s.shookHands || proceeds }

/-! ## Publishing over a WebSocket -/

def websocketPublishContinue (s : Session) : Session :=
  { s.reserve.record (.store .publish) with publishing := s.publishing + 1 }

def websocketPublish (s : Session) : Session :=
  if cf.publisherUpstreamRequestUrl then s.reserve.nchanSubscriberSubrequest .publishUpstream
  else s.websocketPublishContinue

def websocketPublishUpstreamHandler (outcome : Outcome) (s : Session) : Option Session :=
  (s.release .websocket false).bind fun (s, destroyed) =>
    if destroyed || outcome == .abort then some s
    else
      match outcome with
      | .ok code proxied =>
        if code = 200 ∨ code = 201 ∨ code = 202 then
          some (if proxied then s.websocketPublishContinue else s)
        else if code = 304 then some s.websocketPublishContinue
        else if code = 204 then some s
        else s.websocketRespondStatus cf 403 false
      | .failed _ => s.websocketRespondStatus cf 500 false

inductive PublishStatus where
  | accepted
  | insufficientStorage
  | internalServerError
  | other

def websocketPublishCallback (status : PublishStatus) (s : Session) : Option Session :=
  (s.release .websocket false).bind fun (s, destroyed) =>
    if destroyed || !s.alive then some s
    else
      match status with
      | .accepted | .other => some s
      | .insufficientStorage => s.websocketRespondStatus cf 507 false
      | .internalServerError => s.websocketRespondStatus cf 500 false

/-- What a client's frame is to `websocket_reading`. -/
inductive Frame where
  | control
  /-- A complete text or binary frame with a valid payload. -/
  | data (heartbeat : Bool)
  | close
  /-- Anything that breaks the protocol. -/
  | invalid

def websocketReading (f : Frame) (s : Session) : Session :=
  match f with
  | .control => s
  | .data heartbeat =>
    if !cf.pubWebsocket then (s.websocketSendCloseFrame cf).websocketReadingFinalize cf
    else if heartbeat then s
    else s.websocketPublish cf
  | .close =>
    (if s.sentCloseFrame then s else s.websocketSendCloseFrame cf).websocketReadingFinalize cf
  | .invalid => (s.websocketSendCloseFrame cf).websocketReadingFinalize cf

/-! ## Subscribing -/

/-- `nchan_subscriber_subscribe` up to the call of the storage engine. -/
def nchanSubscriberSubscribe (fromCallback : Bool) (s : Session) : Session :=
  { s.record (.store .subscribe) with call := .subscribing fromCallback }

/-- The rest of `nchan_subscriber_subscribe`. -/
def subscribed (ok : Bool) (s : Session) : Session :=
  if ok && type.enableSubUnsubCallbacks && cf.subscribeRequestUrl && s.ctxSub then
    s.nchanSubscriberSubrequest .subscribe
  else s

/-- What `subscriber_authorize_callback` does once the subscriber is released. -/
def authorizationAnswered (outcome : Outcome) (s : Session) : Option Session :=
  match outcome with
  | .ok code proxied =>
    if 200 ≤ code ∧ code < 299 then some (s.nchanSubscriberSubscribe true)
    -- the response is copied from `sr->upstream`
    else if proxied then s.respondStatus cf type code false
    else none
  | .failed rc =>
    if 500 ≤ rc ∧ rc < 600 then s.respondStatus cf type rc.toNat false
    else s.respondStatus cf type 500 false

def subscriberAuthorizeCallback (outcome : Outcome) (s : Session) : Option Session :=
  let s := { s.record .release with call := .callback }
  match s.release type s.alive with
  | none => some { s with call := .aborted }
  | some (released, _) =>
    if s.alive then released.authorizationAnswered cf type outcome else some released

inductive Launch where
  | failed
  | pending
  | atOnce (outcome : Outcome)

def Launch.isAtOnce : Launch → Bool
  | .atOnce _ => true
  | _ => false

/-- `nchan_subscriber_authorize_subscribe_request`.  The subrequest is launched first and the
    subscriber reserved afterwards. -/
def nchanSubscriberAuthorizeSubscribeRequest (launch : Launch) (s : Session) : Option Session :=
  if !cf.authorizeRequestUrl then some (s.nchanSubscriberSubscribe false)
  else
    match launch with
    | .failed => some { s with finalized := true, call := .idle }
    | .pending =>
      some { (s.nchanSubscriberSubrequest .authorize).reserve.record .reserve with call := .idle }
    -- the release in the callback fails, so that the reservation is never reached
    | .atOnce outcome =>
      (s.record (.authorization outcome)).subscriberAuthorizeCallback cf type outcome

/-- A subrequest's callback returns to `nchan_requestmachine_subrequest_handler`. -/
@[simp] def callbackReturns (s : Session) : Session :=
  { s with upstreamRequestmachine := s.upstreamRequestmachine.finish, call := .idle }

/-- The storage engine's `subscribe` returns to where it was called from. -/
def storeReturns (ok : Bool) (s : Session) : Option Session :=
  match s.call with
  | .subscribing true => some (s.subscribed cf type ok).callbackReturns
  -- the handler answers an error with a status of its own
  | .subscribing false =>
    some { s.subscribed cf type ok with call := .idle, finalized := s.finalized || !ok }
  | _ => none

def subrequestCallback (p : Purpose) (outcome answer : Outcome) (s : Session) : Option Session :=
  match p with
  | .authorize =>
    (s.record (.authorization outcome)).subscriberAuthorizeCallback cf type answer
  | .publishUpstream =>
    { s with call := .callback }.websocketPublishUpstreamHandler cf answer
  | .subscribe | .unsubscribe => some { s with call := .callback }

def requestCleanup (s : Session) : Option Session :=
  let s := { s with finalized := true, requestFreed := true }
  if !s.abortHandler then some s
  else if s.freed then none
  else
    match type with
    | .websocket => some { s with abortHandler := false }.websocketDequeue
    | _ => { s with abortHandler := false, alive := false }.longpollDequeue cf type

end Session

/-! ## Steps -/

open Session (Launch Frame PublishStatus)

inductive Op where
  /-- The request's handler runs; `handshake` is how that of a publisher ends. -/
  | begin (launch : Launch) (handshake : Bool)
  | answered (outcome : Outcome)
  /-- A subrequest completes whose machine was shut down. -/
  | orphanAnswered (p : Purpose) (outcome : Outcome)
  | returns
  /-- `subscribe` of the storage engine returns, with `NGX_OK` or not. -/
  | storeReturns (ok : Bool)
  | enqueue (handshake : Bool)
  | message (proceeds : Bool)
  | status (code : Nat) (line : Bool)
  | dequeue
  | storeReserve
  | storeRelease (nodestroy : Bool)
  | published (result : PublishStatus)
  | frame (f : Frame)
  /-- A WebSocket's client disconnects, or its connection fails. -/
  | disconnect
  /-- The client of another subscriber sends something. -/
  | readable
  /-- nginx frees the request: other clients disconnect this way. -/
  | cleanup
  /-- The closing timer of a WebSocket, or its ping timer without a pong. -/
  | timer
  | timeout

namespace Session

def inStore (s : Session) : Bool :=
  !s.freed &&
    match s.call with
    | .subscribing _ => true
    | .idle => decide (.store .subscribe ∈ s.log)
    | _ => false

def reading (s : Session) : Bool :=
  s.call == .idle && s.holding && !s.finalized && !s.requestFreed

/-- `sub->fn->subscribe`, or the enqueueing of a publisher. -/
def start (cf : Location) (role : Role) (launch : Launch) (handshake : Bool) (s : Session) :
    Option Session :=
  match role with
  | .subscriber type => s.nchanSubscriberAuthorizeSubscribeRequest cf type launch
  | .websocketPublisher => some { s.websocketEnqueue handshake with call := .idle }

end Session

/-- One step; `none` when it is not possible, or when the worker aborts in it. -/
def Op.apply (cf : Location) (role : Role) (op : Op) (s : Session) : Option Session :=
  match op with
  | .begin launch handshake =>
    if s.call = .created then s.start cf role launch handshake else none
  | .answered outcome =>
    if s.call = .idle then
      s.upstreamRequestmachine.complete.bind fun (p, machine) =>
        { s with upstreamRequestmachine := machine }.subrequestCallback cf role.type p
          outcome outcome
    else none
  | .orphanAnswered p outcome =>
    if s.call = .idle ∧ (s.freed = true → p = .subscribe ∨ p = .unsubscribe) then
      (s.upstreamRequestmachine.completeOrphan p).bind fun machine =>
        { s with upstreamRequestmachine := machine }.subrequestCallback cf role.type p
          outcome .abort
    else none
  | .returns => if s.call = .callback then some s.callbackReturns else none
  | .storeReturns ok => s.storeReturns cf role.type ok
  | .enqueue handshake =>
    if s.inStore && s.alive && !s.awaitingDestruction then s.enqueue role.type handshake else none
  | .message proceeds => if s.inStore then s.respondMessage cf role.type proceeds else none
  | .status code line => if s.inStore then s.respondStatus cf role.type code line else none
  | .dequeue => if s.inStore then s.dequeue cf role.type else none
  | .storeReserve => if s.inStore then some s.reserve else none
  | .storeRelease nodestroy =>
    if s.inStore then (s.release role.type nodestroy).map Prod.fst else none
  | .published result =>
    if s.call = .idle ∧ 0 < s.publishing then
      { s with publishing := s.publishing - 1 }.websocketPublishCallback cf result
    else none
  | .frame f =>
    if role.type = .websocket ∧ s.reading && s.ctxSub then some (s.websocketReading cf f) else none
  | .disconnect =>
    if role.type = .websocket ∧ s.reading then
      some (if s.ctxSub then s.websocketReadingFinalize cf else { s with finalized := true })
    else none
  | .readable =>
    if role.type ≠ .websocket ∧ s.reading then
      if s.ctxSub then s.respondStatus cf role.type 400 true else some s
    else none
  | .cleanup =>
    if (s.call = .idle ∨ s.finalized) ∧ s.call ≠ .created ∧ s.call ≠ .aborted ∧ !s.requestFreed then
      s.requestCleanup cf role.type
    else none
  | .timer =>
    if role.type = .websocket ∧ s.call = .idle ∧ !s.freed ∧ (s.closingTimer ∨ s.enqueued) then
      some (s.websocketFinalizeRequest cf)
    else none
  | .timeout =>
    if s.call = .idle ∧ !s.freed ∧ s.enqueued then s.respondStatus cf role.type 408 true else none

end Nchan.Subscriber
