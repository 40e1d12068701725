import Nchan.Subscriber.Session

/-! # From a request to what it becomes

`nchan_pubsub_handler` decides what a request at a location is: one that is answered at once, an
HTTP publisher, or a `Session`.  The publisher has its authorization subrequest to itself, the
sessions have theirs in the queue of the subscriber.
-/

namespace Nchan.Subscriber

open Nchan.Lib

inductive Method where
  | get
  | put
  | post
  | delete
  | options
  | other
  deriving DecidableEq

/-- A request, with what the handler's checks find out about it. -/
structure Request where
  method : Method
  clientClosed : Bool := false
  originMatches : Bool := true
  msgIdValid : Bool := true
  groupLimitsValid : Bool := true
  storeReady : Bool := true
  messageBufferConfigValid : Bool := true
  pubChannelId : Bool := true
  subChannelId : Bool := true
  /-- `nchan_detect_websocket_request`, which looks at the method itself; the others likewise. -/
  websocket : Bool := false
  eventsource : Bool := false
  chunked : Bool := false
  multipart : Bool := false

inductive Route where
  | responded
  | httpPublisher
  | session (role : Role)

/-- The subscriber that a plain `GET` becomes. -/
def subscriberFor (cf : Location) (r : Request) : Option SubscriberType :=
  if cf.subEventsource && r.eventsource then some .eventsource
  else if cf.subHttpChunked && r.chunked then some .httpChunked
  else if cf.subHttpMultipart && r.multipart then some .httpMultipart
  else if cf.subPoll then some .intervalpoll
  else if cf.subHttpRawStream then some .httpRawStream
  else if cf.subLongpoll then some .longpoll
  else none

/-- The checks before the group limits are handed to the store. -/
def Request.wellFormed (r : Request) : Bool :=
  !r.clientClosed && r.originMatches && r.msgIdValid && r.groupLimitsValid

def httpPublisherIf (permitted : Bool) : Route := if permitted then .httpPublisher else .responded

def subscriberIf (r : Request) (type : SubscriberType) : Route :=
  if r.subChannelId then .session (.subscriber type) else .responded

def nchanPubsubHandler (cf : Location) (r : Request) : Route :=
  if !r.wellFormed || !r.storeReady then .responded
  else if (cf.pubWebsocket || cf.pubHttp) && !r.messageBufferConfigValid then .responded
  else if r.websocket then
    if cf.subWebsocket then subscriberIf r .websocket
    else if cf.pubWebsocket then .session .websocketPublisher
    else .responded
  else
    match r.method with
    | .get =>
      match subscriberFor cf r with
      | some type => subscriberIf r type
      | none => httpPublisherIf cf.pubHttp
    | .put | .post | .delete => httpPublisherIf cf.pubHttp
    | .options | .other => .responded

/-! ## HTTP publishers -/

structure Publisher where
  bodyRead : Bool := false
  subrequest : Option Purpose := none
  log : List Event

namespace Publisher

variable (cf : Location) (r : Request)

def record (e : Event) (p : Publisher) : Publisher := { p with log := p.log ++ [e] }

def nchanPublisherBodyHandlerContinued (p : Publisher) : Publisher :=
  match r.method with
  | .get => p.record (.store .findChannel)
  | .put | .post =>
    if cf.publisherUpstreamRequestUrl then { p with subrequest := some .publishUpstream }
    else p.record (.store .publish)
  | .delete => p.record (.store .deleteChannel)
  | .options | .other => p

def nchanPublisherBodyHandler (p : Publisher) : Publisher :=
  if !r.pubChannelId then p
  else if !cf.authorizeRequestUrl then p.nchanPublisherBodyHandlerContinued cf r
  else { p with subrequest := some .authorize }

def nchanPublisherBodyAuthorizeHandler (outcome : Outcome) (p : Publisher) : Publisher :=
  match outcome with
  | .ok code _ =>
    if 200 ≤ code ∧ code < 299 then p.nchanPublisherBodyHandlerContinued cf r else p
  | .failed _ => p

def nchanPublisherUpstreamHandler (outcome : Outcome) (p : Publisher) : Publisher :=
  match outcome with
  | .ok code _ =>
    if code = 200 ∨ code = 201 ∨ code = 202 ∨ code = 304 then p.record (.store .publish) else p
  | .failed _ => p

end Publisher

inductive PublisherOp where
  | body
  | answered (outcome : Outcome)

def PublisherOp.apply (cf : Location) (r : Request) (op : PublisherOp) (p : Publisher) :
    Option Publisher :=
  match op with
  | .body =>
    if p.bodyRead then none
    else some ({ p with bodyRead := true }.nchanPublisherBodyHandler cf r)
  | .answered outcome =>
    match p.subrequest with
    | some .authorize =>
      some ({ p.record (.authorization outcome) with
        subrequest := none }.nchanPublisherBodyAuthorizeHandler cf r outcome)
    | some .publishUpstream =>
      some ({ p with subrequest := none }.nchanPublisherUpstreamHandler outcome)
    | _ => none

/-! ## Exchanges -/

inductive Exchange where
  | responded (log : List Event)
  | publisher (p : Publisher)
  | session (role : Role) (s : Session)

def Exchange.log : Exchange → List Event
  | .responded log => log
  | .publisher p => p.log
  | .session _ s => s.log

def Exchange.start (cf : Location) (r : Request) : Exchange :=
  let log := if r.wellFormed then [.store .setGroupLimits] else []
  match nchanPubsubHandler cf r with
  | .responded => .responded log
  | .httpPublisher => .publisher { log }
  | .session role => .session role { log }

inductive ExchangeOp where
  | publisher (op : PublisherOp)
  | session (op : Op)

def ExchangeOp.apply (cf : Location) (r : Request) (op : ExchangeOp) (x : Exchange) :
    Option Exchange :=
  match op, x with
  | .publisher op, .publisher p => (op.apply cf r p).map .publisher
  | .session op, .session role s => (op.apply cf role s).map (.session role)
  | _, _ => none

/-- Where the steps `ops` take a request. -/
def Exchange.after (cf : Location) (r : Request) (ops : List ExchangeOp) : Option Exchange :=
  Run.run (ExchangeOp.apply cf r) ops (.start cf r)

end Nchan.Subscriber
