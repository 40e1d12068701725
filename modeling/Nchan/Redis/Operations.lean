import Nchan.Redis.Chanheads
import Nchan.Redis.NodesetReady

/-! # Operations of the Redis store

Publishing, getting a message, finding and deleting a channel are commands for the node of the
channel, with a callback of the caller that is called at the end.  An operation may have to wait
until its nodeset is ready again, and the caller may be gone by then.  What the nodeset looks like
at each point, and what Redis answers, is decided by the environment.  The record of an operation
counts what became of it: the calls of the callback, and the releases of a shared message.
-/

namespace Nchan.Redis

open Nchan.Lib Option Run

/-! ## Replies -/

/-- `redisReply`. -/
inductive Reply where
  | status (str : Text)
  | error (str : Text)
  | integer (n : Int)
  | nil
  | string (str : Text)
  | array (elements : List Reply)

/-- The parts of `nchan_channel_t` that are set from replies. -/
structure ChannelInfo where
  lastSeen : Int
  subscribers : Int
  /-- There is none if its text could not be parsed. -/
  lastPublishedMsgId : Option MsgId
  messages : Int

/-- A message as `get_message` returns it. -/
structure RedisMessage where
  ttl : Int
  time : Int
  tag : Int
  prevTime : Int
  prevTag : Int
  body : Text
  contentType : Option Text
  eventsourceEvent : Option Text
  compression : Option Int

inductive Fault where
  | missingNode
  | elementsEnd
  | ttlAssertion
  | freedMemory
  deriving DecidableEq

/-- `NGX_OK`, `NGX_DECLINED` and `NGX_ERROR` of `redis_array_to_channel`. -/
inductive ChannelReply where
  | channel (c : ChannelInfo)
  | notFound
  | invalid

/-- `atol`. -/
def atol (text : Text) : Int :=
  match text.dropWhile Char.isWhitespace with
  | '-' :: digits => -(Nat.ofDigitChars 10 (digits.takeWhile Char.isDigit) 0 : Int)
  | '+' :: digits => Nat.ofDigitChars 10 (digits.takeWhile Char.isDigit) 0
  | digits => Nat.ofDigitChars 10 (digits.takeWhile Char.isDigit) 0

namespace Reply

/-- `redisReply_to_ngx_int`.  A text that is not a number is read as `NGX_ERROR`. -/
def toNgxInt : Reply → Option Int
  | .integer n => some n
  | .string str => some ((MsgId.ngxAtoi str).elim (-1) Int.ofNat)
  | _ => none

/-- `redisReply_to_int`, with 0 for everything that is not a number. -/
def toInt : Reply → Int
  | .integer n => n
  | .string str => atol str
  | _ => 0

/-- `redis_array_to_channel`. -/
def toChannel : Reply → ChannelReply
  | .array (.integer _ :: .integer lastSeen :: .integer subscribers :: .string msgid ::
      .integer messages :: rest) =>
    .channel {
      lastSeen := lastSeen
      subscribers := subscribers
      lastPublishedMsgId :=
        if msgid = [] then some .oldest
        else
          match MsgId.oldest.parseCompoundMsgid msgid 1 with
          | .ok id => some id
          | _ => none
      -- queued messages
      messages :=
        match rest with
        | .integer queued :: _ => queued
        | _ => messages }
  | .nil => .notFound
  | _ => .invalid

/-- `msg_from_redis_get_message_reply`, with the elements after the result code.  The number of
    elements is checked as if there were no compression, and then compared with the same number
    again before the compression is read. -/
def toMessage : List Reply → Except Fault (Option RedisMessage)
  | .integer ttl :: time :: tag :: prevTime :: prevTag :: .string body :: .string contentType ::
      .string eventsourceEvent :: rest =>
    match time.toNgxInt, tag.toNgxInt, prevTime.toNgxInt, prevTag.toNgxInt with
    | some time, some tag, some prevTime, some prevTag =>
      if ttl < 0 then .error .ttlAssertion
      else
        match rest with
        | [] => .error .elementsEnd
        | compression :: _ => .ok (compression.toNgxInt.map fun compression => {
            -- less than a second left: give it a second
            ttl := if ttl = 0 then 1 else ttl
            time := time
            tag := tag.bmod (2 ^ 16)
            prevTime := prevTime
            prevTag := prevTag.bmod (2 ^ 16)
            body := body
            contentType := if contentType = [] then none else some contentType
            eventsourceEvent := if eventsourceEvent = [] then none else some eventsourceEvent
            compression := if compression = -1 ∨ compression = 0 then none else some compression })
    | _, _, _, _ => .ok none
  | _ => .ok none

/-- `nodeset_node_reply_keyslot_ok`, as far as the reply is concerned. -/
def keyslotOk : Option Reply → Bool
  | some (.error str) =>
    !("ERR Error running script".toList.isPrefixOf str &&
        decide ("Lua script attempted to access a non local key in a cluster node".toList <:+: str)
      || "ERR Script attempted to access a non local key in a cluster node".toList.isPrefixOf str
      || "MOVED ".toList.isPrefixOf str || "ASK ".toList.isPrefixOf str)
  | _ => true

end Reply

/-! ## Operations -/

inductive StoreRequest where
  | findChannel
  | deleteChannel
  | getMessage
  /-- A message in shared memory is reserved until it is published. -/
  | publish (shared : Bool)
  deriving DecidableEq

def StoreRequest.shared : StoreRequest → Bool
  | .publish shared => shared
  | _ => false

inductive StoreAnswer where
  | ok (channel : Option ChannelInfo)
  | error
  | msgFound (msg : RedisMessage)
  | msgNotfound
  | msgExpired
  | msgExpected
  | messageReceived (channel : ChannelInfo)
  | messageQueued (channel : ChannelInfo)
  | internalServerError
  | serviceUnavailable

structure StoreSettings where
  storageMode : StorageMode
  nostoreFastpublish : Bool
  retryCommands : Bool

/-- The callbacks that were given to hiredis with a command: that of the operation, and those for
    what is sent without storing anything. -/
inductive ReplyCallback where
  | operation
  | queuedCheck
  | nostore
  deriving DecidableEq

structure Operation where
  settings : StoreSettings
  chid : Bytes
  request : StoreRequest
  /-- The id was copied by `CREATE_CALLBACK_DATA`. -/
  idCopied : Bool
  /-- The id and the message that the caller has passed are gone. -/
  callerGone : Bool
  retry : Nat
  clusterMoveError : Bool
  awaited : List ReplyCallback
  /-- It is one of the `onready_callbacks`. -/
  waiting : Bool
  called : List StoreAnswer
  released : Nat
  fault : Option Fault

/-- The nodeset, and which of its connections are about to be closed.  These take no commands any
    more, but their nodes do not know it yet. -/
structure Surroundings where
  nodeset : Nodeset
  closing : Nat → Bool

/-- `nodeset_ready`. -/
def Surroundings.ready (env : Surroundings) : Bool := env.nodeset.status = .ready

/-- `REDIS_NODESET_NOT_READY_MAX_RETRIES`. -/
abbrev nodesetNotReadyMaxRetries : Nat := 2

namespace Operation

def finish (answer : StoreAnswer) (o : Operation) : Operation :=
  { o with called := o.called ++ [answer] }

def crash (fault : Fault) (o : Operation) : Operation := { o with fault := some fault }

def wait (o : Operation) : Operation := { o with waiting := true }

/-- `msg_release`, for a shared message. -/
def release (o : Operation) : Operation :=
  if o.request.shared then { o with released := o.released + 1 } else o

/-! ### Sending -/

/-- `redis_command`.  What is not sent is only logged. -/
def redisCommand (env : Surroundings) (node : Nat) (callback : Option ReplyCallback)
    (o : Operation) : Operation :=
  if NodeState.code .ready ≤ (env.nodeset.node node).state.code ∧ ¬ env.closing node then
    { o with awaited := o.awaited ++ callback.toList }
  else o

/-- The id, or a message that was not reserved, is not there any more. -/
def dangling (o : Operation) : Bool := o.callerGone && (!o.idCopied || o.request = .publish false)

/-- The id is used to find the node, and the node without having been checked, first by
    `node_command_time_start`. -/
def onNode (env : Surroundings) (command : Nat → Operation → Operation) (o : Operation) :
    Operation :=
  if o.dangling then o.crash .freedMemory
  else
    match env.nodeset.nodeFindByChannelId o.chid with
    | none => o.crash .missingNode
    | some node => command node o

/-- `redis_publish_message_nodeset_maybe_retry`. -/
def publishMessageNodesetMaybeRetry (onReady : Operation → Operation) (o : Operation) :
    Operation :=
  if o.retry < nodesetNotReadyMaxRetries then onReady { o with retry := o.retry + 1 }
  else o.finish .serviceUnavailable

/-- The commands of `redis_publish_message_send`. -/
def publishCommands (env : Surroundings) (node : Nat) (o : Operation) : Operation :=
  if o.settings.storageMode = .distributedNostore then
    if o.settings.nostoreFastpublish then o.redisCommand env node (some .nostore)
    else
      -- MULTI, PUBLISH, the script and EXEC
      (((o.redisCommand env node none).redisCommand env node (some .queuedCheck)).redisCommand
        env node (some .queuedCheck)).redisCommand env node (some .nostore)
  else o.redisCommand env node (some .operation)

/-- `nchan_store_find_channel_send`, `nchan_store_delete_channel_send`,
    `nchan_store_async_get_message_send` and `redis_publish_message_send`. -/
def send (env : Surroundings) (o : Operation) : Operation :=
  match o.request with
  | .findChannel | .deleteChannel =>
    if env.ready then o.onNode env fun node o => o.redisCommand env node (some .operation)
    -- the callback has no node then, and begins with `node_command_time_finish`
    else o.crash .missingNode
  | .getMessage =>
    if env.ready then o.onNode env fun node o => o.redisCommand env node (some .operation)
    -- freed
    else o
  | .publish _ =>
    if env.ready then o.onNode env fun node o => o.publishCommands env node
    else o.publishMessageNodesetMaybeRetry wait

/-- `nodeset_callback_on_ready`. -/
def callbackOnReady (env : Surroundings) (o : Operation) : Operation :=
  if env.ready then o.send env else o.wait

/-! ### Replies -/

/-- A keyslot error, and commands may be sent again. -/
def keyslotRetry (reply : Option Reply) (o : Operation) : Bool :=
  !Reply.keyslotOk reply && o.settings.retryCommands

/-- `redisChannelInfoCallback`. -/
def channelInfoCallback (reply : Option Reply) (o : Operation) : Operation :=
  o.finish <|
    match reply.map Reply.toChannel with
    | some (.channel c) => .ok (some c)
    | some .notFound => .ok none
    | some .invalid | none => .error

/-- `redisChannelFindCallback` and `redisChannelDeleteCallback`. -/
def channelCallback (reply : Option Reply) (env : Surroundings) (o : Operation) : Operation :=
  if o.keyslotRetry reply then o.callbackOnReady env else o.channelInfoCallback reply

/-- `redis_get_message_callback`. -/
def getMessageCallback (reply : Option Reply) (before env : Surroundings) (o : Operation) :
    Operation :=
  if ¬ before.ready then o.callbackOnReady before
  else if o.keyslotRetry reply then o.callbackOnReady env
  else
    match reply with
    | some (.array (.integer code :: elements)) =>
      if code = 200 then
        match Reply.toMessage elements with
        | .ok (some msg) => o.finish (.msgFound msg)
        | .ok none => o
        | .error fault => o.crash fault
      else if code = 403 ∨ code = 404 then o.finish .msgNotfound
      else if code = 410 then o.finish .msgExpired
      else if code = 418 then o.finish .msgExpected
      else o
    -- no good
    | _ => o

def publishStatus (c : ChannelInfo) : StoreAnswer :=
  if c.subscribers > 0 then .messageReceived c else .messageQueued c

/-- `redisPublishCallback`. -/
def publishCallback (reply : Option Reply) (env : Surroundings) (o : Operation) : Operation :=
  if o.keyslotRetry reply then
    if o.request.shared then o.publishMessageNodesetMaybeRetry (callbackOnReady env)
    -- the message probably isn't available anymore
    else o.finish .internalServerError
  else
    o.release.finish <|
      match reply with
      | some (.array (cur :: _ :: _)) =>
        match cur.toChannel with
        | .channel c => publishStatus c
        | .notFound => .ok none
        | .invalid => .internalServerError
      | _ => .internalServerError

/-- `redisPublishNostoreQueuedCheckCallback`.  All else is only logged. -/
def publishNostoreQueuedCheckCallback (reply : Option Reply) (o : Operation) : Operation :=
  if o.keyslotRetry reply then { o with clusterMoveError := true } else o

/-- `redisPublishNostoreCallback`. -/
def publishNostoreCallback (reply : Option Reply) (o : Operation) : Operation :=
  o.release.finish <|
    if o.clusterMoveError then .serviceUnavailable
    else
      match reply with
      | some (.array [_, .array [lastSeen, subscribers]]) =>
        publishStatus ⟨lastSeen.toInt, subscribers.toInt, none, 0⟩
      | some (.integer n) => publishStatus ⟨0, n, none, 0⟩
      | _ => .internalServerError

/-- A callback is called by hiredis.  A keyslot error may change the nodeset before the operation
    is sent again. -/
def replied (callback : ReplyCallback) (reply : Option Reply) (before env : Surroundings)
    (o : Operation) : Operation :=
  match callback with
  | .queuedCheck => o.publishNostoreQueuedCheckCallback reply
  | .nostore => o.publishNostoreCallback reply
  | .operation =>
    match o.request with
    | .findChannel | .deleteChannel => o.channelCallback reply env
    | .getMessage => o.getMessageCallback reply before env
    | .publish _ => o.publishCallback reply env

/-! ### Runs -/

/-- `nchan_store_find_channel`, `nchan_store_delete_channel`, `nchan_store_async_get_message` and
    `nchan_store_publish_message`. -/
def start (settings : StoreSettings) (chid : Bytes) (request : StoreRequest)
    (env : Surroundings) : Operation :=
  send env {
    settings := settings
    chid := chid
    request := request
    idCopied := env.nodeset.clusterEnabled
    callerGone := false
    retry := 0
    clusterMoveError := false
    awaited := []
    waiting := false
    called := []
    released := 0
    fault := none }

def outstanding (o : Operation) : Bool := o.waiting || o.awaited ≠ []

end Operation

inductive OperationEvent where
  /-- Redis replies to the oldest command, or the connection is closed before it does. -/
  | reply (reply : Option Reply) (before after : Surroundings)
  /-- The nodeset is ready, or the time for waiting is over, or the worker exits. -/
  | resume (env : Surroundings)
  | callerFrees

def OperationEvent.step : OperationEvent → Operation → Option Operation
  | .reply r before after, o =>
    match o.fault, o.awaited with
    | none, callback :: rest => some ({ o with awaited := rest }.replied callback r before after)
    | _, _ => none
  | .resume env, o =>
    match o.fault, o.waiting with
    | none, true => some ({ o with waiting := false }.send env)
    | _, _ => none
  | .callerFrees, o => some { o with callerGone := true }

/-! ## Once and only once -/

/-- What `get_message` has to return for a message. -/
def Reply.IsMessage : List Reply → Prop
  | .integer ttl :: time :: tag :: prevTime :: prevTag :: .string _ :: .string _ :: .string _ ::
      compression :: _ =>
    0 ≤ ttl ∧ ∀ r ∈ [time, tag, prevTime, prevTag, compression], r.toNgxInt.isSome = true
  | _ => False

/-- A reply from which `redis_get_message_callback` has something to tell. -/
def Reply.Tells : Option Reply → Prop
  | some (.array (.integer code :: elements)) =>
    code = 200 ∧ IsMessage elements ∨ code ∈ [403, 404, 410, 418]
  | _ => False

/-- If the nodeset is ready then it has a node for the channel which takes commands. -/
def Surroundings.Routes (chid : Bytes) (env : Surroundings) : Prop :=
  env.ready = true → ∃ node ∈ env.nodeset.nodeFindByChannelId chid,
    (env.nodeset.node node).state = .ready ∧ env.closing node = false

/-- It does if its connections were made as they should, and none is about to be closed. -/
theorem Surroundings.routes_of_run {env : Surroundings} {urls : List ConnectParams}
    {ops : List NodesetOp} (sound : Run.Along NodesetOp.step NodesetOp.Sound ops (.start urls))
    (reaches : run NodesetOp.step ops (.start urls) = some env.nodeset)
    (settled : env.nodeset.settled = true) (open_ : ∀ node, env.closing node = false)
    (chid : Bytes) : env.Routes chid := by
  intro ready
  obtain ⟨node, -, found, -, state⟩ :=
    (Nodeset.good_run sound reaches).route settled (of_decide_eq_true ready) chid
  exact ⟨node, found, state, open_ node⟩

namespace Operation

def Routed (env : Surroundings) (o : Operation) : Prop :=
  env.Routes o.chid ∧ (env.ready = true → o.dangling = false)

/-- A shared message can wait for the nodeset another time. -/
def Spare (o : Operation) : Prop :=
  o.request.shared = true → o.retry < nodesetNotReadyMaxRetries

/-- Only the publishing of a message can be begun when the nodeset is not ready. -/
def Sendable (env : Surroundings) (o : Operation) : Prop :=
  o.Routed env ∧ (env.ready = false →
    match o.request with
    | .publish _ => o.Spare
    | _ => False)

/-- What may become of the reply to an operation. -/
def Answerable (reply : Option Reply) (before after : Surroundings) (o : Operation) : Prop :=
  match o.request with
  | .findChannel | .deleteChannel => o.keyslotRetry reply = true → o.Routed after
  | .getMessage => before.ready = true →
      if o.keyslotRetry reply then o.Routed after else Reply.Tells reply
  | .publish shared => shared = true → o.keyslotRetry reply = true →
      o.Routed after ∧ o.Spare

end Operation

def OperationEvent.Fits : OperationEvent → Operation → Prop
  | .reply r before after, o => .operation ∈ o.awaited → o.Answerable r before after
  | .resume env, o => o.Sendable env
  | .callerFrees, _ => True

namespace Operation

inductive Awaits : List ReplyCallback → Prop where
  | operation : Awaits [.operation]
  | nostore : Awaits [.nostore]
  | queued {rest} : Awaits rest → .operation ∉ rest → Awaits (.queuedCheck :: rest)

/-- Nothing has come of an operation yet. -/
structure Open (request : StoreRequest) (o : Operation) : Prop where
  request : o.request = request
  fault : o.fault = none
  called : o.called = []
  released : o.released = 0

/-- An operation is between two functions of the store. -/
structure Loose (request : StoreRequest) (o : Operation) : Prop extends o.Open request where
  awaited : o.awaited = []
  waiting : o.waiting = false

/-- An operation waits for one thing, or it is done. -/
inductive Sound (request : StoreRequest) (o : Operation) : Prop where
  | waits (unanswered : o.Open request) (waiting : o.waiting = true) (awaited : o.awaited = [])
  | awaits (unanswered : o.Open request) (waiting : o.waiting = false)
    (awaited : Awaits o.awaited)
  | done (request : o.request = request) (fault : o.fault = none) (waiting : o.waiting = false)
    (awaited : o.awaited = []) (once : o.called.length = 1)
    (released : o.released = if o.request.shared then 1 else 0)

variable {request : StoreRequest} {o o' : Operation} {env before after : Surroundings}
  {reply : Option Reply}

section

variable (loose : o.Loose request)

include loose

theorem Loose.wait : o.wait.Sound request :=
  .waits ⟨loose.request, loose.fault, loose.called, loose.released⟩ rfl loose.awaited

theorem Loose.finish (answer : StoreAnswer)
    (unshared : o.request.shared = false) : (o.finish answer).Sound request := by
  refine .done loose.request loose.fault loose.waiting loose.awaited ?_ ?_
  · simp [Operation.finish, loose.called]
  · simp [Operation.finish, loose.released, unshared]

theorem Loose.release_finish (answer : StoreAnswer) :
    (o.release.finish answer).Sound request := by
  unfold release
  split
  next shared =>
    refine .done loose.request loose.fault loose.waiting loose.awaited ?_ ?_
    · simp [Operation.finish, loose.called]
    · simp [Operation.finish, loose.released, shared]
  next unshared => exact loose.finish answer (by simpa using unshared)

/-! ### Sending -/

omit loose in
theorem redisCommand_taken {node : Nat} {callback : Option ReplyCallback}
    (ready : (env.nodeset.node node).state = .ready) (open_ : env.closing node = false) :
    o.redisCommand env node callback = { o with awaited := o.awaited ++ callback.toList } := by
  simp [redisCommand, ready, open_]

theorem Loose.onNode {command : Nat → Operation → Operation}
    (routed : o.Routed env) (ready : env.ready = true)
    (taken : ∀ node, (env.nodeset.node node).state = .ready → env.closing node = false →
      ∃ callbacks, Awaits callbacks ∧ command node o = { o with awaited := callbacks }) :
    (o.onNode env command).Sound request := by
  obtain ⟨node, found, isReady, notClosing⟩ := routed.1 ready
  obtain ⟨callbacks, awaits, is⟩ := taken node isReady notClosing
  rw [Operation.onNode, routed.2 ready, if_neg (by decide), mem_def.mp found]
  dsimp only
  rw [is]
  exact .awaits ⟨loose.request, loose.fault, loose.called, loose.released⟩ loose.waiting awaits

theorem Loose.command_taken {node : Nat}
    (ready : (env.nodeset.node node).state = .ready) (open_ : env.closing node = false) :
    ∃ callbacks, Awaits callbacks ∧
      o.redisCommand env node (some .operation) = { o with awaited := callbacks } := by
  refine ⟨_, .operation, ?_⟩
  rw [redisCommand_taken ready open_, loose.awaited]
  rfl

theorem Loose.publishCommands_taken {node : Nat}
    (ready : (env.nodeset.node node).state = .ready) (open_ : env.closing node = false) :
    ∃ callbacks, Awaits callbacks ∧
      o.publishCommands env node = { o with awaited := callbacks } := by
  unfold publishCommands
  split
  · split
    · refine ⟨_, .nostore, ?_⟩
      rw [redisCommand_taken ready open_, loose.awaited]
      rfl
    · refine ⟨[.queuedCheck, .queuedCheck, .nostore],
        .queued (.queued .nostore (by decide)) (by decide), ?_⟩
      simp [redisCommand_taken ready open_, loose.awaited]
  · exact loose.command_taken ready open_

theorem Loose.maybeRetry {onReady : Operation → Operation}
    (spare : o.Spare)
    (again : ∀ retry, (onReady { o with retry := retry }).Sound request) :
    (o.publishMessageNodesetMaybeRetry onReady).Sound request := by
  unfold publishMessageNodesetMaybeRetry
  split
  next => exact again _
  next exhausted =>
    exact loose.finish _ (Bool.eq_false_iff.mpr fun shared => exhausted (spare shared))

theorem Loose.send (sendable : o.Sendable env) :
    (o.send env).Sound request := by
  obtain ⟨routed, unready⟩ := sendable
  unfold Operation.send
  cases ready : env.ready with
  | true =>
    have command := loose.onNode routed ready fun node isReady notClosing =>
      loose.command_taken isReady notClosing
    have publish := loose.onNode routed ready fun node isReady notClosing =>
      loose.publishCommands_taken isReady notClosing
    split
    · exact command
    · exact command
    · exact command
    · exact publish
  | false =>
    have unready := unready ready
    split
    next is => simp [is] at unready
    next is => simp [is] at unready
    next is => simp [is] at unready
    next shared is =>
      rw [is] at unready
      refine loose.maybeRetry unready fun retry => ?_
      exact Loose.wait ⟨⟨loose.request, loose.fault, loose.called, loose.released⟩,
        loose.awaited, loose.waiting⟩

theorem Loose.callbackOnReady (routed : o.Routed env) :
    (o.callbackOnReady env).Sound request := by
  unfold Operation.callbackOnReady
  split
  next ready => exact loose.send ⟨routed, fun unready => by simp [ready] at unready⟩
  next => exact loose.wait

/-! ### Replies -/

omit loose in
theorem toMessage_of_isMessage {elements : List Reply} (is : Reply.IsMessage elements) :
    ∃ msg, Reply.toMessage elements = .ok (some msg) := by
  unfold Reply.IsMessage at is
  split at is
  next ttl time tag prevTime prevTag body contentType eventsourceEvent compression rest =>
    obtain ⟨nonneg, numbers⟩ := is
    have read : ∀ r ∈ [time, tag, prevTime, prevTag, compression], ∃ n, r.toNgxInt = some n :=
      fun r on => isSome_iff_exists.mp (numbers r on)
    obtain ⟨_, isTime⟩ := read time (by simp)
    obtain ⟨_, isTag⟩ := read tag (by simp)
    obtain ⟨_, isPrevTime⟩ := read prevTime (by simp)
    obtain ⟨_, isPrevTag⟩ := read prevTag (by simp)
    obtain ⟨_, isCompression⟩ := read compression (by simp)
    simp [Reply.toMessage, isTime, isTag, isPrevTime, isPrevTag, isCompression, not_lt.mpr nonneg]
  next => exact is.elim

theorem Loose.getMessageCallback (is : o.request = .getMessage)
    (answerable : o.Answerable reply before after) :
    (o.getMessageCallback reply before after).Sound request := by
  have unshared : o.request.shared = false := by rw [is]; rfl
  simp only [Answerable, is] at answerable
  unfold Operation.getMessageCallback
  by_cases ready : before.ready = true
  · have answerable := answerable ready
    rw [if_neg (not_not_intro ready)]
    split
    next retry =>
      rw [if_pos retry] at answerable
      exact loose.callbackOnReady answerable
    next retry =>
      rw [if_neg retry] at answerable
      unfold Reply.Tells at answerable
      split at answerable
      next code elements =>
        rcases answerable with ⟨rfl, message⟩ | listed
        · obtain ⟨msg, read⟩ := toMessage_of_isMessage message
          simp only [if_pos, read]
          exact loose.finish _ unshared
        · simp only [List.mem_cons, List.not_mem_nil, or_false] at listed
          rcases listed with rfl | rfl | rfl | rfl <;> exact loose.finish _ unshared
      next => exact answerable.elim
  · have never : o.Routed before :=
      ⟨fun isReady => absurd isReady ready, fun isReady => absurd isReady ready⟩
    rw [if_pos ready]
    exact loose.callbackOnReady never

theorem Loose.channelCallback (unshared : o.request.shared = false)
    (answerable : o.keyslotRetry reply = true → o.Routed env) :
    (o.channelCallback reply env).Sound request := by
  unfold Operation.channelCallback
  split
  next retry => exact loose.callbackOnReady (answerable retry)
  next => exact loose.finish _ unshared

theorem Loose.publishCallback
    (answerable : o.request.shared = true → o.keyslotRetry reply = true →
      o.Routed env ∧ o.Spare) :
    (o.publishCallback reply env).Sound request := by
  unfold Operation.publishCallback
  split
  next retry =>
    split
    next shared =>
      obtain ⟨routed, spare⟩ := answerable shared retry
      refine loose.maybeRetry spare fun retry => ?_
      exact Loose.callbackOnReady ⟨⟨loose.request, loose.fault, loose.called, loose.released⟩,
        loose.awaited, loose.waiting⟩ routed
    next unshared => exact loose.finish _ (by simpa using unshared)
  next => exact loose.release_finish _

theorem Loose.replied (answerable : o.Answerable reply before after) :
    (o.replied .operation reply before after).Sound request := by
  unfold Operation.replied
  cases is : o.request with
  | findChannel =>
    exact loose.channelCallback (by rw [is]; rfl) (by simpa [Answerable, is] using answerable)
  | deleteChannel =>
    exact loose.channelCallback (by rw [is]; rfl) (by simpa [Answerable, is] using answerable)
  | getMessage => exact loose.getMessageCallback is answerable
  | publish shared =>
    exact loose.publishCallback (by simpa [Answerable, is, StoreRequest.shared] using answerable)

end

theorem step_reply {r : Option Reply}
    (stepped : (OperationEvent.reply r before after).step o = some o') :
    ∃ callback rest, o.awaited = callback :: rest ∧
      o' = { o with awaited := rest }.replied callback r before after := by
  dsimp only [OperationEvent.step] at stepped
  split at stepped
  next callback rest _ awaited => exact ⟨callback, rest, awaited, (some.inj stepped).symm⟩
  next => cases stepped

theorem step_resume (stepped : (OperationEvent.resume env).step o = some o') :
    o.waiting = true ∧ o' = { o with waiting := false }.send env := by
  dsimp only [OperationEvent.step] at stepped
  split at stepped
  next _ waiting => exact ⟨waiting, (some.inj stepped).symm⟩
  next => cases stepped

section

variable (sound : o.Sound request)

include sound

theorem Sound.answered {r : Option Reply}
    (fits : (OperationEvent.reply r before after).Fits o) {callback : ReplyCallback}
    {rest : List ReplyCallback} (is : o.awaited = callback :: rest) :
    ({ o with awaited := rest }.replied callback r before after).Sound request := by
  cases sound with
  | waits unanswered waiting awaited => simp [awaited] at is
  | done request fault waiting awaited once released => simp [awaited] at is
  | awaits unanswered waiting awaited =>
    obtain ⟨isRequest, fault, called, released⟩ := unanswered
    rw [is] at awaited
    cases awaited with
    | operation =>
      refine Loose.replied ⟨⟨isRequest, fault, called, released⟩, rfl, waiting⟩ ?_
      exact fits (by simp [is])
    | nostore =>
      have loose : Loose request { o with awaited := [] } :=
        ⟨⟨isRequest, fault, called, released⟩, rfl, waiting⟩
      exact loose.release_finish _
    | queued rest =>
      dsimp only [Operation.replied, publishNostoreQueuedCheckCallback]
      split
      · exact .awaits ⟨isRequest, fault, called, released⟩ waiting rest
      · exact .awaits ⟨isRequest, fault, called, released⟩ waiting rest

theorem Sound.resumed (sendable : o.Sendable env)
    (waiting : o.waiting = true) : ({ o with waiting := false }.send env).Sound request := by
  cases sound with
  | waits unanswered _ awaited =>
    obtain ⟨isRequest, fault, called, released⟩ := unanswered
    exact Loose.send ⟨⟨isRequest, fault, called, released⟩, awaited, rfl⟩ sendable
  | awaits _ not => simp [not] at waiting
  | done _ _ not => simp [not] at waiting

theorem Sound.freed : { o with callerGone := true : Operation }.Sound request := by
  cases sound with
  | waits unanswered waiting awaited => exact .waits { unanswered with } waiting awaited
  | awaits unanswered waiting awaited => exact .awaits { unanswered with } waiting awaited
  | done is fault waiting awaited once released => exact .done is fault waiting awaited once released

theorem Sound.step {e : OperationEvent} (fits : e.Fits o)
    (stepped : e.step o = some o') : o'.Sound request := by
  cases e with
  | reply r before after =>
    obtain ⟨callback, rest, is, rfl⟩ := step_reply stepped
    exact sound.answered fits is
  | resume env =>
    obtain ⟨waiting, rfl⟩ := step_resume stepped
    exact sound.resumed fits waiting
  | callerFrees => exact some.inj stepped ▸ sound.freed

theorem Sound.completed : o.fault = none ∧
    (o.outstanding = false →
      o.called.length = 1 ∧ o.released = if request.shared then 1 else 0) := by
  cases sound with
  | waits unanswered waiting =>
    exact ⟨unanswered.fault, fun idle => by simp [outstanding, waiting] at idle⟩
  | awaits unanswered waiting awaited =>
    refine ⟨unanswered.fault, fun idle => ?_⟩
    have empty : o.awaited = [] := by simpa [outstanding, waiting] using idle
    rw [empty] at awaited
    cases awaited
  | done is fault waiting awaited once released =>
    exact ⟨fault, fun _ => ⟨once, is ▸ released⟩⟩

end

def connected : Surroundings :=
  ⟨⟨[], [0], fun _ => ⟨⟨[], 0, [], [], 0, false, .none⟩, .ready, .master, false, false⟩, 1, [],
    false, .ready, true⟩, fun _ => false⟩

def unconnected : Surroundings := ⟨.start [], fun _ => false⟩

def storing : StoreSettings := ⟨.distributed, false, true⟩

def published : Reply :=
  .array [.array [.integer 10, .integer 0, .integer 0, .string ['1', ':', '0'], .integer 1],
    .integer 1]

/-- A message that has to wait for the nodeset twice. -/
def publishedLate : List OperationEvent :=
  [.resume unconnected, .resume connected, .reply (some published) connected connected]

end Operation

end Nchan.Redis
