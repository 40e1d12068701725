import Nchan.Lib.Run

/-! # The duty to keep a channel alive

The keepalive timer of a channel head is set again by whoever gets the answer.  A keepalive that is
due while the nodeset is not ready is not sent and nothing is set, nor is it when the wait for the
nodeset expires, or a registration fails.  A command that the node does not take is never answered,
but was counted.
-/

namespace Nchan.Redis

open Nchan.Lib Run

/-- What a reply is taken for: a keyslot error after which the command is tried again, another error
    or no reply, or the milliseconds to the next keepalive.  Whether a command is taken depends on
    the state of the node and on hiredis. -/
inductive KeepaliveReply where
  | keyslotError (taken : Bool)
  | bad
  | interval (msec : Int)

/-- A channel head and its nodeset, with the numbers of commands that were not answered yet and of
    those to be sent again when the nodeset is ready. -/
structure KeepaliveHead where
  /-- `nodeset_ready` -/
  ready : Bool := false
  /-- `pubsub_status` is `REDIS_PUBSUB_SUBSCRIBED`. -/
  subscribed : Bool := false
  /-- `status` is `NOTREADY`. -/
  notReady : Bool := false
  timerSet : Bool := false
  reserved : Int := 0
  registers : Nat := 0
  registerRetries : Nat := 0
  keepalives : Nat := 0
  keepaliveRetries : Nat := 0
  /-- The last answer was not -1, the only one below zero. -/
  expected : Bool := false
  deriving DecidableEq

namespace KeepaliveHead

/-- `redis_subscriber_register_send`. -/
@[grind] def registerSend (taken : Bool) (s : KeepaliveHead) : KeepaliveHead :=
  if s.ready then
    { s with reserved := s.reserved + 1, registers := s.registers + if taken then 1 else 0 }
  else s

/-- `redisChannelKeepaliveCallback_send`. -/
@[grind] def keepaliveSend (taken : Bool) (s : KeepaliveHead) : KeepaliveHead :=
  if s.ready then
    { s with reserved := s.reserved + 1, keepalives := s.keepalives + if taken then 1 else 0 }
  else s

/-- The wrappers for what is sent again. -/
@[grind] def registerRetryWrapper (taken : Bool) (s : KeepaliveHead) : KeepaliveHead :=
  registerSend taken { s with reserved := s.reserved - 1 }

@[grind] def keepaliveRetryWrapper (taken : Bool) (s : KeepaliveHead) : KeepaliveHead :=
  keepaliveSend taken { s with reserved := s.reserved - 1 }

/-- `redis_update_channel_keepalive_timer`. -/
@[grind] def updateTimer (msec : Int) (s : KeepaliveHead) : KeepaliveHead :=
  if msec < 0 then s else { s with timerSet := true }

/-- `redis_subscriber_register_cb`. -/
@[grind] def registerCallback (reply : KeepaliveReply) (s : KeepaliveHead) : KeepaliveHead :=
  let s := { s with reserved := s.reserved - 1, registers := s.registers - 1 }
  match reply with
  | .keyslotError taken =>
    let s := { s with reserved := s.reserved + 1 }
    if s.ready then s.registerRetryWrapper taken
    else { s with registerRetries := s.registerRetries + 1 }
  | .bad => { s with expected := true }
  | .interval msec => updateTimer msec { s with expected := 0 ≤ msec }

/-- `redisChannelKeepaliveCallback`. -/
@[grind] def keepaliveCallback (reply : KeepaliveReply) (s : KeepaliveHead) : KeepaliveHead :=
  let s := { s with reserved := s.reserved - 1, keepalives := s.keepalives - 1 }
  match reply with
  | .keyslotError taken =>
    let s := { s with reserved := s.reserved + 1 }
    if s.ready then s.keepaliveRetryWrapper taken
    else { s with keepaliveRetries := s.keepaliveRetries + 1 }
  | .bad => { s with timerSet := true, expected := true }
  | .interval msec => updateTimer msec { s with expected := 0 ≤ msec }

/-- `redis_channel_keepalive_timer_handler`. -/
@[grind] def timerHandler (taken : Bool) (s : KeepaliveHead) : KeepaliveHead :=
  if !s.subscribed || s.notReady then s else keepaliveSend taken { s with timerSet := false }

/-- `nodeset_run_on_ready_callbacks`: all that waits is sent, and some of it may be refused. -/
@[grind] def runOnReadyCallbacks (registersRefused keepalivesRefused : Nat) (s : KeepaliveHead) :
    KeepaliveHead :=
  { s with
    ready := true
    registers := s.registers + (s.registerRetries - registersRefused), registerRetries := 0
    keepalives := s.keepalives + (s.keepaliveRetries - keepalivesRefused), keepaliveRetries := 0 }

inductive Op where
  | register (taken : Bool)
  | registered (reply : KeepaliveReply)
  | timer (taken : Bool)
  | answered (reply : KeepaliveReply)
  | ready (registersRefused keepalivesRefused : Nat)
  | unready
  | registerExpires (taken : Bool)
  | keepaliveExpires (taken : Bool)
  | status (subscribed notReady : Bool)

@[grind] def Op.step : Op → KeepaliveHead → Option KeepaliveHead
  | .register taken, s => some (s.registerSend taken)
  | .registered reply, s => if s.registers = 0 then none else some (s.registerCallback reply)
  | .timer taken, s => if s.timerSet then some (s.timerHandler taken) else none
  | .answered reply, s => if s.keepalives = 0 then none else some (s.keepaliveCallback reply)
  | .ready registers keepalives, s => some (s.runOnReadyCallbacks registers keepalives)
  | .unready, s => some { s with ready := false }
  | .registerExpires taken, s =>
    if s.registerRetries = 0 then none
    else some (registerRetryWrapper taken { s with registerRetries := s.registerRetries - 1 })
  | .keepaliveExpires taken, s =>
    if s.keepaliveRetries = 0 then none
    else some (keepaliveRetryWrapper taken { s with keepaliveRetries := s.keepaliveRetries - 1 })
  | .status subscribed notReady, s => some { s with subscribed := subscribed, notReady := notReady }

/-- Somebody will see to it that the channel is kept alive. -/
@[grind] def Duty (s : KeepaliveHead) : Prop :=
  s.timerSet = true ∨ 0 < s.keepalives ∨ 0 < s.keepaliveRetries

instance (s : KeepaliveHead) : Decidable s.Duty := inferInstanceAs (Decidable (_ ∨ _ ∨ _))

/-- No command is refused. -/
@[grind] def Op.Taken : Op → KeepaliveHead → Prop
  | .register taken, _ | .registered (.keyslotError taken), _ | .timer taken, _
  | .answered (.keyslotError taken), _ | .registerExpires taken, _ | .keepaliveExpires taken, _ =>
    taken = true
  | .ready registers keepalives, _ => registers = 0 ∧ keepalives = 0
  | _, _ => True

/-- A keepalive that is due is sent, and does not wait for too long; a registration that fails is
    not the one that is to set the timer. -/
@[grind] def Op.HandsOn : Op → KeepaliveHead → Prop
  | .registered .bad, s => s.expected = true
  | .timer taken, s => s.subscribed = true → s.notReady = false → s.ready = true ∧ taken = true
  | .answered (.keyslotError taken), s => s.ready = true → taken = true
  | .ready _ keepalives, _ => keepalives = 0
  | .keepaliveExpires _, _ => False
  | _, _ => True

variable {s : KeepaliveHead} {op : Op}

/-- `reserved` counts what was sent and what is to be sent again. -/
@[grind] def Counted (s : KeepaliveHead) : Prop :=
  s.reserved = s.registers + s.registerRetries + s.keepalives + s.keepaliveRetries

/-- If a keepalive is expected, it will be sent. -/
@[grind] def Kept (s : KeepaliveHead) : Prop := s.expected = true → s.Duty

theorem Counted.step (counted : s.Counted) (taken : op.Taken s) : Gives (op.step s) Counted := by
  intro s' stepped
  cases op with
  | registered reply | answered reply => cases reply <;> grind
  | _ => grind

theorem Kept.step (kept : s.Kept) (handsOn : op.HandsOn s) : Gives (op.step s) Kept := by
  intro s' stepped
  cases op with
  | registered reply | answered reply => cases reply <;> grind
  | _ => grind

/-- A subscriber registers, and a keepalive meets a keyslot error, waits, and is answered. -/
def keptAlive : List Op :=
  [.ready 0 0, .status true false, .register true, .registered (.interval 1000), .timer true,
    .unready, .answered (.keyslotError true), .ready 0 0, .answered (.interval 1000)]

end KeepaliveHead

end Nchan.Redis
