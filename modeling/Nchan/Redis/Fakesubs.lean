import Mathlib.Algebra.Ring.Int.Defs
import Nchan.Lib.Run
import Nchan.MsgIdText

/-! # Reporting the number of subscribers

The subscribers of a worker are reported to Redis as differences, at once or gathered until a timer
fires.  The difference is forgotten when it is sent, and it is sent only if the nodeset is ready, as
a C int.
After a keyslot error it is read back from the text of the error, which does not work for numbers
below -1.  A worker that shuts down calls the script with the wrong arguments.
-/

namespace Nchan.Redis

open Nchan.Lib List Option Run Function

/-! ## `add_fakesub.lua` -/

structure AddFakesubArgs where
  ns : Text
  id : Text
  num : Option Int

/-- `add_fakesub.lua`, on the numbers of this worker for each namespace and channel.  It fails
    without a number. -/
def addFakesub (args : AddFakesubArgs) (counts : Text × Text → Int) : Option (Text × Text → Int) :=
  args.num.map fun num =>
    update counts (args.ns, args.id) (counts (args.ns, args.id) + num)

/-! ## The worker -/

structure ReportedChannel where
  ns : Text
  id : Text
  /-- `redis_fakesub_timer_interval` -/
  timerInterval : Nat

/-- What becomes of a command: the nodeset is not ready, it has no node for the channel, the command
    is refused because the node is not ready or by hiredis, or it is sent. -/
inductive Link where
  | notReady | noNode | refused | sent
  deriving DecidableEq

structure Fakesubs where
  subscribers : Nat
  /-- `delta_fakesubs` -/
  delta : Int
  timerSet : Bool
  /-- `ngx_exiting` or `ngx_quit` -/
  exiting : Bool
  shuttingDown : Bool
  inflight : List Int
  waiting : List Int
  counts : Text × Text → Int

def Fakesubs.start : Fakesubs := ⟨0, 0, false, false, false, [], [], fun _ => 0⟩

namespace Fakesubs

/-- `nchan_store_redis_add_fakesub_send`.  A node that is missing is dereferenced all the same. -/
def addFakesubSend (link : Link) (count : Int) (s : Fakesubs) : Option Fakesubs :=
  match link with
  | .notReady => some s
  | .noNode => none
  | .refused => some s
  -- the format is `%i`
  | .sent => some { s with inflight := s.inflight ++ [count.bmod (2 ^ 32)] }

/-- The call of the script while shutting down: `EVALSHA %s 0 %b %i` with the id and the count. -/
def syncCommand (channel : ReportedChannel) (link : Link) (count : Int) (s : Fakesubs) :
    Option Fakesubs :=
  match link with
  | .notReady => some s
  | .noNode => none
  | _ =>
    some { s with
      counts := (addFakesub ⟨channel.id, decimal count, none⟩ s.counts).getD s.counts }

/-- `nchan_store_redis_fakesub_add`. -/
def redisFakesubAdd (channel : ReportedChannel) (link : Link) (count : Int) (s : Fakesubs) :
    Option Fakesubs :=
  if s.shuttingDown then s.syncCommand channel link count else s.addFakesubSend link count

/-- `send_redis_fakesub_delta`. -/
def sendDelta (channel : ReportedChannel) (link : Link) (s : Fakesubs) : Option Fakesubs :=
  if s.delta ≠ 0 then
    (s.redisFakesubAdd channel link s.delta).map fun s => { s with delta := 0 }
  else some s

/-- `memstore_fakesub_add`. -/
def fakesubAdd (channel : ReportedChannel) (link : Link) (n : Int) (s : Fakesubs) :
    Option Fakesubs :=
  if channel.timerInterval = 0 then s.redisFakesubAdd channel link n
  else
    some { s with
      delta := s.delta + n
      timerSet := s.timerSet || !s.shuttingDown && !s.exiting }

/-- The count from the text of a keyslot error; `ngx_atoi` answers -1 for an error. -/
def retryCount (count : Int) : Int :=
  match MsgId.ngxAtoi (decimal count) with
  | none => -1
  | some n => n

/-- `nodeset_callback_on_ready` with the command to be tried again. -/
def retryOnReady (link : Link) (count : Int) (s : Fakesubs) : Option Fakesubs :=
  if link = .notReady then some { s with waiting := s.waiting ++ [count] }
  else s.addFakesubSend link count

end Fakesubs

/-- The answer to a command.  The keys of a channel are in one slot, so that a keyslot error is
    found before anything has been written. -/
inductive AddFakesubReply where
  | done
  | keyslotError (link : Link)

inductive FakesubOp where
  | join (link : Link)
  | leave (link : Link) (count : Nat)
  | timer (link : Link)
  | answer (which : Nat) (reply : AddFakesubReply)
  /-- The nodeset is ready, or a command has waited for too long. -/
  | retry (which : Nat) (link : Link)
  | reap (link : Link)
  | quit
  | shutdown

open Fakesubs in
def FakesubOp.step (channel : ReportedChannel) : FakesubOp → Fakesubs → Option Fakesubs
  | .join link, s =>
    if s.shuttingDown then none
    else { s with subscribers := s.subscribers + 1 }.fakesubAdd channel link 1
  | .leave link count, s =>
    if count ≤ s.subscribers then
      { s with subscribers := s.subscribers - count }.fakesubAdd channel link (-count)
    else none
  | .timer link, s =>
    -- it is set again when something was sent
    if s.timerSet then
      { s with timerSet := s.delta ≠ 0 ∧ ¬ s.exiting }.sendDelta channel link
    else none
  | .answer which reply, s =>
    s.inflight[which]?.bind fun count =>
      let s := { s with inflight := s.inflight.eraseIdx which }
      match reply with
      | .done =>
        (addFakesub ⟨channel.ns, channel.id, some count⟩ s.counts).map fun counts =>
          { s with counts := counts }
      | .keyslotError link => s.retryOnReady link (retryCount count)
  | .retry which link, s =>
    s.waiting[which]?.bind fun count =>
      { s with waiting := s.waiting.eraseIdx which }.addFakesubSend link count
  | .reap link, s =>
    if s.subscribers = 0 then { s with timerSet := false }.sendDelta channel link else none
  | .quit, s => some { s with exiting := true }
  | .shutdown, s => some { s with shuttingDown := true }

/-! ## Conservation -/

/-- Everything has been sent and answered. -/
def Fakesubs.Settled (s : Fakesubs) : Prop := s.delta = 0 ∧ s.inflight = [] ∧ s.waiting = []

def Fits (count : Int) : Prop := -2 ^ 31 ≤ count ∧ count < 2 ^ 31

/-- A number can be sent: it goes out as it is, and the worker is not shutting down. -/
def Fakesubs.Sends (link : Link) (count : Int) (s : Fakesubs) : Prop :=
  link = .sent ∧ Fits count ∧ s.shuttingDown = false

/-- What is sent gets out, also when it is tried again, and what comes back with a keyslot error can
    be read. -/
def FakesubOp.Delivers (channel : ReportedChannel) : FakesubOp → Fakesubs → Prop
  | .join link, s => channel.timerInterval = 0 → s.Sends link 1
  | .leave link count, s => channel.timerInterval = 0 → s.Sends link (-count)
  | .timer link, s => s.delta ≠ 0 → s.Sends link s.delta
  | .reap link, s => s.delta ≠ 0 → s.Sends link s.delta
  | .answer which (.keyslotError link), s =>
    (link = .notReady ∨ link = .sent) ∧ ∀ count ∈ s.inflight[which]?, -1 ≤ count ∧ count < 2 ^ 31
  | .retry which link, s => link = .sent ∧ ∀ count ∈ s.waiting[which]?, Fits count
  | _, _ => True

theorem sum_eraseIdx {l : List Int} {i : Nat} {c : Int} (is : l[i]? = some c) :
    (l.eraseIdx i).sum + c = l.sum := by
  obtain ⟨within, rfl⟩ := List.getElem?_eq_some_iff.mp is
  rw [← (getElem_cons_eraseIdx_perm within).sum_eq, sum_cons, add_comm]

theorem bmod_eq {count : Int} (fits : Fits count) : count.bmod (2 ^ 32) = count :=
  Int.bmod_eq_of_le_mul_two (by have := fits.1; omega) (by have := fits.2; omega)

theorem retryCount_eq {count : Int} (readable : -1 ≤ count) (representable : count < 2 ^ 31) :
    Fakesubs.retryCount count = count := by
  unfold Fakesubs.retryCount
  by_cases negative : count < 0
  · obtain rfl : count = -1 := by omega
    have none_ : MsgId.ngxAtoi (decimal (-1)) = none := by decide
    rw [none_]
  · rw [MsgId.decimal_of_nonneg (by omega), MsgId.ngxAtoi_toDigits (by omega)]
    exact Int.toNat_of_nonneg (by omega)

namespace Fakesubs

variable {channel : ReportedChannel} {link : Link} {count : Int} {s s' : Fakesubs}

/-- What has been reported and what is on its way. -/
def total (channel : ReportedChannel) (s : Fakesubs) : Int :=
  s.counts (channel.ns, channel.id) + s.inflight.sum + s.waiting.sum + s.delta

theorem total_sent (sends : s.Sends link count)
    (sent : s.redisFakesubAdd channel link count = some s') :
    s'.total channel = s.total channel + count ∧ s'.subscribers = s.subscribers ∧
      s'.delta = s.delta := by
  obtain ⟨rfl, fits, running⟩ := sends
  rw [redisFakesubAdd, running, if_neg (by decide)] at sent
  cases sent
  refine ⟨?_, rfl, rfl⟩
  simp only [total, sum_append, sum_singleton, bmod_eq fits]
  omega

theorem total_sendDelta (sent : s.sendDelta channel link = some s')
    (sends : s.delta ≠ 0 → s.Sends link s.delta) :
    s'.total channel = s.total channel ∧ s'.subscribers = s.subscribers := by
  unfold sendDelta at sent
  split at sent
  case isTrue some_ =>
    obtain ⟨t, added, rfl⟩ := map_eq_some_iff.mp sent
    obtain ⟨more, same, delta⟩ := total_sent (sends some_) added
    refine ⟨?_, same⟩
    simp only [total] at more ⊢
    omega
  case isFalse =>
    cases sent
    exact ⟨rfl, rfl⟩

theorem total_fakesubAdd (added : s.fakesubAdd channel link count = some s')
    (sends : channel.timerInterval = 0 → s.Sends link count) :
    s'.total channel = s.total channel + count ∧ s'.subscribers = s.subscribers := by
  unfold fakesubAdd at added
  split at added
  case isTrue atOnce =>
    obtain ⟨more, same, -⟩ := total_sent (sends atOnce) added
    exact ⟨more, same⟩
  case isFalse =>
    cases added
    refine ⟨?_, rfl⟩
    simp only [total]
    omega

theorem total_answered {which : Nat} {counts : Text × Text → Int}
    (is : s.inflight[which]? = some count)
    (applied : addFakesub ⟨channel.ns, channel.id, some count⟩ s.counts = some counts) :
    total channel { s with inflight := s.inflight.eraseIdx which, counts := counts } =
      s.total channel := by
  have erased := sum_eraseIdx is
  cases applied
  simp only [total, update_self]
  omega

theorem total_retryOnReady (sends : link = .notReady ∨ link = .sent) (fits : Fits count)
    (retried : s.retryOnReady link count = some s') :
    s'.total channel = s.total channel + count ∧ s'.subscribers = s.subscribers := by
  rcases sends with rfl | rfl
  all_goals
    cases retried
    refine ⟨?_, rfl⟩
    simp only [total, sum_append, sum_singleton, bmod_eq fits]
    omega

theorem step_conserved {op : FakesubOp} (conserved : s.total channel = s.subscribers)
    (delivers : op.Delivers channel s) (stepped : op.step channel s = some s') :
    s'.total channel = s'.subscribers := by
  cases op with
  | join link =>
    obtain ⟨-, added⟩ := ite_none_left_eq_some.mp stepped
    obtain ⟨more, same⟩ := total_fakesubAdd added delivers
    rw [more, same]
    simp only [total] at conserved ⊢
    omega
  | leave link count =>
    obtain ⟨within, added⟩ := ite_none_right_eq_some.mp stepped
    obtain ⟨less, same⟩ := total_fakesubAdd added delivers
    rw [less, same]
    simp only [total] at conserved ⊢
    omega
  | timer link =>
    obtain ⟨-, sent⟩ := ite_none_right_eq_some.mp stepped
    obtain ⟨kept, same⟩ := total_sendDelta sent delivers
    rw [kept, same]
    exact conserved
  | answer which reply =>
    obtain ⟨count, is, stepped⟩ := bind_eq_some_iff.mp stepped
    cases reply with
    | done =>
      obtain ⟨counts, applied, rfl⟩ := map_eq_some_iff.mp stepped
      exact (total_answered is applied).trans conserved
    | keyslotError link =>
      -- the number read back from the error is the one that was sent
      obtain ⟨sends, readable⟩ := delivers
      obtain ⟨low, high⟩ := readable count is
      rw [retryCount_eq low high] at stepped
      obtain ⟨more, same⟩ := total_retryOnReady sends ⟨by omega, high⟩ stepped
      have erased := sum_eraseIdx is
      rw [more, same]
      simp only [total] at conserved ⊢
      omega
  | retry which link =>
    obtain ⟨count, is, sent⟩ := bind_eq_some_iff.mp stepped
    have erased := sum_eraseIdx is
    -- it goes out as a C `int`, and fits
    obtain ⟨rfl, fits⟩ := delivers
    cases sent
    simp only [total, sum_append, sum_singleton, bmod_eq (fits count is)] at conserved ⊢
    omega
  | reap link =>
    obtain ⟨-, sent⟩ := ite_none_right_eq_some.mp stepped
    obtain ⟨kept, same⟩ := total_sendDelta sent delivers
    rw [kept, same]
    exact conserved
  | quit =>
    cases stepped
    exact conserved
  | shutdown =>
    cases stepped
    exact conserved

/-- Two subscribers come and one leaves, and a command is sent twice. -/
def countedTwice : List FakesubOp :=
  [.join .sent, .join .sent, .leave .sent 1, .answer 0 .done, .answer 1 (.keyslotError .notReady),
    .retry 0 .sent, .answer 0 .done, .answer 0 .done]

end Fakesubs

end Nchan.Redis
