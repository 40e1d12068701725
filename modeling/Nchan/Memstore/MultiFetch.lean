import Nchan.Lib.Run
import Nchan.Memstore.MultiMerge

/-! # A fetch from several channels

`nchan_store_async_get_multi_message` leaves a record behind that collects the replies.  The
record reserves the best message so far and the channel head, and is freed with the last reply.
A timer of 20 seconds marks it as expired, and replies that come later than that are dropped.
A failed assert and a use of the record after it was freed are `none`.
-/

namespace Nchan.Memstore

open Nchan.Lib List Option Run

variable {n : Nat}

/-! ## The record and its callbacks -/

/-- `get_multi_message_data_t`. -/
structure MultiData (n : Nat) extends GetMultiMessage n where
  getting : Nat
  expired : Bool
  timerSet : Bool

/-- A fetch: the record until it is freed, what the requester's callback was called with, the
    messages that are reserved for the fetch, and how often the channel head was reserved and
    released for it. -/
structure MultiFetch (n : Nat) where
  d : Option (MultiData n)
  calls : List (MsgStatus × Option (MultiMsg n))
  reserved : List (Fin n × Msg)
  chanheadReserves : Nat
  chanheadReleases : Nat

inductive FetchOp (n : Nat) where
  | reply (reply : MultiReply n)
  /-- `get_multimsg_timeout` -/
  | timeout

/-- `msg_release`, for the message that is reserved, if there is one. -/
def releaseBest (d : GetMultiMessage n) (reserved : List (Fin n × Msg)) : List (Fin n × Msg) :=
  match d.msg with
  | some best => reserved.erase best
  | none => reserved

/-- `set_multimsg_msg`. -/
def setMultimsgMsg (reply : MultiReply n) (d : MultiData n) (reserved : List (Fin n × Msg)) :
    MultiData n × List (Fin n × Msg) :=
  let msg := reply.msg.map fun msg => (reply.n, msg)
  ({ d with msgStatus := reply.status, msg := msg },
    msg.toList ++ releaseBest d.toGetMultiMessage reserved)

def receiveReply (wantedMsgid : MsgId) (reply : MultiReply n) (d : MultiData n)
    (reserved : List (Fin n × Msg)) : Option (MultiData n × List (Fin n × Msg)) :=
  if d.msgStatus = .pending then some (setMultimsgMsg reply d reserved)
  else
    match reply.msg, d.msg with
    | some _, none => some (setMultimsgMsg reply d reserved)
    | some msg, some (j, best) =>
      if ¬ wantedMsgid.time ≤ msg.id.time then none
      else if betterResponse reply.n j msg best then some (setMultimsgMsg reply d reserved)
      else some (d, reserved)
    | none, none =>
      if d.msgStatus ≠ .expected then some ({ d with msgStatus := reply.status }, reserved)
      else some (d, reserved)
    | none, some _ => some (d, reserved)

namespace MultiFetch

/-- `nchan_store_async_get_multi_message_callback_cleanup`. -/
def cleanup (d : MultiData n) (s : MultiFetch n) : MultiFetch n :=
  { s with d := if d.getting = 0 then none else some d }

/-- `nchan_store_async_get_multi_message_callback`. -/
def callback (msgId : MsgId) (reply : MultiReply n) (s : MultiFetch n) : Option (MultiFetch n) :=
  s.d.bind fun d =>
    let d := { d with getting := d.getting - 1 }
    if d.expired then some (s.cleanup d)
    else
      (receiveReply msgId reply d s.reserved).bind fun (d, reserved) =>
        if d.getting = 0 then
          -- got all the messages we wanted
          (multiMessageRespond msgId d.toGetMultiMessage).map fun result =>
            cleanup d
              { s with
                calls := s.calls ++ [result]
                reserved := releaseBest d.toGetMultiMessage reserved
                chanheadReleases := s.chanheadReleases + 1 }
        else some (cleanup d { s with reserved := reserved })

/-- `get_multimsg_timeout`. -/
def timeout (s : MultiFetch n) : Option (MultiFetch n) :=
  s.d.bind fun d =>
    if d.timerSet then
      some { s with
        d := some { d with expired := true, timerSet := false }
        chanheadReleases := s.chanheadReleases + 1 }
    else none

def step (msgId : MsgId) : FetchOp n → MultiFetch n → Option (MultiFetch n)
  | .reply reply, s => s.callback msgId reply
  | .timeout, s => s.timeout

/-- `nchan_store_async_get_multi_message`, when so many of the channels are asked. -/
def start (getting : Nat) : MultiFetch n :=
  -- don't need to explicitly fetch messages
  if getting = 0 then ⟨none, [(.expected, none)], [], 0, 0⟩
  else
    { d := some
        { msgStatus := if getting = n then .pending else .expected
          msg := none
          getting := getting
          expired := false
          timerSet := true }
      calls := []
      reserved := []
      chanheadReserves := 1
      chanheadReleases := 0 }

end MultiFetch

/-- A reply to what the channel was asked: a message after the id that was extracted for it, or
    none. -/
structure MultiReply.Answers (msgId : MsgId) (reply : MultiReply n) : Prop where
  found : ∀ m, reply.msg = some m → reply.status = .found
  stamped : ∀ m, reply.msg = some m → 0 < m.id.time ∧ m.id.tag ≤ 32767
  after : ∀ m, reply.msg = some m → ∃ req, msgId.extractFromMultiMsgid reply.n = some req ∧ req < m.id

theorem MultiReply.Answers.inTime {msgId : MsgId} {reply : MultiReply n}
    (answers : reply.Answers msgId) : reply.InTime msgId := by
  intro m has
  refine ⟨answers.found m has, ?_⟩
  obtain ⟨req, extracted, after⟩ := answers.after m has
  have stamped := answers.stamped m has
  unfold MsgId.extractFromMultiMsgid at extracted
  rw [Stamp.lt_iff] at after
  split at extracted
  · cases extracted
    dsimp only at after
    omega
  split at extracted
  · cases extracted
    dsimp only at after
    omega
  split at extracted
  · cases extracted
  split at extracted
  · cases extracted
    dsimp only at after
    omega
  · cases extracted
    dsimp only at after
    omega

/-! ## While replies are waited for -/

section Waiting

variable {msgId : MsgId} {reply : MultiReply n}

theorem setMultimsgMsg_spec (reply : MultiReply n) (d : MultiData n) :
    setMultimsgMsg reply d d.msg.toList =
      ({ d with toGetMultiMessage := ⟨reply.status, reply.msg.map fun msg => (reply.n, msg)⟩ },
        (reply.msg.map fun msg => (reply.n, msg)).toList) := by
  have released : releaseBest d.toGetMultiMessage d.msg.toList = [] := by
    unfold releaseBest
    cases d.msg <;> simp
  simp [setMultimsgMsg, released]

theorem receiveReply_spec {d : MultiData n} {best : GetMultiMessage n}
    (called : multiMessageCallback msgId d.toGetMultiMessage reply = some best) :
    receiveReply msgId reply d d.msg.toList =
      some ({ d with toGetMultiMessage := best }, best.msg.toList) := by
  have set := setMultimsgMsg_spec reply d
  unfold multiMessageCallback at called
  unfold receiveReply
  rw [set]
  by_cases pending : d.msgStatus = .pending
  · simp only [pending, if_true, some.injEq] at called ⊢
    rw [← called]
  simp only [pending, if_false] at called ⊢
  cases has : reply.msg with
  | none =>
    cases holds : d.msg with
    | none =>
      simp only [has, holds] at called ⊢
      split at called
      · rename_i other
        cases called
        simp [other]
      · rename_i settled
        cases called
        rw [if_neg settled]
        simp [holds]
    | some bestMsg =>
      simp only [has, holds, some.injEq] at called ⊢
      simp [← called, holds]
  | some m =>
    cases holds : d.msg with
    | none =>
      simp only [has, holds, some.injEq] at called ⊢
      rw [← called]
    | some bestMsg =>
      simp only [has, holds] at called ⊢
      split at called
      · cases called
      rename_i inTime
      rw [if_neg inTime]
      split at called
      · rename_i better
        cases called
        simp [better]
      · rename_i worse
        cases called
        simp [worse, holds]

/-- The fetch after the replies `seen` of `total`, with the best of them. -/
structure MultiFetch.Waiting (total : Nat) (seen : List (MultiReply n)) (best : GetMultiMessage n)
    (s : MultiFetch n) : Prop where
  more : seen.length < total
  record : s.d = some ⟨best, total - seen.length, false, true⟩
  earliest : best.Earliest (if total = n then .pending else .expected) seen
  uncalled : s.calls = []
  reserved : s.reserved = best.msg.toList
  chanhead : s.chanheadReserves = 1 ∧ s.chanheadReleases = 0

namespace MultiFetch.Waiting

variable {total : Nat} {seen : List (MultiReply n)} {best : GetMultiMessage n} {s : MultiFetch n}

theorem start (some : 0 < total) :
    Waiting total [] ⟨if total = n then .pending else .expected, none⟩
      (MultiFetch.start total : MultiFetch n) := by
  rw [MultiFetch.start, if_neg some.ne']
  exact ⟨some, rfl, .begin _, rfl, rfl, rfl, rfl⟩

variable (waiting : s.Waiting total seen best)

include waiting

theorem callback_eq {best' : GetMultiMessage n}
    (called : multiMessageCallback msgId best reply = some best') :
    s.callback msgId reply =
      if total - (seen.length + 1) = 0 then
        (multiMessageRespond msgId best').map fun result =>
          ⟨none, [result], [], 1, 1⟩
      else
        some ⟨some ⟨best', total - (seen.length + 1), false, true⟩, [], best'.msg.toList, 1, 0⟩ := by
  have received := receiveReply_spec (d := ⟨best, total - seen.length - 1, false, true⟩) called
  have released : releaseBest best' best'.msg.toList = [] := by
    unfold releaseBest
    cases best'.msg <;> simp
  rw [MultiFetch.callback, waiting.record, bind_some]
  rw [if_neg Bool.false_ne_true, waiting.reserved, received, bind_some]
  dsimp only
  rw [Nat.sub_sub]
  split
  · rename_i last
    simp [cleanup, last, waiting.uncalled, released, waiting.chanhead]
  · rename_i more
    simp [cleanup, more, waiting.uncalled, waiting.chanhead]

theorem more_replies (answers : reply.Answers msgId)
    (more : seen.length + 1 < total) :
    ∃ s' best', s.callback msgId reply = some s' ∧ s'.Waiting total (seen ++ [reply]) best' := by
  obtain ⟨best', called, earliest⟩ := waiting.earliest.callback answers.inTime
  refine ⟨_, best', by rw [waiting.callback_eq called, if_neg (by omega)], ?_⟩
  exact ⟨by simpa using more, by simp, earliest, rfl, rfl, rfl, rfl⟩

theorem last_reply (answers : reply.Answers msgId)
    (last : seen.length + 1 = total) :
    ∃ best' : GetMultiMessage n,
      best'.Earliest (if total = n then .pending else .expected) (seen ++ [reply]) ∧
      s.callback msgId reply = (multiMessageRespond msgId best').map fun result =>
        ⟨none, [result], [], 1, 1⟩ := by
  obtain ⟨best', called, earliest⟩ := waiting.earliest.callback answers.inTime
  exact ⟨best', earliest, by rw [waiting.callback_eq called, if_pos (by omega)]⟩

theorem replies (arrived : List (MultiReply n))
    (answers : ∀ reply ∈ arrived, reply.Answers msgId)
    (more : seen.length + arrived.length < total) :
    ∃ s' best', run (MultiFetch.step msgId) (arrived.map .reply) s = some s' ∧
      s'.Waiting total (seen ++ arrived) best' := by
  induction arrived generalizing s seen best with
  | nil => exact ⟨s, best, rfl, by simpa using waiting⟩
  | cons reply arrived ih =>
    rw [length_cons] at more
    obtain ⟨s', best', called, waiting'⟩ :=
      waiting.more_replies (answers reply mem_cons_self) (by omega)
    obtain ⟨s'', best'', ran, waiting''⟩ := ih waiting'
      (fun other on => answers other (mem_cons_of_mem _ on)) (by simp; omega)
    refine ⟨s'', best'', ?_, by simpa using waiting''⟩
    rw [map_cons, run_cons, MultiFetch.step, called]
    exact ran

end MultiFetch.Waiting

theorem MultiFetch.run_replies {replies : List (MultiReply n)} (some : replies ≠ [])
    (answers : ∀ reply ∈ replies, reply.Answers msgId) :
    ∃ best : GetMultiMessage n,
      best.Earliest (if replies.length = n then .pending else .expected) replies ∧
      run (MultiFetch.step msgId) (replies.map .reply) (MultiFetch.start replies.length) =
        (multiMessageRespond msgId best).map fun result => ⟨none, [result], [], 1, 1⟩ := by
  obtain ⟨front, last, rfl⟩ := replies.eq_nil_or_concat'.resolve_left some
  have length : (front ++ [last]).length = front.length + 1 := by simp
  rw [length]
  obtain ⟨s, best, ran, waiting⟩ := (Waiting.start (Nat.succ_pos front.length)).replies front
    (fun reply on => answers reply (mem_append_left _ on)) (by simp)
  obtain ⟨best', earliest, called⟩ := waiting.last_reply (answers last (by simp)) (by simp)
  refine ⟨best', by simpa using earliest, ?_⟩
  rw [map_append, run_append, ran, bind_some, map_singleton, run_cons,
    MultiFetch.step, called]
  cases multiMessageRespond msgId best' <;> rfl

end Waiting

/-! ## The order of the replies -/

/-- What the requester's callback is called with, when the replies arrive in this order and before
    the timer fires. -/
def callsAfter (msgId : MsgId) (order : List (MultiReply n)) :
    Option (List (MsgStatus × Option (MultiMsg n))) :=
  (run (MultiFetch.step msgId) (order.map .reply) (MultiFetch.start order.length)).map (·.calls)

/-- `ret` is the earliest message that was replied, under an id with its tag in its channel. -/
structure MultiMsg.IsEarliest (replies : List (MultiReply n)) (ret : MultiMsg n) : Prop where
  replied : ∃ reply ∈ replies, reply.n = ret.n ∧ reply.msg = some ret.msg
  least : ∀ reply ∈ replies, ∀ m, reply.msg = some m →
    rank Msg.id (ret.n, ret.msg) ≤ rank Msg.id (reply.n, m)
  time : ret.id.time = ret.msg.id.time
  counts : ret.id.tagcount = n
  active : ret.id.tagactive = ret.n
  tag : ret.id.tags ret.n = ret.msg.id.tag

section Commute

variable {msgId : MsgId} {replies : List (MultiReply n)} {initial : MsgStatus}
  {best best' : GetMultiMessage n}

/-- The answer to a request for an id of no message, or of messages of all the channels. -/
theorem GetMultiMessage.Earliest.respond (earliest : best.Earliest initial replies)
    (known : msgId.time ≤ 0 ∨ msgId.tagcount = n)
    (answers : ∀ reply ∈ replies, reply.Answers msgId) :
    ∃ ret, multiMessageRespond msgId best = some (best.msgStatus, ret) ∧
      ((∃ msg, ret = some msg ∧ best.msgStatus = .found ∧ msg.IsEarliest replies) ∨
      ret = none ∧ (∀ reply ∈ replies, reply.msg = none) ∧
        best.msgStatus = lastStatus initial replies) := by
  cases holds : best.msg with
  | none => exact ⟨none, by simp [multiMessageRespond, holds], .inr ⟨rfl, earliest.none_found holds⟩⟩
  | some bestMsg =>
    obtain ⟨i, m⟩ := bestMsg
    obtain ⟨found, ⟨reply, on, isChannel, has⟩, least⟩ := earliest.found i m holds
    have stamped := (answers reply on).stamped m has
    obtain ⟨id, is, time, counts, active, tags⟩ := multiMessageId_spec i m fun same =>
      known.resolve_left (by omega)
    refine ⟨some ⟨i, m, id, (MsgId.ofStamp m.prevId).copyMsgId msgId⟩,
      by simp [multiMessageRespond, holds, is], .inl ⟨_, rfl, found, ?_⟩⟩
    exact ⟨⟨reply, on, isChannel, has⟩, least, time, counts, active, by simp [tags]⟩

theorem GetMultiMessage.Earliest.msg_eq (channels : (replies.map (·.n)).Nodup)
    {replies' : List (MultiReply n)} (perm : replies'.Perm replies)
    (earliest : best.Earliest initial replies) (earliest' : best'.Earliest initial replies') :
    best.msg = best'.msg := by
  cases holds : best.msg with
  | none =>
    have none := (earliest.none_found holds).1
    cases holds' : best'.msg with
    | none => rfl
    | some bestMsg =>
      obtain ⟨_, ⟨reply, on, _, has⟩, _⟩ := earliest'.found bestMsg.1 bestMsg.2 holds'
      simp [none reply (perm.mem_iff.mp on)] at has
  | some bestMsg =>
    obtain ⟨i, m⟩ := bestMsg
    obtain ⟨_, ⟨reply, on, isChannel, has⟩, least⟩ := earliest.found i m holds
    cases holds' : best'.msg with
    | none =>
      simp [(earliest'.none_found holds').1 reply (perm.mem_iff.mpr on)] at has
    | some bestMsg' =>
      obtain ⟨j, b⟩ := bestMsg'
      obtain ⟨_, ⟨reply', on', isChannel', has'⟩, least'⟩ := earliest'.found j b holds'
      have on' := perm.mem_iff.mp on'
      have first := least reply' on' b has'
      have second := least' reply (perm.mem_iff.mpr on) m has
      rw [isChannel'] at first
      rw [isChannel] at second
      have same : i = j := congrArg (fun x => (ofLex x).2) (le_antisymm first second)
      have sameReply : reply = reply' :=
        inj_on_of_nodup_map channels on on' (by rw [isChannel, isChannel', same])
      rw [sameReply, has'] at has
      rw [same, some.inj has]

theorem callsAfter_eq (known : msgId.time ≤ 0 ∨ msgId.tagcount = n) (asked : replies ≠ [])
    (answers : ∀ reply ∈ replies, reply.Answers msgId) :
    ∃ (best : GetMultiMessage n) (ret : Option (MultiMsg n)),
      best.Earliest (if replies.length = n then .pending else .expected) replies ∧
      multiMessageRespond msgId best = some (best.msgStatus, ret) ∧
      callsAfter msgId replies = some [(best.msgStatus, ret)] ∧
      ((∃ msg, ret = some msg ∧ best.msgStatus = .found ∧ msg.IsEarliest replies) ∨
      ret = none ∧ (∀ reply ∈ replies, reply.msg = none) ∧
        best.msgStatus = lastStatus (if replies.length = n then .pending else .expected) replies) := by
  obtain ⟨best, earliest, ran⟩ := MultiFetch.run_replies asked answers
  obtain ⟨ret, responded, answer⟩ := earliest.respond known answers
  refine ⟨best, ret, earliest, responded, ?_, answer⟩
  rw [callsAfter, ran, responded]
  rfl

theorem lastStatus_eq_expected
    (settled : initial = .expected ∨ ∃ reply ∈ replies, reply.status = .expected) :
    lastStatus initial replies = .expected :=
  if_pos settled

theorem lastStatus_eq_last {last : MultiReply n}
    (unsettled : ¬ (initial = .expected ∨ ∃ reply ∈ replies, reply.status = .expected))
    (isLast : replies.getLast? = some last) : lastStatus initial replies = last.status := by
  rw [lastStatus, if_neg unsettled, isLast]
  rfl

theorem MultiMsg.IsEarliest.congr {ret : MultiMsg n} {replies' : List (MultiReply n)}
    (earliest : ret.IsEarliest replies') (perm : replies'.Perm replies) :
    ret.IsEarliest replies :=
  { earliest with
    replied := by
      obtain ⟨reply, on, is⟩ := earliest.replied
      exact ⟨reply, perm.mem_iff.mp on, is⟩
    least := fun reply on => earliest.least reply (perm.mem_iff.mpr on) }

theorem callsAfter_of_none (known : msgId.time ≤ 0 ∨ msgId.tagcount = n) (asked : replies ≠ [])
    (answers : ∀ reply ∈ replies, reply.Answers msgId) (none : ∀ reply ∈ replies, reply.msg = none) :
    callsAfter msgId replies = some
      [(lastStatus (if replies.length = n then .pending else .expected) replies, .none)] := by
  obtain ⟨best, ret, _, _, called, answer⟩ := callsAfter_eq known asked answers
  rcases answer with ⟨msg, _, _, earliest⟩ | ⟨rfl, _, status⟩
  · obtain ⟨reply, on, _, has⟩ := earliest.replied
    simp [none reply on] at has
  · rw [called, status]

theorem callsAfter_of_found (known : msgId.time ≤ 0 ∨ msgId.tagcount = n)
    (channels : (replies.map (·.n)).Nodup) (answers : ∀ reply ∈ replies, reply.Answers msgId)
    (found : ∃ reply ∈ replies, reply.msg ≠ none) {order : List (MultiReply n)}
    (perm : order.Perm replies) : callsAfter msgId order = callsAfter msgId replies := by
  obtain ⟨reply, on, has⟩ := found
  obtain ⟨best, ret, earliest, responded, called, answer⟩ :=
    callsAfter_eq known (ne_nil_of_mem on) answers
  obtain ⟨best', ret', earliest', responded', called', answer'⟩ :=
    callsAfter_eq known (ne_nil_of_mem (perm.mem_iff.mpr on)) fun other among =>
      answers other (perm.mem_iff.mp among)
  rw [perm.length_eq] at earliest'
  have sameMsg := GetMultiMessage.Earliest.msg_eq channels perm earliest earliest'
  have status : best.msgStatus = .found := by
    rcases answer with ⟨_, _, status, _⟩ | ⟨_, none, _⟩
    · exact status
    · exact absurd (none reply on) has
  have status' : best'.msgStatus = .found := by
    rcases answer' with ⟨_, _, status, _⟩ | ⟨_, none, _⟩
    · exact status
    · exact absurd (none reply (perm.mem_iff.mpr on)) has
  have same : best' = best := by
    cases best
    cases best'
    simp_all
  rw [same, responded] at responded'
  rw [called, called', same, (Prod.mk.inj (some.inj responded')).2]

theorem callsAfter_differ (known : msgId.time ≤ 0 ∨ msgId.tagcount = n)
    (answers : ∀ reply ∈ replies, reply.Answers msgId) (none : ∀ reply ∈ replies, reply.msg = none)
    (all : replies.length = n) (unexpected : ¬ ∃ reply ∈ replies, reply.status = .expected)
    {last : MultiReply n} (on : last ∈ replies) :
    ∃ order : List (MultiReply n), order.Perm replies ∧
      callsAfter msgId order = some [(last.status, .none)] := by
  obtain ⟨front, back, rfl⟩ := append_of_mem on
  have perm : (front ++ back ++ [last]).Perm (front ++ last :: back) :=
    (perm_append_singleton last _).trans perm_middle.symm
  refine ⟨_, perm, ?_⟩
  have mem (reply : MultiReply n) := perm.mem_iff (a := reply)
  rw [callsAfter_of_none known (by simp) (fun reply on => answers reply ((mem reply).mp on))
    (fun reply on => none reply ((mem reply).mp on)), perm.length_eq, all, if_pos rfl,
    lastStatus_eq_last ?_ List.getLast?_concat]
  rintro (pending | ⟨reply, on, expected⟩)
  · cases pending
  · exact unexpected ⟨reply, (mem reply).mp on, expected⟩

/-- The replies of the channels that were asked are answered with the earliest message, in
    whatever order they arrive.  Without a message, `EXPECTED` goes before the other statuses; of
    those the last one counts, so that the order makes a difference if there are several. -/
theorem multi_replies_commute (msgId : MsgId) (known : msgId.time ≤ 0 ∨ msgId.tagcount = n)
    (replies : List (MultiReply n)) (asked : replies ≠ []) (channels : (replies.map (·.n)).Nodup)
    (answers : ∀ reply ∈ replies, reply.Answers msgId) :
    (∀ order : List (MultiReply n), order.Perm replies → ∃ status ret,
      callsAfter msgId order = some [(status, ret)] ∧
      ((∃ reply ∈ replies, reply.msg ≠ none) →
        status = .found ∧ ∃ msg, ret = some msg ∧ msg.IsEarliest replies) ∧
      ((∀ reply ∈ replies, reply.msg = none) → ret = none ∧
        (replies.length ≠ n ∨ (∃ reply ∈ replies, reply.status = .expected) → status = .expected) ∧
        (¬ (replies.length ≠ n ∨ ∃ reply ∈ replies, reply.status = .expected) →
          ∃ last, order.getLast? = some last ∧ status = last.status))) ∧
    ((∀ order order' : List (MultiReply n), order.Perm replies → order'.Perm replies →
        callsAfter msgId order = callsAfter msgId order') ↔
      (∃ reply ∈ replies, reply.msg ≠ none) ∨ replies.length ≠ n ∨
        (∃ reply ∈ replies, reply.status = .expected) ∨
        ∀ reply ∈ replies, ∀ reply' ∈ replies, reply.status = reply'.status) := by
  have orderAsked {order : List (MultiReply n)} (perm : order.Perm replies) : order ≠ [] :=
    fun empty => asked (nil_perm.mp (empty ▸ perm))
  have orderAnswers {order : List (MultiReply n)} (perm : order.Perm replies) :
      ∀ reply ∈ order, reply.Answers msgId := fun reply on => answers reply (perm.mem_iff.mp on)
  have settled {order : List (MultiReply n)} (perm : order.Perm replies) :
      ((if order.length = n then MsgStatus.pending else .expected) = .expected ∨
        ∃ reply ∈ order, reply.status = .expected) ↔
      replies.length ≠ n ∨ ∃ reply ∈ replies, reply.status = .expected := by
    rw [perm.length_eq]
    refine or_congr ?_ (exists_congr fun reply => by rw [perm.mem_iff])
    split <;> simp_all
  refine ⟨fun order perm => ?_, fun same => ?_, fun condition order order' perm perm' => ?_⟩
  · obtain ⟨best, ret, _, _, called, answer⟩ :=
      callsAfter_eq known (orderAsked perm) (orderAnswers perm)
    refine ⟨best.msgStatus, ret, called, fun ⟨reply, on, has⟩ => ?_, fun none => ?_⟩
    · rcases answer with ⟨msg, is, found, earliest⟩ | ⟨_, none, _⟩
      · exact ⟨found, msg, is, earliest.congr perm⟩
      · exact absurd (none reply (perm.mem_iff.mpr on)) has
    · rcases answer with ⟨msg, is, found, earliest⟩ | ⟨is, _, status⟩
      · obtain ⟨reply, on, _, has⟩ := earliest.replied
        simp [none reply (perm.mem_iff.mp on)] at has
      · refine ⟨is, fun early => ?_, fun unsettled => ?_⟩
        · rw [status, lastStatus_eq_expected ((settled perm).mpr early)]
        · obtain ⟨last, isLast⟩ := ne_none_iff_exists'.mp
            (mt List.getLast?_eq_none_iff.mp (orderAsked perm))
          exact ⟨last, isLast, status.trans
            (lastStatus_eq_last (mt (settled perm).mp unsettled) isLast)⟩
  · by_contra not
    push Not at not
    obtain ⟨none, all, unexpected, reply, on, reply', on', differ⟩ := not
    have never : ¬ ∃ reply ∈ replies, reply.status = .expected := by
      rintro ⟨reply, on, expected⟩
      exact unexpected reply on expected
    obtain ⟨order, perm, called⟩ := callsAfter_differ known answers none all never on
    obtain ⟨order', perm', called'⟩ := callsAfter_differ known answers none all never on'
    have equal := same order order' perm perm'
    rw [called, called'] at equal
    simp only [some.injEq, List.cons.injEq, Prod.mk.injEq, and_true] at equal
    exact differ equal
  · by_cases found : ∃ reply ∈ replies, reply.msg ≠ none
    · rw [callsAfter_of_found known channels answers found perm,
        callsAfter_of_found known channels answers found perm']
    · have none : ∀ reply ∈ replies, reply.msg = none := by simpa using found
      have orderNone {order : List (MultiReply n)} (perm : order.Perm replies) :
          ∀ reply ∈ order, reply.msg = .none := fun reply on => none reply (perm.mem_iff.mp on)
      rw [callsAfter_of_none known (orderAsked perm) (orderAnswers perm) (orderNone perm),
        callsAfter_of_none known (orderAsked perm') (orderAnswers perm') (orderNone perm')]
      by_cases early : replies.length ≠ n ∨ ∃ reply ∈ replies, reply.status = .expected
      · rw [lastStatus_eq_expected ((settled perm).mpr early),
          lastStatus_eq_expected ((settled perm').mpr early)]
      · have alike : ∀ reply ∈ replies, ∀ reply' ∈ replies, reply.status = reply'.status := by
          rcases condition with some | skipped | expected | alike
          · exact absurd some found
          · exact absurd (.inl skipped) early
          · exact absurd (.inr expected) early
          · exact alike
        obtain ⟨last, isLast⟩ := ne_none_iff_exists'.mp
          (mt List.getLast?_eq_none_iff.mp (orderAsked perm))
        obtain ⟨last', isLast'⟩ := ne_none_iff_exists'.mp
          (mt List.getLast?_eq_none_iff.mp (orderAsked perm'))
        rw [lastStatus_eq_last (mt (settled perm).mp early) isLast,
          lastStatus_eq_last (mt (settled perm').mp early) isLast',
          alike last (perm.mem_iff.mp (mem_of_getLast? isLast)) last'
            (perm'.mem_iff.mp (mem_of_getLast? isLast'))]

end Commute

def replied (i : Fin 2) (stamp : Stamp) : MultiReply 2 := ⟨i, .found, some ⟨stamp, ⟨0, 0⟩, 500⟩⟩

theorem replied_answers {i : Fin 2} {stamp : Stamp} (time : 0 < stamp.time) (tag : stamp.tag ≤ 32767) :
    (replied i stamp).Answers .oldest := by
  refine ⟨?_, ?_, ?_⟩
  · rintro m ⟨⟩
    rfl
  · rintro m ⟨⟩
    exact ⟨time, tag⟩
  · rintro m ⟨⟩
    exact ⟨⟨0, 0⟩, rfl, Stamp.lt_iff.mpr (.inl time)⟩

theorem multi_replies_commute_two :
    ∃ msg, callsAfter .oldest [replied 0 ⟨100, 1⟩, replied 1 ⟨100, 0⟩] = some [(.found, some msg)] ∧
      msg.IsEarliest [replied 0 ⟨100, 1⟩, replied 1 ⟨100, 0⟩] := by
  obtain ⟨status, ret, called, found, _⟩ :=
    (multi_replies_commute .oldest (.inl (Int.le_refl 0)) [replied 0 ⟨100, 1⟩, replied 1 ⟨100, 0⟩]
      (by simp) (by decide) (by simp [replied_answers])).1 _ (.refl _)
  obtain ⟨rfl, msg, rfl, earliest⟩ := found ⟨replied 0 ⟨100, 1⟩, by simp, by simp [replied]⟩
  exact ⟨msg, called, earliest⟩

/-- One of two channels cannot be reached and the other one has nothing: the answer is that of the
    reply that comes last. -/
theorem multi_replies_last_status :
    callsAfter .oldest [(⟨0, .notfound, none⟩ : MultiReply 2), ⟨1, .error, none⟩] =
      some [(.error, none)] ∧
    callsAfter .oldest [(⟨1, .error, none⟩ : MultiReply 2), ⟨0, .notfound, none⟩] =
      some [(.notfound, none)] :=
  ⟨rfl, rfl⟩

/-! ## The timer -/

/-- The replies that come before the timer fires, and those that come later.  With the last reply
    the timer is deleted. -/
def fetchOps (onTime late : List (MultiReply n)) : List (FetchOp n) :=
  onTime.map .reply ++ if late = [] then [] else .timeout :: late.map .reply

/-- The requester's callback was called once, no message is left reserved, and the channel head was
    released as often as it was reserved. -/
@[simp] def MultiFetch.Completed (s : MultiFetch n) : Prop :=
  s.calls.length = 1 ∧ s.reserved = [] ∧ s.chanheadReleases = s.chanheadReserves

theorem MultiFetch.run_expired {msgId : MsgId} {late : List (MultiReply n)} {s : MultiFetch n}
    {d : MultiData n} (record : s.d = some d) (expired : d.expired = true)
    (left : d.getting = late.length) (some : late ≠ []) :
    run (step msgId) (late.map .reply) s = .some { s with d := none } := by
  induction late generalizing s d with
  | nil => exact absurd rfl some
  | cons reply late ih =>
    have called : s.callback msgId reply = .some (s.cleanup { d with getting := late.length }) := by
      simp [callback, record, expired, left]
    rw [map_cons, run_cons, step, called, bind_some]
    by_cases last : late = []
    · subst last
      rfl
    · have more : late.length ≠ 0 := fun none => last (length_eq_zero_iff.mp none)
      rw [cleanup, if_neg more, ih (d := { d with getting := late.length }) rfl expired rfl last]

/-- A fetch completes if no reply is later than the timer, and in no other case: the timer does
    not call the requester's callback and leaves the best message reserved. -/
theorem multi_fetch_completes_iff (msgId : MsgId) (known : msgId.time ≤ 0 ∨ msgId.tagcount = n)
    (onTime late : List (MultiReply n))
    (answers : ∀ reply ∈ onTime ++ late, reply.Answers msgId) :
    ∃ s, run (MultiFetch.step msgId) (fetchOps onTime late)
        (MultiFetch.start (onTime ++ late).length) = some s ∧
      (s.Completed ↔ late = []) := by
  by_cases timely : late = []
  · subst timely
    rw [fetchOps, if_pos rfl, append_nil, append_nil]
    by_cases asked : onTime = []
    · subst asked
      exact ⟨_, rfl, by simp [MultiFetch.start]⟩
    · have onTimeAnswers : ∀ reply ∈ onTime, reply.Answers msgId := fun reply on =>
        answers reply (mem_append_left _ on)
      obtain ⟨best, earliest, ran⟩ := MultiFetch.run_replies asked onTimeAnswers
      obtain ⟨ret, responded, _⟩ := earliest.respond known onTimeAnswers
      rw [ran, responded]
      exact ⟨_, rfl, by simp⟩
  · have more : 0 < late.length := length_pos_iff.mpr timely
    have total : 0 < (onTime ++ late).length := by
      rw [length_append]
      omega
    obtain ⟨s, best, ran, waiting⟩ := (MultiFetch.Waiting.start total).replies onTime
      (fun reply on => answers reply (mem_append_left _ on)) (by simpa using more)
    rw [fetchOps, if_neg timely, run_append, ran, bind_some, run_cons,
      MultiFetch.step, MultiFetch.timeout, waiting.record, bind_some, if_pos rfl,
      bind_some, MultiFetch.run_expired rfl rfl (by simp) timely]
    exact ⟨_, rfl, by simp [waiting.uncalled, timely]⟩

theorem multi_fetch_completes_iff_two :
    ∃ s, run (MultiFetch.step .oldest) (fetchOps [replied 0 ⟨100, 1⟩, replied 1 ⟨100, 0⟩] [])
        (MultiFetch.start 2) = some s ∧ s.Completed := by
  obtain ⟨s, ran, completed⟩ := multi_fetch_completes_iff .oldest (.inl (Int.le_refl 0))
    [replied 0 ⟨100, 1⟩, replied 1 ⟨100, 0⟩] [] (by simp [replied_answers])
  exact ⟨s, ran, completed.mpr rfl⟩

/-- The second channel replies after 20 seconds: the requester hears nothing, and the message of
    the first channel stays reserved. -/
theorem multi_fetch_times_out :
    ∃ s, run (MultiFetch.step .oldest) (fetchOps [replied 0 ⟨100, 1⟩] [replied 1 ⟨100, 0⟩])
        (MultiFetch.start 2) = some s ∧
      s.calls = [] ∧ s.reserved = [(0, ⟨⟨100, 1⟩, ⟨0, 0⟩, 500⟩)] ∧ ¬ s.Completed :=
  ⟨_, rfl, rfl, rfl, fun completed => Nat.zero_ne_one completed.1⟩

end Nchan.Memstore
