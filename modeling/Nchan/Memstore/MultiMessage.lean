import Nchan.Memstore.FindNext
import Mathlib.Data.List.FinRange

/-! # The next message of several channels

`nchan_store_async_get_multi_message` asks each channel of a multiplexed one for its next
message, unless it is known to have none, and answers the earliest of those it gets.  The
channels are owned by different workers, so that the replies come in any order; `arrive` is that
order.  All of them come before the request times out.  A failed assert is `none`.
-/

namespace Nchan.Memstore

/-- A channel of a multiplexed one: its buffer, and `last_msgid` of the internal subscriber that
    the multiplexed channel has on it. -/
structure MultiChannel where
  maxMessages : Int
  messages : List Msg
  lastMsgid : Stamp

/-- What `nchan_store_async_get_message` answers for one channel. -/
def MultiChannel.getMessage (ch : MultiChannel) (msgid : Stamp) : Option (MsgStatus × Option Msg) :=
  findNext ch.maxMessages msgid ch.messages

/-- Is the next message after `req` worth asking for, the latest one being `lastid`? -/
def wantMsg (lastid req : Stamp) : Bool :=
  lastid.time = 0 ∨ lastid.time = -1 ∨ lastid.time > req.time ∨
    lastid.time = req.time ∧ lastid.tag ≥ req.tag

variable {n : Nat}

/-- `req_msgid`, for the channels that are wanted. -/
def wantedMsgids (chans : Fin n → MultiChannel) (msgId : MsgId) : Option (List (Fin n × Stamp)) :=
  ((List.finRange n).mapM fun (i : Fin n) =>
    (msgId.extractFromMultiMsgid i).map fun req => (i, req)).map fun reqs =>
      if msgId.time = 0 then reqs
      else reqs.filter fun (i, req) => wantMsg (chans i).lastMsgid req

structure MultiReply (n : Nat) where
  n : Fin n
  status : MsgStatus
  msg : Option Msg

def multiReply (chans : Fin n → MultiChannel) (request : Fin n × Stamp) : Option (MultiReply n) :=
  ((chans request.1).getMessage request.2).map fun (status, msg) => ⟨request.1, status, msg⟩

/-- `get_multi_message_data_t`; `msg` is the best one so far, with its channel. -/
structure GetMultiMessage (n : Nat) where
  msgStatus : MsgStatus
  msg : Option (Fin n × Msg)

/-- Is `msg` of the channel `i` to be passed on before `best` of the channel `j`? -/
def betterResponse (i j : Fin n) (msg best : Msg) : Bool :=
  msg.id.time < best.id.time ∨
    msg.id.time = best.id.time ∧ msg.id.tag < best.id.tag ∨
    msg.id.time = best.id.time ∧ msg.id.tag = best.id.tag ∧ i < j

/-- `nchan_store_async_get_multi_message_callback`, up to the last reply. -/
def multiMessageCallback (wantedMsgid : MsgId) (d : GetMultiMessage n) (reply : MultiReply n) :
    Option (GetMultiMessage n) :=
  let set : GetMultiMessage n := ⟨reply.status, reply.msg.map fun msg => (reply.n, msg)⟩
  if d.msgStatus = .pending then some set
  else
    match reply.msg, d.msg with
    | some _, none => some set
    | some msg, some (j, best) =>
      if ¬ wantedMsgid.time ≤ msg.id.time then none
      else if betterResponse reply.n j msg best then some set
      else some d
    | none, none =>
      if d.msgStatus ≠ .expected then some { d with msgStatus := reply.status } else some d
    | none, some _ => some d

/-- `retmsg`: the message of the channel `n` under ids of all channels. -/
structure MultiMsg (n : Nat) where
  n : Fin n
  msg : Msg
  id : MsgId
  prevId : MsgId

/-- A copy of a message's id with room for the tags of `n` channels. -/
def roomyId (n : Nat) (stamp : Stamp) : MsgId :=
  let id := (MsgId.ofStamp stamp).copyMsgId (MsgId.ofStamp stamp)
  let id :=
    if n > fixedMultitagMax then { id with allocd := Function.update id.allocd 0 stamp.tag } else id
  { id with tagcount := n }

/-- `muhtags[n] = ..` and `retmsg.id.tagactive = n`. -/
def setActiveTag (i : Fin n) (tag : Int) (id : MsgId) : MsgId :=
  let muhtags := if n > fixedMultitagMax then id.allocd else id.fixed
  { id.setTags n (Function.update muhtags i tag) with tagactive := i }

/-- The id that the best message is answered with. -/
def multiMessageId (wantedMsgid : MsgId) (i : Fin n) (msg : Msg) : Option MsgId :=
  let id :=
    if wantedMsgid.time ≠ msg.id.time then (roomyId n msg.id).expandMultiTag 0 i (-1)
    else some ((MsgId.ofStamp msg.id).copyMsgId wantedMsgid)
  id.map (setActiveTag i msg.id.tag)

def multiMessageRespond (wantedMsgid : MsgId) (d : GetMultiMessage n) :
    Option (MsgStatus × Option (MultiMsg n)) :=
  match d.msg with
  | none => some (d.msgStatus, none)
  | some (i, msg) =>
    (multiMessageId wantedMsgid i msg).map fun id =>
      (d.msgStatus, some ⟨i, msg, id, (MsgId.ofStamp msg.prevId).copyMsgId wantedMsgid⟩)

/-- `nchan_store_async_get_multi_message`. -/
def getMultiMessage (chans : Fin n → MultiChannel)
    (arrive : List (Fin n × Stamp) → List (Fin n × Stamp)) (msgId : MsgId) :
    Option (MsgStatus × Option (MultiMsg n)) :=
  (wantedMsgids chans msgId).bind fun wanted =>
    -- nothing to fetch: all the replies would be MSG_EXPECTED
    if wanted = [] then some (.expected, none)
    else
      let status : MsgStatus := if wanted.length = n then .pending else .expected
      ((arrive wanted).mapM (multiReply chans)).bind fun replies =>
        (replies.foldlM (multiMessageCallback msgId) ⟨status, none⟩).bind
          (multiMessageRespond msgId)

/-- A subscriber that resumes at `msgId`: it asks for the next message, moves its id past the one
    it gets and asks again, until there is none.  `arrive` is the order of the replies in each
    round.  The answers are those messages and the last status. -/
def resumeMulti (chans : Fin n → MultiChannel)
    (arrive : Nat → List (Fin n × Stamp) → List (Fin n × Stamp)) :
    Nat → Nat → MsgId → Option (List (Fin n × Msg) × MsgStatus)
  | 0, _, _ => none
  | fuel + 1, round, msgId =>
    (getMultiMessage chans (arrive round) msgId).bind fun
      | (status, none) => some ([], status)
      | (_, some ret) =>
        (msgId.updateMultiMsgid ret.id).bind fun msgId =>
          (resumeMulti chans arrive fuel (round + 1) msgId).map fun (out, status) =>
            ((ret.n, ret.msg) :: out, status)

end Nchan.Memstore
