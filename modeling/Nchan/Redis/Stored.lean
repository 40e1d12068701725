import Nchan.Redis.PublishLog

/-! # The keys of a channel that is read

Messages are published while others are read.  `get_message.lua` takes the ids of messages that
are gone off the end of the list, so that the list may be gone before the channel is, and it may
come back without a time to live.  Still every id is newer than those before, and as long as the
newest message has not expired it is in the list.
-/

namespace Nchan.Redis

open Nchan.Lib List Option Slot Publish Db

/-- A message that was published, and the id before it as subscribers are told. -/
structure Published where
  id : Stamp
  prev : Stamp

/-- There is a message in the list that has not expired and is newer than `x`. -/
def Db.Behind (now : Int) (x : Stamp) (db : Db) : Prop :=
  ∃ id ∈ db.ids now, db.hasMessage now id = true ∧ x < id

instance (now : Int) (x : Stamp) (db : Db) : Decidable (db.Behind now x) :=
  inferInstanceAs (Decidable (∃ id ∈ db.ids now, _ ∧ _))

/-- The newest message, which is gone from the time `t` on, with the channel and the list. -/
structure Newest (clock : Int) (id : Stamp) (t : Int) (db : Db) : Prop where
  message : ∃ msg, db.message id = some ⟨msg, some t⟩
  lasts : (id.time + 1) * 1000 ≤ t
  channel : ∃ hash expiry, db.channel = some ⟨hash, some expiry⟩ ∧ t < expiry ∧
    hash.currentMessage = some id
  listed : clock < t → ∃ l, db.messages = some l ∧ id ∈ l.value ∧ ∀ u ∈ l.expiry, t < u

/-- The hash of a message is that of a message that was published. -/
structure HashOf (m : Published) (e : Entry MessageHash) : Prop where
  time : e.value.time = m.id.time
  tag : e.value.tag = m.id.tag
  prevTime : e.value.prevTime.getD 0 = m.prev.time
  prevTag : e.value.prevTag.getD 0 = m.prev.tag
  expires : e.expiry ≠ none

/-- The keys after the messages of `history`, as of `clock`. -/
structure Stored (clock : Int) (history : List Published) (db : Db) : Prop where
  increasing : history.Pairwise fun a b => a.id < b.id
  dated : ∀ m ∈ history, 0 < m.id.time ∧ m.id.time * 1000 ≤ clock
  before : ∀ m ∈ history, m.prev = ⟨0, 0⟩ ∨ ∃ old ∈ history, old.id = m.prev
  hashes : ∀ id e, db.message id = some e → ∃ m ∈ history, m.id = id ∧ HashOf m e
  decreasing : (db.ids clock).Pairwise (· > ·)
  listed : ∀ id ∈ db.ids clock, ∃ m ∈ history, m.id = id
  -- the list has no time to live, or that of the channel
  paired : ∀ l t, db.messages = some l → l.expiry = some t → ∃ hash, db.channel = some ⟨hash, some t⟩
  newest : ∀ m, history.getLast? = some m → ∃ t, Newest clock m.id t db
  start : history = [] → db.channel = none ∧ db.messages = none

theorem Stored.initial (clock : Int) : Stored clock [] .empty where
  increasing := .nil
  dated := forall_mem_nil _
  before := forall_mem_nil _
  hashes := fun _ _ found => by cases found
  decreasing := .nil
  listed := forall_mem_nil _
  paired := fun _ _ found => by cases found
  newest := fun _ is => by cases is
  start := fun _ => ⟨rfl, rfl⟩

section

variable {clock now : Int} {history : List Published} {db db' : Db}

theorem Db.ids_of_le {id : Stamp} (later : clock ≤ now) (on : id ∈ db.ids now) :
    db.ids clock = db.ids now := by
  cases seen : db.messages.look now with
  | none => simp [ids_of_none seen] at on
  | some l => rw [ids_of_look seen, ids_of_look (look_of_le later seen)]

theorem Db.ids_eq_nil_or (later : clock ≤ now) : db.ids now = [] ∨ db.ids clock = db.ids now := by
  cases is : db.ids now with
  | nil => exact .inl rfl
  | cons id rest => exact .inr (is ▸ ids_of_le later (is ▸ mem_cons_self))

theorem Db.hasMessage_of_le {id : Stamp} (later : clock ≤ now)
    (has : db.hasMessage now id = true) : db.hasMessage clock id = true := by
  obtain ⟨e, seen⟩ := hasMessage_iff.mp has
  exact hasMessage_iff.mpr ⟨e, look_of_le later seen⟩

variable {x : Stamp}

theorem Db.Behind.of_le (later : clock ≤ now) (behind : db.Behind now x) : db.Behind clock x := by
  obtain ⟨id, on, has, newer⟩ := behind
  exact ⟨id, ids_of_le later on ▸ on, hasMessage_of_le later has, newer⟩

theorem Stored.later (stored : Stored clock history db) (later : clock ≤ now) :
    Stored now history db := by
  refine { stored with
    dated := fun m on => ?_
    decreasing := ?_
    listed := fun id on => stored.listed id (ids_of_le later on ▸ on)
    newest := fun m is => ?_ }
  · obtain ⟨positive, past⟩ := stored.dated m on
    exact ⟨positive, past.trans later⟩
  · rcases ids_eq_nil_or later with none_ | same
    · rw [none_]
      exact .nil
    · exact same ▸ stored.decreasing
  · obtain ⟨t, newest⟩ := stored.newest m is
    exact ⟨t, { newest with listed := fun alive => newest.listed (later.trans_lt alive) }⟩

theorem Stored.le_last (stored : Stored clock history db) {last m : Published}
    (is : history.getLast? = some last) (on : m ∈ history) : m.id ≤ last.id := by
  have increasing : (history.map (·.id)).Pairwise (· < ·) :=
    pairwise_map.mpr stored.increasing
  have lastId : (history.map (·.id)).getLast? = some last.id := by
    rw [List.getLast?_map, is, map_some]
  exact le_getLast increasing lastId (mem_map_of_mem on)

/-! ## Publishing -/

def Publish.prev (now : Int) (db : Db) : Stamp :=
  ⟨(last now db).elim 0 (·.time), (last now db).elim 0 (·.tag)⟩

theorem Publish.prev_newMessage (now time : Int) (args : PublishArgs) (db : Db) :
    (newMessage now time args db).prevTime.getD 0 = (prev now db).time ∧
      (newMessage now time args db).prevTag.getD 0 = (prev now db).tag := by
  simp only [newMessage, prev]
  cases is : current now db with
  | none =>
    have none_ : last now db = none := by rw [last, is, bind_none]
    simp [none_]
  | some id => cases last now db <;> simp

theorem Stored.last (stored : Stored now history db) :
    (∃ m msg, history.getLast? = some m ∧ Publish.last now db = some msg ∧
      msg.time = m.id.time ∧ msg.tag = m.id.tag ∧ m.id ∈ db.ids now ∧
      db.hasMessage now m.id = true) ∨
    Publish.last now db = none ∧ ∀ m ∈ history, (m.id.time + 1) * 1000 ≤ now := by
  cases is : history.getLast? with
  | none =>
    obtain rfl := List.getLast?_eq_none_iff.mp is
    obtain ⟨channel, -⟩ := stored.start rfl
    refine .inr ⟨?_, forall_mem_nil _⟩
    simp [Publish.last, Publish.current, channel, Slot.get, look]
  | some m =>
    obtain ⟨t, newest⟩ := stored.newest m is
    obtain ⟨msg, message⟩ := newest.message
    obtain ⟨hash, expiry, channel, outlived, current⟩ := newest.channel
    by_cases alive : now < t
    · have seen := look_of_lt message alive
      have seenChannel := look_of_lt channel (alive.trans outlived)
      obtain ⟨l, messages, listed, longer⟩ := newest.listed alive
      have seenList : db.messages.look now = some l :=
        look_eq_some.mpr ⟨messages, fun u on => alive.trans (longer u on)⟩
      obtain ⟨m', -, same, hashOf⟩ := stored.hashes m.id _ message
      refine .inl ⟨m, msg, rfl, ?_, same ▸ hashOf.time, same ▸ hashOf.tag, ?_,
        hasMessage_iff.mpr ⟨_, seen⟩⟩
      · simp [Publish.last, Publish.current, Slot.get, seenChannel, current, seen]
      · exact ids_of_look seenList ▸ listed
    · refine .inr ⟨?_, fun m' on => ?_⟩
      · have gone : (db.message m.id).look now = none := by
          cases seen : (db.message m.id).look now with
          | none => rfl
          | some e =>
            obtain ⟨there, unexpired⟩ := look_eq_some.mp seen
            rw [message] at there
            cases there
            exact absurd (unexpired t rfl) alive
        cases seenChannel : db.channel.look now with
        | none => simp [Publish.last, Publish.current, Slot.get, seenChannel]
        | some e =>
          have there := (look_eq_some.mp seenChannel).1
          rw [channel] at there
          cases there
          simp [Publish.last, Publish.current, Slot.get, seenChannel, current, gone]
      · have notNewer := Stamp.le_iff.mp (stored.le_last is on)
        have lasts := newest.lasts
        omega

theorem Stored.newId (stored : Stored now history db) :
    (Publish.newId (now / 1000) (Publish.last now db)).time = now / 1000 ∧
      ∀ m ∈ history, m.id < Publish.newId (now / 1000) (Publish.last now db) := by
  rcases stored.last with ⟨m, msg, is, last, atTime, atTag, -⟩ | ⟨none_, gone⟩
  · have past := (stored.dated m (mem_of_getLast? is)).2
    rw [last]
    constructor
    · have notLater : ¬ msg.time > now / 1000 := by omega
      simp [Publish.newId, if_neg notLater]
    · intro m' on
      exact (stored.le_last is on).trans_lt (lt_newId _ atTime atTag)
  · rw [none_]
    refine ⟨rfl, fun m on => Stamp.lt_iff.mpr (.inl ?_)⟩
    have past := gone m on
    show m.id.time < now / 1000
    omega

section

variable {args : PublishArgs} {rest dump : List Stamp}

variable (stored : Stored now history db)

include stored

theorem Stored.expiries
    (wrote : Publish.Wrote now (now / 1000) args db rest dump db') (positive : 0 < ttl args) :
    ∃ hash expiry l, hash.currentMessage = some (Publish.newId (now / 1000) (Publish.last now db)) ∧
      db'.channel = some ⟨hash, some expiry⟩ ∧ now + ttl args * 1000 < expiry ∧
      db'.messages = some l ∧ l.value = Publish.newId (now / 1000) (Publish.last now db) :: rest ∧
      ∀ u ∈ l.expiry, u = expiry := by
  obtain ⟨hash, current, ⟨channel, messages, -⟩ | ⟨old, expiry, there, channel, messages, outlived⟩⟩ :=
    wrote.expiries positive
  · refine ⟨hash, _, _, current, channel, by omega, messages, rfl, fun u is => ?_⟩
    exact (some.inj is).symm
  · refine ⟨hash, expiry, _, current, channel, outlived, messages, rfl, fun u is => ?_⟩
    -- the list had a time to live before, which was that of the channel
    obtain ⟨l, seen, has⟩ := mem_bind_iff.mp is
    obtain ⟨hash', same⟩ := stored.paired l u (look_eq_some.mp seen).1 has
    have there' := (look_eq_some.mp there).1
    rw [same] at there'
    cases there'
    rfl

theorem Stored.ids_wrote
    (wrote : Publish.Wrote now (now / 1000) args db rest dump db') (positive : 0 < ttl args) :
    db'.ids now = Publish.newId (now / 1000) (Publish.last now db) :: rest := by
  obtain ⟨hash, expiry, l, -, -, outlived, messages, value, pairs⟩ := stored.expiries wrote positive
  have seen : db'.messages.look now = some l := by
    refine look_eq_some.mpr ⟨messages, fun u is => ?_⟩
    rw [pairs u is]
    omega
  rw [ids_of_look seen, value]

theorem Stored.wrote
    (wrote : Publish.Wrote now (now / 1000) args db rest dump db') (positive : 0 < ttl args)
    (started : 1000 ≤ now) :
    Stored now (history ++ [⟨Publish.newId (now / 1000) (Publish.last now db),
      prev now db⟩]) db' := by
  obtain ⟨hash, expiry, l, current, channel, outlived, messages, value, pairs⟩ :=
    stored.expiries wrote positive
  obtain ⟨atTime, above⟩ := stored.newId
  have ids := stored.ids_wrote wrote positive
  constructor
  case increasing =>
    refine pairwise_append.mpr ⟨stored.increasing, pairwise_singleton _ _, ?_⟩
    intro m on new is
    exact mem_singleton.mp is ▸ above m on
  case dated =>
    refine forall_mem_append.mpr ⟨stored.dated, forall_mem_singleton.mpr ?_⟩
    dsimp only
    omega
  case before =>
    refine forall_mem_append.mpr ⟨fun m old => ?_, forall_mem_singleton.mpr ?_⟩
    · refine (stored.before m old).imp_right fun ⟨before, known, is⟩ => ?_
      exact ⟨before, mem_append_left _ known, is⟩
    · rcases stored.last with ⟨m, msg, is, last, isTime, isTag, -⟩ | ⟨none_, -⟩
      · refine .inr ⟨m, mem_append_left _ (mem_of_getLast? is), ?_⟩
        simp [Publish.prev, last, isTime, isTag]
      · exact .inl (by simp [Publish.prev, none_])
  case hashes =>
    intro id e found
    rcases wrote.posted.cases found with ⟨rfl, value, expires, -⟩ | ⟨-, -, old, was, expires, value⟩
    · refine ⟨_, mem_append_right _ (mem_singleton_self _), rfl, ?_⟩
      obtain ⟨prevTime, prevTag⟩ := prev_newMessage now (now / 1000) args db
      exact ⟨value ▸ rfl, value ▸ rfl, value ▸ prevTime, value ▸ prevTag, by simp [expires]⟩
    · obtain ⟨m, on, is, hashOf⟩ := stored.hashes id old was
      have same : e.value.time = old.value.time ∧ e.value.tag = old.value.tag ∧
          e.value.prevTime = old.value.prevTime ∧ e.value.prevTag = old.value.prevTag := by
        rw [value]
        split <;> exact ⟨rfl, rfl, rfl, rfl⟩
      obtain ⟨time, tag, prevTime, prevTag⟩ := same
      refine ⟨m, mem_append_left _ on, is, time.trans hashOf.time, tag.trans hashOf.tag, ?_, ?_,
        expires ▸ hashOf.expires⟩
      · exact prevTime ▸ hashOf.prevTime
      · exact prevTag ▸ hashOf.prevTag
  case decreasing =>
    rw [ids]
    refine pairwise_cons.mpr ⟨fun id on => ?_, stored.decreasing.sublist wrote.older.sublist⟩
    obtain ⟨m, known, rfl⟩ := stored.listed id (wrote.older.subset on)
    exact above m known
  case listed =>
    intro id on
    rw [ids] at on
    rcases mem_cons.mp on with rfl | older
    · exact ⟨_, mem_append_right _ (mem_singleton_self _), rfl⟩
    · obtain ⟨m, known, is⟩ := stored.listed id (wrote.older.subset older)
      exact ⟨m, mem_append_left _ known, is⟩
  case paired =>
    intro l' t found expires
    rw [messages] at found
    cases found
    exact ⟨hash, pairs t expires ▸ channel⟩
  case newest =>
    intro m is
    rw [List.getLast?_concat] at is
    cases is
    refine ⟨_, ⟨_, wrote.written positive⟩, ?_, ⟨hash, expiry, channel, outlived, current⟩, fun _ =>
      ⟨l, messages, value ▸ mem_cons_self, fun u is => pairs u is ▸ outlived⟩⟩
    dsimp only
    omega
  case start => simp

/-- Only those that were told the newest id, or that there is none, are behind after a publish and
    were not before. -/
theorem Stored.behind_wrote
    (wrote : Publish.Wrote now (now / 1000) args db rest dump db') (positive : 0 < ttl args)
    (nonneg : ⟨0, 0⟩ ≤ x) (behind : db'.Behind now x) :
    db.Behind now x ∨ prev now db ≤ x ∧
      x < Publish.newId (now / 1000) (Publish.last now db) := by
  obtain ⟨id, on, has, newer⟩ := behind
  rw [stored.ids_wrote wrote positive] at on
  rcases mem_cons.mp on with rfl | older
  · by_cases before : prev now db ≤ x
    · exact .inr ⟨before, newer⟩
    · -- the message before is there, and newer than `x` too
      rcases stored.last with ⟨m, msg, -, last, isTime, isTag, listed, alive⟩ | ⟨none_, -⟩
      · refine .inl ⟨m.id, listed, alive, ?_⟩
        have is : prev now db = m.id := by
          simp [Publish.prev, last, isTime, isTag]
        exact is ▸ not_le.mp before
      · refine absurd nonneg ?_
        simpa [Publish.prev, none_] using before
  · obtain ⟨e, seen⟩ := hasMessage_iff.mp has
    obtain ⟨found, unexpired⟩ := look_eq_some.mp seen
    obtain ⟨m, known, rfl⟩ := stored.listed id (wrote.older.subset older)
    rcases wrote.posted.cases found with ⟨self, -⟩ | ⟨-, -, old, was, expires, -⟩
    · exact absurd self (stored.newId.2 m known).ne
    · refine .inl ⟨m.id, wrote.older.subset older, ?_, newer⟩
      exact hasMessage_iff.mpr ⟨old, look_eq_some.mpr ⟨was, expires ▸ unexpired⟩⟩

omit stored in
theorem Publish.ttl_pos (nonneg : 0 ≤ args.msgTtl) : 0 < ttl args := by
  unfold ttl
  split <;> omega

omit stored in
theorem Publish.reply_of_ok {time : Int} {numsub : String → Int} {reply : PublishReply}
    (done : publish now time numsub args db = .ok (reply, db')) :
    reply.lastMessageId = newId time (last now db) ∧
      reply.packed = pack args (newMessage now time args db) := by
  unfold publish at done
  split at done
  · cases done
  · dsimp only at done
    split at done
    · cases done
    · cases done
      exact ⟨rfl, rfl⟩

theorem Stored.publish {numsub : String → Int}
    {reply : PublishReply} (limited : 0 < args.maxMsgBufSize) (nonneg : 0 ≤ args.msgTtl)
    (started : 1000 ≤ now) (done : publish now (now / 1000) numsub args db = .ok (reply, db')) :
    Stored now (history ++ [⟨Publish.newId (now / 1000) (Publish.last now db),
        prev now db⟩]) db' ∧
      ∀ x, ⟨0, 0⟩ ≤ x → db'.Behind now x → db.Behind now x ∨ prev now db ≤ x ∧
        x < Publish.newId (now / 1000) (Publish.last now db) := by
  obtain ⟨-, above⟩ := stored.newId
  have positive := ttl_pos nonneg
  rcases publish_cases now (now / 1000) numsub args db with ⟨error, is⟩ | ⟨accepted, fresh⟩
  · rw [is] at done
    cases done
  · have unlisted : Publish.newId (now / 1000) (Publish.last now db) ∉ db.ids now := by
      intro on
      obtain ⟨m, known, same⟩ := stored.listed _ on
      exact absurd same (above m known).ne
    obtain ⟨reply', db'', rest, dump, ok, -, wrote⟩ := publish_wrote numsub accepted
      limited.ne' fresh (nodup_cons.mpr ⟨unlisted, stored.decreasing.imp ne_of_gt⟩)
      fun negative => absurd negative limited.not_gt
    rw [ok] at done
    cases done
    exact ⟨stored.wrote wrote positive started,
      fun x nonneg => stored.behind_wrote wrote positive nonneg⟩

end

/-! ## Reading -/

theorem Stored.oldestmsg (stored : Stored now history db) :
    Stored now history (db.oldestmsg now).2 := by
  have is : (db.oldestmsg now).2 = db.setIds now
    ((db.ids now).rdropWhile fun old => !db.hasMessage now old) := rfl
  rw [is]
  have shorter := rdropWhile_prefix (fun old => !db.hasMessage now old) (db.ids now)
  refine { stored with
    decreasing := ?_
    listed := fun id on => ?_
    paired := fun l t found expires => ?_
    newest := fun m is => ?_
    start := fun empty => ?_ }
  · rw [ids_setIds]
    exact stored.decreasing.sublist shorter.sublist
  · rw [ids_setIds] at on
    exact stored.listed id (shorter.subset on)
  · unfold setIds at found
    split at found
    · cases found
    · cases found
      obtain ⟨old, seen, has⟩ := bind_eq_some_iff.mp expires
      exact stored.paired old t (look_eq_some.mp seen).1 has
  · obtain ⟨t, newest⟩ := stored.newest m is
    refine ⟨t, newest.message, newest.lasts, newest.channel, fun alive => ?_⟩
    obtain ⟨l, messages, on, longer⟩ := newest.listed alive
    obtain ⟨msg, message⟩ := newest.message
    have seen : db.messages.look now = some l :=
      look_eq_some.mpr ⟨messages, fun u has => alive.trans (longer u has)⟩
    have has := hasMessage_of_lt message alive
    have stays : m.id ∈ (db.ids now).rdropWhile fun old => !db.hasMessage now old := by
      by_contra dropped
      have gone := of_not_mem_rdropWhile (ids_of_look seen ▸ on) dropped
      simp [has] at gone
    rw [setIds_messages (ne_nil_of_mem stays), write_of_some _ seen]
    exact ⟨_, rfl, stays, longer⟩
  · obtain ⟨channel, messages⟩ := stored.start empty
    refine ⟨channel, ?_⟩
    simp [setIds, ids, Slot.get, messages, look]

theorem Db.Behind.of_oldestmsg (behind : (db.oldestmsg now).2.Behind now x) : db.Behind now x := by
  obtain ⟨id, on, has, newer⟩ := behind
  have is : (db.oldestmsg now).2.ids now =
      (db.ids now).rdropWhile fun old => !db.hasMessage now old := ids_setIds ..
  have front := rdropWhile_prefix (fun old => !db.hasMessage now old) (db.ids now)
  exact ⟨id, front.subset (is ▸ on), has, newer⟩

/-- The keys after `get_message.lua`. -/
def Looked (now : Int) (db db' : Db) : Prop := db' = db ∨ db' = (db.oldestmsg now).2

/-- What `get_message.lua` answers, and why. -/
inductive Answered (now : Int) (id : Stamp) (db : Db) : GetReply → Prop
  | notFound : Answered now id db .notFound
  | found {x : Stamp} {msg : MessageHash} (seen : (db.message x).get now = some msg) (ttl : Int)
      (subscribers : Option Int) : Answered now id db (.ok ttl msg subscribers)
  | none (nothing : (db.oldestmsg now).1 = none) (subscribers : Option Int) :
      Answered now id db (.notYetAvailable subscribers)
  | newest {hash : ChannelHash} (channel : db.channel.get now = some hash)
      (current : hash.currentMessage = some id ∨ hash.currentMessage = none)
      (subscribers : Option Int) : Answered now id db (.notYetAvailable subscribers)

theorem replyWith_answered {keys : Db} (same : keys.message = db.message) (id x : Stamp)
    (subscribers : Option Int) : Answered now id db (replyWith now x subscribers keys) := by
  unfold replyWith
  rw [same]
  split
  · exact .notFound
  case h_2 msg seen => exact .found seen _ _

theorem getMessage_answered {time tag : Int} {reply : GetReply}
    (done : getMessage now time tag .filo 0 db = (reply, db')) :
    Answered now ⟨time, tag⟩ db reply ∧ Looked now db db' := by
  unfold getMessage at done
  cases channel : db.channel.get now with
  | none =>
    simp only [channel, if_true] at done
    cases done
    exact ⟨.notFound, .inl rfl⟩
  | some hash =>
    simp only [channel] at done
    split at done
    · cases oldest : db.oldestmsg now with
      | mk found keys =>
        have is : keys = (db.oldestmsg now).2 := by rw [oldest]
        simp only [oldest] at done
        cases found with
        | none =>
          cases done
          exact ⟨.none (by rw [oldest]) _, .inr is⟩
        | some x =>
          cases done
          exact ⟨replyWith_answered (is ▸ rfl) _ x _, .inr is⟩
    · split at done
      case isTrue current =>
        cases done
        exact ⟨.newest channel current _, .inl rfl⟩
      case isFalse =>
        split at done
        · cases done
          exact ⟨.notFound, .inl rfl⟩
        · cases done
          exact ⟨replyWith_answered rfl _ _ _, .inl rfl⟩

theorem Stored.looked (stored : Stored now history db) (looked : Looked now db db') :
    Stored now history db' := by
  rcases looked with rfl | rfl
  · exact stored
  · exact stored.oldestmsg

theorem Db.Behind.of_looked (looked : Looked now db db') (behind : db'.Behind now x) :
    db.Behind now x := by
  rcases looked with rfl | rfl
  · exact behind
  · exact behind.of_oldestmsg

theorem Stored.notYetAvailable (stored : Stored now history db) {subscribers : Option Int}
    (answered : Answered now x db (.notYetAvailable subscribers)) : ¬ db.Behind now x := by
  rintro ⟨id, on, has, newer⟩
  cases answered with
  | none nothing =>
    have empty := List.getLast?_eq_none_iff.mp nothing
    have gone := rdropWhile_eq_nil_iff.mp empty id on
    simp [has] at gone
  | newest channel current =>
    obtain ⟨e, seen, rfl⟩ := get_eq_some.mp channel
    have found := (look_eq_some.mp seen).1
    cases is : history.getLast? with
    | none =>
      rw [(stored.start (List.getLast?_eq_none_iff.mp is)).1] at found
      cases found
    | some m =>
      obtain ⟨t, newest⟩ := stored.newest m is
      obtain ⟨hash, expiry, there, -, currentIs⟩ := newest.channel
      rw [there] at found
      cases found
      rw [currentIs] at current
      obtain ⟨m', known, rfl⟩ := stored.listed id on
      have notNewer := stored.le_last is known
      rw [some.inj (current.resolve_right (some_ne_none _))] at notNewer
      exact absurd newer notNewer.not_gt

theorem Stored.found (stored : Stored now history db) {msg : MessageHash}
    (seen : (db.message x).get now = some msg) :
    ∃ m ∈ history, m.id = x ∧ msg.time = m.id.time ∧ msg.tag = m.id.tag ∧
      msg.prevTime.getD 0 = m.prev.time ∧ msg.prevTag.getD 0 = m.prev.tag ∧
      0 ≤ (db.message x).ttl now := by
  obtain ⟨e, looked, rfl⟩ := get_eq_some.mp seen
  obtain ⟨there, unexpired⟩ := look_eq_some.mp looked
  obtain ⟨m, on, is, hashOf⟩ := stored.hashes x e there
  refine ⟨m, on, is, hashOf.time, hashOf.tag, hashOf.prevTime, hashOf.prevTag, ?_⟩
  obtain ⟨t, expires⟩ := ne_none_iff_exists'.mp hashOf.expires
  have alive := unexpired t expires
  rw [ttl_some looked, expires, elim_some]
  omega

end

end Nchan.Redis
