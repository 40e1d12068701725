import Nchan.Lib.Run
import Nchan.Redis.Keyslot
import Nchan.Redis.PublishSpec

/-! # The log that publishing keeps

As long as the newest message is there, `publish.lua` gives increasing ids, links each message to
the next one, and keeps the ids in a list that is sorted and bounded.  The time that `TIME`
answers need not increase, and neither need the time by which keys expire.  But if the name of a
channel has a percent sign that `format` does not take, nothing can be published to it.
-/

namespace Nchan.Redis

open Nchan.Lib List Publish Slot Option Db Run

/-- `publish.lua`, for a channel of this name.  The key of the message is made before anything is
    written. -/
def publishTo (ns id : Bytes) (now time : Int) (numsub : String → Int) (args : PublishArgs)
    (db : Db) : Except PublishError (PublishReply × Db) :=
  if ':' ∈ args.contentType.toList then .error .contentType
  else if ¬ formats ns id then .error .format
  else publish now time numsub args db

theorem publishTo_eq {ns id : Bytes} (formatted : formats ns id = true) :
    publishTo ns id = publish := by
  funext now time numsub args db
  by_cases colon : ':' ∈ args.contentType.toList
  · simp [publishTo, publish, colon]
  · simp [publishTo, colon, formatted]

/-- The keys, and the ids that were given out, from first to last. -/
structure History where
  db : Db
  published : List Stamp

/-- A call of `publish.lua`, or some expired keys are reclaimed. -/
inductive Event where
  | publish (now time : Int) (numsub : String → Int) (args : PublishArgs)
  | reclaim (now : Int) (channel messages : Bool) (message : Stamp → Bool)

def Db.reclaim (now : Int) (channel messages : Bool) (message : Stamp → Bool) (db : Db) : Db :=
  { db with
    channel := db.channel.reclaim now channel
    messages := db.messages.reclaim now messages
    message := fun id => (db.message id).reclaim now (message id) }

def Event.apply (ns id : Bytes) : Event → History → Option History
  | .publish now time numsub args, h =>
    match publishTo ns id now time numsub args h.db with
    | .error _ => none
    | .ok (reply, db) => some ⟨db, h.published ++ [reply.lastMessageId]⟩
  | .reclaim now channel messages message, h =>
    some { h with db := h.db.reclaim now channel messages message }

def History.start : History := ⟨.empty, []⟩

/-- The hash of the newest message has not expired. -/
def History.NewestAlive (now : Int) (h : History) : Prop :=
  ∀ id, h.published.getLast? = some id → h.db.hasMessage now id = true

/-- Messages are stored and the newest one is there.  The script refuses content types with a
    colon. -/
def Event.Good : Event → History → Prop
  | .publish now _ _ args, h =>
    args.maxMsgBufSize ≠ 0 ∧ ':' ∉ args.contentType.toList ∧ h.NewestAlive now
  | .reclaim now _ _ _, h => h.NewestAlive now

/-! ## The invariant -/

/-- While the newest message is there, so are the channel and its list, and longer than it. -/
structure Kept (published : List Stamp) (id : Stamp) (t : Int) (db : Db) (hash : ChannelHash)
    (list : List Stamp) (expiry : Int) : Prop where
  channel : db.channel = some ⟨hash, some expiry⟩
  messages : db.messages = some ⟨list, some expiry⟩
  outlived : t < expiry
  current : hash.currentMessage = some id
  head : list.head? = some id
  decreasing : list.Pairwise (· > ·)
  known : ∀ x ∈ list, x ∈ published

structure Log (published : List Stamp) (db : Db) : Prop where
  increasing : published.Pairwise (· < ·)
  known : ∀ id e, db.message id = some e →
    id ∈ published ∧ e.value.time = id.time ∧ e.value.tag = id.tag
  linked : ∀ before a b after e, published = before ++ a :: b :: after →
    db.message a = some e → e.value.next = some b
  newest : ∀ id e, published.getLast? = some id → db.message id = some e →
    ∃ t hash list expiry, e.expiry = some t ∧ Kept published id t db hash list expiry
  start : published = [] → db.channel = none ∧ db.messages = none

namespace Publish

theorem lt_newId {last : MessageHash} {id : Stamp} (time : Int) (atTime : last.time = id.time)
    (atTag : last.tag = id.tag) : id < newId time (some last) := by
  simp only [newId, Stamp.lt_iff, atTime, atTag]
  split_ifs <;> omega

end Publish

structure Ready (now time : Int) (published : List Stamp) (db : Db) : Prop where
  decreasing : (db.ids now).Pairwise (· > ·)
  listed : ∀ x ∈ db.ids now, x ∈ published
  above : ∀ x ∈ published, x < newId time (last now db)
  last : ∀ x, published.getLast? = some x → current now db = some x
  lives : db.channel.look now = none ∧ db.messages.look now = none ∨
    ∃ hash list expiry, db.channel.look now = some ⟨hash, some expiry⟩ ∧
      db.messages.look now = some ⟨list, some expiry⟩ ∧ ∃ x ∈ list, db.hasMessage now x = true

theorem le_getLast {published : List Stamp} {last x : Stamp}
    (increasing : published.Pairwise (· < ·)) (is : published.getLast? = some last)
    (on : x ∈ published) : x ≤ last := by
  obtain ⟨front, rfl⟩ := List.getLast?_eq_some_iff.mp is
  rw [pairwise_append] at increasing
  cases mem_append.mp on with
  | inl earlier => exact (increasing.2.2 x earlier last (mem_singleton_self _)).le
  | inr here => exact (mem_singleton.mp here).le

theorem Log.ready {now : Int} {published : List Stamp} {db : Db} (log : Log published db)
    (alive : History.NewestAlive now ⟨db, published⟩) (time : Int) :
    Ready now time published db := by
  cases newest : published.getLast? with
  | none =>
    obtain rfl := List.getLast?_eq_none_iff.mp newest
    obtain ⟨channel, messages⟩ := log.start rfl
    have none_ : db.ids now = [] := by simp [Db.ids, Slot.get, messages, look]
    exact {
      decreasing := by simp [none_]
      listed := by simp [none_]
      above := by simp
      last := by simp
      lives := .inl (by simp [channel, messages, look]) }
  | some last =>
    -- the newest message is alive, and the keys of the channel outlive it
    obtain ⟨e, seen⟩ := hasMessage_iff.mp (alive last newest)
    obtain ⟨found, unexpired⟩ := look_eq_some.mp seen
    obtain ⟨t, hash, list, expiry, expires, kept⟩ := log.newest last e newest found
    have before : now < expiry := (unexpired t expires).trans kept.outlived
    have channel := look_of_lt kept.channel before
    have messages := look_of_lt kept.messages before
    have ids : db.ids now = list := ids_of_look messages
    have current : current now db = some last := by
      simp [Publish.current, Slot.get, channel, kept.current]
    have lastIs : Publish.last now db = some e.value := by
      simp [Publish.last, current, Slot.get, seen]
    obtain ⟨-, atTime, atTag⟩ := log.known last e found
    have headOn : last ∈ list := mem_of_mem_head? kept.head
    exact {
      decreasing := ids ▸ kept.decreasing
      listed := ids ▸ kept.known
      above := fun x on => by
        rw [lastIs]
        exact (le_getLast log.increasing newest on).trans_lt (lt_newId time atTime atTag)
      last := fun x is => current.trans (newest.symm.trans is)
      lives := .inr ⟨hash, list, expiry, channel, messages, last, headOn, alive last newest⟩ }

/-! ## Steps -/

section

variable {now time : Int} {published : List Stamp} {db db' : Db} {args : PublishArgs}
variable {rest dump : List Stamp}

theorem Publish.Wrote.posted
    (wrote : Publish.Wrote now time args db rest dump db') : Posted now time args dump db db' := by
  intro x
  by_cases self : x = newId time (last now db)
  · rw [self, wrote.self, if_pos rfl]
  · rw [wrote.others x self, if_neg self]

theorem Posted.cases (posted : Posted now time args dump db db') {x : Stamp} {e : Entry MessageHash}
    (found : db'.message x = some e) :
    x = newId time (last now db) ∧ e.value = newMessage now time args db ∧
        e.expiry = some (now + ttl args * 1000) ∧ 0 < ttl args ∨
      x ≠ newId time (last now db) ∧ x ∉ dump ∧ ∃ old, db.message x = some old ∧
        e.expiry = old.expiry ∧
        e.value = if current now db = some x ∧ db.hasMessage now x = true
          then { old.value with next := some (newId time (last now db)) }
          else old.value := by
  rw [posted] at found
  split at found
  case isTrue self =>
    split at found
    · cases found
    · cases found
      exact .inl ⟨self, rfl, rfl, by omega⟩
  case isFalse other =>
    split at found
    · cases found
    case isFalse kept =>
      rw [linkLast_message] at found
      obtain ⟨old, was, rfl⟩ := map_eq_some_iff.mp found
      refine .inr ⟨other, kept, old, was, ?_, ?_⟩
      · split <;> rfl
      · split <;> rfl

theorem Log.concat (log : Log published db) (ready : Ready now time published db)
    (alive : History.NewestAlive now ⟨db, published⟩)
    (wrote : Publish.Wrote now time args db rest dump db') :
    Log (published ++ [newId time (last now db)]) db' := by
  constructor
  case increasing =>
    refine pairwise_append.mpr ⟨log.increasing, pairwise_singleton _ _, ?_⟩
    intro x on y is
    exact mem_singleton.mp is ▸ ready.above x on
  case known =>
    intro x e found
    rcases wrote.posted.cases found with ⟨self, value, -⟩ | ⟨-, -, old, was, -, value⟩
    · rw [self, value]
      exact ⟨mem_append_right _ (mem_singleton_self _), rfl, rfl⟩
    · obtain ⟨on, atTime, atTag⟩ := log.known x old was
      refine ⟨mem_append_left _ on, ?_⟩
      rw [value]
      split <;> exact ⟨atTime, atTag⟩
  case linked =>
    intro before a b after e split found
    -- the new id is the last one, so `a` was published before
    cases after.eq_nil_or_concat' with
    | inl last =>
      subst last
      have whole : published ++ [newId time (last now db)]
          = (before ++ [a]) ++ [b] := by simpa using split
      obtain ⟨rfl, same⟩ := List.append_inj' whole rfl
      obtain rfl := List.cons.inj same |>.1
      have newest : (before ++ [a]).getLast? = some a := List.getLast?_concat ..
      have below := ready.above a (by simp)
      rcases wrote.posted.cases found with ⟨self, -⟩ | ⟨-, -, old, -, -, value⟩
      · exact absurd self below.ne
      · rw [value, if_pos ⟨ready.last a newest, alive a newest⟩]
    | inr more =>
      obtain ⟨after', c, rfl⟩ := more
      have whole : published ++ [newId time (last now db)]
          = (before ++ a :: b :: after') ++ [c] := by simpa using split
      obtain ⟨rfl, -⟩ := List.append_inj' whole rfl
      have below := ready.above a (by simp)
      rcases wrote.posted.cases found with ⟨self, -⟩ | ⟨-, -, old, was, -, value⟩
      · exact absurd self below.ne
      · -- `a` is not the last message, so it keeps its `next`
        have notLast : current now db ≠ some a := by
          intro is
          cases newest : (before ++ a :: b :: after').getLast? with
          | none => simp at newest
          | some last =>
            have same := (ready.last last newest).symm.trans is
            have above : b ≤ last := le_getLast log.increasing newest (by simp)
            have increasing := log.increasing
            rw [pairwise_append, pairwise_cons] at increasing
            have : a < b := increasing.2.1.1 b mem_cons_self
            rw [Option.some.inj same] at above
            exact absurd above (not_le.mpr this)
        rw [value, if_neg fun both => notLast both.1]
        exact log.linked before a b after' old rfl was
  case newest =>
    intro x e is found
    rw [List.getLast?_concat] at is
    cases is
    rcases wrote.posted.cases found with ⟨-, -, expires, positive⟩ | ⟨other, -⟩
    · obtain ⟨hash, expiry, current, channel, messages, outlived, -⟩ :=
        wrote.expiry positive ready.lives
      refine ⟨_, hash, _, expiry, expires, channel, messages, outlived, current, rfl, ?_, ?_⟩
      · refine pairwise_cons.mpr ⟨fun x on => ?_, ready.decreasing.sublist wrote.older.sublist⟩
        exact ready.above x (ready.listed x (wrote.older.subset on))
      · intro x on
        cases mem_cons.mp on with
        | inl self => simp [self]
        | inr older => exact mem_append_left _ (ready.listed x (wrote.older.subset older))
    · exact absurd rfl other
  case start => simp

theorem Log.reclaim (log : Log published db) (alive : History.NewestAlive now ⟨db, published⟩)
    (channel messages : Bool) (message : Stamp → Bool) :
    Log published (db.reclaim now channel messages message) := by
  have was : ∀ x e, (db.reclaim now channel messages message).message x = some e →
      db.message x = some e := fun x e found => of_reclaim found
  constructor
  case increasing => exact log.increasing
  case known => exact fun x e found => log.known x e (was x e found)
  case linked =>
    exact fun before a b after e split found => log.linked before a b after e split (was a e found)
  case newest =>
    intro x e is found
    obtain ⟨t, hash, list, expiry, expires, kept⟩ := log.newest x e is (was x e found)
    obtain ⟨e', seen⟩ := hasMessage_iff.mp (alive x is)
    have unexpired : now < t := by
      obtain ⟨there, lives⟩ := look_eq_some.mp seen
      rw [was x e found] at there
      cases there
      exact lives t expires
    have before : ∀ t ∈ some expiry, now < t := by simpa using unexpired.trans kept.outlived
    refine ⟨t, hash, list, expiry, expires, ?_, ?_, kept.outlived, kept.current, kept.head,
      kept.decreasing, kept.known⟩
    · exact reclaim_of_alive kept.channel before
    · exact reclaim_of_alive kept.messages before
  case start =>
    intro empty
    obtain ⟨noChannel, noMessages⟩ := log.start empty
    simp [Db.reclaim, noChannel, noMessages, Slot.reclaim, look]

theorem Log.publish (log : Log published db) (alive : History.NewestAlive now ⟨db, published⟩)
    (numsub : String → Int) (accepted : ':' ∉ args.contentType.toList)
    (buffered : args.maxMsgBufSize ≠ 0) (time : Int) :
    ∃ reply db' rest dump, Redis.publish now time numsub args db = .ok (reply, db') ∧
      reply.lastMessageId = newId time (last now db) ∧
      Publish.Wrote now time args db rest dump db' := by
  have ready := log.ready alive time
  have unlisted : newId time (last now db) ∉ db.ids now := fun on =>
    lt_irrefl _ (ready.above _ (ready.listed _ on))
  refine publish_wrote numsub accepted buffered ?_ ?_ fun _ => ?_
  · by_contra taken
    rw [Bool.not_eq_false] at taken
    obtain ⟨e, seen⟩ := hasMessage_iff.mp taken
    have known := log.known _ e (look_eq_some.mp seen).1
    exact lt_irrefl _ (ready.above _ known.1)
  · exact nodup_cons.mpr ⟨unlisted, ready.decreasing.imp ne_of_gt⟩
  · rcases ready.lives with ⟨-, none_⟩ | ⟨-, list, expiry, -, listed, x, on, has⟩
    · exact .inl none_
    · exact .inr ⟨x, ids_of_look listed ▸ on, has⟩

/-- The list after a publish.  A time to live that is over at once can only delete a list that
    was just made. -/
theorem Publish.Wrote.ids (wrote : Publish.Wrote now time args db rest dump db')
    (ready : Ready now time published db) :
    db'.ids now = newId time (last now db) :: rest ∨ db'.ids now = [] ∧ db.ids now = [] := by
  have messages := wrote.messages
  by_cases refresh : ttl args + 1 > channelTtl now db
  · simp only [extend, refresh, if_true, expire_write] at messages
    by_cases short : ttl args + 1 ≤ 0
    · simp only [short, if_true] at messages
      refine .inr ⟨by simp [Db.ids, Slot.get, messages, look], ?_⟩
      rcases ready.lives with ⟨-, gone⟩ | ⟨hash, list, expiry, there, -⟩
      · exact ids_of_none gone
      · have before := (look_eq_some.mp there).2 expiry rfl
        rw [channelTtl, if_neg (by simp [there]), ttl_some there, elim_some] at refresh
        omega
    · simp only [short, if_false] at messages
      have seen : db'.messages.look now = _ := look_eq_some.mpr
        ⟨messages, by simp; omega⟩
      exact .inl (by simp [Db.ids, Slot.get, seen])
  · simp only [extend, refresh, if_false] at messages
    exact .inl (by simp [Db.ids, messages])

theorem Publish.Wrote.removed_gone (wrote : Publish.Wrote now time args db rest dump db')
    (ready : Ready now time published db) {x : Stamp} (on : x ∈ db.ids now)
    (off : x ∉ db'.ids now) : db'.hasMessage now x = false := by
  have below := ready.above x (ready.listed x on)
  have notRest : x ∉ rest := by
    cases wrote.ids ready with
    | inl is =>
      rw [is] at off
      exact fun older => off (mem_cons_of_mem _ older)
    | inr empty =>
      rw [empty.2] at on
      cases on
  by_contra has
  rw [Bool.not_eq_false] at has
  obtain ⟨e, seen⟩ := hasMessage_iff.mp has
  obtain ⟨found, unexpired⟩ := look_eq_some.mp seen
  rcases wrote.posted.cases found with ⟨self, -⟩ | ⟨-, kept, old, was, expires, -⟩
  · exact absurd self below.ne
  · have gone := (wrote.removed x on notRest).resolve_left kept
    have there := hasMessage_iff.mpr ⟨old, look_eq_some.mpr ⟨was, expires ▸ unexpired⟩⟩
    rw [there] at gone
    cases gone

end

/-! ## Runs -/

section Named

variable {ns id : Bytes} (formatted : formats ns id = true)

include formatted

theorem step_log {event : Event} {h : History} (log : Log h.published h.db)
    (good : event.Good h) : ∃ h', event.apply ns id h = some h' ∧ Log h'.published h'.db := by
  cases event with
  | publish now time numsub args =>
    obtain ⟨buffered, accepted, alive⟩ := good
    obtain ⟨reply, db', rest, dump, ok, is, wrote⟩ := log.publish alive numsub accepted buffered time
    refine ⟨⟨db', h.published ++ [reply.lastMessageId]⟩, ?_, ?_⟩
    · simp [Event.apply, publishTo_eq formatted, ok]
    · exact is ▸ log.concat (log.ready alive time) alive wrote
  | reclaim now channel messages message => exact ⟨_, rfl, log.reclaim good channel messages message⟩

omit formatted in
theorem Log.initial : Log [] empty where
  increasing := .nil
  known := fun _ _ found => by cases found
  linked := fun _ _ _ _ _ split => by simp at split
  newest := fun _ _ is => by cases is
  start := fun _ => ⟨rfl, rfl⟩

/-- While the newest message is there, every publish of a message that is stored succeeds, if the
    name of the channel has nothing in it that `format` refuses; ids
    increase, the list is the channel's log from its current message back, and messages are
    linked in order.  A publish with a limit leaves no more ids than that, and no message of an
    id that it took off. -/
theorem publish_keeps_log {events : List Event}
    (good : Run.Along (Event.apply ns id) Event.Good events .start) :
    ∃ h, run (Event.apply ns id) events .start = some h ∧
      h.published.Pairwise (· < ·) ∧
      (∀ now, h.published ≠ [] → h.NewestAlive now → ∃ hash list,
        h.db.channel.get now = some hash ∧ h.db.messages.get now = some list ∧
        hash.currentMessage = h.published.getLast? ∧ list.head? = hash.currentMessage ∧
        list.Pairwise (· > ·)) ∧
      (∀ now before a b after msg, h.published = before ++ a :: b :: after →
        (h.db.message a).get now = some msg → msg.next = some b) ∧
      ∀ now time numsub args, (Event.publish now time numsub args).Good h →
        ∃ reply db', publishTo ns id now time numsub args h.db = .ok (reply, db') ∧
          (∀ id ∈ h.published, id < reply.lastMessageId) ∧
          (0 < args.maxMsgBufSize → (db'.ids now).length ≤ args.maxMsgBufSize) ∧
          ∀ id ∈ h.db.ids now, id ∉ db'.ids now → db'.hasMessage now id = false := by
  obtain ⟨h, reaches, log⟩ : ∃ h, run (Event.apply ns id) events .start = some h ∧
      Log h.published h.db :=
    run_keeps (fun event h log good => step_log formatted log good) Log.initial good
  rw [publishTo_eq formatted]
  refine ⟨h, reaches, log.increasing, fun now some_ alive => ?_,
    fun now before a b after msg split seen => ?_, fun now time numsub args good => ?_⟩
  · obtain ⟨last, newest⟩ := ne_none_iff_exists'.mp (mt List.getLast?_eq_none_iff.mp some_)
    obtain ⟨e, seen⟩ := hasMessage_iff.mp (alive last newest)
    obtain ⟨found, unexpired⟩ := look_eq_some.mp seen
    obtain ⟨t, hash, list, expiry, expires, kept⟩ := log.newest last e newest found
    have before : now < expiry := (unexpired t expires).trans kept.outlived
    refine ⟨hash, list, ?_, ?_, kept.current.trans newest.symm, kept.head.trans kept.current.symm,
      kept.decreasing⟩
    · exact get_eq_some.mpr ⟨_, look_of_lt kept.channel before, rfl⟩
    · exact get_eq_some.mpr ⟨_, look_of_lt kept.messages before, rfl⟩
  · obtain ⟨e, looked, rfl⟩ := get_eq_some.mp seen
    exact log.linked before a b after e split (look_eq_some.mp looked).1
  · obtain ⟨buffered, accepted, alive⟩ := good
    have ready := log.ready alive time
    obtain ⟨reply, db', rest, dump, ok, is, wrote⟩ := log.publish alive numsub accepted buffered time
    refine ⟨reply, db', ok, is ▸ ready.above, fun limited => ?_, fun id on off => ?_⟩
    · cases wrote.ids ready with
      | inl ids =>
        rw [ids, length_cons]
        exact_mod_cast wrote.bounded limited
      | inr empty =>
        rw [empty.1, length_nil]
        omega
    · exact wrote.removed_gone ready on off

end Named

/-- `%` -/
def percentName : Bytes := [percent]

def twice : List Event :=
  [.publish 1000 1 (fun _ => 0) ⟨"", "", "", 0, 10, 5, 0, false⟩,
    .publish 2000 1 (fun _ => 0) ⟨"", "", "", 0, 20, 1, 0, false⟩]

/-- Two messages in a second that does not pass, of which the second one replaces the first. -/
theorem publish_keeps_log_twice :
    ∃ h, run (Event.apply [] [0x61]) twice .start = some h ∧ h.published = [⟨1, 0⟩, ⟨1, 1⟩] ∧
      h.published.Pairwise (· < ·) ∧ h.db.hasMessage 2000 ⟨1, 0⟩ = false := by
  have good : Run.Along (Event.apply [] [0x61]) Event.Good twice .start := by
    refine ⟨⟨by decide, by decide, fun _ is => by cases is⟩, fun h applied => ?_⟩
    cases applied
    refine ⟨⟨by decide, by decide, fun _ is => ?_⟩, fun _ _ => trivial⟩
    cases is
    rfl
  obtain ⟨h, reaches, increasing, -⟩ := publish_keeps_log (by decide) good
  cases reaches
  exact ⟨_, rfl, rfl, increasing, rfl⟩

/-- Nothing can be published to a channel with the id `%`. -/
theorem publish_refuses_percent :
    publishTo [] percentName 1000 1 (fun _ => 0) ⟨"", "", "", 0, 10, 5, 0, false⟩ .empty =
      .error .format := by
  simp [publishTo, show formats [] percentName = false by decide]

end Nchan.Redis
