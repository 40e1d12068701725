import Nchan.Redis.PublishLog

/-! # Reading forward

A reader starts at the oldest message and asks `get_message.lua` for the one after it, again and
again.  Messages are found through the `next` field of the one before, so that the walk ends
early at a message that expired before an older one did.
-/

namespace Nchan.Redis

open Nchan.Lib List Publish Db

/-- A call of `publish.lua`; Redis takes the time from the clock by which keys expire. -/
structure PublishCall where
  now : Int
  numsub : String → Int
  args : PublishArgs

def replay (calls : List PublishCall) (db : Db) : Db :=
  calls.foldl (fun db call =>
    match publish call.now (call.now / 1000) call.numsub call.args db with
    | .error _ => db
    | .ok (_, db) => db) db

/-- The clock does not go back from call to call, and messages are stored up to a limit. -/
def Timely (clock : Int) : List PublishCall → Prop
  | [] => True
  | call :: calls =>
    clock ≤ call.now ∧ 0 < call.args.maxMsgBufSize ∧ 0 ≤ call.args.msgTtl ∧ Timely call.now calls

def clockAfter (clock : Int) (calls : List PublishCall) : Int :=
  calls.foldl (fun _ call => call.now) clock

/-- Reading on from an id, at one moment: the messages, and the code that ends it. -/
inductive Walk (now createChannelTtl : Int) : Int → Int → Db → List MessageHash → Nat → Prop
  | ends {time tag : Int} {db db' : Db} {reply : GetReply}
      (answer : getMessage now time tag .filo createChannelTtl db = (reply, db'))
      (ended : reply.code ≠ 200) : Walk now createChannelTtl time tag db [] reply.code
  | next {time tag : Int} {db db' : Db} {ttl : Int} {msg : MessageHash} {subscribers : Option Int}
      {msgs : List MessageHash} {code : Nat}
      (answer : getMessage now time tag .filo createChannelTtl db = (.ok ttl msg subscribers, db'))
      (rest : Walk now createChannelTtl msg.time msg.tag db' msgs code) :
      Walk now createChannelTtl time tag db (msg :: msgs) code

/-- The messages of the list that have not expired, in the order in which they were published. -/
def live (now : Int) (db : Db) : List MessageHash :=
  (db.ids now).reverse.filterMap fun id => (db.message id).get now

/-- No message of the list has expired before an older one. -/
def LiveAfterLive (now : Int) (db : Db) : Prop :=
  (db.ids now).reverse.Pairwise fun older newer =>
    db.hasMessage now older = true → db.hasMessage now newer = true

variable {clock now : Int} {db : Db}

theorem Walk.unique {createChannelTtl time tag : Int} {msgs msgs' : List MessageHash}
    {code code' : Nat} (walk : Walk now createChannelTtl time tag db msgs code)
    (walk' : Walk now createChannelTtl time tag db msgs' code') : msgs = msgs' ∧ code = code' := by
  induction walk generalizing msgs' code' with
  | ends answer ended =>
    cases walk' with
    | ends answer' =>
      cases answer.symm.trans answer'
      exact ⟨rfl, rfl⟩
    | next answer' =>
      cases answer.symm.trans answer'
      exact absurd rfl ended
  | next answer rest ih =>
    cases walk' with
    | ends answer' ended =>
      cases answer.symm.trans answer'
      exact absurd rfl ended
    | next answer' rest' =>
      cases answer.symm.trans answer'
      obtain ⟨rfl, rfl⟩ := ih rest'
      exact ⟨rfl, rfl⟩

theorem Walk.iff_of_unique {createChannelTtl time tag : Int} {msgs msgs' : List MessageHash}
    {code code' : Nat} (walk : Walk now createChannelTtl time tag db msgs code) :
    Walk now createChannelTtl time tag db msgs' code' ↔ msgs' = msgs ∧ code' = code :=
  ⟨fun walk' => walk'.unique walk, fun same => same.1 ▸ same.2 ▸ walk⟩

/-! ## The invariant -/

/-- The keys of a channel that is only published to, from the time `clock` on. -/
structure Linked (clock : Int) (hash : ChannelHash) (list : List Stamp) (expiry : Int) (db : Db) :
    Prop where
  channel : db.channel = some ⟨hash, some expiry⟩
  messages : db.messages = some ⟨list, some expiry⟩
  head : list.head? = hash.currentMessage
  nonempty : list ≠ []
  decreasing : list.Pairwise (· > ·)
  times : ∀ id ∈ list, 0 < id.time ∧ id.time * 1000 ≤ clock
  present : ∀ id ∈ list, ∃ msg t, db.message id = some ⟨msg, some t⟩ ∧ msg.time = id.time ∧
    msg.tag = id.tag ∧ (id.time + 1) * 1000 ≤ t ∧ t ≤ expiry
  -- what has been taken off the list has expired
  listed : ∀ id e, db.message id = some e → id ∈ list ∨ ∃ t, e.expiry = some t ∧ t ≤ clock
  linked : ∀ newer b a older e t, list = newer ++ b :: a :: older → db.message a = some e →
    e.expiry = some t → clock < t → e.value.next = some b

def Chained (clock : Int) (db : Db) : Prop :=
  db.channel = none ∧ db.messages = none ∧ (∀ id, db.message id = none) ∨
    ∃ hash list expiry, Linked clock hash list expiry db

structure Seen (now : Int) (db : Db) : Prop where
  lives : db.channel.look now = none ∧ db.messages.look now = none ∨
    ∃ hash list expiry, db.channel.look now = some ⟨hash, some expiry⟩ ∧
      db.messages.look now = some ⟨list, some expiry⟩ ∧ list ≠ []
  head : (db.ids now).head? = current now db
  decreasing : (db.ids now).Pairwise (· > ·)
  times : ∀ id ∈ db.ids now, 0 < id.time ∧ id.time * 1000 ≤ now
  present : ∀ id ∈ db.ids now, ∃ msg t, db.message id = some ⟨msg, some t⟩ ∧ msg.time = id.time ∧
    msg.tag = id.tag ∧ (id.time + 1) * 1000 ≤ t ∧
    ∀ hash expiry, db.channel.look now = some ⟨hash, some expiry⟩ → t ≤ expiry
  listed : ∀ id e, db.message id = some e → id ∈ db.ids now ∨ ∃ t, e.expiry = some t ∧ t ≤ now
  linked : ∀ newer b a older e t, db.ids now = newer ++ b :: a :: older → db.message a = some e →
    e.expiry = some t → now < t → e.value.next = some b

theorem Linked.seen {hash : ChannelHash} {list : List Stamp} {expiry : Int}
    (linked : Linked clock hash list expiry db) (later : clock ≤ now) : Seen now db := by
  by_cases alive : now < expiry
  · have channel := Slot.look_of_lt linked.channel alive
    have messages := Slot.look_of_lt linked.messages alive
    have ids : db.ids now = list := ids_of_look messages
    constructor
    case lives => exact .inr ⟨hash, list, expiry, channel, messages, linked.nonempty⟩
    case head => rw [ids, linked.head, current, Slot.get, channel]; rfl
    case decreasing => exact ids ▸ linked.decreasing
    case times =>
      intro id on
      obtain ⟨positive, early⟩ := linked.times id (ids ▸ on)
      exact ⟨positive, early.trans later⟩
    case present =>
      intro id on
      obtain ⟨msg, t, found, atTime, atTag, lasts, within⟩ := linked.present id (ids ▸ on)
      refine ⟨msg, t, found, atTime, atTag, lasts, fun hash' expiry' same => ?_⟩
      rw [channel] at same
      cases same
      exact within
    case listed =>
      intro id e found
      rw [ids]
      refine (linked.listed id e found).imp_right fun gone => ?_
      obtain ⟨t, is, ended⟩ := gone
      exact ⟨t, is, ended.trans later⟩
    case linked =>
      intro newer b a older e t split found is unexpired
      exact linked.linked newer b a older e t (ids ▸ split) found is (by omega)
  · -- everything has expired
    have channel : db.channel.look now = none := by
      simp [Slot.look, linked.channel, alive]
    have messages : db.messages.look now = none := by
      simp [Slot.look, linked.messages, alive]
    have ids := ids_of_none messages
    constructor
    case lives => exact .inl ⟨channel, messages⟩
    case head => rw [ids, current, Slot.get, channel]; rfl
    case decreasing => simp [ids]
    case times => simp [ids]
    case present => simp [ids]
    case listed =>
      intro id e found
      refine .inr ?_
      cases linked.listed id e found with
      | inl on =>
        obtain ⟨msg, t, is, -, -, -, within⟩ := linked.present id on
        rw [found] at is
        cases is
        exact ⟨t, rfl, by omega⟩
      | inr gone =>
        obtain ⟨t, is, ended⟩ := gone
        exact ⟨t, is, ended.trans later⟩
    case linked => simp [ids]

theorem Chained.seen (chained : Chained clock db) (later : clock ≤ now) : Seen now db := by
  rcases chained with ⟨channel, messages, message⟩ | ⟨hash, list, expiry, linked⟩
  · have ids : db.ids now = [] := by simp [ids, Slot.get, Slot.look, messages]
    constructor
    case lives => exact .inl (by simp [channel, messages, Slot.look])
    case head => simp [ids, current, Slot.get, Slot.look, channel]
    case decreasing => simp [ids]
    case times => simp [ids]
    case present => simp [ids]
    case listed => intro id e found; simp [message] at found
    case linked => simp [ids]
  · exact linked.seen later

/-! ## Publishing -/

theorem linkLast_of_message {id x : Stamp} {msg : MessageHash} {t : Option Int} (now : Int)
    (found : db.message x = some ⟨msg, t⟩) :
    ∃ msg', (linkLast now id db).message x = some ⟨msg', t⟩ ∧ msg'.time = msg.time ∧
      msg'.tag = msg.tag := by
  rw [linkLast_message, found, Option.map_some]
  split
  · exact ⟨_, rfl, rfl, rfl⟩
  · exact ⟨_, rfl, rfl, rfl⟩

variable {newer older : List Stamp} {a : Stamp}

theorem head_ne_of_decreasing {b : Stamp} (decreasing : (newer ++ b :: a :: older).Pairwise (· > ·))
    (is : (newer ++ b :: a :: older).head? = some a) : False := by
  cases newer with
  | nil =>
    simp only [nil_append, List.head?_cons, Option.some.injEq] at is
    rw [nil_append, pairwise_cons] at decreasing
    exact absurd (decreasing.1 a mem_cons_self) (is ▸ lt_irrefl _)
  | cons c newer =>
    simp only [cons_append, List.head?_cons, Option.some.injEq] at is
    rw [cons_append, pairwise_cons] at decreasing
    exact absurd (decreasing.1 a (by simp)) (is ▸ lt_irrefl _)

section

variable {now : Int} {db db' : Db} {args : PublishArgs} {rest dump : List Stamp}

theorem Seen.newId (seen : Seen now db) :
    (newId (now / 1000) (last now db)).time = now / 1000 ∧
      ∀ x ∈ db.ids now, x < newId (now / 1000) (last now db) := by
  cases ids : db.ids now with
  | nil =>
    have none_ : current now db = none := by rw [← seen.head, ids]; rfl
    have noLast : last now db = none := by simp [last, none_]
    rw [noLast]
    exact ⟨rfl, by simp⟩
  | cons newest older =>
    have current : current now db = some newest := by rw [← seen.head, ids]; rfl
    have on : newest ∈ db.ids now := ids ▸ mem_cons_self
    obtain ⟨msg, t, found, atTime, atTag, lasts, -⟩ := seen.present newest on
    obtain ⟨-, early⟩ := seen.times newest on
    have above : (Publish.newId (now / 1000) (last now db)).time = now / 1000 ∧
        newest < Publish.newId (now / 1000) (last now db) := by
      by_cases unexpired : now < t
      · have looked := Slot.look_of_lt found unexpired
        have last : last now db = some msg := by
          simp [last, current, Slot.get, looked]
        rw [last]
        refine ⟨?_, lt_newId _ atTime atTag⟩
        have notAhead : ¬ msg.time > now / 1000 := by omega
        simp [Publish.newId, notAhead]
      · -- the last message is gone, but so is its second
        have last : last now db = none := by
          simp [last, current, Slot.get, Slot.look, found, unexpired]
        rw [last]
        refine ⟨rfl, Stamp.lt_iff.mpr (.inl ?_)⟩
        simp only [Publish.newId]
        omega
    refine ⟨above.1, fun x on' => ?_⟩
    have decreasing := seen.decreasing
    rw [ids, pairwise_cons] at decreasing
    cases mem_cons.mp on' with
    | inl is => exact is ▸ above.2
    | inr later => exact (decreasing.1 x later).trans above.2

theorem Seen.publish (seen : Seen now db)
    (wrote : Publish.Wrote now (now / 1000) args db rest dump db') (positive : 0 < ttl args)
    (started : 1000 ≤ now) : ∃ hash list expiry, Linked now hash list expiry db' := by
  obtain ⟨atTime, above⟩ := seen.newId
  obtain ⟨hash, expiry, current, channel, messages, outlived, extended⟩ :=
    wrote.expiry positive seen.lives
  refine ⟨hash, Publish.newId (now / 1000) (last now db) :: rest, expiry, ?_⟩
  -- ids that stay on the list keep their messages
  have stays : ∀ x ∈ rest, ∃ msg t, db'.message x = some ⟨msg, some t⟩ ∧ msg.time = x.time ∧
      msg.tag = x.tag ∧ (x.time + 1) * 1000 ≤ t ∧ t ≤ expiry := by
    intro x on
    have listed := wrote.older.subset on
    obtain ⟨msg, t, found, isTime, isTag, lasts, within⟩ := seen.present x listed
    have kept : x ∉ dump := fun dumped => (wrote.dumped x dumped).2 on
    have written := wrote.others x (above x listed).ne
    rw [if_neg kept] at written
    obtain ⟨msg', linked, isTime', isTag'⟩ := linkLast_of_message now found
    refine ⟨msg', t, written.trans linked, isTime'.trans isTime, isTag'.trans isTag, lasts, ?_⟩
    rcases seen.lives with ⟨-, none_⟩ | ⟨old, list, expiry', there, -⟩
    · simp [ids_of_none none_] at listed
    · exact (within old expiry' there).trans (extended old expiry' there)
  constructor
  case channel => exact channel
  case messages => exact messages
  case head => exact current.symm
  case nonempty => simp
  case decreasing =>
    refine pairwise_cons.mpr ⟨fun x on => ?_, seen.decreasing.sublist wrote.older.sublist⟩
    exact above x (wrote.older.subset on)
  case times =>
    intro x on
    cases mem_cons.mp on with
    | inl self =>
      rw [self, atTime]
      omega
    | inr older => exact seen.times x (wrote.older.subset older)
  case present =>
    intro x on
    cases mem_cons.mp on with
    | inl self =>
      refine ⟨_, _, self ▸ wrote.written positive, self ▸ rfl, self ▸ rfl, ?_, outlived.le⟩
      rw [self, atTime]
      omega
    | inr older => exact stays x older
  case listed =>
    intro x e found
    rcases wrote.posted.cases found with ⟨self, -⟩ | ⟨-, kept, old, was, expires, -⟩
    · exact .inl (self ▸ mem_cons_self)
    · cases seen.listed x old was with
      | inr gone => exact .inr (expires ▸ gone)
      | inl on =>
        by_cases older : x ∈ rest
        · exact .inl (mem_cons_of_mem _ older)
        · -- taken off because it has expired
          have off := (wrote.removed x on older).resolve_left kept
          obtain ⟨msg, t, is, -⟩ := seen.present x on
          rw [is] at was
          cases was
          refine .inr ⟨t, expires, ?_⟩
          by_contra unexpired
          rw [hasMessage_of_lt is (not_le.mp unexpired)] at off
          cases off
  case linked =>
    intro newer b a older e t split found expires unexpired
    have on : a ∈ rest := by
      cases newer with
      | nil =>
        simp only [nil_append, List.cons.injEq] at split
        simp [split.2]
      | cons c newer =>
        simp only [cons_append, List.cons.injEq] at split
        simp [split.2]
    rcases wrote.posted.cases found with ⟨self, -⟩ | ⟨-, -, old, was, sameExpiry, value⟩
    · exact absurd self (above a (wrote.older.subset on)).ne
    obtain ⟨after, whole⟩ := wrote.older
    cases newer with
    | nil =>
      -- the message before the new one
      simp only [nil_append, List.cons.injEq] at split
      obtain ⟨rfl, isRest⟩ := split
      have isCurrent : Publish.current now db = some a := by
        rw [← seen.head, ← whole, isRest]
        rfl
      have there : db.hasMessage now a = true := hasMessage_iff.mpr
        ⟨old, Slot.look_eq_some.mpr ⟨was, by simp [← sameExpiry, expires, unexpired]⟩⟩
      rw [value, if_pos ⟨isCurrent, there⟩]
    | cons c newer =>
      simp only [cons_append, List.cons.injEq] at split
      obtain ⟨-, isRest⟩ := split
      have ids : db.ids now = newer ++ b :: a :: (older ++ after) := by
        rw [← whole, isRest]
        simp
      have notCurrent : Publish.current now db ≠ some a := by
        intro is
        have decreasing := seen.decreasing
        rw [← seen.head, ids] at is
        rw [ids] at decreasing
        exact head_ne_of_decreasing decreasing is
      rw [value, if_neg fun both => notCurrent both.1]
      exact seen.linked newer b a _ old t ids was (sameExpiry ▸ expires) unexpired

end

/-! ## Histories -/

theorem Chained.mono {clock' : Int} (chained : Chained clock db) (later : clock ≤ clock') :
    Chained clock' db := by
  refine chained.imp_right fun channel => ?_
  obtain ⟨hash, list, expiry, linked⟩ := channel
  refine ⟨hash, list, expiry, { linked with
    times := fun id on => ?_
    listed := fun id e found => ?_
    linked := fun newer b a older e t split found is unexpired => ?_ }⟩
  · exact ⟨(linked.times id on).1, (linked.times id on).2.trans later⟩
  · refine (linked.listed id e found).imp_right fun gone => ?_
    obtain ⟨t, is, ended⟩ := gone
    exact ⟨t, is, ended.trans later⟩
  · exact linked.linked newer b a older e t split found is (by omega)

theorem replay_chained {calls : List PublishCall} (started : 1000 ≤ clock)
    (timely : Timely clock calls) (chained : Chained clock db) :
    Chained (clockAfter clock calls) (replay calls db) := by
  induction calls generalizing clock db with
  | nil => exact chained
  | cons call calls ih =>
    obtain ⟨later, limited, lasts, rest⟩ := timely
    have startedLater : 1000 ≤ call.now := by omega
    refine ih startedLater rest ?_
    have seen := chained.seen later
    rcases publish_cases call.now (call.now / 1000) call.numsub call.args db with
      ⟨error, failed⟩ | ⟨accepted, fresh⟩
    · simp only [failed]
      exact chained.mono later
    · have nodup : (newId (call.now / 1000) (last call.now db) ::
          db.ids call.now).Nodup :=
        nodup_cons.mpr ⟨fun on => lt_irrefl _ (seen.newId.2 _ on), seen.decreasing.imp ne_of_gt⟩
      obtain ⟨reply, db', kept, dump, ok, -, wrote⟩ := publish_wrote call.numsub accepted
        (by omega) fresh nodup (fun negative => by omega)
      simp only [ok]
      refine .inr (seen.publish wrote ?_ (by omega))
      unfold ttl
      split <;> omega

/-! ## Walks -/

section

variable {now createChannelTtl : Int} {db db' : Db}

theorem Seen.channel (seen : Seen now db) (listed : db.ids now ≠ []) :
    ∃ hash, db.channel.get now = some hash ∧ (db.ids now).head? = hash.currentMessage := by
  rcases seen.lives with ⟨-, gone⟩ | ⟨hash, list, expiry, there, -⟩
  · exact absurd (ids_of_none gone) listed
  · have is : db.channel.get now = some hash := Slot.get_eq_some.mpr ⟨_, there, rfl⟩
    refine ⟨hash, is, seen.head.trans ?_⟩
    simp [current, is]

theorem Seen.get (seen : Seen now db) {id : Stamp} (listed : id ∈ db.ids now)
    (alive : db.hasMessage now id = true) :
    ∃ msg t, (db.message id).get now = some msg ∧ msg.time = id.time ∧ msg.tag = id.tag ∧
      db.message id = some ⟨msg, some t⟩ ∧ now < t := by
  obtain ⟨msg, t, found, atTime, atTag, -⟩ := seen.present id listed
  obtain ⟨e, looked⟩ := hasMessage_iff.mp alive
  obtain ⟨is, unexpired⟩ := Slot.look_eq_some.mp looked
  rw [found] at is
  cases is
  exact ⟨msg, t, Slot.get_eq_some.mpr ⟨_, looked, rfl⟩, atTime, atTag, found, unexpired t rfl⟩

section

variable (split : db.ids now = newer ++ a :: older)

include split

theorem walk_from (seen : Seen now db) (sameChannel : db'.channel = db.channel)
    (sameMessages : db'.message = db.message)
    (alive : db.hasMessage now a = true) :
    Walk now createChannelTtl a.time a.tag db'
      ((newer.reverse.takeWhile (db.hasMessage now)).filterMap fun id => (db.message id).get now)
      (if newer.all (db.hasMessage now) then 418 else 404) := by
  -- towards the newest message
  induction newer using List.reverseRecOn generalizing a older with
  | nil =>
    obtain ⟨hash, channel, head⟩ := seen.channel (by simp [split])
    have time : a.time ≠ 0 := (seen.times a (by simp [split])).1.ne'
    have current : hash.currentMessage = some a := by rw [← head, split]; rfl
    have answer : getMessage now a.time a.tag .filo createChannelTtl db'
        = (.notYetAvailable hash.subscribers, db') := by
      simp [getMessage, sameChannel, channel, time, current]
    exact Walk.ends answer (by simp)
  | append_singleton newer b ih =>
    rw [append_assoc, singleton_append] at split
    obtain ⟨hash, channel, head⟩ := seen.channel (by simp [split])
    have time : a.time ≠ 0 := (seen.times a (by simp [split])).1.ne'
    have some_ : hash.currentMessage ≠ none := by
      rw [← head, split]
      cases newer <;> simp
    have notCurrent : hash.currentMessage ≠ some a := by
      intro is
      have decreasing := seen.decreasing
      rw [← head, split] at is
      rw [split] at decreasing
      exact head_ne_of_decreasing decreasing is
    obtain ⟨msg, t, found, -, -, stored, unexpired⟩ := seen.get (by simp [split]) alive
    have next : msg.next = some b :=
      seen.linked newer b a older _ t split stored rfl unexpired
    have answer : getMessage now a.time a.tag .filo createChannelTtl db'
        = (replyWith now b hash.subscribers db', db') := by
      simp [getMessage, sameChannel, sameMessages, channel, time, some_, notCurrent, found, next]
    rw [reverse_concat, all_append]
    cases there : db.hasMessage now b with
    | true =>
      obtain ⟨msg', t', found', atTime, atTag, -⟩ := seen.get (by simp [split]) there
      simp only [takeWhile_cons, there, if_true, filterMap_cons, found', all_cons,
        all_nil, Bool.and_true]
      have reply : replyWith now b hash.subscribers db'
          = .ok ((db.message b).ttl now) msg' hash.subscribers := by
        simp [replyWith, sameMessages, found']
      refine Walk.next (answer.trans (by rw [reply])) ?_
      rw [atTime, atTag]
      exact ih split there
    | false =>
      have reply : replyWith now b hash.subscribers db' = .notFound := by
        have gone : (db.message b).get now = none := by simpa [hasMessage] using there
        simp [replyWith, sameMessages, gone]
      simp only [takeWhile_cons, there, filterMap_nil, all_cons, Bool.false_and,
        Bool.and_false, if_false, Bool.false_eq_true]
      exact Walk.ends (answer.trans (by rw [reply])) (by simp)

omit split in
theorem rdropWhile_append {has : Stamp → Bool} (dead : ∀ x ∈ older, has x = false)
    (alive : has a = true) :
    (newer ++ [a] ++ older).rdropWhile (fun old => !has old) = newer ++ [a] := by
  induction older using List.reverseRecOn with
  | nil =>
    rw [append_nil]
    exact rdropWhile_concat_neg _ _ _ (by simp [alive])
  | append_singleton older x ih =>
    rw [← append_assoc, rdropWhile_concat_pos _ _ _ (by simp [dead x (by simp)])]
    exact ih fun y on => dead y (mem_append_left _ on)

theorem liveAfterLive_iff
    (alive : db.hasMessage now a = true) (dead : ∀ x ∈ older, db.hasMessage now x = false) :
    LiveAfterLive now db ↔ newer.all (db.hasMessage now) = true := by
  have turned : (db.ids now).reverse = older.reverse ++ a :: newer.reverse := by simp [split]
  unfold LiveAfterLive
  rw [turned, pairwise_append, pairwise_cons, all_eq_true]
  constructor
  · intro pairs x on
    exact pairs.2.1.1 x (mem_reverse.mpr on) alive
  · intro all
    have later : ∀ x ∈ newer.reverse, db.hasMessage now x = true := fun x on =>
      all x (mem_reverse.mp on)
    refine ⟨?_, ⟨fun x on _ => later x on, ?_⟩, fun x on y _ alive => ?_⟩
    · refine pairwise_of_forall_mem_list fun x on y _ alive => ?_
      rw [dead x (mem_reverse.mp on)] at alive
      cases alive
    · exact pairwise_of_forall_mem_list fun _ _ y on _ => later y on
    · rw [dead x (mem_reverse.mp on)] at alive
      cases alive

theorem walk_oldest (createChannelTtl : Int) (seen : Seen now db) (alive : db.hasMessage now a = true)
    (dead : ∀ x ∈ older, db.hasMessage now x = false) :
    ∃ msg, (db.message a).get now = some msg ∧ Walk now createChannelTtl 0 0 db
      (msg :: (newer.reverse.takeWhile (db.hasMessage now)).filterMap fun id =>
        (db.message id).get now)
      (if newer.all (db.hasMessage now) then 418 else 404) := by
  obtain ⟨hash, channel, -⟩ := seen.channel (by simp [split])
  obtain ⟨msg, t, found, atTime, atTag, -⟩ := seen.get (by simp [split]) alive
  have oldest : (db.ids now).rdropWhile (fun old => !db.hasMessage now old) = newer ++ [a] := by
    rw [split, ← singleton_append, ← append_assoc]
    exact rdropWhile_append dead alive
  have answer : getMessage now 0 0 .filo createChannelTtl db =
      (.ok ((db.message a).ttl now) msg hash.subscribers, (db.oldestmsg now).2) := by
    simp [getMessage, channel, oldestmsg, oldest, replyWith, found]
  refine ⟨msg, found, Walk.next answer ?_⟩
  rw [atTime, atTag]
  have sameChannel : (db.oldestmsg now).2.channel = db.channel := rfl
  have sameMessages : (db.oldestmsg now).2.message = db.message := rfl
  exact walk_from split seen sameChannel sameMessages alive

end

theorem oldest_alive (now : Int) (db : Db) :
    (∀ x ∈ db.ids now, db.hasMessage now x = false) ∨
      ∃ newer a older, db.ids now = newer ++ a :: older ∧ db.hasMessage now a = true ∧
        ∀ x ∈ older, db.hasMessage now x = false := by
  generalize db.ids now = ids
  induction ids using List.reverseRecOn with
  | nil => exact .inl fun x on => by cases on
  | append_singleton ids x ih =>
    cases there : db.hasMessage now x with
    | true => exact .inr ⟨ids, x, [], rfl, there, fun y on => by cases on⟩
    | false =>
      cases ih with
      | inl none_ =>
        exact .inl (forall_mem_append.mpr ⟨none_, forall_mem_singleton.mpr there⟩)
      | inr found =>
        obtain ⟨newer, a, older, rfl, alive, dead⟩ := found
        exact .inr ⟨newer, a, older ++ [x], by simp, alive,
          forall_mem_append.mpr ⟨dead, forall_mem_singleton.mpr there⟩⟩

theorem walk_nothing (createChannelTtl : Int)
    (dead : ∀ x ∈ db.ids now, db.hasMessage now x = false) :
    Walk now createChannelTtl 0 0 db []
      (if db.channel.get now ≠ none ∨ createChannelTtl ≠ 0 then 418 else 404) := by
  have empty : (db.ids now).rdropWhile (fun old => !db.hasMessage now old) = [] :=
    rdropWhile_eq_nil_iff.mpr fun x on => by simp [dead x on]
  cases channel : db.channel.get now with
  | none =>
    by_cases creates : createChannelTtl = 0
    · have answer : getMessage now 0 0 .filo createChannelTtl db = (.notFound, db) := by
        simp [getMessage, channel, creates]
      simpa [creates] using Walk.ends answer (by simp)
    · have answer : ∃ db', getMessage now 0 0 .filo createChannelTtl db
          = (.notYetAvailable none, db') := ⟨_, by simp [getMessage, channel, creates]; rfl⟩
      obtain ⟨db', answer⟩ := answer
      simpa [creates] using Walk.ends answer (by simp)
  | some hash =>
    have answer : ∃ db', getMessage now 0 0 .filo createChannelTtl db
        = (.notYetAvailable hash.subscribers, db') :=
      ⟨(db.oldestmsg now).2, by simp [getMessage, channel, oldestmsg, empty]⟩
    obtain ⟨db', answer⟩ := answer
    simpa using Walk.ends answer (by simp)

/-- Once started at the oldest message, a reader gets all live messages and then waits, exactly
    if none of them follows one that has expired before it and the channel is there or is made. -/
theorem walk_visits_live_iff {clock : Int} {calls : List PublishCall} (started : 1000 ≤ clock)
    (timely : Timely clock calls) (later : clockAfter clock calls ≤ now) :
    Walk now createChannelTtl 0 0 (replay calls .empty) (live now (replay calls .empty)) 418 ↔
      ((replay calls .empty).channel.get now ≠ none ∨ createChannelTtl ≠ 0) ∧
        LiveAfterLive now (replay calls .empty) := by
  have empty : Chained clock .empty := .inl ⟨rfl, rfl, fun _ => rfl⟩
  have seen := (replay_chained started timely empty).seen later
  generalize replay calls .empty = db at seen
  cases oldest_alive now db with
  | inl dead =>
    have none_ : live now db = [] := by
      refine filterMap_eq_nil_iff.mpr fun x on => ?_
      simpa [hasMessage] using dead x (mem_reverse.mp on)
    have follows : LiveAfterLive now db := by
      refine pairwise_of_forall_mem_list fun x on y _ alive => ?_
      rw [dead x (mem_reverse.mp on)] at alive
      cases alive
    rw [none_, (walk_nothing createChannelTtl dead).iff_of_unique]
    split <;> simp_all
  | inr found =>
    obtain ⟨newer, a, older, split, alive, dead⟩ := found
    obtain ⟨msg, found, walk⟩ := walk_oldest split createChannelTtl seen alive dead
    obtain ⟨hash, channel, -⟩ := seen.channel (by simp [split])
    rw [walk.iff_of_unique, liveAfterLive_iff split alive dead]
    have whole : live now db = msg :: newer.reverse.filterMap fun id => (db.message id).get now := by
      have gone : older.reverse.filterMap (fun id => (db.message id).get now) = [] := by
        refine filterMap_eq_nil_iff.mpr fun x on => ?_
        simpa [hasMessage] using dead x (mem_reverse.mp on)
      simp [live, split, gone, found]
    cases all : newer.all (db.hasMessage now) with
    | true =>
      have taken : newer.reverse.takeWhile (db.hasMessage now) = newer.reverse := by
        rw [takeWhile_eq_self_iff]
        exact fun x on => all_eq_true.mp all x (mem_reverse.mp on)
      simp [whole, taken, channel]
    | false => simp

end

/-- Messages in one second, one for each time to live. -/
def burst (ttls : List Int) : List PublishCall :=
  ttls.map fun ttl => ⟨1000, fun _ => 0, ⟨"", "", "", 0, ttl, 5, 0, false⟩⟩

theorem walk_visits_live_twice :
    Walk 3000 0 0 0 (replay (burst [1, 100, 100]) .empty)
      (live 3000 (replay (burst [1, 100, 100]) .empty)) 418 := by
  have timely : Timely 1000 (burst [1, 100, 100]) := by
    simp [burst, Timely]
  refine (walk_visits_live_iff (le_refl 1000) timely (by decide)).mpr ⟨.inl (by decide), ?_⟩
  unfold LiveAfterLive
  decide

/-- The message in the middle has expired, and the last one is not found. -/
theorem walk_stops_at_expired :
    ¬ Walk 3000 0 0 0 (replay (burst [100, 1, 100]) .empty)
      (live 3000 (replay (burst [100, 1, 100]) .empty)) 418 := by
  intro walk
  have stops : Walk 3000 0 0 0 (replay (burst [100, 1, 100]) .empty) [_] 404 :=
    .next rfl (.ends (show getMessage 3000 1 0 .filo 0 _ = (.notFound, _) from rfl) (by decide))
  cases (walk.unique stops).2

end Nchan.Redis
