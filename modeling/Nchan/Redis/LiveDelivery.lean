import Mathlib.Data.List.Nodup
import Nchan.Redis.Live

/-! # No subscriber is left behind

A spool that waits is attended to: Redis has nothing newer than its id, or a message in whose range
it is is on its way, or so is an answer that will move it.  Every step keeps this, as long as
messages that are looked up by their key are still there, announcements do not go by spools that
wait but have no subscribers, and no spool that is about to ask is told that there is nothing yet.
-/

namespace Nchan.Redis.Live

open Nchan.Lib Nchan.Spool List Publish State Run

/-! ## Conditions -/

def announcedId : Packed → Stamp
  | .msg _ time tag _ _ _ _ _ _ => ⟨time, tag⟩
  | .msgkey _ _ key => key

/-- A message is passed on to somebody, or no spool in its range waits for it. -/
def Heeded (id : Stamp) (s : State) : Prop :=
  subCount s.spl = 0 → ∀ m ∈ s.history, m.id = id → ∀ address ∈ s.spl.nodes,
    ∀ pool ∈ s.spl.pools address, m.prev ≤ pool.id.stamp → pool.id.stamp < m.id →
      pool.msgStatus = .invalid

instance (id : Stamp) (s : State) : Decidable (Heeded id s) :=
  inferInstanceAs (Decidable (_ → ∀ m ∈ _, _ → ∀ address ∈ _, ∀ pool ∈ _, _ → _ → _))

/-- The names fit into the memory that is allocated for them. -/
def Allocated (s : State) : Packed → Prop
  | .msg .. => True
  | .msgkey _ _ key => s.idLen < 2 ^ 8 ∧ s.keyLen key < 2 ^ 8

instance (s : State) : (packed : Packed) → Decidable (Allocated s packed)
  | .msg .. => inferInstanceAs (Decidable True)
  | .msgkey .. => inferInstanceAs (Decidable (_ ∧ _))

/-- The conditions under which nobody is left behind. -/
def Fits : Event → State → Prop
  | .publish now _ args, s =>
    0 < args.maxMsgBufSize ∧ 0 ≤ args.msgTtl ∧ args.msgTtl < 2 ^ 31 ∧ 1000 ≤ now ∧
      now < 2 ^ 32 * 1000 ∧ ∀ last ∈ Publish.last now s.db, last.tag + 1 < 2 ^ 15
  | .announce _ _, s => ∀ packed ∈ s.pubsub.head?, Allocated s packed ∧ Heeded (announcedId packed) s
  | .runKey now i, s => ∀ key ∈ s.wantedKeys[i]?, s.db.hasMessage now key = true
  | .keyReply _ _ i, s => ∀ reply ∈ s.keyReplies[i]?, Heeded reply.1 s
  | .getReply _ i, s => ∀ reply ∈ s.getReplies[i]?, reply.2.code = 418 →
    ∀ address ∈ s.spl.nodes, ∀ pool ∈ s.spl.pools address, pool.id.stamp = reply.1.stamp →
      pool.msgStatus ≠ .invalid
  | .join _ sub, _ => Wanted sub.lastMsgid
  | .runGet .., _ | .leave .., _ | .timer .., _ => True

instance : (event : Event) → (s : State) → Decidable (Fits event s)
  | .publish .., _ => inferInstanceAs (Decidable (_ ∧ _))
  | .announce .., _ => inferInstanceAs (Decidable (∀ packed ∈ _, _ ∧ _))
  | .runKey .., _ => inferInstanceAs (Decidable (∀ key ∈ _, _))
  | .keyReply .., _ => inferInstanceAs (Decidable (∀ reply ∈ _, _))
  | .getReply .., _ => inferInstanceAs (Decidable (∀ reply ∈ _, _ → ∀ address ∈ _, ∀ pool ∈ _, _ → _))
  | .join .., _ => inferInstanceAs (Decidable (Wanted _))
  | .runGet .., _ | .leave .., _ | .timer .., _ => inferInstanceAs (Decidable True)

/-! ## The invariant -/

def State.announced (s : State) : List Stamp :=
  s.pubsub.map announcedId ++ s.wantedKeys ++ s.keyReplies.map (·.1)

theorem State.mem_announced {s : State} {id : Stamp} :
    id ∈ s.announced ↔ id ∈ s.pubsub.map announcedId ∨ id ∈ s.wantedKeys ∨
      id ∈ s.keyReplies.map (·.1) := by
  rw [announced, mem_append, mem_append, or_assoc]

/-- Somebody sees to a spool at `x`. -/
def State.SeenTo (s : State) (x : Stamp) : Prop :=
  ¬ s.db.Behind s.clock x ∨
    (∃ m ∈ s.history, m.id ∈ s.announced ∧ m.prev ≤ x ∧ x < m.id) ∨
    ∃ reply ∈ s.getReplies, reply.1.stamp = x ∧ reply.2.code ≠ 418

/-- The ids of what is published can be read by the worker. -/
def Readable (history : List Published) : Prop :=
  ∀ m ∈ history, 0 ≤ m.id.tag ∧ m.id.tag < 2 ^ 15 ∧ m.id.time < 2 ^ 32

def Announces (m : Published) : Packed → Prop
  | .msg ttl time tag prevTime prevTag _ _ _ _ =>
    0 ≤ ttl ∧ ttl < 2 ^ 31 ∧ m = ⟨⟨time, tag⟩, ⟨prevTime, prevTag⟩⟩
  | .msgkey time tag key => m.id = key ∧ m.id = ⟨time, tag⟩

theorem Announces.announcedId {m : Published} {packed : Packed} (announces : Announces m packed) :
    announcedId packed = m.id := by
  cases packed with
  | msg => exact announces.2.2 ▸ rfl
  | msgkey => exact announces.1.symm

/-- The answer to the lookup of a message by its key. -/
def Answers (m : Published) (reply : KeyReply) : Prop :=
  0 ≤ reply.ttl ∧ ∃ msg, reply.msg = some msg ∧ msg.time = m.id.time ∧ msg.tag = m.id.tag ∧
    msg.prevTime.getD 0 = m.prev.time ∧ msg.prevTag.getD 0 = m.prev.tag

structure Sound (s : State) : Prop where
  stored : Stored s.clock s.history s.db
  readable : Readable s.history
  tidy : Tidy s.SeenTo none s.spl
  notices : ∀ packed ∈ s.pubsub, ∃ m ∈ s.history, Announces m packed
  keys : ∀ key ∈ s.wantedKeys, ∃ m ∈ s.history, m.id = key
  keyReplies : ∀ reply ∈ s.keyReplies, ∃ m ∈ s.history, m.id = reply.1 ∧ Answers m reply.2
  getReplies : ∀ reply ∈ s.getReplies, reply.1.Single ∧ ∀ ttl msg subscribers,
    reply.2 = .ok ttl msg subscribers →
      ∃ m ∈ s.history, msg.time = m.id.time ∧ msg.tag = m.id.tag

theorem Sound.start (idLen : Nat) (keyLen : Stamp → Nat) : Sound (.start idLen keyLen) where
  stored := Stored.initial 0
  readable := forall_mem_nil _
  tidy := Tidy.start
  notices := forall_mem_nil _
  keys := forall_mem_nil _
  keyReplies := forall_mem_nil _
  getReplies := forall_mem_nil _

/-! ## Messages as the worker reads them -/

section

variable {s s' : State} {m : Published} {msec : Int} {tree : Lib.Tree Nat}

theorem stamp_readMsgId {time tag : Int} (nonneg : 0 ≤ tag) (small : tag < 2 ^ 15) :
    (readMsgId time tag).stamp = ⟨time, tag⟩ := by
  have fits : tag.bmod (2 ^ 16) = tag := Int.bmod_eq_of_le (by omega) (by omega)
  exact Stamp.ext rfl fits

structure Reads (m : Published) (msg : Msg Content) : Prop where
  id : msg.id.stamp = m.id
  prev : msg.prevId.stamp = m.prev
  single : msg.id.Single
  prevOne : msg.prevId.tagcount = 1

theorem Sound.single (sound : Sound s) (on : m ∈ s.history) :
    (readMsgId m.id.time m.id.tag).Single := by
  obtain ⟨positive, -⟩ := sound.stored.dated m on
  obtain ⟨nonneg, small, representable⟩ := sound.readable m on
  refine ⟨rfl, ?_, representable⟩
  exact Stamp.le_iff.mpr (.inl positive)

theorem Sound.prev_bounds (sound : Sound s) (on : m ∈ s.history) :
    0 ≤ m.prev.time ∧ 0 ≤ m.prev.tag ∧ m.prev.tag < 2 ^ 15 := by
  rcases sound.stored.before m on with zero | ⟨old, known, is⟩
  · rw [zero]
    decide
  · obtain ⟨positive, -⟩ := sound.stored.dated old known
    obtain ⟨nonneg, small, -⟩ := sound.readable old known
    exact is ▸ ⟨positive.le, nonneg, small⟩

theorem Sound.reads (sound : Sound s) (on : m ∈ s.history) (content : Content) :
    Reads m ⟨readMsgId m.id.time m.id.tag, readMsgId m.prev.time m.prev.tag, content⟩ := by
  obtain ⟨nonneg, small, -⟩ := sound.readable m on
  obtain ⟨-, prevNonneg, prevSmall⟩ := sound.prev_bounds on
  exact ⟨stamp_readMsgId nonneg small, stamp_readMsgId prevNonneg prevSmall, sound.single on, rfl⟩

/-! ## What is on its way -/

variable {x : Stamp}

theorem State.SeenTo.mono (seen : s.SeenTo x)
    (behind : s'.db.Behind s'.clock x → s.db.Behind s.clock x)
    (history : ∀ m ∈ s.history, m ∈ s'.history) (announced : ∀ id ∈ s.announced, id ∈ s'.announced)
    (replies : ∀ reply ∈ s.getReplies, reply ∈ s'.getReplies) : s'.SeenTo x := by
  rcases seen with nothing | ⟨m, on, coming, inside⟩ | ⟨reply, on, is⟩
  · exact .inl (mt behind nothing)
  · exact .inr (.inl ⟨m, history m on, announced m.id coming, inside⟩)
  · exact .inr (.inr ⟨reply, replies reply on, is⟩)

theorem Sound.unique (sound : Sound s) {m' : Published} (on : m ∈ s.history) (on' : m' ∈ s.history)
    (same : m.id = m'.id) : m = m' := by
  have nodup : (s.history.map (·.id)).Nodup :=
    pairwise_map.mpr (sound.stored.increasing.imp ne_of_lt)
  exact inj_on_of_nodup_map nodup on on' same

structure Without (m : Published) (s s' : State) : Prop where
  clock : s'.clock = s.clock
  db : s'.db = s.db
  history : s'.history = s.history
  getReplies : s'.getReplies = s.getReplies
  pubsub : ∀ packed ∈ s'.pubsub, packed ∈ s.pubsub
  wantedKeys : ∀ key ∈ s'.wantedKeys, key ∈ s.wantedKeys
  keyReplies : ∀ reply ∈ s'.keyReplies, reply ∈ s.keyReplies
  others : ∀ id ∈ s.announced, id = m.id ∨ id ∈ s'.announced

theorem Without.seenTo (without : Without m s s') (sound : Sound s) (on : m ∈ s.history)
    (seen : s.SeenTo x) (outside : ¬ (m.prev ≤ x ∧ x < m.id)) : s'.SeenTo x := by
  rcases seen with nothing | ⟨m', on', coming, inside⟩ | ⟨reply, has, is⟩
  · exact .inl (without.clock ▸ without.db ▸ nothing)
  · rcases without.others m'.id coming with same | still
    · cases sound.unique on' on same
      exact absurd inside outside
    · exact .inr (.inl ⟨m', without.history ▸ on', still, inside⟩)
  · exact .inr (.inr ⟨reply, without.getReplies ▸ has, is⟩)

theorem Without.sound (without : Without m s s') (sound : Sound s) (on : m ∈ s.history)
    {spl' : Spooler Content} (tidy : Tidy s.SeenTo none spl')
    (gone : ∀ a pool, a ≠ 0 → spl'.pools a = some pool → pool.msgStatus ≠ .invalid →
      ¬ (m.prev ≤ pool.id.stamp ∧ pool.id.stamp < m.id)) : Sound { s' with spl := spl' } where
  stored := without.clock ▸ without.history ▸ without.db ▸ sound.stored
  readable := without.history ▸ sound.readable
  tidy := tidy.imp fun a pool node there asked seen =>
    without.seenTo sound on seen (gone a pool node there asked)
  notices := fun packed has => without.history ▸ sound.notices packed (without.pubsub packed has)
  keys := fun key has => without.history ▸ sound.keys key (without.wantedKeys key has)
  keyReplies := fun reply has =>
    without.history ▸ sound.keyReplies reply (without.keyReplies reply has)
  getReplies := fun reply has =>
    without.history ▸ sound.getReplies reply (without.getReplies ▸ has)

/-! ## A message arrives -/

theorem inRange_iff {msg : Msg Content} (reads : Reads m msg) (id : MsgId) :
    inRange msg id = true ↔ m.prev ≤ id.stamp ∧ id.stamp < m.id := by
  rw [inRange, decide_eq_true_eq, reads.id, reads.prev]

theorem Sound.unheard (sound : Sound s) (on : m ∈ s.history) (heeded : Heeded m.id s)
    (nobody : subCount s.spl = 0) {a : Nat} {pool : SubscriberPool Content} (node : a ≠ 0)
    (there : s.spl.pools a = some pool) (asked : pool.msgStatus ≠ .invalid) :
    ¬ (m.prev ≤ pool.id.stamp ∧ pool.id.stamp < m.id) := by
  intro inside
  have known := (mem_nodes_iff sound.tidy.below).mpr ⟨node, pool, there⟩
  exact asked (heeded nobody m on rfl a known pool there inside.1 inside.2)

theorem Sound.arrive (sound : Sound s) {msg : Msg Content} (on : m ∈ s.history)
    (reads : Reads m msg) (heeded : Heeded m.id s) (shape : s.spl.IsTree tree)
    {between : State} (without : Without m s between) (same : between.spl = s.spl) :
    Gives (nchanStorePublishGeneric msec tree msg between) Sound := by
  unfold nchanStorePublishGeneric
  rw [same]
  refine .ite (fun _ => .map fun spl' responded => ?_) fun some_ => .of_some ?_
  · obtain ⟨tidy, clear⟩ := sound.tidy.respondMessage reads.single reads.prevOne shape responded
    refine without.sound sound on tidy fun a pool node there _ inside => ?_
    have outside := clear a pool node there
    rw [(inRange_iff reads pool.id).mpr inside] at outside
    cases outside
  · have nobody : subCount s.spl = 0 := by omega
    have after := without.sound sound on sound.tidy fun a pool node there asked =>
      sound.unheard on heeded nobody node there asked
    rwa [← same] at after

theorem Sound.announce (sound : Sound s) {packed : Packed} {rest : List Packed}
    (is : s.pubsub = packed :: rest) (heeded : Heeded (announcedId packed) s)
    (shape : s.spl.IsTree tree) :
    Gives (redisSubscriberCallback msec tree packed { s with pubsub := rest }) Sound := by
  obtain ⟨m, on, announces⟩ := sound.notices packed (is ▸ mem_cons_self)
  -- nothing but this message leaves what is on its way
  have without : announcedId packed = m.id → Without m s { s with pubsub := rest } := by
    intro id
    refine ⟨rfl, rfl, rfl, rfl, fun p has => is ▸ mem_cons_of_mem _ has, fun _ has => has,
      fun _ has => has, fun x has => ?_⟩
    rcases mem_announced.mp has with notified | others
    · rw [is, map_cons] at notified
      rcases mem_cons.mp notified with rfl | later
      · exact .inl id
      · exact .inr (mem_announced.mpr (.inl later))
    · exact .inr (mem_announced.mpr (.inr others))
  obtain ⟨positive, -⟩ := sound.stored.dated m on
  obtain ⟨nonneg, -, -⟩ := sound.readable m on
  obtain ⟨timeBefore, tagBefore, -⟩ := sound.prev_bounds on
  cases packed with
  | msg ttl time tag prevTime prevTag data contentType eventsourceEvent compression =>
    obtain ⟨ttlNonneg, ttlSmall, rfl⟩ := announces
    dsimp only at positive nonneg timeBefore tagBefore
    have fits : ¬ (ttl < -2 ^ 31 ∨ 2 ^ 31 ≤ ttl) := by omega
    have unsigned : ¬ (time < 0 ∨ tag < 0 ∨ prevTime < 0 ∨ prevTag < 0) := by omega
    rw [redisSubscriberCallback, if_neg fits, if_neg ttlNonneg.not_gt, if_neg unsigned]
    exact sound.arrive on (sound.reads on _) heeded shape (without rfl) rfl
  | msgkey time tag key =>
    obtain ⟨rfl, isId⟩ := announces
    have unsigned : ¬ (time < 0 ∨ tag < 0) := by
      rw [isId] at positive nonneg
      dsimp only at positive nonneg
      omega
    rw [redisSubscriberCallback, if_neg unsigned]
    -- the message is for nobody, or its key is looked up
    refine .ite (fun nobody => .of_some ?_) fun _ => .assert fun _ => .of_some ?_
    · exact (without rfl).sound sound on sound.tidy fun a pool node there asked =>
        sound.unheard on heeded nobody node there asked
    · refine { sound with
        tidy := sound.tidy.imp fun a pool _ _ _ seen =>
          seen.mono (fun behind => behind) (fun _ has => has) (fun id has => ?_) fun _ has => has
        notices := fun p has => sound.notices p (is ▸ mem_cons_of_mem _ has)
        keys := forall_mem_append.mpr
          ⟨sound.keys, forall_mem_singleton.mpr ⟨m, on, rfl⟩⟩ }
      refine mem_announced.mpr ?_
      rcases mem_announced.mp has with notified | wanted | answered
      · -- what was announced is a key that is wanted now, or comes later
        rw [is, map_cons] at notified
        rcases mem_cons.mp notified with rfl | later
        · exact .inr (.inl (mem_append_right _ (mem_singleton_self _)))
        · exact .inl later
      · exact .inr (.inl (mem_append_left _ wanted))
      · exact .inr (.inr answered)

variable {i : Nat}

theorem Sound.keyReply (sound : Sound s) {key : Stamp} {reply : KeyReply}
    (is : s.keyReplies[i]? = some (key, reply)) (heeded : Heeded key s)
    (shape : s.spl.IsTree tree) :
    Gives (getMsgFromMsgkeyCallback msec tree reply
      { s with keyReplies := s.keyReplies.eraseIdx i }) Sound := by
  obtain ⟨m, on, id, nonneg, msg, there, isTime, isTag, prevTime, prevTag⟩ :=
    sound.keyReplies (key, reply) (mem_of_getElem? is)
  dsimp only at id nonneg there
  have without : Without m s { s with keyReplies := s.keyReplies.eraseIdx i } := by
    refine ⟨rfl, rfl, rfl, rfl, fun _ has => has, fun _ has => has,
      fun r has => mem_of_mem_eraseIdx has, fun x has => ?_⟩
    rcases mem_announced.mp has with notified | wanted | answered
    · exact .inr (mem_announced.mpr (.inl notified))
    · exact .inr (mem_announced.mpr (.inr (.inl wanted)))
    · obtain ⟨other, there, rfl⟩ := mem_map.mp answered
      rcases eq_or_mem_eraseIdx is there with rfl | left
      · exact .inl id.symm
      · exact .inr (mem_announced.mpr (.inr (.inr (mem_map_of_mem left))))
  simp only [getMsgFromMsgkeyCallback, there, msgFromRedisGetMessageReply, nonneg.not_gt, if_false,
    Option.bind_some, isTime, isTag, prevTime, prevTag]
  exact sound.arrive on (sound.reads on _) (id ▸ heeded) shape without rfl

/-! ## Redis -/

theorem State.SeenTo.later (seen : s.SeenTo x) {now : Int} (later : s.clock ≤ now)
    (clock : s'.clock = now) (db : s'.db.Behind now x → s.db.Behind now x)
    (history : ∀ m ∈ s.history, m ∈ s'.history) (announced : ∀ id ∈ s.announced, id ∈ s'.announced)
    (replies : ∀ reply ∈ s.getReplies, reply ∈ s'.getReplies) : s'.SeenTo x :=
  seen.mono (fun behind => (db (clock ▸ behind)).of_le later) history announced replies

theorem Sound.publish_error (sound : Sound s) {now : Int} (later : s.clock ≤ now) :
    Sound { s with clock := now } :=
  { sound with
    stored := sound.stored.later later
    tidy := sound.tidy.imp fun _ _ _ _ _ seen =>
      seen.later later rfl (fun behind => behind) (fun _ has => has) (fun _ has => has)
        fun _ has => has }

variable {msgid : MsgId}

section

variable {now : Int} {args : PublishArgs} {numsub : String → Int} {reply : PublishReply} {db : Db}

def upcoming (now : Int) (db : Db) : Published :=
  ⟨newId (now / 1000) (last now db), prev now db⟩

variable (later : s.clock ≤ now)

include later

theorem Sound.readable_upcoming (sound : Sound s)
    (fits : Fits (.publish now numsub args) s) :
    Readable (s.history ++ [upcoming now s.db]) := by
  obtain ⟨-, -, -, -, soon, few⟩ := fits
  refine forall_mem_append.mpr ⟨sound.readable, forall_mem_singleton.mpr ?_⟩
  have stored := sound.stored.later later
  obtain ⟨atTime, -⟩ := stored.newId
  have tag : 0 ≤ (upcoming now s.db).id.tag ∧ (upcoming now s.db).id.tag < 2 ^ 15 := by
    rcases stored.last with ⟨m, msg, is, last, -, isTag, -⟩ | ⟨none_, -⟩
    · have nonneg := (sound.readable m (mem_of_getLast? is)).1
      have small := few msg last
      simp only [upcoming, last, newId]
      split <;> omega
    · simp only [upcoming, none_, newId]
      decide
  refine ⟨tag.1, tag.2, ?_⟩
  show (newId (now / 1000) (last now s.db)).time < 2 ^ 32
  omega

omit later in
theorem announces_upcoming (limited : 0 < args.maxMsgBufSize) (nonneg : 0 ≤ args.msgTtl)
    (small : args.msgTtl < 2 ^ 31) (now : Int) (db : Db) :
    Announces (upcoming now db)
      (pack args (newMessage now (now / 1000) args db)) := by
  have buffered : (newMessage now (now / 1000) args db).unbuffered = false :=
    decide_eq_false limited.ne'
  obtain ⟨prevTime, prevTag⟩ := prev_newMessage now (now / 1000) args db
  unfold pack
  simp only [buffered, Bool.false_eq_true, false_or, if_false]
  split
  · have positive := ttl_pos nonneg
    refine ⟨positive.le, ?_, ?_⟩
    · show ttl args < 2 ^ 31
      unfold ttl
      split <;> omega
    · rw [prevTime, prevTag]
      rfl
  · exact ⟨rfl, rfl⟩

theorem Sound.publish_ok (sound : Sound s)
    (fits : Fits (.publish now numsub args) s)
    (done : publish now (now / 1000) numsub args s.db = .ok (reply, db)) :
    Sound { s with
      clock := now
      db := db
      pubsub := s.pubsub ++ [reply.packed]
      history := s.history ++ [⟨reply.lastMessageId, prev now s.db⟩] } := by
  have readable := sound.readable_upcoming later fits
  obtain ⟨limited, nonneg, small, started, -⟩ := fits
  obtain ⟨stored, behind⟩ := (sound.stored.later later).publish limited nonneg started done
  obtain ⟨id, packed⟩ := reply_of_ok done
  rw [id, packed]
  have announces := announces_upcoming limited nonneg small now s.db
  have grows {P : Published → Prop} : (∃ m ∈ s.history, P m) →
      ∃ m ∈ s.history ++ [upcoming now s.db], P m :=
    Exists.imp fun _ => And.imp_left (mem_append_left _)
  constructor
  case stored => exact stored
  case readable => exact readable
  case tidy =>
    refine sound.tidy.imp fun a pool node there _ seen => ?_
    -- what a spool misses was published before, or now
    by_cases missed : s.db.Behind s.clock pool.id.stamp
    · refine seen.mono (fun _ => missed) (fun m on => mem_append_left _ on) (fun x on => ?_)
        fun _ has => has
      refine mem_announced.mpr ((mem_announced.mp on).imp_left fun notified => ?_)
      rw [map_append]
      exact mem_append_left _ notified
    · by_cases now_ : db.Behind now pool.id.stamp
      · -- it is the new message that is newer
        have inside := (behind _ (sound.tidy.single a pool node there).nonneg now_).resolve_left
          fun before => missed (before.of_le later)
        refine .inr (.inl ⟨_, mem_append_right _ (mem_singleton_self _), ?_, inside⟩)
        refine mem_announced.mpr (.inl ?_)
        rw [map_append]
        exact mem_append_right _ (mem_singleton.mpr announces.announcedId.symm)
      · exact .inl now_
  case notices =>
    refine forall_mem_append.mpr ⟨fun p old => grows (sound.notices p old), ?_⟩
    exact forall_mem_singleton.mpr
      ⟨_, mem_append_right _ (mem_singleton_self _), announces⟩
  case keys => exact fun key on => grows (sound.keys key on)
  case keyReplies => exact fun r on => grows (sound.keyReplies r on)
  case getReplies =>
    intro r on
    obtain ⟨single, found⟩ := sound.getReplies r on
    exact ⟨single, fun ttl msg subscribers is => grows (found ttl msg subscribers is)⟩

theorem Sound.runKey (sound : Sound s) {key : Stamp}
    (is : s.wantedKeys[i]? = some key) (has : s.db.hasMessage now key = true) :
    Sound { s with
      clock := now
      wantedKeys := s.wantedKeys.eraseIdx i
      keyReplies := s.keyReplies ++ [(key, getMessageFromKey now key s.db)] } := by
  have stored := sound.stored.later later
  refine { sound with
    stored := stored
    tidy := sound.tidy.imp fun _ _ _ _ _ seen =>
      seen.later later rfl (fun behind => behind) (fun _ on => on) (fun id on => ?_) fun _ on => on
    keys := fun other on => sound.keys other (mem_of_mem_eraseIdx on)
    keyReplies := forall_mem_append.mpr ⟨sound.keyReplies, forall_mem_singleton.mpr ?_⟩ }
  · refine mem_announced.mpr ?_
    rw [map_append]
    rcases mem_announced.mp on with notified | wanted | answered
    · exact .inl notified
    · rcases eq_or_mem_eraseIdx is wanted with rfl | left
      · exact .inr (.inr (mem_append_right _ (mem_singleton_self _)))
      · exact .inr (.inl left)
    · exact .inr (.inr (mem_append_left _ answered))
  · obtain ⟨msg, seen⟩ := Option.isSome_iff_exists.mp has
    obtain ⟨m, known, id, isTime, isTag, prevTime, prevTag, ttl⟩ := stored.found seen
    exact ⟨m, known, id, ttl, msg, seen, isTime, isTag, prevTime, prevTag⟩

theorem Sound.runGet (sound : Sound s) (is : s.spl.fetches[i]? = some msgid)
    {reply : GetReply}
    (done : getMessage now msgid.time (msgid.fixed 0) .filo 0 s.db = (reply, db)) :
    Sound { s with
      clock := now
      db := db
      spl := { s.spl with fetches := s.spl.fetches.eraseIdx i }
      getReplies := s.getReplies ++ [(msgid, reply)] } := by
  have stored := sound.stored.later later
  obtain ⟨answered, looked⟩ := getMessage_answered done
  refine { sound with
    stored := stored.looked looked
    tidy := sound.tidy.looked is (fun _ _ _ _ seen => ?_) ?_
    getReplies := forall_mem_append.mpr ⟨sound.getReplies, forall_mem_singleton.mpr ?_⟩ }
  · exact seen.later later rfl (fun behind => behind.of_looked looked) (fun _ on => on)
      (fun _ on => on) fun _ on => mem_append_left _ on
  · by_cases expected : reply.code = 418
    · cases reply with
      | ok | notFound => cases expected
      | notYetAvailable =>
        exact .inl fun behind => stored.notYetAvailable answered (behind.of_looked looked)
    · exact .inr (.inr ⟨_, mem_append_right _ (mem_singleton_self _), rfl, expected⟩)
  · refine ⟨sound.tidy.requests msgid (mem_of_getElem? is), fun ttl msg subscribers ok => ?_⟩
    subst ok
    cases answered with
    | found seen =>
      obtain ⟨m, known, -, isTime, isTag, -⟩ := stored.found seen
      exact ⟨m, known, isTime, isTag⟩

end

/-! ## Replies -/

theorem State.SeenTo.answered (seen : s.SeenTo x) {reply : GetReply}
    (is : s.getReplies[i]? = some (msgid, reply)) (spl : Spooler Content)
    (other : reply.code = 418 ∨ msgid.stamp ≠ x) :
    { s with spl := spl, getReplies := s.getReplies.eraseIdx i : State }.SeenTo x := by
  rcases seen with nothing | coming | ⟨r, has, same, moves⟩
  · exact .inl nothing
  · exact .inr (.inl coming)
  · rcases eq_or_mem_eraseIdx is has with rfl | left
    · exact absurd other (not_or.mpr ⟨moves, not_not.mpr same⟩)
    · exact .inr (.inr ⟨r, left, same, moves⟩)

theorem Sound.getReply (sound : Sound s) {reply : GetReply}
    (is : s.getReplies[i]? = some (msgid, reply))
    (asked : reply.code = 418 → ∀ address ∈ s.spl.nodes, ∀ pool ∈ s.spl.pools address,
      pool.id.stamp = msgid.stamp → pool.msgStatus ≠ .invalid)
    {spl' : Spooler Content} (done : redisGetMessageCallback msec msgid reply s.spl = some spl') :
    Sound { s with spl := spl', getReplies := s.getReplies.eraseIdx i } := by
  obtain ⟨request, found⟩ := sound.getReplies _ (mem_of_getElem? is)
  have tidy : Tidy s.SeenTo none spl' ∧ (reply.code = 418 ∨ Vacant msgid.stamp spl') := by
    cases reply with
    | ok ttl hash subscribers =>
      obtain ⟨m, known, isTime, isTag⟩ := found ttl hash subscribers rfl
      obtain ⟨msg, parsed, done⟩ := Option.bind_eq_some_iff.mp done
      obtain ⟨tidy, vacant⟩ : Tidy s.SeenTo none spl' ∧ Vacant msgid.stamp spl' := by
        refine sound.tidy.reply_found request ?_ done
        unfold msgFromRedisGetMessageReply at parsed
        split at parsed
        · cases parsed
        · cases parsed
          rw [isTime, isTag]
          exact sound.single known
      exact ⟨tidy, .inr vacant⟩
    | notFound =>
      obtain ⟨tidy, vacant⟩ := sound.tidy.reply_notfound request done
      exact ⟨tidy, .inr vacant⟩
    | notYetAvailable =>
      refine ⟨sound.tidy.reply_expected request (fun a pool node there same => ?_) done, .inl rfl⟩
      exact asked rfl a ((mem_nodes_iff sound.tidy.below).mpr ⟨node, pool, there⟩) pool there same
  obtain ⟨tidy, left⟩ := tidy
  refine { sound with
    tidy := tidy.imp fun a pool node there _ seen => seen.answered is spl' ?_
    getReplies := fun r on => sound.getReplies r (mem_of_mem_eraseIdx on) }
  exact left.imp_right fun vacant same => vacant a pool node there same.symm

theorem Sound.setSpl (sound : Sound s) {spl : Spooler Content} (tidy : Tidy s.SeenTo none spl) :
    Sound { s with spl := spl } :=
  { sound with tidy := tidy.imp fun _ _ _ _ _ seen => seen }

/-! ## Runs -/

theorem Sound.step {event : Event} (sound : Sound s) (fits : Fits event s) :
    Gives (step event s) Sound := by
  cases event with
  | publish now numsub args =>
    refine .assert fun notEarlier => ?_
    have later : s.clock ≤ now := not_lt.mp notEarlier
    split
    · exact .of_some (sound.publish_error later)
    case h_2 reply db ok => exact .of_some (sound.publish_ok later fits ok)
  | announce msec tree =>
    simp only [Live.step]
    split
    · exact .of_none
    case h_2 packed rest is =>
      exact .guard fun shape => sound.announce is (fits packed (by rw [is]; rfl)).2 shape
  | runKey now i =>
    exact .assert fun notEarlier => .map fun key is =>
      sound.runKey (not_lt.mp notEarlier) is (fits key is)
  | keyReply msec tree i =>
    exact .bind fun answer is => .guard fun shape => sound.keyReply is (fits answer is) shape
  | runGet now i =>
    exact .assert fun notEarlier => .map fun msgid is => sound.runGet (not_lt.mp notEarlier) is rfl
  | getReply msec i =>
    exact .bind fun answer is => .map fun spl' answered =>
      sound.getReply is (fits answer is) answered
  | join msec sub =>
    exact .map fun spl' joined => sound.setSpl (sound.tidy.addSubscriber fits joined)
  | leave address sub =>
    exact .map fun spl' left => sound.setSpl (sound.tidy.dequeueSubscriber left)
  | timer msec address =>
    exact .map fun spl' rang => sound.setSpl (sound.tidy.fetchmsgEvHandler rang)

theorem Sound.quiet (sound : Sound s) (quiet : s.Quiet) (address : Nat) :
    ¬ s.Stranded address := by
  rintro ⟨pool, there, message, -, expected, behind⟩
  obtain ⟨pubsub, wantedKeys, keyReplies, fetches, getReplies⟩ := quiet
  have node : address ≠ 0 := mt (sound.tidy.immortal there).mpr message
  have asked : pool.msgStatus ≠ .invalid := by
    rw [expected]
    decide
  rcases sound.tidy.waits address pool node (Option.some_ne_none address) there asked with
    (nothing | ⟨m, -, coming, -⟩ | ⟨reply, on, -⟩) | ⟨request, on, -⟩
  · exact nothing behind
  · simp [announced, pubsub, wantedKeys, keyReplies] at coming
  · simp [getReplies] at on
  · simp [fetches] at on

/-- If messages are still there when they are looked up by their key, no announcement is dropped
    for want of subscribers that a spool waits for, and no spool that has yet to ask is told that
    there is no message, then no subscriber is left waiting for a message that is there. -/
theorem live_delivery_strands_nobody {idLen : Nat} {keyLen : Stamp → Nat} {events : List Event}
    (fits : Run.Along step Fits events (.start idLen keyLen)) {s : State}
    (reaches : run step events (.start idLen keyLen) = some s) (quiet : s.Quiet) (address : Nat) :
    ¬ s.Stranded address := by
  have sound : Sound s := run_invariant (fun _ _ s' sound fits => sound.step fits s')
    (Sound.start idLen keyLen) fits reaches
  exact sound.quiet quiet address

end

/-! ## Some runs -/

def named : State := .start 1 fun _ => 20

/-- Publish a message with room for `limit` messages, either whole or as a key. -/
def published (now : Int) (limit : Int) (whole : Bool) : Event :=
  .publish now (fun _ => 0) ⟨"", "", "", 0, 100, limit, if whole then 1 else 0, false⟩

/-- A subscriber that has seen the message at `x`. -/
def reader (id : Nat) (x : Stamp) (once : Bool) : Event := .join 0 ⟨id, .ofStamp x, once, false⟩

def only (address : Nat) : Lib.Tree Nat := .node .leaf address .leaf

/-- A run ends with nothing on its way, and in the spool at `address` somebody is left behind. -/
def Strands (events : List Event) (address : Nat) : Bool :=
  (run step events named).any fun s => s.Quiet ∧ s.Stranded address

theorem exists_of_strands {events : List Event} {address : Nat} (strands : Strands events address) :
    ∃ s, run step events named = some s ∧ s.Quiet ∧ s.Stranded address := by
  obtain ⟨s, reaches, is⟩ := (Option.any_eq_true _ _).mp strands
  exact ⟨s, reaches, of_decide_eq_true is⟩

/-- A subscriber waits for the second message, which is looked up by its key. -/
def lookedUp : List Event :=
  [published 1000 10 true, .announce 0 .leaf, reader 0 ⟨1, 0⟩ false, .runGet 1000 0, .getReply 0 0,
    published 2000 10 false, .announce 0 (only 1), .runKey 2000 0, .keyReply 0 (only 1) 0,
    .runGet 2000 0, .getReply 0 0]

theorem live_delivery_strands_nobody_looked_up : ∃ s, run step lookedUp named = some s ∧
    s.Quiet ∧ ∀ address, ¬ s.Stranded address := by
  have ends : (run step lookedUp named).any (fun s => s.Quiet) = true := by decide +kernel
  obtain ⟨s, reaches, is⟩ := (Option.any_eq_true _ _).mp ends
  have quiet := of_decide_eq_true is
  have fits : Run.Along step Fits lookedUp named := by decide +kernel
  exact ⟨s, reaches, quiet, live_delivery_strands_nobody fits reaches quiet⟩

/-- The second message is looked up when the third has pushed it out of the list. -/
def lookedUpLate : List Event :=
  [published 1000 1 true, .announce 0 .leaf, reader 0 ⟨1, 0⟩ false, .runGet 1000 0, .getReply 0 0,
    published 2000 1 false, .announce 0 (only 1), published 3000 1 true, .runKey 3000 0,
    .keyReply 0 (only 1) 0, .announce 0 (only 1)]

/-- The third message is for those that have seen the second one only. -/
theorem live_delivery_strands : ∃ s, run step lookedUpLate named = some s ∧ s.Quiet ∧
    s.Stranded 1 := exists_of_strands (by decide +kernel)

end Nchan.Redis.Live
