import Nchan.Redis.Scripts

/-! # What a publish writes

`storeId_spec` and `result_spec` say what is in the keys after a publish that succeeds.
-/

namespace Nchan.Redis

open Nchan.Lib List Publish Slot Db Option

variable {now : Int} {db : Db}

variable {id old : Stamp}

theorem Db.hasMessage_iff :
    db.hasMessage now id = true ↔ ∃ e, (db.message id).look now = some e := by
  simp [hasMessage, Slot.get, isSome_iff_exists]

theorem Db.hasMessage_of_lt {msg : MessageHash} {t : Int} (found : db.message id = some ⟨msg, some t⟩)
    (alive : now < t) : db.hasMessage now id = true :=
  hasMessage_iff.mpr ⟨_, look_of_lt found alive⟩

theorem Db.ids_of_look {l : Entry (List Stamp)} (seen : db.messages.look now = some l) :
    db.ids now = l.value := by simp [ids, Slot.get, seen]

theorem Db.ids_of_none (gone : db.messages.look now = none) : db.ids now = [] := by
  simp [ids, Slot.get, gone]

theorem Db.setIds_messages {ids : List Stamp} (nonempty : ids ≠ []) :
    (db.setIds now ids).messages = db.messages.write now ids := if_neg nonempty

theorem rdropWhile_cons {α : Type*} {p : α → Bool} {a : α} {l : List α} (keep : p a = false) :
    (a :: l).rdropWhile p = a :: l.rdropWhile p := by
  induction l using List.reverseRecOn with
  | nil => simp [keep]
  | append_singleton l b ih =>
    by_cases drop : p b = true
    · rw [← cons_append, rdropWhile_concat_pos _ _ _ drop, ih,
        rdropWhile_concat_pos _ _ _ drop]
    · rw [← cons_append, rdropWhile_concat_neg _ _ _ drop,
        rdropWhile_concat_neg _ _ _ drop, cons_append]

theorem of_not_mem_rdropWhile {α : Type*} {p : α → Bool} {a : α} {l : List α} (on : a ∈ l)
    (dropped : a ∉ l.rdropWhile p) : p a = true := by
  have split := rdropWhile_append_rtakeWhile (p := p) (l := l)
  rw [← split, mem_append] at on
  exact mem_rtakeWhile_imp (on.resolve_left dropped)

/-! ## Messages that stay -/

theorem hasMessage_setMessage {msg : MessageHash} (has : db.hasMessage now old) :
    (db.setMessage id ((db.message id).write now msg)).hasMessage now old := by
  by_cases here : old = id
  · simp [hasMessage, here]
  · simpa [hasMessage, here] using has

theorem hasMessage_linkLast (has : db.hasMessage now old) :
    (linkLast now id db).hasMessage now old := by
  unfold linkLast
  split
  · exact has
  · split
    · exact has
    · exact hasMessage_setMessage has

variable {limit : Int}

theorem hasMessage_writeHashes {msg : MessageHash} (has : db.hasMessage now old) :
    (writeHashes now msg limit db).hasMessage now old := by
  have linked : (updateChannel now msg limit (linkLast now msg.id db)).hasMessage now
      old := hasMessage_linkLast has
  exact hasMessage_setMessage linked

/-- The messages after a publish: those of `dump` are gone, and the last one is linked. -/
def Posted (now time : Int) (args : PublishArgs) (dump : List Stamp) (db db' : Db) : Prop :=
  ∀ x, db'.message x =
    if x = newId time (last now db) then
      if ttl args ≤ 0 then none
      else some ⟨newMessage now time args db, some (now + ttl args * 1000)⟩
    else if x ∈ dump then none
    else (linkLast now (newId time (last now db)) db).message x

namespace Publish

/-! ## The list -/

/-- What storing an id does: `rest` is left of the list, and the messages of `dump` are
    deleted. -/
structure Stores (now : Int) (id : Stamp) (limit : Int) (db : Db) (rest dump : List Stamp)
    (db' : Db) : Prop where
  older : rest <+: db.ids now
  messages : db'.messages = db.messages.write now (id :: rest)
  message : ∀ x, db'.message x = if x ∈ dump then none else db.message x
  dumped : ∀ x ∈ dump, x ∈ db.ids now ∧ x ∉ rest
  bounded : 0 < limit → rest.length + 1 ≤ limit
  removed : ∀ x ∈ db.ids now, x ∉ rest → x ∈ dump ∨ db.hasMessage now x = false

theorem storeId_unlimited (negative : limit < 0)
    (kept : db.messages.look now = none ∨ ∃ x ∈ db.ids now, db.hasMessage now x = true) :
    Stores now id limit db ((db.ids now).rdropWhile fun old => !db.hasMessage now old) []
      (storeId now id limit db) := by
  have stored : storeId now id limit db = (db.oldestmsg now).2.setIds now
      (id :: (db.ids now).rdropWhile fun old => !db.hasMessage now old) := by
    simp [storeId, negative, oldestmsg]
  have front := rdropWhile_prefix (fun old => !db.hasMessage now old) (db.ids now)
  rw [stored]
  refine ⟨front, ?_, fun x => rfl, fun x on => ?_, fun positive => ?_, fun x on dropped => ?_⟩
  · rw [setIds_messages (cons_ne_nil _ _)]
    cases kept with
    | inl gone =>
      rw [write_of_none _ gone]
      simp [oldestmsg, setIds, ids_of_none gone, Slot.write, look]
    | inr has =>
      obtain ⟨x, on, there⟩ := has
      have nonempty : ((db.ids now).rdropWhile fun old => !db.hasMessage now old) ≠ [] := by
        intro empty
        have gone := rdropWhile_eq_nil_iff.mp empty x on
        simp [there] at gone
      rw [oldestmsg, setIds_messages nonempty, write_write]
  · simp at on
  · omega
  · have gone := of_not_mem_rdropWhile on dropped
    exact .inr (by simpa using gone)

theorem storeId_limited (positive : 0 < limit) (has : db.hasMessage now id = true)
    (nodup : (id :: db.ids now).Nodup) :
    ∃ rest, Stores now id limit db rest ((db.ids now).drop (limit.toNat - 1))
      (storeId now id limit db) := by
  obtain ⟨n, is⟩ : ∃ n : Nat, limit.toNat = n + 1 := ⟨limit.toNat - 1, by omega⟩
  have notNegative : ¬ limit < 0 := by omega
  obtain ⟨fresh, oldNodup⟩ := nodup_cons.mp nodup
  have apart : ∀ x ∈ (db.ids now).take n, x ∉ (db.ids now).drop n :=
    fun x on off => disjoint_take_drop oldNodup (le_refl n) on off
  rw [is, Nat.add_sub_cancel]
  -- the messages that are there after the deletion
  let has' : Stamp → Bool := fun x =>
    (((db.setIds now (id :: db.ids now)).delMessages ((db.ids now).drop n)).setIds now
      (id :: (db.ids now).take n)).hasMessage now x
  have has'_eq : ∀ x, has' x = if x ∈ (db.ids now).drop n then false else db.hasMessage now x := by
    intro x
    simp only [has', hasMessage, message_setIds, delMessages_message]
    split
    · rfl
    · rfl
  have stays : has' id = true := by
    rw [has'_eq, if_neg fun on => fresh (mem_of_mem_drop on), has]
  have stored : storeId now id limit db =
      (((db.setIds now (id :: db.ids now)).delMessages ((db.ids now).drop n)).setIds now
        (id :: (db.ids now).take n)).setIds now
        (id :: ((db.ids now).take n).rdropWhile fun old => !has' old) := by
    have oldest := rdropWhile_cons (p := fun old => !has' old) (l := (db.ids now).take n)
      (show (!has' id) = false by simp [stays])
    simp only [storeId, notNegative, if_false, positive, if_true, is,
      take_succ_cons, take_length, drop_succ_cons, oldestmsg, ids_setIds]
    exact congrArg (setIds now · _) oldest
  refine ⟨((db.ids now).take n).rdropWhile fun old => !has' old, ?_⟩
  have front := rdropWhile_prefix (fun old => !has' old) ((db.ids now).take n)
  have taken := take_prefix n (db.ids now)
  rw [stored]
  refine ⟨front.trans taken, ?_, fun x => ?_, fun x on => ?_, fun _ => ?_, fun x on dropped => ?_⟩
  · simp [setIds_messages, write_write]
  · simp [delMessages_message]
  · refine ⟨mem_of_mem_drop on, fun kept => ?_⟩
    exact apart x (front.subset kept) on
  · have := front.length_le
    have := length_take_le n (db.ids now)
    omega
  · by_cases off : x ∈ (db.ids now).drop n
    · exact .inl off
    · have taken : x ∈ (db.ids now).take n := by
        rw [← take_append_drop n (db.ids now), mem_append] at on
        exact on.resolve_right off
      have gone := of_not_mem_rdropWhile taken dropped
      rw [has'_eq, if_neg off] at gone
      exact .inr (by simpa using gone)

/-! ## All keys -/

def channelTtl (now : Int) (db : Db) : Int :=
  if db.channel.look now = none then -1 else db.channel.ttl now

def extend {α : Type} (now : Int) (args : PublishArgs) (db : Db) (s : Slot α) : Slot α :=
  if ttl args + 1 > channelTtl now db then s.expire now (ttl args + 1) else s

/-- The keys after a publish: `rest` is left of the list, and the messages of `dump` are
    deleted. -/
structure Wrote (now time : Int) (args : PublishArgs) (db : Db) (rest dump : List Stamp) (db' : Db) :
    Prop where
  older : rest <+: db.ids now
  dumped : ∀ x ∈ dump, x ∈ db.ids now ∧ x ∉ rest
  bounded : 0 < args.maxMsgBufSize → rest.length + 1 ≤ args.maxMsgBufSize
  removed : ∀ x ∈ db.ids now, x ∉ rest → x ∈ dump ∨ db.hasMessage now x = false
  channel : ∃ hash, hash.currentMessage = some (newId time (last now db)) ∧
    db'.channel = extend now args db (db.channel.write now hash)
  messages : db'.messages =
    extend now args db (db.messages.write now (newId time (last now db) :: rest))
  self : db'.message (newId time (last now db)) =
    if ttl args ≤ 0 then none
    else some ⟨newMessage now time args db, some (now + ttl args * 1000)⟩
  others : ∀ x, x ≠ newId time (last now db) → db'.message x =
    if x ∈ dump then none else (linkLast now (newId time (last now db)) db).message x

theorem ttl_writeChannel (hash : ChannelHash) :
    (db.channel.write now hash).ttl now = channelTtl now db := by
  unfold channelTtl
  cases seen : db.channel.look now with
  | none =>
    have looked : (db.channel.write now hash).look now = db.channel.write now hash :=
      look_write hash
    rw [write_of_none _ seen] at looked ⊢
    rfl
  | some e => rw [ttl_write _ seen, if_neg (by simp)]

theorem expire_write {α : Type} (now seconds : Int) (v : α) (s : Slot α) :
    (s.write now v).expire now seconds =
      if seconds ≤ 0 then none else some ⟨v, some (now + seconds * 1000)⟩ := by
  split
  case isTrue short => exact expire_write_of_nonpos v short
  case isFalse long => exact expire_write_of_pos v (by omega)

theorem setExpirations_messages (id : Stamp) (seconds : Int) :
    (setExpirations now id seconds db).messages =
      if seconds + 1 > db.channel.ttl now then db.messages.expire now (seconds + 1)
      else db.messages := by
  unfold setExpirations
  dsimp only
  split <;> rfl

theorem setExpirations_channel (id : Stamp) (seconds : Int) :
    (setExpirations now id seconds db).channel =
      if seconds + 1 > db.channel.ttl now then db.channel.expire now (seconds + 1)
      else db.channel := by
  unfold setExpirations
  dsimp only
  split <;> rfl

theorem setExpirations_message (id : Stamp) (seconds : Int) :
    (setExpirations now id seconds db).message =
      Function.update db.message id ((db.message id).expire now seconds) := by
  unfold setExpirations
  dsimp only
  split <;> rfl

variable {time : Int} {args : PublishArgs}

theorem linkLast_message (now : Int) (id x : Stamp) (db : Db) :
    (linkLast now id db).message x = (db.message x).map fun e =>
      if current now db = some x ∧ db.hasMessage now x = true
      then { e with value := { e.value with next := some id } } else e := by
  unfold linkLast
  cases is : current now db with
  | none => simp
  | some prev =>
    cases seen : (db.message prev).get now with
    | none =>
      have unchanged : ¬ (prev = x ∧ db.hasMessage now x = true) := by
        rintro ⟨rfl, has⟩
        simp [hasMessage, seen] at has
      simp only [seen]
      simp [unchanged]
    | some last =>
      by_cases here : prev = x
      · subst here
        obtain ⟨old, looked, rfl⟩ := get_eq_some.mp seen
        have has : db.hasMessage now prev = true := hasMessage_iff.mpr ⟨old, looked⟩
        simp only [seen]
        rw [message_setMessage, Function.update_self, write_of_some _ looked,
          (look_eq_some.mp looked).1, map_some, if_pos ⟨trivial, has⟩]
      · have unchanged : ¬ (prev = x ∧ db.hasMessage now x = true) := fun both => here both.1
        simp only [seen]
        rw [message_setMessage, Function.update_of_ne (Ne.symm here)]
        simp [unchanged]

theorem result_of_write {dump : List Stamp} (kept : newId time (last now db) ∉ dump)
    (message : ∀ x, (write now (newMessage now time args db) args.maxMsgBufSize db).message x =
      if x ∈ dump then none
      else (writeHashes now (newMessage now time args db) args.maxMsgBufSize db).message x) :
    (∃ hash, hash.currentMessage = some (newId time (last now db)) ∧
      (result now time args db).channel = extend now args db (db.channel.write now hash)) ∧
    (result now time args db).messages = extend now args db
      (write now (newMessage now time args db) args.maxMsgBufSize db).messages ∧
    Posted now time args dump db (result now time args db) := by
  have channelIs := write_channel now (newMessage now time args db) args.maxMsgBufSize db
  have left : (write now (newMessage now time args db) args.maxMsgBufSize db).channel.ttl now
      = channelTtl now db := by
    rw [channelIs]
    exact ttl_writeChannel _
  refine ⟨⟨channelFields now (newMessage now time args db) args.maxMsgBufSize db, rfl, ?_⟩, ?_,
    fun x => ?_⟩
  · rw [result, setExpirations_channel, left, channelIs]
    rfl
  · rw [result, setExpirations_messages, left]
    rfl
  · rw [result, setExpirations_message]
    by_cases self : x = newId time (last now db)
    · obtain ⟨old, is⟩ : ∃ old : Slot MessageHash,
          (writeHashes now (newMessage now time args db) args.maxMsgBufSize db).message
            (newId time (last now db)) = old.write now (newMessage now time args db) :=
        ⟨_, Function.update_self _ _ _⟩
      rw [self, Function.update_self, message, if_neg kept, is, expire_write, if_pos rfl]
    · rw [Function.update_of_ne self, if_neg self, message]
      exact congrArg (ite _ none) (Function.update_of_ne self _ _)

theorem result_spec {rest dump : List Stamp} (notListed : newId time (last now db) ∉ db.ids now)
    (stored : Stores now (newId time (last now db)) args.maxMsgBufSize
      (writeHashes now (newMessage now time args db) args.maxMsgBufSize db) rest dump
      (write now (newMessage now time args db) args.maxMsgBufSize db)) :
    Wrote now time args db rest dump (result now time args db) := by
  have sameIds : (writeHashes now (newMessage now time args db) args.maxMsgBufSize db).ids now
      = db.ids now := by simp [ids]
  have notDumped : newId time (last now db) ∉ dump := fun on =>
    notListed (sameIds ▸ (stored.dumped _ on).1)
  obtain ⟨channel, messages, posted⟩ := result_of_write notDumped stored.message
  refine ⟨sameIds ▸ stored.older, sameIds ▸ stored.dumped, stored.bounded, fun x on off => ?_,
    channel, ?_, (posted _).trans (if_pos rfl), fun x other => (posted x).trans (if_neg other)⟩
  · refine (stored.removed x (sameIds ▸ on) off).imp_right fun gone => ?_
    by_contra has
    rw [Bool.not_eq_false] at has
    rw [hasMessage_writeHashes has] at gone
    cases gone
  · rw [messages, stored.messages, writeHashes_messages]

theorem publish_wrote (numsub : String → Int) (accepted : ':' ∉ args.contentType.toList)
    (buffered : args.maxMsgBufSize ≠ 0)
    (fresh : db.hasMessage now (newId time (last now db)) = false)
    (nodup : (newId time (last now db) :: db.ids now).Nodup) (kept : args.maxMsgBufSize < 0 →
      db.messages.look now = none ∨ ∃ x ∈ db.ids now, db.hasMessage now x = true) :
    ∃ reply db' rest dump, publish now time numsub args db = .ok (reply, db') ∧
      reply.lastMessageId = newId time (last now db) ∧ Wrote now time args db rest dump db' := by
  obtain ⟨reply, db', ok, is, channel, messages, message⟩ := publish_ok numsub accepted fresh
  have sameIds : (writeHashes now (newMessage now time args db) args.maxMsgBufSize db).ids now
      = db.ids now := by simp [ids]
  have wrote : ∃ rest dump, Wrote now time args db rest dump (result now time args db) := by
    by_cases negative : args.maxMsgBufSize < 0
    · refine ⟨_, _, result_spec (nodup_cons.mp nodup).1 (storeId_unlimited negative ?_)⟩
      rw [writeHashes_messages, sameIds]
      refine (kept negative).imp_right fun has => ?_
      obtain ⟨x, on, there⟩ := has
      exact ⟨x, on, hasMessage_writeHashes there⟩
    · have positive : 0 < args.maxMsgBufSize := by omega
      have self : (writeHashes now (newMessage now time args db) args.maxMsgBufSize db).hasMessage
          now (newId time (last now db)) = true := by
        simp [writeHashes, newMessage, hasMessage]
      obtain ⟨rest, stored⟩ := storeId_limited positive self (sameIds ▸ nodup)
      exact ⟨rest, _, result_spec (nodup_cons.mp nodup).1 stored⟩
  obtain ⟨rest, dump, wrote⟩ := wrote
  refine ⟨reply, db', rest, dump, ok, is, wrote.older, wrote.dumped, wrote.bounded, wrote.removed,
    ?_, ?_, ?_, ?_⟩
  · rw [channel]
    exact wrote.channel
  · rw [messages]
    exact wrote.messages
  · rw [message]
    exact wrote.self
  · rw [message]
    exact wrote.others

variable {rest dump : List Stamp} {db' : Db} (wrote : Wrote now time args db rest dump db')
  (positive : 0 < ttl args)

include wrote positive

theorem Wrote.expiries :
    ∃ hash, hash.currentMessage = some (newId time (last now db)) ∧
      ((db'.channel = some ⟨hash, some (now + (ttl args + 1) * 1000)⟩ ∧
          db'.messages = some ⟨newId time (last now db) :: rest, some (now + (ttl args + 1) * 1000)⟩ ∧
          ∀ old expiry, db.channel.look now = some ⟨old, some expiry⟩ →
            expiry ≤ now + (ttl args + 1) * 1000) ∨
        ∃ old expiry, db.channel.look now = some ⟨old, some expiry⟩ ∧
          db'.channel = some ⟨hash, some expiry⟩ ∧
          db'.messages = db.messages.write now (newId time (last now db) :: rest) ∧
          now + ttl args * 1000 < expiry) := by
  obtain ⟨hash, current, channel⟩ := wrote.channel
  have messages := wrote.messages
  have long : 0 < ttl args + 1 := by omega
  refine ⟨hash, current, ?_⟩
  by_cases refresh : ttl args + 1 > channelTtl now db
  · simp only [extend, refresh, if_true, expire_write_of_pos _ long] at channel messages
    refine .inl ⟨channel, messages, fun old expiry there => ?_⟩
    rw [channelTtl, if_neg (by simp [there]), ttl_some there, elim_some] at refresh
    omega
  · simp only [extend, refresh, if_false] at channel messages
    cases there : db.channel.look now with
    | none =>
      rw [channelTtl, if_pos there] at refresh
      omega
    | some e =>
      rw [channelTtl, if_neg (by simp [there]), ttl_some there] at refresh
      obtain ⟨old, expiry⟩ := e
      cases expiry with
      | none =>
        rw [elim_none] at refresh
        omega
      | some expiry =>
        rw [elim_some] at refresh
        rw [write_of_some _ there] at channel
        exact .inr ⟨old, expiry, rfl, channel, messages, by omega⟩

theorem Wrote.expiry {P : List Stamp → Prop}
    (lives : db.channel.look now = none ∧ db.messages.look now = none ∨
      ∃ hash list expiry, db.channel.look now = some ⟨hash, some expiry⟩ ∧
        db.messages.look now = some ⟨list, some expiry⟩ ∧ P list) :
    ∃ hash expiry, hash.currentMessage = some (newId time (last now db)) ∧
      db'.channel = some ⟨hash, some expiry⟩ ∧
      db'.messages = some ⟨newId time (last now db) :: rest, some expiry⟩ ∧
      now + ttl args * 1000 < expiry ∧
      ∀ old expiry', db.channel.look now = some ⟨old, some expiry'⟩ → expiry' ≤ expiry := by
  obtain ⟨hash, current, refreshed | ⟨old, expiry, there, channel, messages, outlived⟩⟩ :=
    wrote.expiries positive
  · obtain ⟨channel, messages, extends_⟩ := refreshed
    exact ⟨hash, _, current, channel, messages, by omega, extends_⟩
  · rcases lives with ⟨gone, -⟩ | ⟨old', list, expiry', there', listed, -⟩
    · cases there.symm.trans gone
    · cases there.symm.trans there'
      rw [write_of_some _ listed] at messages
      refine ⟨hash, expiry, current, channel, messages, outlived, fun old' expiry' again => ?_⟩
      cases there.symm.trans again
      exact le_refl _

theorem Wrote.written :
    db'.message (newId time (last now db)) =
      some ⟨newMessage now time args db, some (now + ttl args * 1000)⟩ := by
  rw [wrote.self, if_neg positive.not_ge]

end Publish

end Nchan.Redis
