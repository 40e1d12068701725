import Nchan.Redis.ListExpiry
import Nchan.Redis.Walk

/-! # Deleting a channel

`delete.lua` finds the messages of a channel through the list of their ids.  A message that is
published with a limit of 0 is written like any other, but its id is not put on the list: deleting
the channel leaves its hash behind.  The ids of a new channel start at the current second, so that
the next message may get the id of the one that was left.  And nothing can be published at all to a
channel whose name `format` refuses.
-/

namespace Nchan.Redis

open Nchan.Lib List Option Publish Db

/-- The clock does not go back from call to call, and no message of theirs expires until `stop`. -/
def Unexpired (stop clock : Int) : List PublishCall → Prop
  | [] => True
  | call :: calls =>
    clock ≤ call.now ∧ call.now ≤ stop ∧ stop < call.now + ttl call.args * 1000 ∧
      Unexpired stop call.now calls

/-- A content type that `publish.lua` does not refuse. -/
def PublishArgs.Accepted (args : PublishArgs) : Prop := ':' ∉ args.contentType.toList

/-! ## What is there while nothing expires -/

/-- The hashes of messages are those on the list, and those that were never put there. -/
structure Held (stop : Int) (unlisted : List Stamp) (db : Db) : Prop where
  channelLives : db.channel.Outlives stop
  listLives : db.messages.Outlives stop
  messageLives : ∀ id, (db.message id).Outlives stop
  nonempty : ∀ e, db.messages = some e → e.value ≠ []
  nodup : (db.ids stop).Nodup
  there : ∀ id, (db.message id).isSome ↔ id ∈ db.ids stop ∨ id ∈ unlisted
  apart : ∀ id ∈ unlisted, id ∉ db.ids stop
  stamped : ∀ id e, db.message id = some e → e.value.time = id.time ∧ e.value.tag = id.tag
  newest : (db.channel = none ∧ ∀ id, db.message id = none) ∨
    ∃ id, current stop db = some id ∧ (db.message id).isSome ∧
      ∀ x, (db.message x).isSome → x ≤ id

section

variable {stop now time : Int} {unlisted : List Stamp} {db db' : Db} {args : PublishArgs}

theorem Held.ids (held : Held stop unlisted db) (before : now ≤ stop) : db.ids now = db.ids stop := by
  rw [Db.ids, Db.ids, held.listLives.get before, held.listLives.get le_rfl]

theorem Held.hasMessage (held : Held stop unlisted db) (before : now ≤ stop) (id : Stamp) :
    db.hasMessage now id = (db.message id).isSome := by
  rw [Db.hasMessage, (held.messageLives id).get before, isSome_map]

theorem Held.above (held : Held stop unlisted db) (before : now ≤ stop) (time : Int) {x : Stamp}
    (is : (db.message x).isSome) : x < newId time (last now db) := by
  rcases held.newest with ⟨-, none_⟩ | ⟨id, current, exists_, newest⟩
  · simp [none_] at is
  · obtain ⟨e, found⟩ := isSome_iff_exists.mp exists_
    have currentNow : Publish.current now db = some id := by
      rw [Publish.current, held.channelLives.get before, ← held.channelLives.get le_rfl]
      exact current
    have last : last now db = some e.value := by
      rw [last, currentNow, bind_some, (held.messageLives id).get before, found]
      rfl
    obtain ⟨atTime, atTag⟩ := held.stamped id e found
    rw [last]
    exact (newest x is).trans_lt (lt_newId time atTime atTag)

theorem Held.fresh (held : Held stop unlisted db) (before : now ≤ stop) (time : Int) :
    db.message (newId time (last now db)) = none := by
  by_contra taken
  exact lt_irrefl _ (held.above before time (isSome_iff_ne_none.mpr taken))

/-! ## One publish -/

theorem extend_outlives {α : Type} {s : Slot α} (lives : s.Outlives stop)
    (long : stop < now + ttl args * 1000) : (extend now args db s).Outlives stop := by
  unfold extend
  split
  · exact Slot.outlives_pexpire (by omega)
  · exact lives

theorem extend_value {α : Type} {s : Slot α} (lives : s.Outlives stop) (before : now ≤ stop)
    (long : stop < now + ttl args * 1000) :
    (extend now args db s).map (·.value) = s.map (·.value) := by
  unfold extend
  split
  · rw [Slot.expire, lives.pexpire before (by omega), Option.map_map]
    rfl
  · rfl

/-- What a publish leaves: `listed` is the new list, and the messages of `dump` are gone. -/
structure Leaves (stop : Int) (new : Stamp) (listed dump : List Stamp) (db db' : Db) : Prop where
  channelLives : db'.channel.Outlives stop
  listLives : db'.messages.Outlives stop
  nonempty : ∀ e, db'.messages = some e → e.value ≠ []
  ids : db'.ids stop = listed
  current : current stop db' = some new
  message : ∀ x, db'.message x = none ↔ x ≠ new ∧ (db.message x = none ∨ x ∈ dump)
  messageLives : ∀ x, (db'.message x).Outlives stop
  stamped : ∀ x e, db'.message x = some e → e.value.time = x.time ∧ e.value.tag = x.tag

theorem current_of_extend {hash : ChannelHash} {new : Stamp} (lives : db.channel.Outlives stop)
    (before : now ≤ stop) (long : stop < now + ttl args * 1000)
    (is : hash.currentMessage = some new)
    (channel : db'.channel = extend now args db (db.channel.write now hash)) :
    db'.channel.Outlives stop ∧ current stop db' = some new := by
  have written := lives.write before hash
  have still : db'.channel.Outlives stop := channel ▸ extend_outlives written long
  refine ⟨still, ?_⟩
  rw [current, still.get le_rfl, channel, extend_value written before long]
  exact is

theorem Posted.eq_none_iff {dump : List Stamp} (posted : Posted now time args dump db db')
    (positive : 0 < ttl args) (x : Stamp) : db'.message x = none ↔
      x ≠ newId time (last now db) ∧ (db.message x = none ∨ x ∈ dump) := by
  have long : ¬ ttl args ≤ 0 := by omega
  rw [posted]
  by_cases self : x = newId time (last now db)
  · simp [self, long]
  · by_cases dumped : x ∈ dump
    · simp [dumped, self]
    · simp [dumped, self, linkLast_message]

theorem Held.leaves (held : Held stop unlisted db) (before : now ≤ stop)
    (long : stop < now + ttl args * 1000) {hash : ChannelHash} {listed dump : List Stamp}
    {list : Slot (List Stamp)}
    (is : hash.currentMessage = some (newId time (last now db)))
    (channel : db'.channel = extend now args db (db.channel.write now hash))
    (lives : list.Outlives stop) (nonempty : ∀ e, list = some e → e.value ≠ [])
    (value : (list.map (·.value)).getD [] = listed)
    (messages : db'.messages = extend now args db list)
    (posted : Posted now time args dump db db') :
    Leaves stop (newId time (last now db)) listed dump db db' := by
  obtain ⟨channelLives, current⟩ := current_of_extend held.channelLives before long is channel
  have listLives : db'.messages.Outlives stop := messages ▸ extend_outlives lives long
  have same : db'.messages.map (·.value) = list.map (·.value) := by
    rw [messages, extend_value lives before long]
  refine ⟨channelLives, listLives, fun e found => ?_, ?_, current, posted.eq_none_iff (by omega),
    fun x e found t on => ?_, fun x e found => ?_⟩
  · rw [found] at same
    obtain ⟨old, was, equal⟩ := map_eq_some_iff.mp same.symm
    have some_ := nonempty old was
    rwa [equal] at some_
  · rw [Db.ids, listLives.get le_rfl, same]
    exact value
  · rcases posted.cases found with ⟨-, -, expires, -⟩ | ⟨-, -, old, was, expires, -⟩
    · cases expires ▸ on
      exact long
    · exact held.messageLives x old was t (expires ▸ on)
  · rcases posted.cases found with ⟨self, value, -⟩ | ⟨-, -, old, was, -, value⟩
    · rw [self, value]
      exact ⟨rfl, rfl⟩
    · rw [value]
      split <;> exact held.stamped x old was

theorem result_unbuffered (now time : Int) (db : Db) (unbuffered : args.maxMsgBufSize = 0) :
    (∃ hash, hash.currentMessage = some (newId time (last now db)) ∧
      (result now time args db).channel = extend now args db (db.channel.write now hash)) ∧
    (result now time args db).messages = extend now args db db.messages ∧
    Posted now time args [] db (result now time args db) := by
  have written : write now (newMessage now time args db) args.maxMsgBufSize db =
      writeHashes now (newMessage now time args db) args.maxMsgBufSize db := by
    simp [write, storeId, unbuffered]
  have none_ : newId time (last now db) ∉ ([] : List Stamp) := not_mem_nil
  have spec := result_of_write none_ fun x => by rw [written]; rfl
  rwa [written, writeHashes_messages] at spec

theorem Held.publish (held : Held stop unlisted db) (before : now ≤ stop)
    (long : stop < now + ttl args * 1000) (accepted : args.Accepted) (time : Int)
    (numsub : String → Int) :
    ∃ reply db' listed dump, Redis.publish now time numsub args db = .ok (reply, db') ∧
      Leaves stop (newId time (last now db)) listed dump db db' ∧
      (args.maxMsgBufSize = 0 ∧ listed = db.ids stop ∧ dump = [] ∨
        args.maxMsgBufSize ≠ 0 ∧ ∃ rest, listed = newId time (last now db) :: rest ∧
          rest <+: db.ids stop ∧ ∀ x, x ∈ dump ↔ x ∈ db.ids stop ∧ x ∉ rest) := by
  -- ids never come back while no message expires
  have none_ := held.fresh before time
  have fresh : db.hasMessage now (newId time (last now db)) = false := by
    rw [held.hasMessage before, none_]
    rfl
  have unlisted : newId time (last now db) ∉ db.ids stop := fun on => by
    have exists_ := (held.there _).mpr (.inl on)
    rw [none_] at exists_
    cases exists_
  by_cases unbuffered : args.maxMsgBufSize = 0
  · obtain ⟨reply, db', ok, -, sameChannel, sameList, sameMessages⟩ :=
      publish_ok numsub accepted fresh
    obtain ⟨⟨hash, is, channel⟩, messages, posted⟩ :=
      result_unbuffered now time db unbuffered
    refine ⟨reply, db', db.ids stop, [], ok, ?_, .inl ⟨unbuffered, rfl, rfl⟩⟩
    refine held.leaves before long is (sameChannel.trans channel) held.listLives held.nonempty ?_
      (sameList.trans messages) fun x => ?_
    · rw [Db.ids, held.listLives.get le_rfl]
    · rw [sameMessages]
      exact posted x
  · -- without a limit, cleaning the end of the list stops at a message that is there
    have kept : args.maxMsgBufSize < 0 →
        db.messages.look now = none ∨ ∃ x ∈ db.ids now, db.hasMessage now x = true := by
      intro _
      cases is : db.messages with
      | none => exact .inl rfl
      | some e =>
        obtain ⟨x, xs, listed⟩ := exists_cons_of_ne_nil (held.nonempty e is)
        have on : x ∈ db.ids stop := by
          rw [Db.ids, held.listLives.get le_rfl, is]
          simp [listed]
        refine .inr ⟨x, held.ids before ▸ on, ?_⟩
        rw [held.hasMessage before]
        exact (held.there x).mpr (.inl on)
    obtain ⟨reply, db', rest, dump, ok, -, wrote⟩ := publish_wrote numsub accepted unbuffered
      fresh (held.ids before ▸ nodup_cons.mpr ⟨unlisted, held.nodup⟩) kept
    obtain ⟨hash, is, channel⟩ := wrote.channel
    refine ⟨reply, db', _, dump, ok, ?_, .inr ⟨unbuffered, rest, rfl, held.ids before ▸ wrote.older,
      fun x => ⟨fun on => held.ids before ▸ wrote.dumped x on, fun off => ?_⟩⟩⟩
    · exact held.leaves before long is channel (held.listLives.write before _)
        (fun e is => by cases is; simp) rfl wrote.messages wrote.posted
    · refine (wrote.removed x (held.ids before ▸ off.1) off.2).resolve_right fun gone => ?_
      rw [held.hasMessage before, (held.there x).mpr (.inl off.1)] at gone
      cases gone

/-- The ids that are not listed, after one more message. -/
def unlistedAfter (args : PublishArgs) (new : Stamp) (unlisted : List Stamp) : List Stamp :=
  if args.maxMsgBufSize = 0 then new :: unlisted else unlisted

theorem Held.concat (held : Held stop unlisted db) {new : Stamp} {listed dump : List Stamp}
    (fresh : db.message new = none) (above : ∀ x, (db.message x).isSome → x < new)
    (leaves : Leaves stop new listed dump db db')
    (how : args.maxMsgBufSize = 0 ∧ listed = db.ids stop ∧ dump = [] ∨
      args.maxMsgBufSize ≠ 0 ∧ ∃ rest, listed = new :: rest ∧ rest <+: db.ids stop ∧
        ∀ x, x ∈ dump ↔ x ∈ db.ids stop ∧ x ∉ rest) :
    Held stop (unlistedAfter args new unlisted) db' := by
  have known : ∀ x, x ∈ db.ids stop ∨ x ∈ unlisted → x ≠ new := by
    rintro x on rfl
    have exists_ := (held.there x).mpr on
    rw [fresh] at exists_
    cases exists_
  -- which messages there are afterwards, in both cases of `how`
  have some_iff : ∀ x, (db'.message x).isSome ↔ x = new ∨
      (x ∈ db.ids stop ∨ x ∈ unlisted) ∧ x ∉ dump := by
    intro x
    rw [isSome_iff_ne_none, Ne, leaves.message, ← held.there, isSome_iff_ne_none]
    tauto
  refine ⟨leaves.channelLives, leaves.listLives, leaves.messageLives, leaves.nonempty, ?_,
    fun x => ?_, fun x on => ?_, leaves.stamped, .inr ⟨new, leaves.current, ?_, fun x is => ?_⟩⟩
  · rw [leaves.ids]
    rcases how with ⟨-, rfl, -⟩ | ⟨-, rest, rfl, older, -⟩
    · exact held.nodup
    · exact nodup_cons.mpr ⟨fun on => known new (.inl (older.subset on)) rfl,
        held.nodup.sublist older.sublist⟩
  · rw [some_iff, leaves.ids]
    rcases how with ⟨zero, rfl, rfl⟩ | ⟨stored, rest, rfl, older, dumped⟩
    · simp only [unlistedAfter, zero, if_true, mem_cons, not_mem_nil]
      tauto
    · have rest_ := fun on : x ∈ rest => older.subset on
      have apart := held.apart x
      simp only [unlistedAfter, stored, if_false, mem_cons, dumped]
      tauto
  · rw [leaves.ids]
    rcases how with ⟨zero, rfl, rfl⟩ | ⟨stored, rest, rfl, older, dumped⟩
    · rw [unlistedAfter, if_pos zero, mem_cons] at on
      cases on with
      | inl self => exact fun listed => known x (.inl listed) self
      | inr before => exact held.apart x before
    · rw [unlistedAfter, if_neg stored] at on
      rw [mem_cons]
      rintro (self | listed)
      · exact known x (.inr on) self
      · exact held.apart x on (older.subset listed)
  · exact (some_iff new).mpr (.inl rfl)
  · rcases (some_iff x).mp is with rfl | ⟨on, -⟩
    · exact le_rfl
    · exact (above x ((held.there x).mpr on)).le

end

/-! ## All calls -/

theorem Held.initial (stop : Int) : Held stop [] .empty where
  channelLives := Slot.outlives_none
  listLives := Slot.outlives_none
  messageLives := fun _ => Slot.outlives_none
  nonempty := fun _ is => by cases is
  nodup := by simp [Db.ids, empty, Slot.get, Slot.look]
  there := fun id => by simp [Db.ids, empty, Slot.get, Slot.look]
  apart := fun _ on => by cases on
  stamped := fun _ _ found => by cases found
  newest := .inl ⟨rfl, fun _ => rfl⟩

/-- Some ids are not listed after the calls if and only if one was accepted with a limit of 0. -/
theorem Held.replay {stop clock : Int} {unlisted : List Stamp} {db : Db} {calls : List PublishCall}
    (held : Held stop unlisted db) (unexpired : Unexpired stop clock calls) :
    ∃ left, Held stop left (replay calls db) ∧
      (left = [] ↔ unlisted = [] ∧
        ∀ call ∈ calls, call.args.Accepted → call.args.maxMsgBufSize ≠ 0) := by
  induction calls generalizing clock unlisted db with
  | nil => exact ⟨unlisted, held, by simp⟩
  | cons call calls ih =>
    obtain ⟨-, before, long, rest⟩ := unexpired
    by_cases accepted : call.args.Accepted
    · obtain ⟨reply, db', listed, dump, ok, leaves, how⟩ :=
        held.publish before long accepted (call.now / 1000) call.numsub
      have next := held.concat (held.fresh before _) (fun x is => held.above before _ is) leaves how
      obtain ⟨left, holds, iff_⟩ := ih next rest
      refine ⟨left, ?_, iff_.trans ?_⟩
      · rw [Redis.replay, foldl_cons, ok]
        exact holds
      · rw [forall_mem_cons, unlistedAfter]
        split
        case isTrue zero => simp [accepted, zero]
        case isFalse stored => simp [stored]
    · obtain ⟨left, holds, iff_⟩ := ih held rest
      refine ⟨left, ?_, iff_.trans ?_⟩
      · have refused : Redis.publish call.now (call.now / 1000) call.numsub call.args db =
            .error .contentType := if_pos (not_not.mp accepted)
        rw [Redis.replay, foldl_cons, refused]
        exact holds
      · rw [forall_mem_cons]
        simp [accepted]

theorem Held.delete {stop now : Int} {unlisted : List Stamp} {db : Db} (held : Held stop unlisted db)
    (before : now ≤ stop) (numsub : String → Int) (accurate : Bool) :
    (Redis.delete now numsub accurate db).2.channel = none ∧
      ∀ time ≤ stop, ∀ id, (Redis.delete now numsub accurate db).2.hasMessage time id =
        (id ∈ unlisted : Bool) := by
  have message : (Redis.delete now numsub accurate db).2.message =
      (db.delMessages (db.ids now)).message := by
    unfold Redis.delete
    dsimp only
    split <;> split <;> rfl
  refine ⟨rfl, fun time until_ id => ?_⟩
  rw [Db.hasMessage, message, delMessages_message, held.ids before]
  have there := held.there id
  split
  case isTrue listed =>
    have off : id ∉ unlisted := fun on => held.apart id on listed
    simp [off, Slot.get, Slot.look]
  case isFalse off =>
    rw [(held.messageLives id).get until_, isSome_map, Bool.eq_iff_iff, there]
    simp [off]

def replayTo (ns id : Bytes) (calls : List PublishCall) (db : Db) : Db :=
  calls.foldl (fun db call =>
    match publishTo ns id call.now (call.now / 1000) call.numsub call.args db with
    | .error _ => db
    | .ok (_, db) => db) db

theorem replayTo_eq {ns id : Bytes} (formatted : formats ns id = true) :
    replayTo ns id = replay := by
  funext calls db
  rw [replayTo, publishTo_eq formatted]
  rfl

/-- After a history of publishing in which nothing expires, deleting the channel leaves no message,
    and the next publish succeeds, if and only if `format` takes the name of the channel and no
    message was published with a limit of 0. -/
theorem delete_clears_iff (ns id : Bytes) {calls : List PublishCall} {clock now next : Int}
    (numsub : String → Int) (accurate : Bool) (unexpired : Unexpired next clock calls)
    (before : now ≤ next) :
    ((∀ x, (delete now numsub accurate (replayTo ns id calls .empty)).2.hasMessage now x = false) ∧
      ∀ numsub' args, args.Accepted → ∃ reply db', publishTo ns id next (next / 1000) numsub' args
        (delete now numsub accurate (replayTo ns id calls .empty)).2 = .ok (reply, db')) ↔
    formats ns id = true ∧ ∀ call ∈ calls, call.args.Accepted → call.args.maxMsgBufSize ≠ 0 := by
  cases formatted : formats ns id with
  | false =>
    -- not even a message without a content type can be published
    refine iff_of_false (fun ⟨_, published⟩ => ?_) (by simp)
    have accepted : (emptyMessage 10 5).Accepted := show ':' ∉ "".toList by decide
    obtain ⟨reply, db', ok⟩ := published numsub _ accepted
    rw [publishTo, if_neg accepted, if_pos (by simp [formatted])] at ok
    cases ok
  | true =>
  rw [replayTo_eq formatted, publishTo_eq formatted, and_iff_right rfl]
  obtain ⟨left, held, iff_⟩ := (Held.initial next).replay unexpired
  obtain ⟨channel, has⟩ := held.delete before numsub accurate
  have cleared : left = [] ↔ ∀ call ∈ calls, call.args.Accepted → call.args.maxMsgBufSize ≠ 0 := by
    simpa using iff_
  rw [← cleared]
  constructor
  · rintro ⟨none_, -⟩
    refine eq_nil_iff_forall_not_mem.mpr fun id on => ?_
    have gone := none_ id
    rw [has now before id] at gone
    simp [on] at gone
  · rintro rfl
    refine ⟨fun id => by simp [has now before id], fun numsub' args accepted => ?_⟩
    obtain ⟨reply, db', ok, -⟩ := publish_ok numsub' accepted (has next le_rfl _)
    exact ⟨reply, db', ok⟩

/-- Two messages in one second, and another one after the channel has been deleted. -/
theorem delete_clears_two :
    ∃ reply db', publishTo [] [0x61] 1900 1 (fun _ => 0) (emptyMessage 20 5)
      (delete 1800 (fun _ => 0) false (replayTo [] [0x61] [⟨1000, fun _ => 0, emptyMessage 10 1⟩,
        ⟨1500, fun _ => 0, emptyMessage 10 1⟩] .empty)).2 = .ok (reply, db') := by
  have unexpired : Unexpired 1900 0 [⟨1000, fun _ => 0, emptyMessage 10 1⟩,
      ⟨1500, fun _ => 0, emptyMessage 10 1⟩] := by simp [Unexpired, ttl, emptyMessage]
  have cleared := (delete_clears_iff [] [0x61] (fun _ => 0) false unexpired
    (show (1800 : Int) ≤ 1900 by decide)).mpr ⟨by decide, by simp [emptyMessage]⟩
  exact cleared.2 (fun _ => 0) (emptyMessage 20 5) (show ':' ∉ "".toList by decide)

/-- The message that was not stored is still there, and the next one would get its id. -/
theorem delete_leaves_unbuffered :
    let db := (delete 1800 (fun _ => 0) false
      (replayTo [] [0x61] [⟨1000, fun _ => 0, emptyMessage 10 0⟩] .empty)).2
    db.hasMessage 1800 ⟨1, 0⟩ = true ∧
      publishTo [] [0x61] 1900 1 (fun _ => 0) (emptyMessage 20 5) db =
        .error (.alreadyExists ⟨1, 0⟩) :=
  ⟨rfl, rfl⟩

end Nchan.Redis
