import Nchan.Lib.Run
import Nchan.Redis.PublishSpec

/-! # Lists that outlive their channel

The list of a channel's message ids should not stay behind for good when the channel expires.
Most scripts set the expiration times of both keys together.  `publish.lua` does so only when its
message lives longer than the channel would, and it may have made the list just before.
-/

namespace Nchan.Redis

open Nchan.Lib Publish Option Db Run

inductive Call where
  | publish (now time : Int) (numsub : String → Int) (args : PublishArgs)
  | getMessage (now time tag : Int) (order : NoMsgidOrder) (createChannelTtl : Int)
  | subscriberRegister (now : Int) (subscriber : Option Int) (activeTtl margin : Int)
      (time : Option Int)
  | subscriberUnregister (now emptyTtl : Int)
  | channelKeepalive (now ttl margin : Int)
  | delete (now : Int) (numsub : String → Int) (useAccurateSubscriberCount : Bool)

def Call.apply : Call → Db → Option Db
  | .publish now time numsub args, db =>
    match Redis.publish now time numsub args db with
    | .error _ => some db
    | .ok (_, db) => some db
  | .getMessage now time tag order createChannelTtl, db =>
    some (Redis.getMessage now time tag order createChannelTtl db).2
  | .subscriberRegister now subscriber activeTtl margin time, db =>
    some (Redis.subscriberRegister now subscriber activeTtl margin time db).2
  | .subscriberUnregister now emptyTtl, db => some (Redis.subscriberUnregister now emptyTtl db).2
  | .channelKeepalive now ttl margin, db => some (Redis.channelKeepalive now ttl margin db).2
  | .delete now numsub accurate, db => some (Redis.delete now numsub accurate db).2

theorem Call.apply_publish {now time : Int} {numsub : String → Int} {args : PublishArgs} {db db' : Db}
    (applied : (Call.publish now time numsub args).apply db = some db') :
    db' = db ∨ db'.channel = (result now time args db).channel ∧
      db'.messages = (result now time args db).messages := by
  unfold Call.apply at applied
  rcases publish_cases now time numsub args db with ⟨error, failed⟩ | ⟨accepted, fresh⟩
  · simp only [failed, some.injEq] at applied
    exact .inl applied.symm
  · obtain ⟨reply, written, ok, -, channel, messages, -⟩ := publish_ok numsub accepted fresh
    simp only [ok, some.injEq] at applied
    exact .inr (applied ▸ ⟨channel, messages⟩)

/-- If the channel has an expiration time or is gone, the list has one or is gone too. -/
def Covered (now : Int) (db : Db) : Prop :=
  (∀ channel, db.channel.look now = some channel → channel.expiry.isSome) →
    ∀ list, db.messages.look now = some list → list.expiry.isSome

/-! ## What each script does to the two keys -/

/-- The invariant: a list that is there for good has a channel that is. -/
def Db.Paired (db : Db) : Prop := db.messages.Lasting → db.channel.Lasting

variable {db : Db}

theorem Db.Paired.covered (paired : db.Paired) (now : Int) : Covered now db := by
  intro channelExpires list seen
  by_contra forever
  have lasting : db.messages.Lasting :=
    ⟨list, (Slot.look_eq_some.mp seen).1, by simpa using forever⟩
  have channel := paired lasting
  obtain ⟨e, is, never⟩ := channel
  have expires := channelExpires e ((Slot.Lasting.look ⟨e, is, never⟩).trans is)
  simp [never] at expires

variable {margin now : Int}

theorem lasting_setIds {ids : List Stamp} (there : db.ids now ≠ [])
    (lasting : (db.setIds now ids).messages.Lasting) : db.messages.Lasting := by
  unfold setIds at lasting
  split at lasting
  · exact absurd lasting Slot.not_lasting_none
  · exact (Slot.lasting_write.mp lasting).resolve_left fun gone => there (ids_of_none gone)

theorem lasting_oldestmsg (lasting : (db.oldestmsg now).2.messages.Lasting) :
    db.messages.Lasting := by
  by_cases there : db.ids now = []
  · simp [oldestmsg, setIds, there, Slot.not_lasting_none] at lasting
  · exact lasting_setIds there lasting

/-- The list is not made anew when an id is stored. -/
def KeepsList (now limit : Int) (db : Db) : Prop :=
  limit = 0 ∨ limit > 0 ∧ db.ids now ≠ [] ∨ limit < 0 ∧ ∃ id ∈ db.ids now, db.hasMessage now id

theorem lasting_storeId {id : Stamp} {limit : Int} (keeps : KeepsList now limit db)
    (lasting : (storeId now id limit db).messages.Lasting) : db.messages.Lasting := by
  rcases keeps with rfl | ⟨positive, there⟩ | ⟨negative, old, on, exists_⟩
  · exact lasting
  · have notNegative : ¬ limit < 0 := by omega
    simp only [storeId, notNegative, if_false, positive, if_true] at lasting
    have trimmed := lasting_setIds (by simp) (lasting_oldestmsg lasting)
    rw [delMessages_messages] at trimmed
    exact lasting_setIds there trimmed
  · simp only [storeId, negative, if_true] at lasting
    refine lasting_oldestmsg (lasting_setIds ?_ lasting)
    rw [oldestmsg, ids_setIds]
    intro empty
    have gone := List.rdropWhile_eq_nil_iff.mp empty old on
    simp [exists_] at gone

/-- When the list is the same or the channel does not have longer to live than the message, a
    publish leaves no list behind. -/
def PublishCovers (now : Int) (args : PublishArgs) (db : Db) : Prop :=
  KeepsList now args.maxMsgBufSize db ∨ db.channel.ttl now < 0 ∨
    db.channel.ttl now < ttl args + 1

theorem lasting_write_messages {limit : Int} {msg : MessageHash} (keeps : KeepsList now limit db)
    (lasting : (write now msg limit db).messages.Lasting) : db.messages.Lasting := by
  have sameIds : (writeHashes now msg limit db).ids now = db.ids now := by
    simp [ids]
  have stillKeeps : KeepsList now limit (writeHashes now msg limit db) := by
    rcases keeps with zero | ⟨positive, there⟩ | ⟨negative, old, on, has⟩
    · exact .inl zero
    · exact .inr (.inl ⟨positive, sameIds ▸ there⟩)
    · exact .inr (.inr ⟨negative, old, sameIds ▸ on, hasMessage_writeHashes has⟩)
  have before := lasting_storeId stillKeeps lasting
  rwa [writeHashes_messages] at before

section

variable (paired : db.Paired)

include paired

theorem paired_result {args : PublishArgs} (time : Int) (covers : PublishCovers now args db) :
    (result now time args db).Paired := by
  intro lasting
  unfold result setExpirations at lasting ⊢
  dsimp only at lasting ⊢
  split at lasting
  case isTrue => exact absurd lasting (Slot.not_lasting_expire _)
  case isFalse outlives =>
    rw [if_neg outlives]
    change (write now _ args.maxMsgBufSize db).channel.Lasting
    rw [write_channel] at outlives ⊢
    unfold updateChannel at outlives ⊢
    refine Slot.lasting_write.mpr ?_
    cases seen : db.channel.look now with
    | none => exact .inl rfl
    | some channel =>
      refine .inr ?_
      rw [Slot.ttl_write _ seen] at outlives
      rcases covers with keeps | negative | shorter
      · exact paired (lasting_write_messages keeps lasting)
      · exact Slot.lasting_of_ttl_neg seen negative
      · exact absurd shorter (by omega)

theorem paired_getMessage {time tag : Int} {order : NoMsgidOrder} {createChannelTtl : Int} :
    (getMessage now time tag order createChannelTtl db).2.Paired := by
  unfold getMessage
  split
  case h_1 gone =>
    split
    · exact paired
    · -- the list would have had a channel
      intro lasting
      have channel := paired lasting
      obtain ⟨e, is, -⟩ := channel
      have seen := Slot.get_eq_none.mp gone
      rw [(paired lasting).look, is] at seen
      cases seen
  case h_2 =>
    split
    · split
      · exact paired
      · have popped : (db.oldestmsg now).2.Paired := fun lasting => paired (lasting_oldestmsg lasting)
        split
        case h_1 oldest =>
          rw [oldest] at popped
          exact popped
        case h_2 oldest =>
          rw [oldest] at popped
          exact popped
    · split
      · exact paired
      · split <;> exact paired

theorem Db.Paired.setChannel (hash : ChannelHash) :
    ({ db with channel := db.channel.write now hash } : Db).Paired := by
  intro lasting
  exact Slot.lasting_write.mpr (.inr (paired lasting))

theorem paired_refreshTtl {activeTtl : Int} (positive : 0 < activeTtl) (nonneg : 0 ≤ margin) :
    (refreshTtl now activeTtl margin db).2.Paired := by
  have safe : activeTtl + margin > 0 := by omega
  unfold refreshTtl
  dsimp only
  split
  case isTrue =>
    intro lasting
    rw [setkeyttlMsec, if_pos safe] at lasting
    exact absurd lasting (Slot.not_lasting_pexpire _)
  case isFalse => exact paired

theorem paired_subscriberRegister {subscriber : Option Int} {activeTtl : Int} {time : Option Int}
    (positive : 0 < activeTtl) (nonneg : 0 ≤ margin) :
    (subscriberRegister now subscriber activeTtl margin time db).2.Paired := by
  refine paired_refreshTtl ?_ positive nonneg
  split
  · exact paired.setChannel _
  · exact paired

theorem paired_subscriberUnregister {emptyTtl : Int} :
    (subscriberUnregister now emptyTtl db).2.Paired := by
  unfold subscriberUnregister
  split
  case h_1 => exact paired
  case h_2 channel seen =>
    dsimp only
    split
    case isTrue =>
      intro lasting
      unfold setkeyttlSec at lasting ⊢
      split at lasting
      · exact absurd lasting (Slot.not_lasting_expire _)
      · split at lasting
        case isTrue notPositive negative =>
          rw [if_neg notPositive, if_pos negative]
          -- the channel is there, so both are kept for good
          exact Slot.lasting_persist (Slot.look_write _)
        case isFalse => exact absurd lasting Slot.not_lasting_none
    case isFalse => exact paired.setChannel _

theorem paired_channelKeepalive {ttl : Int} :
    (channelKeepalive now ttl margin db).2.Paired := by
  unfold channelKeepalive
  dsimp only
  split
  · exact paired
  · split
    · exact paired
    · exact fun lasting => absurd lasting (Slot.not_lasting_pexpire _)

theorem paired_publish {time : Int} {numsub : String → Int} {args : PublishArgs} {db' : Db}
    (covers : PublishCovers now args db)
    (applied : (Call.publish now time numsub args).apply db = some db') : db'.Paired := by
  rcases Call.apply_publish applied with rfl | ⟨channel, messages⟩
  · exact paired
  · rw [Db.Paired, channel, messages]
    exact paired_result paired time covers

/-! ## Runs -/

/-- A channel is registered for with a time to live that is positive. -/
def Call.Legal : Call → Prop
  | .subscriberRegister _ _ activeTtl margin _ => 0 < activeTtl ∧ 0 ≤ margin
  | .subscriberUnregister _ emptyTtl => 0 < emptyTtl
  | _ => True

def Call.Covers : Call → Db → Prop
  | .publish now _ _ args, db => PublishCovers now args db
  | _, _ => True

theorem step_paired {call : Call} {db' : Db}
    (good : call.Legal ∧ call.Covers db) (applied : call.apply db = some db') : db'.Paired := by
  cases call with
  | publish now time numsub args => exact paired_publish paired good.2 applied
  | getMessage now time tag order createChannelTtl =>
    cases applied
    exact paired_getMessage paired
  | subscriberRegister now subscriber activeTtl margin time =>
    cases applied
    exact paired_subscriberRegister paired good.1.1 good.1.2
  | subscriberUnregister now emptyTtl =>
    cases applied
    exact paired_subscriberUnregister paired
  | channelKeepalive now ttl margin =>
    cases applied
    exact paired_channelKeepalive paired
  | delete now numsub accurate =>
    cases applied
    exact fun lasting => absurd lasting Slot.not_lasting_none

end

/-- In every run of the scripts in which each publish finds a list that it keeps, or a channel
    that does not outlive the message, the list never stays behind. -/
theorem list_expires_with_channel {calls : List Call} {db : Db}
    (good : Run.Along Call.apply (fun call db => call.Legal ∧ call.Covers db) calls .empty)
    (reaches : run Call.apply calls .empty = some db) (now : Int) : Covered now db := by
  have initial : empty.Paired := fun lasting => absurd lasting Slot.not_lasting_none
  have paired := run_invariant (fun _ _ _ inv good applied => step_paired inv good applied)
    initial good reaches
  exact paired.covered now

def emptyMessage (ttl limit : Int) : PublishArgs := ⟨"", "", "", 0, ttl, limit, 0, false⟩

theorem list_expires_with_channel_once :
    ∃ db, run Call.apply [.subscriberRegister 1000 none 3600000 0 none,
      .publish 2000 2 (fun _ => 0) (emptyMessage 7200 5)] .empty = some db ∧ Covered 3000 db := by
  have good : Run.Along Call.apply (fun call db => call.Legal ∧ call.Covers db)
      [.subscriberRegister 1000 none 3600000 0 none,
        .publish 2000 2 (fun _ => 0) (emptyMessage 7200 5)] .empty := by
    refine ⟨⟨⟨by decide, by decide⟩, trivial⟩, fun db applied => ?_⟩
    cases applied
    exact ⟨⟨trivial, .inr (.inr (by decide))⟩, fun _ _ => trivial⟩
  exact ⟨_, rfl, list_expires_with_channel good rfl 3000⟩

/-- The channel lives for another hour when a message of ten seconds makes its list. -/
theorem list_left_behind :
    ∃ db, run Call.apply [.subscriberRegister 1000 none 3600000 0 none,
      .publish 2000 2 (fun _ => 0) (emptyMessage 10 5)] .empty = some db ∧ ¬ Covered 2000 db := by
  refine ⟨_, rfl, fun covered => ?_⟩
  have channelExpires := covered fun channel seen => by
    cases seen
    rfl
  exact absurd (channelExpires _ rfl) (by decide)

end Nchan.Redis
