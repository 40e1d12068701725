import Nchan.Redis.ListExpiry

/-! # Counting subscribers

The subscribers of a channel are counted in a field of its hash.  Other scripts delete the hash, it
may expire, and it may be made again, all between a registration and its end.  Then the end of a
registration that nobody counts any more is counted against the new channel.
-/

namespace Nchan.Redis

open Nchan.Lib Publish Option Db Run

def Db.subscriberCount (now : Int) (db : Db) : Int :=
  ((db.channel.get now).bind (·.subscribers)).getD 0

/-! ## What each script counts -/

def Call.now : Call → Int
  | .publish now .. => now
  | .getMessage now .. => now
  | .subscriberRegister now .. => now
  | .subscriberUnregister now .. => now
  | .channelKeepalive now .. => now
  | .delete now .. => now

def Call.counts : Call → Int
  | .subscriberRegister _ none .. => 1
  | .subscriberUnregister .. => -1
  | _ => 0

section

variable {now : Int} {db db' : Db} {hash : ChannelHash}

theorem subscriberCount_of_get (seen : db.channel.get now = some hash) :
    db.subscriberCount now = hash.subscribers.getD 0 := by
  rw [subscriberCount, seen, bind_some]

theorem subscriberCount_of_gone (gone : db.channel.get now = none) : db.subscriberCount now = 0 := by
  rw [subscriberCount, gone]
  rfl

theorem getD_subscribers (db : Db) (now : Int) :
    ((db.channel.get now).getD .empty).subscribers.getD 0 = db.subscriberCount now := by
  cases seen : db.channel.get now with
  | none => rw [subscriberCount_of_gone seen]; rfl
  | some hash => rw [subscriberCount_of_get seen]; rfl

def OnlyTtl (now : Int) (db db' : Db) : Prop :=
  ∀ hash, db'.channel.get now = some hash → db.channel.get now = some hash

theorem onlyTtl_setkeyttlMsec (ttl : Int) : OnlyTtl now db (setkeyttlMsec now ttl db) := by
  intro hash seen
  unfold setkeyttlMsec at seen
  split at seen
  · exact Slot.get_of_pexpire seen
  · exact Slot.get_of_persist seen

theorem onlyTtl_setkeyttlSec (ttl : Int) : OnlyTtl now db (setkeyttlSec now ttl db) := by
  intro hash seen
  unfold setkeyttlSec at seen
  split at seen
  · exact Slot.get_of_pexpire seen
  · split at seen
    · exact Slot.get_of_persist seen
    · cases seen

theorem onlyTtl_refreshTtl (activeTtl margin : Int) :
    OnlyTtl now db (refreshTtl now activeTtl margin db).2 := by
  intro hash seen
  unfold refreshTtl at seen
  dsimp only at seen
  split at seen
  · exact onlyTtl_setkeyttlMsec _ hash seen
  · exact seen

theorem onlyTtl_channelKeepalive (ttl margin : Int) :
    OnlyTtl now db (channelKeepalive now ttl margin db).2 := by
  intro hash seen
  unfold channelKeepalive at seen
  dsimp only at seen
  split at seen
  · exact seen
  · split at seen
    · exact seen
    · exact Slot.get_of_pexpire seen

theorem subscribers_publish {time : Int} {numsub : String → Int} {args : PublishArgs}
    (applied : (Call.publish now time numsub args).apply db = some db')
    (seen : db'.channel.get now = some hash) :
    hash.subscribers.getD 0 = db.subscriberCount now := by
  rcases Call.apply_publish applied with rfl | ⟨channel, -⟩
  · rw [subscriberCount_of_get seen]
  · rw [channel, result, setExpirations_channel, write_channel] at seen
    -- whether or not its time to live is set, the hash is the one that was written
    have was : (updateChannel now (newMessage now time args db) args.maxMsgBufSize
        db).channel.get now = some hash := by
      split at seen
      · exact Slot.get_of_pexpire seen
      · exact seen
    rw [updateChannel, Slot.get_write] at was
    rw [← some.inj was]
    exact getD_subscribers db now

theorem subscribers_getMessage {time tag : Int} {order : NoMsgidOrder} {createChannelTtl : Int}
    (seen : (getMessage now time tag order createChannelTtl db).2.channel.get now = some hash) :
    hash.subscribers.getD 0 = db.subscriberCount now := by
  unfold getMessage at seen
  split at seen
  case h_1 gone =>
    split at seen
    · rw [subscriberCount_of_get seen]
    · -- a channel that has just been made has no subscribers
      have made := Slot.get_of_pexpire seen
      rw [Slot.get_write] at made
      rw [subscriberCount_of_gone gone, ← some.inj made]
      rfl
  case h_2 =>
    have unchanged : db.channel.get now = some hash := by
      split at seen
      · split at seen
        · exact seen
        · split at seen
          case h_1 oldest =>
            rw [← show (db.oldestmsg now).2 = _ from congrArg Prod.snd oldest] at seen
            exact seen
          case h_2 oldest =>
            rw [← show (db.oldestmsg now).2 = _ from congrArg Prod.snd oldest] at seen
            exact seen
      · split at seen
        · exact seen
        · split at seen <;> exact seen
    rw [subscriberCount_of_get unchanged]

theorem subscribers_subscriberRegister {subscriber : Option Int} {activeTtl margin : Int}
    {time : Option Int}
    (seen : (subscriberRegister now subscriber activeTtl margin time db).2.channel.get now =
      some hash) :
    hash.subscribers.getD 0 = db.subscriberCount now + if subscriber = none then 1 else 0 := by
  have fields : ∀ subscriber, (registerFields subscriber time
      ((db.channel.get now).getD .empty)).subscribers.getD 0 =
        db.subscriberCount now + if subscriber = none then 1 else 0 := by
    intro subscriber
    rw [← getD_subscribers]
    unfold registerFields
    split <;> split <;> simp
  have before := onlyTtl_refreshTtl activeTtl margin hash seen
  split at before
  case isTrue =>
    rw [Slot.get_write] at before
    rw [← some.inj before]
    exact fields subscriber
  case isFalse known =>
    have not_ : subscriber ≠ none := fun is => known (.inl is)
    rw [if_neg not_, subscriberCount_of_get before, add_zero]

theorem subscribers_subscriberUnregister {emptyTtl : Int}
    (seen : (subscriberUnregister now emptyTtl db).2.channel.get now = some hash) :
    hash.subscribers.getD 0 = db.subscriberCount now - 1 := by
  unfold subscriberUnregister at seen
  split at seen
  case h_1 gone =>
    rw [gone] at seen
    cases seen
  case h_2 channel there =>
    have written : (db.channel.write now { channel with
        subscribers := some (channel.subscribers.getD 0 - 1) }).get now = some hash := by
      dsimp only at seen
      split at seen
      · exact onlyTtl_setkeyttlSec _ hash seen
      · exact seen
    rw [Slot.get_write] at written
    rw [subscriberCount_of_get there, ← some.inj written]
    rfl

theorem subscriberCount_apply {call : Call} (applied : call.apply db = some db')
    (seen : db'.channel.get call.now = some hash) :
    hash.subscribers.getD 0 = db.subscriberCount call.now + call.counts := by
  cases call with
  | publish now time numsub args => exact (subscribers_publish applied seen).trans (add_zero _).symm
  | getMessage now time tag order createChannelTtl =>
    cases applied
    exact (subscribers_getMessage seen).trans (add_zero _).symm
  | subscriberRegister now subscriber activeTtl margin time =>
    cases applied
    rw [subscribers_subscriberRegister seen]
    cases subscriber <;> rfl
  | subscriberUnregister now emptyTtl =>
    cases applied
    exact subscribers_subscriberUnregister seen
  | channelKeepalive now ttl margin =>
    cases applied
    rw [← subscriberCount_of_get (onlyTtl_channelKeepalive ttl margin hash seen)]
    exact (add_zero _).symm
  | delete now numsub accurate =>
    cases applied
    cases seen

end

/-! ## Registrations -/

/-- What may be asked of the scripts.  A registration that ends is named. -/
inductive Action where
  | register (now activeTtl margin : Int) (time : Option Int)
  | unregister (now emptyTtl : Int) (registration : Nat)
  | keepalive (now ttl margin : Int)
  | publish (now time : Int) (numsub : String → Int) (args : PublishArgs)
  | getMessage (now time tag : Int) (order : NoMsgidOrder) (createChannelTtl : Int)
  | delete (now : Int) (numsub : String → Int) (useAccurateSubscriberCount : Bool)

def Action.call : Action → Call
  | .register now activeTtl margin time => .subscriberRegister now none activeTtl margin time
  | .unregister now emptyTtl _ => .subscriberUnregister now emptyTtl
  | .keepalive now ttl margin => .channelKeepalive now ttl margin
  | .publish now time numsub args => .publish now time numsub args
  | .getMessage now time tag order createChannelTtl => .getMessage now time tag order createChannelTtl
  | .delete now numsub accurate => .delete now numsub accurate

/-- The keys, and the registrations that have not ended: all of them, and those that were made on
    the channel as it is now. -/
structure Registrations where
  db : Db
  clock : Int
  made : Nat
  registered : List Nat
  current : List Nat

def Registrations.start : Registrations := ⟨.empty, 0, 0, [], []⟩

def Action.ends : Action → Option Nat
  | .unregister _ _ registration => some registration
  | _ => none

/-- Some registrations after an action, of which the next is number `made`. -/
def Action.updates (made : Nat) (registrations : List Nat) : Action → List Nat
  | .register .. => made :: registrations
  | .unregister _ _ registration => registrations.erase registration
  | _ => registrations

/-- Nothing is registered on a channel that is not there. -/
def Db.onChannel (now : Int) (registrations : List Nat) (db : Db) : List Nat :=
  if (db.channel.get now).isSome then registrations else []

/-- Time does not go back, and every registration ends once. -/
def Action.apply (action : Action) (s : Registrations) : Option Registrations :=
  let now := action.call.now
  if s.clock ≤ now ∧ action.ends.all (· ∈ s.registered) then
    (action.call.apply s.db).map fun db => {
      db := db
      clock := now
      made := s.made + 1
      registered := action.updates s.made s.registered
      current := db.onChannel now (action.updates s.made (s.db.onChannel now s.current)) }
  else none

/-- If there is a channel, a registration that ends was made on it. -/
def Action.OnCurrent (action : Action) (s : Registrations) : Prop :=
  (s.db.channel.get action.call.now).isSome → ∀ r ∈ action.ends, r ∈ s.current

/-- The channel counts the registrations that were made on it. -/
def Registrations.Counted (s : Registrations) : Prop :=
  ∀ hash, s.db.channel.get s.clock = some hash → hash.subscribers.getD 0 = s.current.length

theorem Registrations.Counted.later {s : Registrations} (counted : s.Counted) {now : Int}
    (later : s.clock ≤ now) :
    s.db.subscriberCount now = (s.db.onChannel now s.current).length := by
  cases seen : s.db.channel.get now with
  | none => simp [subscriberCount_of_gone seen, onChannel, seen]
  | some hash =>
    rw [subscriberCount_of_get seen, counted hash (Slot.get_of_le later seen)]
    simp [onChannel, seen]

theorem length_updates {action : Action} {made : Nat} {registrations : List Nat}
    (on : ∀ r ∈ action.ends, r ∈ registrations) :
    ((action.updates made registrations).length : Int) =
      registrations.length + action.call.counts := by
  cases action with
  | register now activeTtl margin time => simp [Action.updates, Action.call, Call.counts]
  | unregister now emptyTtl registration =>
    have has := on registration rfl
    have positive := List.length_pos_of_mem has
    rw [Action.updates, List.length_erase_of_mem has, Action.call, Call.counts]
    omega
  | keepalive now ttl margin => exact (add_zero _).symm
  | publish now time numsub args => exact (add_zero _).symm
  | getMessage now time tag order createChannelTtl => exact (add_zero _).symm
  | delete now numsub accurate => exact (add_zero _).symm

theorem unregister_gone {action : Action} {db db' : Db} {registration : Nat}
    (ends : action.ends = some registration) (gone : db.channel.get action.call.now = none)
    (applied : action.call.apply db = some db') : db' = db := by
  cases action with
  | unregister now emptyTtl r =>
    cases applied
    unfold subscriberUnregister
    split
    · rfl
    case h_2 channel seen =>
      rw [show (Action.unregister now emptyTtl r).call.now = now from rfl, seen] at gone
      cases gone
  | _ => cases ends

theorem step_counted {action : Action} {s s' : Registrations} (counted : s.Counted)
    (good : action.OnCurrent s) (stepped : action.apply s = some s') : s'.Counted := by
  obtain ⟨⟨later, -⟩, applied⟩ := ite_none_right_eq_some.mp stepped
  obtain ⟨db, called, rfl⟩ := map_eq_some_iff.mp applied
  intro hash seen
  have on : ∀ r ∈ action.ends, r ∈ s.db.onChannel action.call.now s.current := by
    intro r ends
    cases before : s.db.channel.get action.call.now with
    | none =>
      rw [unregister_gone ends before called, before] at seen
      cases seen
    | some old =>
      have is := good (by simp [before]) r ends
      simpa [onChannel, before] using is
  rw [subscriberCount_apply called seen, counted.later later]
  simp only [onChannel, seen, isSome_some, if_true]
  exact (length_updates on).symm

theorem channelKeepalive_ne {now ttl margin : Int} {db : Db} (positive : 0 < ttl)
    (counted : 0 < db.subscriberCount now) : (channelKeepalive now ttl margin db).1 ≠ -1 := by
  have some_ : ¬ db.subscriberCount now ≤ 0 := by omega
  unfold subscriberCount at some_
  unfold channelKeepalive
  rw [if_neg some_]
  split
  case isTrue long =>
    unfold remainingKeepalive
    split
    · omega
    · omega
  case isFalse =>
    omega

/-- In every run in which registrations end without a channel or on the one that they were made on,
    the channel counts them, and a keepalive is not refused while there are some. -/
theorem registrations_counted {actions : List Action} {s : Registrations}
    (good : Run.Along Action.apply Action.OnCurrent actions .start)
    (reaches : run Action.apply actions .start = some s) {now : Int} (later : s.clock ≤ now)
    {hash : ChannelHash} (there : s.db.channel.get now = some hash) :
    hash.subscribers.getD 0 = s.current.length ∧
      (s.current ≠ [] → ∀ ttl margin, 0 < ttl → (channelKeepalive now ttl margin s.db).1 ≠ -1) := by
  have initial : Registrations.start.Counted := fun hash seen => by cases seen
  have counted := run_invariant (fun _ _ _ inv good stepped => step_counted inv good stepped)
    initial good reaches
  have count := counted hash (Slot.get_of_le later there)
  refine ⟨count, fun some_ ttl margin positive => channelKeepalive_ne positive ?_⟩
  rw [subscriberCount_of_get there, count]
  exact_mod_cast List.length_pos_iff.mpr some_

/-- Two subscribers, one of which leaves. -/
theorem registrations_counted_two :
    ∃ s, run Action.apply [.register 1000 60000 5000 none, .register 2000 60000 5000 none,
        .unregister 3000 20 0] .start = some s ∧
      (channelKeepalive 4000 60000 5000 s.db).1 ≠ -1 := by
  have good : Run.Along Action.apply Action.OnCurrent [.register 1000 60000 5000 none,
      .register 2000 60000 5000 none, .unregister 3000 20 0] .start := by
    refine ⟨fun _ r ends => (by cases ends), fun s stepped => ?_⟩
    cases stepped
    refine ⟨fun _ r ends => (by cases ends), fun s stepped => ?_⟩
    cases stepped
    refine ⟨fun _ r ends => ?_, fun _ _ => trivial⟩
    cases ends
    decide
  have later : (3000 : Int) ≤ 4000 := by decide
  refine ⟨_, rfl, ?_⟩
  exact (registrations_counted good rfl later rfl).2 (by decide) 60000 5000 (by decide)

/-- The channel is deleted under a subscriber.  When it leaves, it takes one off the count of a
    channel that was made for a reader, or of one that another subscriber is counted on. -/
theorem registrations_miscounted :
    (∃ s hash, run Action.apply [.register 1000 60000 5000 none, .delete 2000 (fun _ => 0) false,
        .getMessage 3000 0 0 .filo 60, .unregister 4000 20 0] .start = some s ∧
      s.db.channel.get 4000 = some hash ∧ hash.subscribers = some (-1)) ∧
    ∃ s, run Action.apply [.register 1000 60000 5000 none, .delete 2000 (fun _ => 0) false,
        .register 3000 60000 5000 none, .unregister 4000 20 0] .start = some s ∧
      s.current = [2] ∧ (channelKeepalive 5000 60000 5000 s.db).1 = -1 :=
  ⟨⟨_, _, rfl, rfl, rfl⟩, ⟨_, rfl, rfl, rfl⟩⟩

end Nchan.Redis
