import Nchan.Redis.SubscriberCount

/-! # Keeping a channel alive

A worker with subscribers on a channel is told when it should renew the channel's time to live.
`channel_keepalive.lua` sets that time from its own arguments when the channel has no messages,
also if the channel would have lived longer.  Then another worker that was told to come back later
may find that the channel is gone.
-/

namespace Nchan.Redis

open Nchan.Lib List Option Publish Run

/-- The keys, and for each registered worker the time at which its next keepalive is due. -/
structure Workers where
  db : Db
  clock : Int
  pending : List (Nat × Int)

def Workers.start : Workers := ⟨.empty, 0, []⟩

inductive Act where
  | register (now : Int) (worker : Nat) (activeTtl margin : Int) (time : Option Int)
  | keepalive (now : Int) (worker : Nat) (ttl margin : Int)
  | unregister (now : Int) (worker : Nat) (emptyTtl : Int)
  | publish (now time : Int) (numsub : String → Int) (args : PublishArgs)

def Act.call : Act → Call
  | .register now _ activeTtl margin time => .subscriberRegister now none activeTtl margin time
  | .keepalive now _ ttl margin => .channelKeepalive now ttl margin
  | .unregister now _ emptyTtl => .subscriberUnregister now emptyTtl
  | .publish now time numsub args => .publish now time numsub args

/-- Times to live and margins are positive, and only registered workers keep alive or leave. -/
def Act.Legal (s : Workers) : Act → Prop
  | .register _ worker activeTtl margin _ =>
    0 < activeTtl ∧ 0 < margin ∧ worker ∉ s.pending.map (·.1)
  | .keepalive _ worker ttl margin => 0 < ttl ∧ 0 < margin ∧ worker ∈ s.pending.map (·.1)
  | .unregister _ worker _ => worker ∈ s.pending.map (·.1)
  | .publish .. => True

instance (s : Workers) : (act : Act) → Decidable (act.Legal s)
  | .register .. => inferInstanceAs (Decidable (_ ∧ _ ∧ _))
  | .keepalive .. => inferInstanceAs (Decidable (_ ∧ _ ∧ _))
  | .unregister .. => inferInstanceAs (Decidable (_ ∈ _))
  | .publish .. => .isTrue trivial

def leave (worker : Nat) (pending : List (Nat × Int)) : List (Nat × Int) :=
  pending.eraseP (·.1 = worker)

/-- Who is registered afterwards, with the interval that the script answered. -/
def Act.pending (s : Workers) : Act → List (Nat × Int)
  | .register now worker activeTtl margin time =>
    (worker, now + (subscriberRegister now none activeTtl margin time s.db).1.nextKeepalive) ::
      s.pending
  | .keepalive now worker ttl margin =>
    (worker, now + (channelKeepalive now ttl margin s.db).1) :: leave worker s.pending
  | .unregister _ worker _ => leave worker s.pending
  | .publish .. => s.pending

/-- No worker is late: time goes on until a keepalive is due, but not further. -/
def Workers.OnTime (now : Int) (s : Workers) : Prop := s.clock ≤ now ∧ ∀ p ∈ s.pending, now ≤ p.2

instance (now : Int) (s : Workers) : Decidable (s.OnTime now) := inferInstanceAs (Decidable (_ ∧ _))

def Act.apply (act : Act) (s : Workers) : Option Workers :=
  if s.OnTime act.call.now ∧ act.Legal s then
    (act.call.apply s.db).map fun db => ⟨db, act.call.now, act.pending s⟩
  else none

/-- A keepalive on a channel without messages gives it a time to live beyond what the other workers
    were told. -/
def Act.Covers (s : Workers) : Act → Prop
  | .keepalive now worker ttl margin =>
    s.db.ids now = [] → ∀ p ∈ s.pending, p.1 ≠ worker → p.2 < now + (ttl + margin)
  | _ => True

/-! ## How long the channel lives -/

/-- The channel is there, and expires after `due`. -/
def Db.LivesBeyond (now due : Int) (db : Db) : Prop :=
  ∃ e t, db.channel.look now = some e ∧ e.expiry = some t ∧ due < t

section

variable {now due : Int} {db db' : Db}

variable (lives : db.LivesBeyond now due)

include lives

theorem Db.LivesBeyond.visible :
    ∃ hash, db.channel.get now = some hash := by
  obtain ⟨e, -, seen, -⟩ := lives
  exact ⟨e.value, Slot.get_eq_some.mpr ⟨e, seen, rfl⟩⟩

theorem Db.LivesBeyond.later {now' : Int} (before : now' ≤ due) :
    db.LivesBeyond now' due := by
  obtain ⟨e, t, seen, expires, beyond⟩ := lives
  refine ⟨e, t, Slot.look_eq_some.mpr ⟨(Slot.look_eq_some.mp seen).1, ?_⟩, expires, beyond⟩
  intro t' on
  rw [expires] at on
  cases on
  omega

variable {hash : ChannelHash}

omit lives in
theorem livesBeyond_pexpire {ms : Int} (there : db.channel.get now = some hash)
    (is : db'.channel = db.channel.pexpire now ms) (positive : 0 < ms) (beyond : due < now + ms) :
    db'.LivesBeyond now due := by
  obtain ⟨e, seen, -⟩ := Slot.get_eq_some.mp there
  have long : ¬ ms ≤ 0 := by omega
  refine ⟨{ e with expiry := some (now + ms) }, now + ms, ?_, rfl, beyond⟩
  rw [is, Slot.pexpire, seen, bind_some, if_neg long, Slot.look_eq_some]
  refine ⟨rfl, fun t on => ?_⟩
  cases on
  omega

theorem livesBeyond_write (is : db'.channel = db.channel.write now hash) :
    db'.LivesBeyond now due := by
  obtain ⟨e, t, seen, expires, beyond⟩ := lives
  refine ⟨{ e with value := hash }, t, ?_, expires, beyond⟩
  rw [is, Slot.look_write, Slot.write_of_some _ seen]

/-- A publish does not let a channel that is there expire earlier.  What is left of its time to live
    is rounded, but by less than the second that is added. -/
theorem livesBeyond_publish {time : Int} {numsub : String → Int} {args : PublishArgs}
    (applied : (Call.publish now time numsub args).apply db = some db') : db'.LivesBeyond now due := by
  rcases Call.apply_publish applied with rfl | ⟨channel, -⟩
  · exact lives
  · rw [result, setExpirations_channel, write_channel,
      updateChannel, ttl_writeChannel] at channel
    split at channel
    case isTrue extended =>
      obtain ⟨e, t, seen, expires, beyond⟩ := lives
      have alive := (Slot.look_eq_some.mp seen).2 t expires
      rw [channelTtl, if_neg (by simp [seen]), Slot.ttl_some seen, expires,
        elim_some] at extended
      have positive : 0 < ttl args + 1 := by omega
      rw [Slot.expire_write_of_pos _ positive] at channel
      refine ⟨_, _, Slot.look_eq_some.mpr ⟨channel, fun t' on => ?_⟩, rfl, by omega⟩
      cases on
      omega
    case isFalse => exact livesBeyond_write lives channel

variable {margin : Int}

omit lives in
/-- When the time to live is refreshed, the next time is promised, and no promise is broken. -/
theorem livesBeyond_refreshTtl {activeTtl : Int} (positive : 0 < activeTtl) (some_ : 0 < margin)
    (there : db.channel.get now = some hash) :
    (refreshTtl now activeTtl margin db).2.LivesBeyond now
        (now + (refreshTtl now activeTtl margin db).1) ∧
      ∀ due, db.LivesBeyond now due → (refreshTtl now activeTtl margin db).2.LivesBeyond now due := by
  obtain ⟨e, seen, -⟩ := Slot.get_eq_some.mp there
  have safe : activeTtl + margin > 0 := by omega
  have left := Slot.pttl_some seen
  unfold refreshTtl
  dsimp only
  split
  case isTrue short =>
    have channel : (setkeyttlMsec now (activeTtl + margin) db).channel =
        db.channel.pexpire now (activeTtl + margin) := by
      rw [setkeyttlMsec, if_pos safe]
    refine ⟨livesBeyond_pexpire there channel safe (by dsimp only; omega), fun due lives => ?_⟩
    refine livesBeyond_pexpire there channel safe ?_
    obtain ⟨e', t, seen', expires, beyond⟩ := lives
    rw [Slot.pttl_some seen', expires, elim_some] at short
    omega
  case isFalse long =>
    refine ⟨?_, fun due lives => lives⟩
    -- the channel has a time to live, and more of it than the margin
    cases expires : e.expiry with
    | none =>
      rw [left, expires, elim_none] at long
      omega
    | some t =>
      rw [left, expires, elim_some] at long ⊢
      have more : t - now - margin > 0 := by omega
      refine ⟨e, t, seen, expires, ?_⟩
      rw [remainingKeepalive, if_pos more]
      omega

omit lives in
theorem livesBeyond_subscriberRegister {activeTtl : Int} {time : Option Int}
    (positive : 0 < activeTtl) (some_ : 0 < margin) :
    (subscriberRegister now none activeTtl margin time db).2.LivesBeyond now
        (now + (subscriberRegister now none activeTtl margin time db).1.nextKeepalive) ∧
      ∀ due, db.LivesBeyond now due →
        (subscriberRegister now none activeTtl margin time db).2.LivesBeyond now due := by
  let fields := registerFields none time ((db.channel.get now).getD .empty)
  let written : Db := { db with channel := db.channel.write now fields }
  have there : written.channel.get now = some fields := Slot.get_write _
  obtain ⟨next, keeps⟩ := livesBeyond_refreshTtl positive some_ there
  exact ⟨next, fun due lives => keeps due (livesBeyond_write lives rfl)⟩

/-- A keepalive of a channel that counts subscribers promises the next time.  What others were
    promised is kept if there are messages, or if they were promised less. -/
theorem livesBeyond_channelKeepalive {ttl : Int} (positive : 0 < ttl) (some_ : 0 < margin)
    (counted : 0 < db.subscriberCount now) :
    (channelKeepalive now ttl margin db).2.LivesBeyond now
        (now + (channelKeepalive now ttl margin db).1) ∧
      ∀ due, db.LivesBeyond now due → (db.ids now = [] → due < now + (ttl + margin)) →
        (channelKeepalive now ttl margin db).2.LivesBeyond now due := by
  obtain ⟨hash, there⟩ := lives.visible
  obtain ⟨e, t, seen, expires, -⟩ := lives
  have left : db.channel.pttl now = t - now := by
    rw [Slot.pttl_some seen, expires, elim_some]
  have subscribed : ¬ db.subscriberCount now ≤ 0 := by omega
  unfold Db.subscriberCount at subscribed
  unfold channelKeepalive
  rw [if_neg subscribed, left]
  split
  case isTrue enough =>
    refine ⟨⟨e, t, seen, expires, ?_⟩, fun due lives _ => lives⟩
    have more : t - now - margin > 0 := by omega
    rw [remainingKeepalive, if_pos more]
    omega
  case isFalse refresh =>
    have safe : 0 < ttl + margin := by omega
    refine ⟨livesBeyond_pexpire there rfl safe (by dsimp only; omega), fun due lives covers => ?_⟩
    refine livesBeyond_pexpire there rfl safe ?_
    by_cases empty : db.ids now = []
    · exact covers empty
    · have messages := length_pos_iff.mpr empty
      obtain ⟨e', t', seen', expires', beyond⟩ := lives
      cases seen.symm.trans seen'
      cases expires.symm.trans expires'
      omega

theorem livesBeyond_subscriberUnregister {emptyTtl : Int} (others : db.subscriberCount now ≠ 1) :
    (subscriberUnregister now emptyTtl db).2.LivesBeyond now due := by
  obtain ⟨hash, there⟩ := lives.visible
  rw [subscriberCount_of_get there] at others
  have stays : ¬ (hash.subscribers.getD 0 - 1 = 0 ∧ db.ids now = []) := by omega
  unfold subscriberUnregister
  rw [there]
  dsimp only
  split
  case isTrue last => exact absurd last stays
  case isFalse => exact livesBeyond_write lives rfl

end

/-! ## Promises -/

/-- The channel counts the registered workers, and lives beyond what each of them was told. -/
structure Promised (s : Workers) : Prop where
  distinct : (s.pending.map (·.1)).Nodup
  counted : ∀ hash, s.db.channel.get s.clock = some hash → hash.subscribers.getD 0 = s.pending.length
  kept : ∀ p ∈ s.pending, s.db.LivesBeyond s.clock p.2

variable {s : Workers}

theorem Promised.count (promised : Promised s) {now : Int} (onTime : s.OnTime now)
    (some_ : s.pending ≠ []) : s.db.subscriberCount now = s.pending.length := by
  obtain ⟨p, on⟩ := exists_mem_of_ne_nil _ some_
  obtain ⟨hash, there⟩ := ((promised.kept p on).later (onTime.2 p on)).visible
  rw [subscriberCount_of_get there, promised.counted hash (Slot.get_of_le onTime.1 there)]

variable {worker : Nat}

theorem mem_leave {pending : List (Nat × Int)} (distinct : (pending.map (·.1)).Nodup)
    {p : Nat × Int} (on : p ∈ leave worker pending) : p ∈ pending ∧ p.1 ≠ worker := by
  induction pending with
  | nil => cases on
  | cons q pending ih =>
    rw [map_cons, nodup_cons] at distinct
    by_cases is : q.1 = worker
    · rw [leave, eraseP_cons_of_pos (by simpa using is)] at on
      refine ⟨mem_cons_of_mem _ on, fun same => distinct.1 ?_⟩
      rw [is, ← same]
      exact mem_map_of_mem on
    · rw [leave, eraseP_cons_of_neg (by simpa using is), mem_cons] at on
      cases on with
      | inl here => exact ⟨here ▸ mem_cons_self, here ▸ is⟩
      | inr there =>
        obtain ⟨was, other⟩ := ih distinct.2 there
        exact ⟨mem_cons_of_mem _ was, other⟩

theorem leave_length {pending : List (Nat × Int)} (on : worker ∈ pending.map (·.1)) :
    (leave worker pending).length + 1 = pending.length := by
  obtain ⟨p, is, same⟩ := mem_map.mp on
  have positive := length_pos_of_mem is
  rw [leave, length_eraseP_of_mem is (by simpa using same)]
  omega

theorem leave_distinct {pending : List (Nat × Int)} (distinct : (pending.map (·.1)).Nodup) :
    ((leave worker pending).map (·.1)).Nodup :=
  distinct.sublist (eraseP_sublist.map _)

variable {act : Act}

theorem pending_length (legal : act.Legal s) :
    ((act.pending s).length : Int) = s.pending.length + act.call.counts := by
  cases act with
  | register now worker activeTtl margin time => simp [Act.pending, Act.call, Call.counts]
  | keepalive now worker ttl margin =>
    have left := leave_length legal.2.2
    rw [Act.pending, length_cons, left]
    exact (add_zero _).symm
  | unregister now worker emptyTtl =>
    have left := leave_length legal
    rw [Act.pending, Act.call, Call.counts]
    omega
  | publish now time numsub args => exact (add_zero _).symm

theorem pending_distinct (legal : act.Legal s) (distinct : (s.pending.map (·.1)).Nodup) :
    ((act.pending s).map (·.1)).Nodup := by
  cases act with
  | register now worker activeTtl margin time => exact nodup_cons.mpr ⟨legal.2.2, distinct⟩
  | keepalive now worker ttl margin =>
    refine nodup_cons.mpr ⟨fun on => ?_, leave_distinct distinct⟩
    obtain ⟨p, is, same⟩ := mem_map.mp on
    exact (mem_leave distinct is).2 same
  | unregister now worker emptyTtl => exact leave_distinct distinct
  | publish now time numsub args => exact distinct

theorem pending_kept {db : Db} (promised : Promised s) (onTime : s.OnTime act.call.now)
    (legal : act.Legal s) (covers : act.Covers s) (applied : act.call.apply s.db = some db) :
    ∀ p ∈ act.pending s, db.LivesBeyond act.call.now p.2 := by
  have still : ∀ p ∈ s.pending, s.db.LivesBeyond act.call.now p.2 := fun p on =>
    (promised.kept p on).later (onTime.2 p on)
  cases act with
  | register now worker activeTtl margin time =>
    cases applied
    obtain ⟨next, keeps⟩ := livesBeyond_subscriberRegister legal.1 legal.2.1
    intro p on
    cases mem_cons.mp on with
    | inl new => exact new ▸ next
    | inr old => exact keeps p.2 (still p old)
  | keepalive now worker ttl margin =>
    cases applied
    obtain ⟨own, ownOn, -⟩ := mem_map.mp legal.2.2
    have some_ : s.pending ≠ [] := ne_nil_of_mem ownOn
    have count : s.db.subscriberCount now = s.pending.length := promised.count onTime some_
    have counted : 0 < s.db.subscriberCount now := by
      rw [count]
      exact_mod_cast length_pos_iff.mpr some_
    obtain ⟨next, keeps⟩ :=
      livesBeyond_channelKeepalive (still own ownOn) legal.1 legal.2.1 counted
    intro p on
    cases mem_cons.mp on with
    | inl new => exact new ▸ next
    | inr old =>
      obtain ⟨was, other⟩ := mem_leave promised.distinct old
      exact keeps p.2 (still p was) fun empty => covers empty p was other
  | unregister now worker emptyTtl =>
    cases applied
    intro p on
    -- as somebody is left, this is not the last one
    obtain ⟨was, -⟩ := mem_leave promised.distinct on
    have left := leave_length legal
    have more := length_pos_of_mem on
    have count : s.db.subscriberCount now = s.pending.length :=
      promised.count onTime (ne_nil_of_mem was)
    change 0 < (leave worker s.pending).length at more
    have notLast : s.db.subscriberCount now ≠ 1 := by omega
    exact livesBeyond_subscriberUnregister (still p was) notLast
  | publish now time numsub args => exact fun p on => livesBeyond_publish (still p on) applied

theorem step_promised {s' : Workers} (promised : Promised s) (covers : act.Covers s)
    (stepped : act.apply s = some s') : Promised s' := by
  obtain ⟨⟨onTime, legal⟩, applied⟩ := ite_none_right_eq_some.mp stepped
  obtain ⟨db, called, rfl⟩ := map_eq_some_iff.mp applied
  refine ⟨pending_distinct legal promised.distinct, fun hash seen => ?_,
    pending_kept promised onTime legal covers called⟩
  have before : s.db.subscriberCount act.call.now = s.pending.length := by
    by_cases none_ : s.pending = []
    · cases there : s.db.channel.get act.call.now with
      | none => rw [subscriberCount_of_gone there, none_]; rfl
      | some old =>
        rw [subscriberCount_of_get there, promised.counted old (Slot.get_of_le onTime.1 there)]
    · exact promised.count onTime none_
  rw [subscriberCount_apply called seen, before]
  exact (pending_length legal).symm

/-- While no worker is late, and keepalives without messages cover what the others were told, a
    channel with registered workers is there, and none of their keepalives is refused. -/
theorem keepalives_keep_channel {acts : List Act} {s : Workers}
    (covers : Run.Along Act.apply (fun act s => act.Covers s) acts .start)
    (reaches : run Act.apply acts .start = some s) {now : Int} (onTime : s.OnTime now)
    (registered : s.pending ≠ []) :
    (s.db.channel.get now).isSome ∧
      ∀ ttl margin, 0 < ttl → (channelKeepalive now ttl margin s.db).1 ≠ -1 := by
  have initial : Promised Workers.start :=
    ⟨nodup_nil, fun hash seen => (by cases seen), fun p on => (by cases on)⟩
  have promised := run_invariant (fun _ _ _ inv good stepped => step_promised inv good stepped)
    initial covers reaches
  refine ⟨?_, fun ttl margin positive => channelKeepalive_ne positive ?_⟩
  · obtain ⟨p, on⟩ := exists_mem_of_ne_nil _ registered
    obtain ⟨hash, there⟩ := ((promised.kept p on).later (onTime.2 p on)).visible
    simp [there]
  · rw [promised.count onTime registered]
    exact_mod_cast length_pos_iff.mpr registered

/-- Two workers on a channel, one of which keeps it alive. -/
theorem keepalives_keep_channel_two :
    ∃ s, run Act.apply [.register 1000 0 60000 5000 none, .register 2000 1 60000 5000 none,
        .keepalive 61000 0 60000 5000] .start = some s ∧ (s.db.channel.get 62000).isSome := by
  have covers : Run.Along Act.apply (fun act s => act.Covers s) [.register 1000 0 60000 5000 none,
      .register 2000 1 60000 5000 none, .keepalive 61000 0 60000 5000] .start := by
    refine .cons trivial rfl (.cons trivial rfl ?_)
    exact ⟨fun _ => by decide, fun _ _ => trivial⟩
  exact ⟨_, rfl, (keepalives_keep_channel covers rfl (by decide) (by decide)).1⟩

/-- A worker that keeps the channel alive for ten seconds only, and leaves, takes it from another
    worker that was told to come back after a thousand seconds. -/
theorem keepalive_shortens :
    ∃ s, run Act.apply [.register 0 0 1000000 1000 none, .register 0 1 10000 1000 none,
        .keepalive 1000 1 10000 1000, .unregister 2000 1 20] .start = some s ∧
      s.OnTime 900000 ∧ s.pending ≠ [] ∧ s.db.channel.get 900000 = none ∧
      (channelKeepalive 900000 1000000 1000 s.db).1 = -1 :=
  ⟨_, rfl, by decide, by decide, rfl, rfl⟩

end Nchan.Redis
