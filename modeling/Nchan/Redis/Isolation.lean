import Nchan.Lib.Partial
import Nchan.Redis.Chanheads

/-! # Nodesets do not disturb each other

A channel belongs to the nodeset it was made for, and if it is found only for that one then whatever
comes of it does so too: its subscribers are those of locations with this nodeset, and everything
that is sent for them goes there.  Then the events of one nodeset do the same without those of the
others.  But a channel of another nodeset with the same id is found as well, both by the memstore
for its clients and by the Redis store for the memstore.
-/

namespace Nchan.Redis

open Nchan.Lib List Option Reaction Run

variable {ν σ ι μ ρ κ : Type} {w : Worker ν σ ι μ ρ} {n : ν}

def ChannelAction.remote : ChannelAction ι μ ρ → Bool
  | .client .. | .forget | .publish _ | .delete => true
  | _ => false

def Output.receiver : Output ν ι μ → Option ι
  | .delivered sub _ | .client sub _ _ => some sub
  | .sent .. => none

/-! ## Channels of one nodeset -/

/-- The channel is of this nodeset, and so are its subscribers. -/
structure Chanhead.Owned (w : Worker ν σ ι μ ρ) (n : ν) (head : Chanhead ν σ ι) : Prop where
  nodeset : head.nodeset = n
  subs : ∀ sub ∈ head.subs, w.location sub = n
  registering : ∀ sub ∈ head.registering, w.location sub = n

/-- The subscribers that a command is sent for are of this nodeset. -/
def Command.Of (w : Worker ν σ ι μ ρ) (n : ν) : Command ι → Prop
  | .register sub | .unregister sub => w.location sub = n
  | .keepalive subs => ∀ sub ∈ subs, w.location sub = n
  | _ => True

/-- What is delivered is delivered to subscribers of this nodeset, clients come to channel heads of
    it, and what is sent is sent to it. -/
def Output.Of (w : Worker ν σ ι μ ρ) (n : ν) : Output ν ι μ → Prop
  | .delivered sub _ => w.location sub = n
  | .client sub who _ => w.location sub = n ∧ w.location who = n
  | .sent command target => target = n ∧ command.Of w n

/-- What is left in the table, if anything, is of this nodeset, and so is what comes of it. -/
def Reaction.Keeps (w : Worker ν σ ι μ ρ) (n : ν) (r : Reaction ν σ ι μ) : Prop :=
  Gives r fun (left, out) => (∀ head, left = some head → head.Owned w n) ∧ ∀ o ∈ out, o.Of w n

variable {head : Chanhead ν σ ι} {ready : Bool} {found : Option (Chanhead ν σ ι)}

theorem forall_some (owned : head.Owned w n) : ∀ h, some head = some h → h.Owned w n :=
  fun _ is => some.inj is ▸ owned

theorem Reaction.keeps_some {out : List (Output ν ι μ)} (owned : head.Owned w n)
    (all : ∀ o ∈ out, o.Of w n) : Reaction.Keeps w n (some (some head, out)) :=
  .of_some ⟨forall_some owned, all⟩

theorem Reaction.keeps_quiet (owned : head.Owned w n) :
    Reaction.Keeps (μ := μ) w n (some (some head, [])) :=
  keeps_some owned (forall_mem_nil _)

theorem Reaction.keeps_found (owned : ∀ head, found = some head → head.Owned w n) :
    Reaction.Keeps (μ := μ) w n (some (found, [])) :=
  .of_some ⟨owned, forall_mem_nil _⟩

theorem Reaction.Keeps.andThen {r : Reaction ν σ ι μ} {f : Chanhead ν σ ι → Reaction ν σ ι μ}
    (first : r.Keeps w n) (second : ∀ head, head.Owned w n → (f head).Keeps w n) :
    (r.andThen f).Keeps w n := by
  refine first.seq fun (left, early) ⟨owned, all⟩ => ?_
  cases left with
  | none => exact .of_some ⟨owned, all⟩
  | some head =>
    refine .map fun (left, late) done => ?_
    obtain ⟨owned', all'⟩ := second head (owned head rfl) _ done
    exact ⟨owned', forall_mem_append.mpr ⟨all, all'⟩⟩

theorem sent_of {command : Command ι} (own : command.Of w n) (p : Prop) [Decidable p] :
    ∀ o ∈ (if p then [Output.sent command n] else [] : List (Output ν ι μ)), o.Of w n := by
  split
  · exact forall_mem_singleton.mpr ⟨rfl, own⟩
  · exact forall_mem_nil _

theorem passed_of {command : Command ι} {item : Item μ} {front : Option ι} (own : command.Of w n)
    (clear : w.mode n = .backup → ∀ sub ∈ front, w.location sub = n) :
    ∀ o ∈ (if ready then [Output.sent command n] else []) ++
      (if w.mode n = .backup then front.toList.map (.delivered · item) else []), o.Of w n := by
  refine forall_mem_append.mpr ⟨sent_of own _, ?_⟩
  split
  · rename_i backup
    exact forall_mem_map.mpr fun sub on => clear backup sub (mem_toList.mp on)
  · exact forall_mem_nil _

namespace Chanhead

variable (owned : head.Owned w n)

include owned

theorem gcAdd_keeps : (head.gcAdd (μ := μ)).Keeps w n :=
  .guard fun _ => keeps_quiet { owned with }

theorem register_keeps {sub : ι} (own : w.location sub = n) :
    (head.register (μ := μ) ready sub).Keeps w n := by
  have joined {subs : List ι} (all : ∀ s ∈ subs, w.location s = n) :
      ∀ s ∈ subs ++ [sub], w.location s = n :=
    forall_mem_append.mpr ⟨all, forall_mem_singleton.mpr own⟩
  have subs := joined owned.subs
  refine .ite (fun _ => ?_) fun _ => keeps_quiet { owned with subs }
  exact keeps_some ⟨owned.nodeset, subs, joined owned.registering⟩
    (forall_mem_singleton.mpr ⟨owned.nodeset, own⟩)

theorem dequeue_keeps [DecidableEq ι] {sub : ι} (on : sub ∈ head.subs) :
    (head.dequeue (μ := μ) ready sub).Keeps w n := by
  have left : Owned w n { head with subs := head.subs.erase sub } :=
    { owned with subs := fun s on => owned.subs s (mem_of_mem_erase on) }
  have sent : (Command.unregister sub).Of w n := owned.subs sub on
  obtain rfl := owned.nodeset
  refine (keeps_some left (sent_of sent _)).andThen fun left owned => ?_
  exact .ite (fun _ => gcAdd_keeps owned) fun _ => keeps_quiet owned

variable {joining : Option ι} (own : ∀ sub, joining = some sub → w.location sub = n)

include own

theorem effect_keeps [DecidableEq ι] (e : SpoolEffect ι μ) :
    (head.effect ready joining e).Keeps w n := by
  cases e with
  | delivered sub item =>
    exact .guard fun on => keeps_some owned (forall_mem_singleton.mpr (owned.subs sub on))
  | added sub => exact .guard fun joins => register_keeps owned (own sub joins)
  | dequeued sub => exact .guard fun on => dequeue_keeps owned on
  | fetchStarted => exact keeps_quiet { owned with }
  | fetchFinished => exact .guard fun _ => keeps_quiet { owned with }

theorem effects_keeps [DecidableEq ι] (es : List (SpoolEffect ι μ)) :
    (head.effects ready joining es).Keeps w n := by
  induction es generalizing head with
  | nil => exact keeps_quiet owned
  | cons e es ih => exact (effect_keeps owned own e).andThen fun _ owned => ih owned

omit own in
theorem keepalive_keeps : (head.keepalive (μ := μ) ready).Keeps w n := by
  refine .ite (fun _ => keeps_quiet owned) fun _ => keeps_some { owned with } ?_
  exact forall_mem_singleton.mpr ⟨owned.nodeset, owned.subs⟩

end Chanhead

namespace Worker

section

variable (owned : head.Owned w n)

include owned

theorem spool_keeps [DecidableEq ι] {input : SpoolInput ι μ ρ}
    (own : ∀ sub, joining input = some sub → w.location sub = n) :
    (w.spool ready input head).Keeps w n := by
  have told : Chanhead.Owned w n { head with spooler := (w.spooling.react input head.spooler).1 } :=
    { owned with }
  exact Chanhead.effects_keeps told own _

theorem spool_give_keeps [DecidableEq ι] {item : Item μ} :
    (w.spool ready (.give item) head).Keeps w n :=
  spool_keeps owned nofun

theorem ensurePubsubSubscribed_keeps : (w.ensurePubsubSubscribed ready head).Keeps w n := by
  refine .ite (fun _ => keeps_some { owned with } ?_) fun _ => keeps_quiet owned
  exact forall_mem_singleton.mpr ⟨owned.nodeset, trivial⟩

theorem told_keeps [DecidableEq ι] {status : ChanheadStatus} {pubsub : PubsubStatus} :
    (w.spool ready .channelStatus { head with status := status, pubsub := pubsub }).Keeps w n := by
  have told : Chanhead.Owned w n { head with status := status, pubsub := pubsub } := { owned with }
  exact spool_keeps told (by nofun)

theorem setSubscribed_keeps [DecidableEq ι] : (w.setSubscribed ready head).Keeps w n :=
  .ite (fun _ => told_keeps owned) fun _ => keeps_quiet { owned with }

theorem setUnsubscribed_keeps [DecidableEq ι] : (w.setUnsubscribed ready head).Keeps w n :=
  .ite (fun _ => keeps_quiet owned) fun _ =>
    .ite (fun _ => told_keeps owned) fun _ => keeps_quiet { owned with }

end

section

variable (owned : ∀ head, found = some head → head.Owned w n)

include owned

theorem getChanhead_keeps : (w.getChanhead ready n found).Keeps w n := by
  cases found with
  | none => exact ensurePubsubSubscribed_keeps ⟨rfl, forall_mem_nil _, forall_mem_nil _⟩
  | some head =>
    have owned := owned head rfl
    refine .ite (fun _ => ?_) fun _ => keeps_quiet owned
    exact (ensurePubsubSubscribed_keeps owned).andThen fun head owned => keeps_quiet { owned with }

theorem publishGeneric_keeps [DecidableEq ι] {item : Item μ} :
    (w.publishGeneric ready n item found).Keeps w n :=
  (getChanhead_keeps owned).andThen fun _ owned =>
    .ite (fun _ => spool_give_keeps owned) fun _ => keeps_quiet owned

theorem getMsgFromMsgkey_keeps : (w.getMsgFromMsgkey ready n found).Keeps w n :=
  (getChanhead_keeps owned).andThen fun _ owned =>
    keeps_some owned (sent_of (show (Command.getMessageFromKey).Of w n from trivial) _)

/-! ## Events -/

theorem notify_keeps [DecidableEq ι] {size : Option Int} {message : Notified μ} :
    (w.notify ready n size message found).Keeps w n := by
  refine Keeps.andThen ?_ fun head owned => ?_
  · cases size with
    | none => exact keeps_found owned
    | some size => exact (getChanhead_keeps owned).andThen fun _ owned => spool_give_keeps owned
  · rw [owned.nodeset]
    cases message with
    | msg m => exact publishGeneric_keeps (forall_some owned)
    | msgkey => exact getMsgFromMsgkey_keeps (forall_some owned)

end

theorem pointed_spec [DecidableEq ν] (is : pointed n found = some head) :
    found = some head ∧ head.nodeset = n := by
  obtain ⟨is, own⟩ := filter_eq_some_iff.mp is
  exact ⟨is, by simpa using own⟩

variable [DecidableEq ι] [DecidableEq ν] {action : ChannelAction ι μ ρ} {front : Option ι}
  {left : Option (Chanhead ν σ ι)} {out : List (Output ν ι μ)}

theorem act_found (owned : ∀ head, found = some head → head.Owned w head.nodeset)
    (clear : action.looksUp = true → ∀ head, found = some head → head.nodeset = n)
    (touches : action.remote = false) (done : w.act n ready found front action = some (left, out)) :
    ∀ head, found = some head → head.Owned w n := by
  intro head is
  subst is
  suffices own : head.nodeset = n from own ▸ owned head rfl
  -- what comes back to a pointer comes to a channel of its nodeset
  have pointer : ∀ {f : Chanhead ν σ ι → Reaction ν σ ι μ},
      (pointed n (some head)).bind f = some (left, out) → head.nodeset = n := by
    intro f done
    obtain ⟨head', is, -⟩ := bind_eq_some_iff.mp done
    obtain ⟨same, own⟩ := pointed_spec is
    cases same
    exact own
  cases action with
  | leave sub =>
    obtain ⟨⟨own, on⟩, -⟩ := ite_none_right_eq_some.mp done
    exact ((owned head rfl).subs sub on).symm.trans own
  | client | forget | publish | delete => cases touches
  | registered | keepaliveTimer | keepaliveReply | spoolReply | reap => exact pointer done
  | _ => exact clear rfl head rfl

theorem act_keeps (owned : ∀ head, found = some head → head.Owned w n)
    (touches : action.remote = false) : (w.act n ready found front action).Keeps w n := by
  have pointed {f : Chanhead ν σ ι → Reaction ν σ ι μ}
      (keeps : ∀ head, head.Owned w n → (f head).Keeps w n) :
      Reaction.Keeps w n ((pointed n found).bind f) :=
    .bind fun head is => keeps head (owned head (pointed_spec is).1)
  cases action with
  | client | forget | publish | delete => cases touches
  | subscribe sub =>
    refine .guard fun own => (getChanhead_keeps owned).andThen fun head owned => ?_
    exact spool_keeps owned fun joined is => some.inj is ▸ own.1
  | leave sub => exact .bind fun head is => .guard fun _ => spool_keeps (owned head is) nofun
  | notified size message => exact notify_keeps owned
  | keyMessage m => exact publishGeneric_keeps owned
  | deleteAlert =>
    refine (publishGeneric_keeps owned).andThen fun head owned => ?_
    exact (getChanhead_keeps (forall_some owned)).andThen fun _ owned => Chanhead.gcAdd_keeps owned
  | unsubAllAlert => exact publishGeneric_keeps owned
  | subscriberInfoAlert request =>
    exact (getChanhead_keeps owned).andThen fun head owned => spool_give_keeps owned
  | subscribed => exact (keeps_found owned).andThen fun _ owned => setSubscribed_keeps owned
  | unsubscribed => exact (keeps_found owned).andThen fun _ owned => setUnsubscribed_keeps owned
  | registered sub size =>
    refine pointed fun head owned => .guard fun on => keeps_some ?_ ?_
    · exact { owned with registering := fun s on => owned.registering s (mem_of_mem_erase on) }
    · cases size with
      | none => exact forall_mem_nil _
      | some size => exact forall_mem_singleton.mpr (owned.registering sub on)
  | keepaliveTimer => exact pointed fun _ owned => Chanhead.keepalive_keeps owned
  | keepaliveReply => exact pointed fun _ owned => .guard fun _ => keeps_quiet { owned with }
  | spoolReply reply => exact pointed fun _ owned => spool_keeps owned nofun
  | reap =>
    refine pointed fun head owned => .guard fun _ => .of_some ⟨nofun, ?_⟩
    have sent : (Command.unsubscribe : Command ι).Of w n := trivial
    rw [owned.nodeset]
    exact sent_of sent _

section

variable (clear : action.looksUpFront (w.mode n) = true → ∀ sub ∈ front, w.location sub = n)
  (done : w.act n ready found front action = some (left, out))

include clear done

theorem act_remote (remote : action.remote = true) :
    left = found ∧ (∀ o ∈ out, o.Of w n) ∧
      ∀ found, w.act n ready found front action = some (found, out) := by
  cases action with
  | client client comes =>
    obtain ⟨sub, rfl, done⟩ := bind_eq_some_iff.mp done
    obtain ⟨own, same⟩ := ite_none_right_eq_some.mp done
    cases same
    exact ⟨rfl, forall_mem_singleton.mpr ⟨clear rfl sub rfl, own⟩, fun _ => if_pos own⟩
  | forget =>
    obtain ⟨own, same⟩ := ite_none_right_eq_some.mp done
    cases same
    exact ⟨rfl, forall_mem_nil _, fun _ => if_pos own⟩
  | publish | delete =>
    cases done
    exact ⟨rfl, passed_of trivial fun backup => clear (decide_eq_true backup), fun _ => rfl⟩
  | _ => cases remote

theorem act_front :
    (∀ front, action.front front = front ∧ w.act n ready found front action = some (left, out)) ∨
      (∀ sub ∈ front, w.location sub = n) ∧ ∀ sub ∈ action.front front, w.location sub = n := by
  cases action with
  | client => exact .inr ⟨clear rfl, clear rfl⟩
  | subscribe sub =>
    obtain ⟨⟨own, was⟩, -⟩ := ite_none_right_eq_some.mp done
    have isOwn : ∀ s ∈ some sub, w.location s = n := fun _ is => some.inj is ▸ own
    refine .inr ⟨?_, isOwn⟩
    rcases was with rfl | rfl
    · exact nofun
    · exact isOwn
  | forget =>
    obtain ⟨own, -⟩ := ite_none_right_eq_some.mp done
    refine .inr ⟨fun sub is => ?_, nofun⟩
    rw [mem_def.mp is] at own
    exact of_decide_eq_true own
  | publish | delete =>
    by_cases backup : w.mode n = .backup
    · have own := clear (decide_eq_true backup)
      exact .inr ⟨own, own⟩
    · exact .inl fun _ => ⟨rfl, by simpa [act, passOn, backup] using done⟩
  | _ => exact .inl fun _ => ⟨rfl, done⟩

end

end Worker

/-! ## Runs -/

namespace Chanheads

variable [DecidableEq ν]

/-- What is found for a nodeset is a channel of this nodeset, and the channel head that the memstore
    finds for its location is as well. -/
def Clear (w : Worker ν σ ι μ ρ) (e : ChannelEvent ν κ ι μ ρ) (s : Chanheads ν κ σ ι μ) : Prop :=
  (e.action.looksUp = true → ∀ head, s.table e.chid = some head → head.nodeset = e.nodeset) ∧
    (e.action.looksUpFront (w.mode e.nodeset) = true →
      ∀ sub, s.front e.chid = some sub → w.location sub = e.nodeset)

instance (e : ChannelEvent ν κ ι μ ρ) (s : Chanheads ν κ σ ι μ) : Decidable (Clear w e s) :=
  inferInstanceAs (Decidable ((_ → ∀ head ∈ s.table _, _) ∧ (_ → ∀ sub ∈ s.front _, _)))

/-- The channels of a nodeset, and what came of its events. -/
def view (w : Worker ν σ ι μ ρ) (n : ν) (s : Chanheads ν κ σ ι μ) : Chanheads ν κ σ ι μ where
  table c := (s.table c).filter fun head => head.nodeset = n
  front c := (s.front c).filter fun sub => w.location sub = n
  log := s.log.filter fun e => e.1 = n

/-- What the subscriber of a channel head was given, and when clients came and left. -/
def history [DecidableEq ι] (sub : ι) (s : Chanheads ν κ σ ι μ) : List (Output ν ι μ) :=
  (s.log.map (·.2)).filter fun o => o.receiver = some sub

structure Separate (w : Worker ν σ ι μ ρ) (s : Chanheads ν κ σ ι μ) : Prop where
  owned : ∀ c head, s.table c = some head → head.Owned w head.nodeset
  log : ∀ e ∈ s.log, e.2.Of w e.1

variable {e : ChannelEvent ν κ ι μ ρ} {s s' : Chanheads ν κ σ ι μ}

theorem filter_own {α : Type} {f : α → ν} {left : Option α} (own : ∀ a ∈ left, f a = n) :
    (left.filter fun a => f a = n) = left := by
  cases left with
  | none => rfl
  | some a => simp [own a rfl]

theorem filter_foreign {α : Type} {f : α → ν} {m : ν} {left : Option α} (other : m ≠ n)
    (own : ∀ a ∈ left, f a = m) : (left.filter fun a => f a = n) = none := by
  cases left with
  | none => rfl
  | some a => simp [own a rfl, other]

theorem history_view [DecidableEq ι] (separate : Separate w s) {sub : ι} (own : w.location sub = n) :
    (view w n s).history sub = s.history sub := by
  unfold history view
  rw [List.filter_map, List.filter_map, List.filter_filter]
  congr 1
  refine filter_congr fun entry on => ?_
  have of := separate.log entry on
  obtain ⟨m, o⟩ := entry
  cases o with
  | sent command target => simp [Output.receiver]
  | delivered other item =>
    have location : w.location other = m := of
    by_cases same : other = sub <;> simp [Output.receiver, same, ← location, own]
  | client other client comes =>
    have location : w.location other = m := of.1
    by_cases same : other = sub <;> simp [Output.receiver, same, ← location, own]

variable [DecidableEq κ]

theorem update_filter {α : Type} {f : α → ν} (table : κ → Option α) (c c' : κ) (left : Option α) :
    ((Function.update table c left c').filter fun a => f a = n) =
      Function.update (fun c => (table c).filter fun a => f a = n) c
        (left.filter fun a => f a = n) c' := by
  by_cases same : c' = c
  · subst same
    simp
  · simp [same]

theorem view_update (c : κ) (left : Option (Chanhead ν σ ι)) (front : Option ι)
    (log : List (ν × Output ν ι μ)) :
    view w n ⟨Function.update s.table c left, Function.update s.front c front, log⟩ =
      ⟨Function.update (view w n s).table c (left.filter fun head => head.nodeset = n),
        Function.update (view w n s).front c (front.filter fun sub => w.location sub = n),
        log.filter fun e => e.1 = n⟩ := by
  simp only [view, update_filter]

variable [DecidableEq ι]

/-- What one step does: it leaves the table as it is, or a channel of the nodeset is changed. -/
theorem step_spec (separate : Separate w s) (clear : Clear w e s) (stepped : w.step e s = some s') :
    ∃ left out,
      s' = ⟨Function.update s.table e.chid left,
        Function.update s.front e.chid (e.action.front (s.front e.chid)),
        s.log ++ out.map fun o => (e.nodeset, o)⟩ ∧
      w.act e.nodeset e.ready (s.table e.chid) (s.front e.chid) e.action = some (left, out) ∧
      (∀ o ∈ out, o.Of w e.nodeset) ∧
      ((left = s.table e.chid ∧
          ∀ found, w.act e.nodeset e.ready found (s.front e.chid) e.action = some (found, out)) ∨
        (∀ head, s.table e.chid = some head → head.Owned w e.nodeset) ∧
          ∀ head, left = some head → head.Owned w e.nodeset) := by
  obtain ⟨⟨left, out⟩, done, is⟩ := map_eq_some_iff.mp stepped
  refine ⟨left, out, is.symm, done, ?_⟩
  cases remote : e.action.remote with
  | true =>
    obtain ⟨same, all, acts⟩ := Worker.act_remote clear.2 done remote
    exact ⟨all, .inl ⟨same, acts⟩⟩
  | false =>
    have owned := Worker.act_found (separate.owned e.chid) clear.1 remote done
    obtain ⟨kept, all⟩ := Worker.act_keeps owned remote _ done
    exact ⟨all, .inr ⟨owned, kept⟩⟩

theorem Separate.step (separate : Separate w s) (clear : Clear w e s)
    (stepped : w.step e s = some s') : Separate w s' := by
  obtain ⟨left, out, rfl, -, all, cases⟩ := step_spec separate clear stepped
  refine ⟨fun c head is => ?_, forall_mem_append.mpr ⟨separate.log, forall_mem_map.mpr all⟩⟩
  by_cases same : c = e.chid
  · subst same
    have is : left = some head := (Function.update_self e.chid left s.table).symm.trans is
    rcases cases with ⟨unchanged, -⟩ | ⟨-, kept⟩
    · exact separate.owned e.chid head (unchanged ▸ is)
    · have owned := kept head is
      exact owned.nodeset.symm ▸ owned
  · have is : s.table c = some head := (Function.update_of_ne same ..).symm.trans is
    exact separate.owned c head is

theorem step_own (separate : Separate w s) (clear : Clear w e s) (own : e.nodeset = n)
    (stepped : w.step e s = some s') : w.step e (view w n s) = some (view w n s') := by
  obtain ⟨left, out, rfl, done, -, cases⟩ := step_spec separate clear stepped
  subst own
  -- the channel in the view is the same, or does not matter
  have acts : w.act e.nodeset e.ready ((view w e.nodeset s).table e.chid) (s.front e.chid)
      e.action = some (left.filter fun head => head.nodeset = e.nodeset, out) := by
    rcases cases with ⟨rfl, acts⟩ | ⟨owned, kept⟩
    · exact acts _
    · rw [filter_own fun head is => (kept head is).nodeset]
      exact (congrArg (w.act _ _ · _ _) (filter_own fun head is => (owned head is).nodeset)).trans
        done
  -- nor does the memstore's channel head, unless it is in the view
  have front : e.action.front ((view w e.nodeset s).front e.chid) =
        ((e.action.front (s.front e.chid)).filter fun sub => w.location sub = e.nodeset) ∧
      w.act e.nodeset e.ready ((view w e.nodeset s).table e.chid)
        ((view w e.nodeset s).front e.chid) e.action =
          some (left.filter fun head => head.nodeset = e.nodeset, out) := by
    rcases Worker.act_front clear.2 acts with all | ⟨was, becomes⟩
    · exact ⟨by rw [(all _).1, (all _).1]; rfl, (all _).2⟩
    · have same : (view w e.nodeset s).front e.chid = s.front e.chid := filter_own was
      rw [same, filter_own becomes]
      exact ⟨rfl, acts⟩
  have logged : (out.map fun o => (e.nodeset, o)).filter (fun entry => entry.1 = e.nodeset) =
      out.map fun o => (e.nodeset, o) := by simp
  rw [Worker.step, front.2, map_some, front.1, view_update, filter_append, logged]
  rfl

theorem step_foreign (separate : Separate w s) (clear : Clear w e s) (other : e.nodeset ≠ n)
    (stepped : w.step e s = some s') : view w n s' = view w n s := by
  obtain ⟨left, out, rfl, done, -, cases⟩ := step_spec separate clear stepped
  have table : (left.filter fun head => head.nodeset = n) = (view w n s).table e.chid := by
    rcases cases with ⟨rfl, -⟩ | ⟨owned, kept⟩
    · rfl
    · exact (filter_foreign other fun head is => (kept head is).nodeset).trans
        (filter_foreign other fun head is => (owned head is).nodeset).symm
  have front : ((e.action.front (s.front e.chid)).filter fun sub => w.location sub = n) =
      (view w n s).front e.chid := by
    rcases Worker.act_front clear.2 done with all | ⟨was, becomes⟩
    · rw [(all _).1]
      rfl
    · exact (filter_foreign other becomes).trans (filter_foreign other was).symm
  rw [view_update, table, front, Function.update_eq_self, Function.update_eq_self, filter_append]
  simp [view, other]

/-- If channels and channel heads are found for their own nodesets only, then every subscriber is
    given the same and has the same clients as if nothing had happened for the other nodesets, its
    clients are of its nodeset, and all that comes of an event is for subscribers of its nodeset or
    is sent there. -/
theorem nodesets_isolated {events : List (ChannelEvent ν κ ι μ ρ)}
    (clear : Run.Along w.step (Clear w) events start) (reaches : run w.step events start = some s)
    (n : ν) :
    (∃ alone, run w.step (events.filter fun e => e.nodeset = n) start = some alone ∧
      ∀ sub, w.location sub = n → alone.history sub = s.history sub) ∧
    ∀ entry ∈ s.log, entry.2.Of w entry.1 := by
  have initial : Separate w (start : Chanheads ν κ σ ι μ) := ⟨nofun, forall_mem_nil _⟩
  have separate : Separate w s := run_invariant
    (fun _ _ _ separate clear stepped => separate.step clear stepped) initial clear reaches
  have own : ∀ (e : ChannelEvent ν κ ι μ ρ) s s', Separate w s → Clear w e s →
      decide (e.nodeset = n) = true → w.step e s = some s' →
        w.step e (view w n s) = some (view w n s') :=
    fun _ _ _ separate clear own => step_own separate clear (of_decide_eq_true own)
  have others : ∀ (e : ChannelEvent ν κ ι μ ρ) s s', Separate w s → Clear w e s →
      decide (e.nodeset = n) = false → w.step e s = some s' → view w n s' = view w n s :=
    fun _ _ _ separate clear other => step_foreign separate clear (of_decide_eq_false other)
  have seen := run_view (fun _ _ _ separate clear stepped => separate.step clear stepped)
    own others initial clear reaches
  exact ⟨⟨view w n s, seen, fun sub => history_view separate⟩, separate.log⟩

/-! ### Two nodesets -/

def passthrough : Spooling ν (List ι) ι μ ρ where
  started _ := []
  react
    | .add sub, subs => (subs ++ [sub], [.added sub])
    | .remove sub, subs => (subs.erase sub, [.dequeued sub])
    | .give (.status code), subs =>
      ([], subs.flatMap fun sub => [.delivered sub (.status code), .dequeued sub])
    | .give item, subs => (subs, subs.map fun sub => .delivered sub item)
    | _, subs => (subs, [])

/-- Two locations, whose subscribers and clients have the name of the nodeset and a number. -/
def twoNodesets : Worker Bool (List (Bool × Nat)) (Bool × Nat) Nat Unit where
  location sub := sub.1
  mode _ := .distributedNostore
  spooling := passthrough

/-- The channel of one nodeset is gone before the other one uses its id. -/
def oneAfterTheOther : List (ChannelEvent Bool Unit (Bool × Nat) Nat Unit) := [
  ⟨false, (), true, .subscribe (false, 0)⟩,
  ⟨false, (), true, .client (false, 1) true⟩,
  ⟨true, (), true, .publish 7⟩,
  ⟨false, (), true, .registered (false, 0) none⟩,
  ⟨false, (), true, .notified none (.msg 1)⟩,
  ⟨false, (), true, .client (false, 1) false⟩,
  ⟨false, (), true, .leave (false, 0)⟩,
  ⟨false, (), true, .forget⟩,
  ⟨false, (), true, .reap⟩,
  ⟨true, (), true, .subscribe (true, 0)⟩,
  ⟨true, (), true, .client (true, 1) true⟩,
  ⟨true, (), true, .notified none (.msg 2)⟩]

theorem nodesets_isolated_two :
    ∃ s, run twoNodesets.step oneAfterTheOther start = some s ∧
      (∃ alone, run twoNodesets.step (oneAfterTheOther.filter fun e => e.nodeset = true) start =
        some alone ∧ ∀ sub, twoNodesets.location sub = true → alone.history sub = s.history sub) ∧
      ∀ entry ∈ s.log, entry.2.Of twoNodesets entry.1 :=
  ⟨_, rfl, nodesets_isolated (by decide) rfl true⟩

/-- A client of the second location finds the channel head of the first one, and a message is
    published on the first nodeset.  Then the channel head goes away, and that of the second
    location finds the channel of the first nodeset, which gets another message. -/
def atTheSameTime : List (ChannelEvent Bool Unit (Bool × Nat) Nat Unit) := [
  ⟨false, (), true, .subscribe (false, 0)⟩,
  ⟨false, (), true, .subscribed⟩,
  ⟨true, (), true, .client (true, 1) true⟩,
  ⟨false, (), true, .notified none (.msg 1)⟩,
  ⟨false, (), true, .leave (false, 0)⟩,
  ⟨false, (), true, .forget⟩,
  ⟨true, (), true, .subscribe (true, 0)⟩,
  ⟨false, (), true, .notified none (.msg 2)⟩]

theorem nodesets_interfere :
    ∃ s, run twoNodesets.step atTheSameTime start = some s ∧
      s.history (false, 0) =
        [.client (false, 0) (true, 1) true, .delivered (false, 0) (.message 1)] ∧
      s.history (true, 0) = [.delivered (true, 0) (.message 2)] ∧
      (true, .sent (.register (true, 0)) false) ∈ s.log := by
  refine ⟨_, rfl, rfl, rfl, ?_⟩
  exact .tail _ (.tail _ (.tail _ (.tail _ (.tail _ (.head _)))))

end Chanheads

end Nchan.Redis
