import Mathlib.Data.List.Chain
import Nchan.Memstore.Publishing

/-! # The buffer invariant

Over every run on the owner worker in which the clock does not go back and messages
come without a time of their own, the buffer is a well linked list of messages with
increasing ids, each naming its predecessor, and it is always the newest part of
everything that was ever buffered.
-/

namespace Nchan.Memstore

open Nchan.Lib Nchan.Lib.Run List History Option

/-- What the publisher of a message and the worker's clock promise: Redis is not used,
    the message has neither a time nor an expiry of its own, the allocator answers an
    unused address, and this second has not seen 32767 messages yet. -/
structure OrdinaryPublish (now : Int) (address : Nat) (cf : LocConf) (msg : Msg)
    (s : Chanhead × History) : Prop where
  clock : s.2.clock ≤ now
  running : 0 < now
  fresh : s.1.heap address = none
  redis : cf.redisEnabled = false
  timeout : 0 ≤ cf.messageTimeout
  untimed : msg.id.time = 0
  unexpiring : msg.expires = 0
  rate : s.2.publishedIn now + 1 < 32768

def Op.Ordinary (op : Op) (s : Chanhead × History) : Prop :=
  match op with
  | .publish now address cf msg => OrdinaryPublish now address cf msg s
  | .gc now => s.2.clock ≤ now
  | .forceDelete => True

/-- The invariant, on the channel that the channel head implements. -/
structure Channel.Sound (c : Channel) (h : History) : Prop where
  ordered : c.messages.IsChain fun a b => a.id < b.id ∧ b.prevId = a.id
  dated : ∀ m ∈ c.messages, m.id.time ≤ h.clock ∧ 0 ≤ m.id.tag ∧
    (m.id.time = h.clock → m.id.tag < h.thisSecond)
  explicit : ∀ m ∈ c.messages, 0 ≤ m.id.time
  newest : c.messages <:+ h.buffered
  redis : c.cf.redisEnabled = false

namespace Channel.Sound

variable {c : Channel} {h : History} {now : Int}

variable (sound : c.Sound h)

include sound

theorem fewer {left : List Msg} (maxMessages : Int)
    (part : left <:+ c.messages) :
    Channel.Sound { c with messages := left, maxMessages := maxMessages } h where
  ordered := sound.ordered.suffix part
  dated := fun m on => sound.dated m (part.subset on)
  explicit := fun m on => sound.explicit m (part.subset on)
  newest := part.trans sound.newest
  redis := sound.redis

theorem tick (clock : h.clock ≤ now) : c.Sound (h.tick now) where
  ordered := sound.ordered
  dated := by
    intro m on
    obtain ⟨past, tag, same⟩ := sound.dated m on
    refine ⟨le_trans past clock, tag, fun current => ?_⟩
    simp only [History.tick] at current ⊢
    have sameSecond : now = h.clock := le_antisymm (current ▸ past) clock
    simp only [publishedIn, sameSecond, if_true]
    exact same (current.trans sameSecond)
  explicit := sound.explicit
  newest := sound.newest
  redis := sound.redis

theorem forceDelete : c.forceDelete.Sound h where
  ordered := isChain_nil
  dated := by simp [Channel.forceDelete]
  explicit := by simp [Channel.forceDelete]
  newest := nil_suffix
  redis := sound.redis

theorem link {m : Msg} (time : m.id.time = h.clock) (explicit : 0 ≤ m.id.time)
    (follows : ∀ l ∈ c.messages.getLast?, m.prevId = l.id ∧ l.id < m.id)
    (tag : 0 ≤ m.id.tag ∧ m.id.tag ≤ h.thisSecond) (latest : Stamp) (published : List Stamp) :
    Channel.Sound { c with messages := c.messages ++ [m], latestMsgid := latest }
      { h with
        thisSecond := h.thisSecond + 1, published := published, buffered := h.buffered ++ [m] } where
  ordered := by
    refine sound.ordered.append (isChain_singleton m) ?_
    intro l isLast m' isFirst
    simp only [List.head?_cons, mem_def, some.injEq] at isFirst
    subst isFirst
    exact (follows l isLast).symm
  dated := by
    intro n on
    rcases mem_append.mp on with old | new
    · obtain ⟨past, nonneg, same⟩ := sound.dated n old
      refine ⟨past, nonneg, fun current => ?_⟩
      have earlier := same current
      push_cast
      omega
    · obtain rfl := mem_singleton.mp new
      refine ⟨time.le, tag.1, fun _ => ?_⟩
      push_cast
      omega
  explicit := by simpa [or_imp, forall_and] using ⟨sound.explicit, explicit⟩
  newest := by
    obtain ⟨older, split⟩ := sound.newest
    exact ⟨older, by rw [← split, append_assoc]⟩
  redis := sound.redis

end Channel.Sound

theorem stampAfter_follows {c : Channel} {h : History} {now : Int} {msg : Msg}
    (sound : c.Sound (h.tick now)) (time : publishTime now msg = now)
    (rate : h.publishedIn now + 1 < 32768) :
    let m := stampAfter now c.cf c.messages.getLast? msg
    (∀ l ∈ c.messages.getLast?, m.prevId = l.id ∧ l.id < m.id) ∧
      0 ≤ m.id.tag ∧ m.id.tag ≤ h.publishedIn now := by
  obtain ⟨stampTime, sameSecond, newSecond⟩ := stampAfter_id now c.cf c.messages.getLast? msg
  have previous := stampAfter_prevId now c.cf c.messages.getLast? msg
  rw [time] at stampTime sameSecond newSecond
  simp only [sound.redis, Bool.not_false, Bool.true_or, if_true] at newSecond
  cases last : c.messages.getLast? with
  | none =>
    rw [last] at newSecond
    have tag := newSecond (by simp)
    simp only [mem_def, reduceCtorEq, false_implies, implies_true, true_and, tag]
    omega
  | some l =>
    rw [last] at stampTime sameSecond newSecond previous
    obtain ⟨past, nonneg, counted⟩ := sound.dated l (mem_of_getLast? last)
    simp only [History.tick] at past counted
    simp only [mem_def, some.injEq, forall_eq', previous, map_some,
      getD_some, true_and, Stamp.lt_iff, stampTime]
    by_cases current : l.id.time = now
    · have tag := sameSecond l rfl current
      rw [Stamp.nextTag_of_lt nonneg (by omega)] at tag
      omega
    · have tag := newSecond fun l' is => some.inj is ▸ current
      omega

theorem publish_sound {c : Channel} {ch : Chanhead} {h : History} {now : Int} {address : Nat}
    {cf : LocConf} {msg : Msg} (sound : c.Sound h)
    (ordinary : OrdinaryPublish now address cf msg (ch, h)) :
    ∃ m c', c.publish now cf msg = some (.published m, c') ∧
      c'.Sound (h.note now cf (.published m)) ∧
      (0 < cf.maxMessages → (c'.messages.length : Int) ≤ cf.maxMessages ∧
        c'.messages.getLast? = some m) := by
  have backup : !cf.redisEnabled || cf.redisStorageMode = .backup := by simp [ordinary.redis]
  have running : now ≠ 0 := (ne_of_lt ordinary.running).symm
  have time : publishTime now msg = now := if_pos ordinary.untimed
  by_cases unbuffered : cf.maxMessages = 0
  · obtain ⟨m, -, publishes⟩ : ∃ m, _ ∧ c.publish now cf msg = _ :=
      Channel.publish_unbuffered backup unbuffered running
    refine ⟨m, _, publishes, ?_, fun positive => absurd unbuffered positive.ne'⟩
    refine ⟨isChain_nil, by simp, by simp, nil_suffix, sound.redis⟩
  · have collected := (sound.tick ordinary.clock).fewer cf.maxMessages
      (gcMessages_suffix now cf.maxMessages c.messages)
    obtain ⟨follows, tag⟩ := stampAfter_follows collected
      ((publishTime_filled now (nchanLocConfMessageTimeout cf) msg).trans time) ordinary.rate
    generalize stamps : stampAfter now _ _ _ = m at follows tag
    have stampTime : m.id.time = now := by
      rw [← stamps, (stampAfter_id _ _ _ _).1, publishTime_filled, time]
    -- it is not expired, so that garbage collection stops before it
    have live : now ≤ m.expires := by
      have timeout := ordinary.timeout
      rw [← stamps, stampAfter_expires]
      simp only [fillMessageTimedata, ordinary.untimed, ordinary.unexpiring, if_true,
        nchanLocConfMessageTimeout]
      split <;> omega
    have linked := collected.link stampTime (stampTime ▸ ordinary.running.le) follows tag m.id
      (h.published ++ [m.id])
    obtain ⟨front, kept⟩ := gcMessages_keeps_last
      (gcMessages now cf.maxMessages c.messages) live unbuffered
    rcases Channel.publish_buffered backup unbuffered running rfl stamps.symm rfl with
      ⟨empty, -⟩ | ⟨last, publishes⟩
    · simp [kept] at empty
    · refine ⟨m, _, publishes, ?_, fun positive => ⟨length_gcMessages positive.le _ _, last⟩⟩
      have shrunk := linked.fewer cf.maxMessages
        (gcMessages_suffix now cf.maxMessages (gcMessages now cf.maxMessages c.messages ++ [m]))
      simp only [note, unbuffered, if_false]
      exact shrunk

/-! ## Runs -/

def Op.isPublish : Op → Bool
  | .publish .. => true
  | .gc _ | .forceDelete => false

/-- What holds after the steps `done`: the channel head implements a sound channel,
    every publish succeeded, and if the last step was a publish for the buffer then the
    buffer is within its limit and ends with that message. -/
structure AfterRun (done : List Op) (s : Chanhead × History) : Prop where
  sound : ∃ c, s.1.Implements c ∧ c.Sound s.2 ∧
    ∀ now address cf msg front, done = front ++ [.publish now address cf msg] →
      0 < cf.maxMessages → (c.messages.length : Int) ≤ cf.maxMessages ∧
      ∃ m, c.messages.getLast? = some m ∧ s.2.published.getLast? = some m.id
  succeeded : s.2.published.length = (done.filter Op.isPublish).length

theorem afterRun_create {cf : LocConf} (disabled : cf.redisEnabled = false) :
    AfterRun [] (Chanhead.create cf, History.start) where
  sound := by
    refine ⟨Channel.create cf, create_implements cf, ?_, by simp⟩
    exact ⟨isChain_nil, by simp [Channel.create], by simp [Channel.create], nil_suffix, disabled⟩
  succeeded := rfl

theorem step_afterRun (done : List Op) (op : Op) (s : Chanhead × History) (after : AfterRun done s)
    (ordinary : op.Ordinary s) : ∃ s', op.apply s = some s' ∧ AfterRun (done ++ [op]) s' := by
  obtain ⟨⟨c, impl, sound, -⟩, succeeded⟩ := after
  cases op with
  | publish now address cf msg =>
    obtain ⟨m, c', publishes, sound', last⟩ := publish_sound sound ordinary
    obtain ⟨ch', applied, impl'⟩ := apply_publish impl ordinary.fresh publishes
    refine ⟨_, applied, ⟨c', impl', sound', ?_⟩, ?_⟩
    · intro now' address' cf' msg' front same positive
      obtain ⟨-, isLast⟩ := List.append_inj' same rfl
      cases isLast
      exact ⟨(last positive).1, m, (last positive).2, by simp [note]⟩
    · simpa [Op.isPublish, note, filter_cons] using succeeded
  | gc now =>
    obtain ⟨ch', applied, impl'⟩ := apply_gc impl
    refine ⟨_, applied, ⟨c.gc now, impl', ?_, ?_⟩, ?_⟩
    · exact (sound.tick ordinary).fewer c.maxMessages (gcMessages_suffix now c.maxMessages c.messages)
    · intro _ _ _ _ _ same
      cases (List.append_inj' same rfl).2
    · simpa [Op.isPublish, History.tick] using succeeded
  | forceDelete =>
    obtain ⟨ch', applied, impl'⟩ := apply_forceDelete impl
    refine ⟨_, applied, ⟨c.forceDelete, impl', sound.forceDelete, ?_⟩, ?_⟩
    · intro _ _ _ _ _ same
      cases (List.append_inj' same rfl).2
    · simpa [Op.isPublish] using succeeded

/-- In every ordinary run no assertion fires and no publish fails; the buffer is well
    linked and counted, its ids increase and name their predecessors, it is the newest
    part of all that was buffered, and a publish with limit `m > 0` leaves at most `m`
    messages, the one just published last. -/
theorem channel_buffer_invariant (cf : LocConf) (disabled : cf.redisEnabled = false) (ops : List Op)
    (ordinary : Along Op.apply Op.Ordinary ops (Chanhead.create cf, History.start)) :
    ∃ ch h buf, run Op.apply ops (Chanhead.create cf, History.start) = some (ch, h) ∧
      ch.Represents buf ∧ (buf.map (·.id)).Pairwise (· < ·) ∧
      buf.IsChain (fun a b => b.prevId = a.id) ∧ buf <:+ h.buffered ∧
      h.published.length = (ops.filter Op.isPublish).length ∧
      ∀ now address cf' msg front, ops = front ++ [.publish now address cf' msg] →
        0 < cf'.maxMessages → (buf.length : Int) ≤ cf'.maxMessages ∧
        ∃ m, buf.getLast? = some m ∧ h.published.getLast? = some m.id := by
  obtain ⟨⟨ch, h⟩, runs, ⟨c, impl, sound, last⟩, succeeded⟩ :=
    run_succeeds step_afterRun (afterRun_create disabled) ordinary
  refine ⟨ch, h, c.messages, runs, impl.represents, ?_, ?_, sound.newest, succeeded, last⟩
  · rw [← isChain_iff_pairwise, isChain_map]
    exact sound.ordered.imp fun _ _ both => both.1
  · exact sound.ordered.imp fun _ _ both => both.2

/-- Three messages for a buffer of two, of which garbage collection then takes the older one. -/
def publishesThenGc : List Op :=
  let publish (now : Int) (address : Nat) (timeout : Int) : Op :=
    .publish now address ⟨false, .backup, timeout, 2⟩ ⟨⟨0, 0⟩, ⟨0, 0⟩, 0⟩
  [publish 7 0 60, publish 7 1 1, publish 8 2 60, .gc 9]

theorem channel_buffer_invariant_publish_then_gc :
    ∃ ch h buf, run Op.apply publishesThenGc (Chanhead.create ⟨false, .backup, 60, 2⟩, .start) =
        some (ch, h) ∧
      h.published.length = 3 ∧ ch.Represents buf ∧ (buf.map (·.id)).Pairwise (· < ·) ∧
      buf <:+ h.buffered := by
  have ordinary : Along Op.apply Op.Ordinary publishesThenGc
      (Chanhead.create ⟨false, .backup, 60, 2⟩, .start) := by
    refine .cons ?_ rfl (.cons ?_ rfl (.cons ?_ rfl (.cons ?_ rfl trivial)))
    iterate 3 exact ⟨by decide, by decide, rfl, rfl, by decide, rfl, rfl, by decide⟩
    exact show (8 : Int) ≤ 9 by decide
  obtain ⟨ch, h, buf, reaches, is, increasing, -, newest, published, -⟩ :=
    channel_buffer_invariant _ rfl _ ordinary
  exact ⟨ch, h, buf, reaches, published, is, increasing, newest⟩

end Nchan.Memstore
