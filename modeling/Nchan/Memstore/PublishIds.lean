import Mathlib.Data.List.Chain
import Nchan.Memstore.Publishing

/-! # The ids given to published messages

Within one second the tag of a buffered message continues from the last message of
the buffer, and the tag of an unbuffered one from the id given last.  The two records
differ once the buffer is empty, so ids can repeat.  `MessageFollows` says exactly when
a publish continues the sequence, and a run all of whose publishes do gives out
strictly increasing ids.
-/

namespace Nchan.Memstore

open Nchan.Lib Nchan.Lib.Run List Option

def keepable (maxMessages : Int) (buf : List Msg) : List Msg :=
  if maxMessages < 0 then buf else buf.drop (buf.length - maxMessages.toNat)

theorem dropFront_tooMany (maxMessages : Int) (buf : List Msg) :
    dropFront (tooMany maxMessages) buf = keepable maxMessages buf := by
  unfold keepable
  split
  · rename_i unlimited
    cases buf <;> simp [dropFront, tooMany, unlimited]
  · rename_i limited
    induction buf with
    | nil => simp [dropFront]
    | cons m buf ih =>
      unfold dropFront
      split
      · rename_i exceeds
        simp only [tooMany, length_cons, Bool.and_eq_true, decide_eq_true_eq] at exceeds
        rw [ih, length_cons,
          show buf.length + 1 - maxMessages.toNat = buf.length - maxMessages.toNat + 1 by omega,
          drop_succ_cons]
      · rename_i fits
        simp only [tooMany, length_cons, Bool.and_eq_true, decide_eq_true_eq] at fits
        rw [length_cons, show buf.length + 1 - maxMessages.toNat = 0 by omega, drop_zero]

variable {now : Int} {buf : List Msg}

theorem dropFront_expired_ne_nil :
    dropFront (expired now) buf ≠ [] ↔ ∃ m ∈ buf, now ≤ m.expires := by
  induction buf with
  | nil => simp [dropFront]
  | cons m buf ih =>
    unfold dropFront
    split
    · rename_i gone
      have past : m.expires < now := by simpa [expired] using gone
      rw [ih]
      simp [Int.not_le.mpr past]
    · rename_i stays
      have live : now ≤ m.expires := by simpa [expired] using stays
      simp [live]

theorem gcMessages_ne_nil {maxMessages : Int} :
    gcMessages now maxMessages buf ≠ [] ↔ ∃ m ∈ keepable maxMessages buf, now ≤ m.expires := by
  rw [gcMessages, dropFront_tooMany, dropFront_expired_ne_nil]

/-- The publish continues the ids of the channel: nothing was published before, or the
    message is of a later second than the id given last, or of the same second while
    tags are left and the record that its tag is taken from still holds that id. -/
def MessageFollows (now : Int) (cf : LocConf) (msg : Msg) (s : Chanhead × History) : Prop :=
  s.2.published = [] ∨ s.1.latestMsgid.time < publishTime now msg ∨
    s.1.latestMsgid.time = publishTime now msg ∧ s.1.latestMsgid.tag < 32767 ∧
      (cf.maxMessages = 0 ∨ ∃ m ∈ keepable cf.maxMessages s.1.messages, now ≤ m.expires)

/-- What the callers of a publish promise: the clock runs, the allocator answers an
    unused address, messages for Redis alone go elsewhere, and a message arrives
    without a tag. -/
structure PublishPromise (now : Int) (address : Nat) (cf : LocConf) (msg : Msg)
    (s : Chanhead × History) : Prop where
  running : now ≠ 0
  fresh : s.1.heap address = none
  backup : !cf.redisEnabled || cf.redisStorageMode = .backup
  untagged : msg.id.tag = 0

def Op.Follows (op : Op) (s : Chanhead × History) : Prop :=
  match op with
  | .publish now address cf msg =>
    PublishPromise now address cf msg s ∧ MessageFollows now cf msg s
  | .gc _ | .forceDelete => True

/-- The two records of the last id agree as far as they exist. -/
structure Channel.Numbered (c : Channel) (h : History) : Prop where
  increasing : h.published.Pairwise (· < ·)
  fresh : h.published = [] → c.latestMsgid = ⟨0, 0⟩ ∧ c.messages = []
  latest : ∀ id ∈ h.published.getLast?, c.latestMsgid = id
  tail : ∀ l ∈ c.messages.getLast?, l.id = c.latestMsgid
  tag : 0 ≤ c.latestMsgid.tag ∧ c.latestMsgid.tag ≤ 32767

theorem pairwise_concat_of_last {ids : List Stamp} {id last : Stamp}
    (increasing : ids.Pairwise (· < ·)) (isLast : ids.getLast? = some last) (above : last < id) :
    (ids ++ [id]).Pairwise (· < ·) := by
  obtain ⟨front, rfl⟩ := List.getLast?_eq_some_iff.mp isLast
  rw [← isChain_iff_pairwise] at increasing ⊢
  refine increasing.append (isChain_singleton id) ?_
  intro l lastIs x firstIs
  simp only [List.getLast?_append, List.getLast?_singleton, some_or, mem_def,
    some.injEq, List.head?_cons] at lastIs firstIs
  rw [← lastIs, ← firstIs]
  exact above

variable {cf : LocConf}

namespace Channel.Numbered

variable {c : Channel} {h : History}

theorem fewer (numbered : c.Numbered h) {left : List Msg} (maxMessages : Int)
    (part : left <:+ c.messages) :
    Channel.Numbered { c with messages := left, maxMessages := maxMessages } h where
  increasing := numbered.increasing
  fresh := fun none => ⟨(numbered.fresh none).1, by
    have empty := (numbered.fresh none).2
    rw [empty] at part
    exact suffix_nil.mp part⟩
  latest := numbered.latest
  tail := by
    intro l isLast
    obtain ⟨front, split⟩ := part
    refine numbered.tail l ?_
    rw [← split]
    rw [List.getLast?_append, isLast]
    rfl
  tag := numbered.tag

theorem note (numbered : c.Numbered h) {m : Msg} {maxMessages : Int}
    (above : h.published = [] ∨ c.latestMsgid < m.id) (tag : 0 ≤ m.id.tag ∧ m.id.tag ≤ 32767)
    (last : ∀ l ∈ buf.getLast?, l = m) :
    Channel.Numbered { c with messages := buf, maxMessages := maxMessages, latestMsgid := m.id }
      (h.note now cf (.published m)) where
  increasing := by
    simp only [History.note]
    cases before : h.published.getLast? with
    | none =>
      rw [List.getLast?_eq_none_iff] at before
      simp [before]
    | some id =>
      have latest := numbered.latest id before
      have follows : id < m.id := by
        rcases above with none | above
        · simp [none] at before
        · exact latest ▸ above
      exact pairwise_concat_of_last numbered.increasing before follows
  fresh := by simp [History.note]
  latest := by simp [History.note]
  tail := fun l isLast => by rw [last l isLast]
  tag := tag

theorem congr (numbered : c.Numbered h) {h' : History} (same : h'.published = h.published) :
    c.Numbered h' := by
  obtain ⟨increasing, fresh, latest, tail, tag⟩ := numbered
  rw [← same] at increasing fresh latest
  exact ⟨increasing, fresh, latest, tail, tag⟩

end Channel.Numbered

variable {c : Channel} {h : History}

theorem id_follows (numbered : c.Numbered h) {time tag : Int} (positive : time ≠ 0)
    (follows : h.published = [] ∨ c.latestMsgid.time < time ∨
      c.latestMsgid.time = time ∧ c.latestMsgid.tag < 32767)
    (same : c.latestMsgid.time = time → tag = Stamp.nextTag c.latestMsgid.tag)
    (other : c.latestMsgid.time ≠ time → tag = 0) :
    (h.published = [] ∨ c.latestMsgid < ⟨time, tag⟩) ∧ 0 ≤ tag ∧ tag ≤ 32767 := by
  rcases follows with none | later | ⟨sameSecond, room⟩
  · have zero : c.latestMsgid = ⟨0, 0⟩ := (numbered.fresh none).1
    rw [zero] at other
    have tag := other positive.symm
    exact ⟨.inl none, by omega⟩
  · have tag := other (ne_of_lt later)
    exact ⟨.inr (Stamp.lt_iff.mpr (.inl later)), by omega⟩
  · have next := same sameSecond
    have nonneg := numbered.tag.1
    rw [Stamp.nextTag_of_lt nonneg room] at next
    refine ⟨.inr (Stamp.lt_iff.mpr (.inr ⟨sameSecond, ?_⟩)), ?_⟩
    · simp only [next]
      omega
    · omega

theorem publish_numbered {msg : Msg} (numbered : c.Numbered h) (running : now ≠ 0)
    (backup : !cf.redisEnabled || cf.redisStorageMode = .backup) (untagged : msg.id.tag = 0)
    (follows : h.published = [] ∨ c.latestMsgid.time < publishTime now msg ∨
      c.latestMsgid.time = publishTime now msg ∧ c.latestMsgid.tag < 32767 ∧
        (cf.maxMessages = 0 ∨ gcMessages now cf.maxMessages c.messages ≠ [])) :
    ∃ result c', c.publish now cf msg = some (result, c') ∧
      c'.Numbered (h.note now cf result) := by
  have positive := publishTime_ne_zero running msg
  have follows' : h.published = [] ∨ c.latestMsgid.time < publishTime now msg ∨
      c.latestMsgid.time = publishTime now msg ∧ c.latestMsgid.tag < 32767 := by
    tauto
  by_cases unbuffered : cf.maxMessages = 0
  · obtain ⟨m, id, publishes⟩ : ∃ m, _ ∧ c.publish now cf msg = _ :=
      Channel.publish_unbuffered backup unbuffered running
    refine ⟨_, _, publishes, ?_⟩
    obtain ⟨above, tag⟩ := id_follows numbered positive follows' (fun same => if_pos same)
      fun other => (if_neg other).trans untagged
    rw [← id] at above
    exact numbered.note above (id ▸ tag) (by simp)
  · have collected := numbered.fewer cf.maxMessages
      (gcMessages_suffix now cf.maxMessages c.messages)
    obtain ⟨m, stamps⟩ : ∃ m, m = stampAfter now c.cf
      (gcMessages now cf.maxMessages c.messages).getLast?
      (fillMessageTimedata now (nchanLocConfMessageTimeout cf) msg) := ⟨_, rfl⟩
    rcases Channel.publish_buffered backup unbuffered running rfl stamps rfl with
      ⟨empty, publishes⟩ | ⟨isLast, publishes⟩
    · refine ⟨_, _, publishes, Channel.Numbered.congr (numbered.fewer _ ?_) rfl⟩
      rw [empty]
      exact nil_suffix
    · refine ⟨_, _, publishes, ?_⟩
      obtain ⟨time, sameSecond, newSecond⟩ := stampAfter_id now c.cf
        (gcMessages now cf.maxMessages c.messages).getLast?
        (fillMessageTimedata now (nchanLocConfMessageTimeout cf) msg)
      rw [← stamps, publishTime_filled] at time sameSecond newSecond
      rw [fillMessageTimedata_tag, untagged, ite_self] at newSecond
      have same : c.latestMsgid.time = publishTime now msg →
          m.id.tag = Stamp.nextTag c.latestMsgid.tag := by
        intro same
        -- the buffer is not empty, and its last message has the id given last
        have nonempty : gcMessages now cf.maxMessages c.messages ≠ [] := by
          rcases follows with none | later | ⟨-, -, zero | nonempty⟩
          · rw [(numbered.fresh none).1] at same
            exact absurd same.symm positive
          · omega
          · exact absurd zero unbuffered
          · exact nonempty
        obtain ⟨front, l, split⟩ :=
          (gcMessages now cf.maxMessages c.messages).eq_nil_or_concat'.resolve_left nonempty
        have last : (gcMessages now cf.maxMessages c.messages).getLast? = some l := by simp [split]
        have isLatest : l.id = c.latestMsgid := collected.tail l last
        rw [← isLatest] at same ⊢
        exact sameSecond l last same
      have other : c.latestMsgid.time ≠ publishTime now msg → m.id.tag = 0 := by
        intro different
        refine newSecond fun l last => ?_
        rw [show l.id = c.latestMsgid from collected.tail l last]
        exact different
      obtain ⟨above, tag⟩ := id_follows numbered positive follows' same other
      rw [← time] at above
      exact numbered.note above tag fun l lastIs => some.inj (lastIs.symm.trans isLast)

theorem step_numbered (op : Op) (s : Chanhead × History)
    (before : ∃ c, s.1.Implements c ∧ c.Numbered s.2) (follows : op.Follows s) :
    ∃ s', op.apply s = some s' ∧ ∃ c, s'.1.Implements c ∧ c.Numbered s'.2 := by
  obtain ⟨ch, h⟩ := s
  obtain ⟨c, impl, numbered⟩ := before
  cases op with
  | publish now address cf msg =>
    obtain ⟨promise, follows⟩ := follows
    have latest : ch.latestMsgid = c.latestMsgid := impl.latest
    simp only [MessageFollows, latest, impl.represents.messages_eq, ← gcMessages_ne_nil] at follows
    obtain ⟨result, c', publishes, numbered'⟩ := publish_numbered numbered promise.running
      promise.backup promise.untagged follows
    obtain ⟨ch', applied, impl'⟩ := apply_publish impl promise.fresh publishes
    exact ⟨_, applied, c', impl', numbered'⟩
  | gc now =>
    obtain ⟨ch', applied, impl'⟩ := apply_gc impl
    refine ⟨_, applied, c.gc now, impl', ?_⟩
    exact (numbered.fewer c.maxMessages (gcMessages_suffix _ _ _)).congr rfl
  | forceDelete =>
    obtain ⟨ch', applied, impl'⟩ := apply_forceDelete impl
    refine ⟨_, applied, c.forceDelete, impl', ?_⟩
    exact numbered.fewer c.maxMessages nil_suffix

/-- In every run whose publishes all follow, the ids given out increase strictly. -/
theorem published_ids_increasing (cf : LocConf) (ops : List Op)
    (follows : Along Op.apply Op.Follows ops (Chanhead.create cf, History.start)) :
    ∃ ch h, run Op.apply ops (Chanhead.create cf, History.start) = some (ch, h) ∧
      h.published.Pairwise (· < ·) := by
  have initial : ∃ c, (Chanhead.create cf).Implements c ∧ c.Numbered History.start := by
    refine ⟨Channel.create cf, create_implements cf, ?_⟩
    constructor <;> simp [History.start, Channel.create]
  obtain ⟨⟨ch, h⟩, runs, c, -, numbered⟩ :=
    run_keeps step_numbered initial follows
  exact ⟨ch, h, runs, numbered.increasing⟩

/-- Two buffered messages in one second. -/
theorem published_ids_increasing_same_second :
    let cf : LocConf := ⟨false, .backup, 60, 10⟩
    let msg : Msg := ⟨⟨0, 0⟩, ⟨0, 0⟩, 0⟩
    ∃ ch h, run Op.apply [.publish 5 0 cf msg, .publish 5 1 cf msg]
        (Chanhead.create cf, History.start) = some (ch, h) ∧ h.published.Pairwise (· < ·) := by
  intro cf msg
  refine published_ids_increasing cf _ ⟨⟨⟨by decide, rfl, rfl, rfl⟩, .inl rfl⟩, ?_⟩
  intro s applied
  cases applied
  refine ⟨⟨⟨by decide, rfl, rfl, rfl⟩, .inr (.inr ⟨rfl, by decide, .inr ?_⟩)⟩, fun _ _ => trivial⟩
  refine ⟨⟨⟨5, 0⟩, ⟨0, 0⟩, 65⟩, ?_, by decide⟩
  exact show _ ∈ [(⟨⟨5, 0⟩, ⟨0, 0⟩, 65⟩ : Msg)] from mem_cons_self

/-- A forced delete empties the buffer but not the second: the next message gets the
    id of the one before. -/
theorem forced_delete_repeats_id :
    let cf : LocConf := ⟨false, .backup, 60, 10⟩
    let msg : Msg := ⟨⟨0, 0⟩, ⟨0, 0⟩, 0⟩
    ∃ ch h, run Op.apply [.publish 5 0 cf msg, .forceDelete, .publish 5 1 cf msg]
        (Chanhead.create cf, History.start) = some (ch, h) ∧
      h.published = [⟨5, 0⟩, ⟨5, 0⟩] ∧ ¬ h.published.Pairwise (· < ·) :=
  ⟨_, _, rfl, rfl, by decide⟩

end Nchan.Memstore
