import Nchan.Memstore.MultiReplies
import Mathlib.Algebra.Order.BigOperators.Group.Finset

/-! # Resuming a multiplexed subscription is a merge

The one id of a multiplexed subscription stands for a position in each of its channels.
Answering the earliest of the next messages and moving the id past it leaves in every other
channel the same messages to come, although the id then has -1 for them.
-/

namespace Nchan.Memstore

open Nchan.Lib List MsgId
open Function (update update_idem update_of_ne update_self)

variable {n : Nat}

/-! ## Moving the id past a message -/

theorem setActiveTag_spec {id : MsgId} (counts : id.tagcount = n) (i : Fin n) (tag : Int) :
    (setActiveTag i tag id).time = id.time ∧ (setActiveTag i tag id).tagcount = n ∧
      (setActiveTag i tag id).tagactive = i ∧
      (setActiveTag i tag id).tags = update id.tags i.val tag := by
  have current : (if n > fixedMultitagMax then id.allocd else id.fixed) = id.tags := by
    rw [← counts]
    by_cases few : id.tagcount ≤ fixedMultitagMax
    · simp [tags, few]
    · simp [tags, few]
  refine ⟨by simp [setActiveTag], by simp [setActiveTag, counts], rfl, ?_⟩
  have written := tags_setTags id (update id.tags i.val tag)
  rw [counts] at written
  simp only [setActiveTag, current]
  exact written

theorem roomyId_spec (n : Nat) (stamp : Stamp) :
    (roomyId n stamp).time = stamp.time ∧ (roomyId n stamp).tagcount = n ∧
      (roomyId n stamp).tags 0 = stamp.tag := by
  have copied : (ofStamp stamp).copyMsgId (.ofStamp stamp) = .ofStamp stamp := rfl
  unfold roomyId
  rw [copied]
  by_cases many : n > fixedMultitagMax
  · simp [many, ofStamp, tags, Nat.not_le.mpr many]
  · simp [many, ofStamp, tags, Nat.le_of_not_lt many]

theorem multiMessageId_spec {msgId : MsgId} (i : Fin n) (m : Msg)
    (counts : msgId.time = m.id.time → msgId.tagcount = n) :
    ∃ id, multiMessageId msgId i m = some id ∧ id.time = m.id.time ∧ id.tagcount = n ∧
      id.tagactive = i ∧ id.tags = update
        (if msgId.time = m.id.time then msgId.tags else fun _ => -1) i.val m.id.tag := by
  by_cases same : msgId.time = m.id.time
  · have copied : ((ofStamp m.id).copyMsgId msgId).tagcount = n := by
      rw [copyMsgId_tagcount, counts same]
    obtain ⟨time, count, active, tags⟩ := setActiveTag_spec copied i m.id.tag
    rw [copyMsgId_time] at time
    rw [copyMsgId_tags] at tags
    refine ⟨_, ?_, time.trans same, count, active, ?_⟩
    · simp [multiMessageId, same]
    · rw [if_pos same, tags]
  · obtain ⟨roomTime, roomCount, roomTag⟩ := roomyId_spec n m.id
    have room : 0 < (roomyId n m.id).tagcount ∧ i.val < (roomyId n m.id).tagcount := by
      exact ⟨i.pos, i.isLt⟩
    obtain ⟨id, expanded, idTime, idCount, idTags⟩ := expandMultiTag_spec (-1) room
    obtain ⟨time, count, active, tags⟩ :=
      setActiveTag_spec (idCount.trans roomCount) i m.id.tag
    refine ⟨_, ?_, time.trans (idTime.trans roomTime), count, active, ?_⟩
    · simp [multiMessageId, same, expanded]
    · rw [if_neg same, tags, idTags, update_idem]

/-- What the subscriber's id is after the message: past it in its channel, and where it was in
    the others or at the end of the second before. -/
theorem multiMessageId_advances {msgId : MsgId} {i : Fin n} {m : Msg} (several : 2 ≤ n)
    (wf : msgId.WellFormed n) (time : 0 < m.id.time) (tag : 0 ≤ m.id.tag ∧ m.id.tag ≤ 32767)
    (past : msgId.position i < m.id) :
    ∃ id msgId', multiMessageId msgId i m = some id ∧ msgId.updateMultiMsgid id = some msgId' ∧
      msgId'.WellFormed n ∧ msgId'.position i = m.id ∧
      ∀ j : Fin n, j ≠ i → msgId'.position j =
        if msgId.time = m.id.time then msgId.position j else ⟨m.id.time - 1, 32767⟩ := by
  have positive : msgId.time = m.id.time → msgId.time ≠ oldestMsgidTime := by
    intro same oldest
    rw [← same, oldest] at time
    exact Int.lt_irrefl _ time
  obtain ⟨id, answered, idTime, idCount, active, tags⟩ := multiMessageId_spec i m fun same =>
    (wf.resolve_left (positive same)).2.1
  have manyTags : id.tagcount ≠ 1 := by omega
  -- either way the updated id has the tags of the answer's
  obtain ⟨msgId', updated, time', count', tags'⟩ : ∃ msgId',
      msgId.updateMultiMsgid id = some msgId' ∧ msgId'.time = m.id.time ∧ msgId'.tagcount = n ∧
      msgId'.tags = id.tags := by
    by_cases same : msgId.time = m.id.time
    · have advances : id.tags id.tagactive ≠ -1 → msgId.tags id.tagactive ≠ -1 →
          msgId.tags id.tagactive < id.tags id.tagactive := by
        rw [active, tags, update_self]
        intro _ set
        simp only [position, positive same, set, if_false, Stamp.lt_iff] at past
        omega
      obtain ⟨msgId', updated, time', count', tags'⟩ := updateMultiMsgid_of_eq manyTags
        (same.trans idTime.symm) ((wf.resolve_left (positive same)).2.1.trans idCount.symm) advances
      refine ⟨msgId', updated, time'.trans idTime, count'.trans idCount, tags'.trans ?_⟩
      funext k
      rw [tags, if_pos same]
      by_cases here : k = i
      · simp [mergeTags, here]
        omega
      · simp [mergeTags, here]
    · obtain ⟨msgId', updated, time', count', tags'⟩ :=
        updateMultiMsgid_of_ne manyTags (idTime ▸ same)
      exact ⟨msgId', updated, time'.trans idTime, count'.trans idCount, tags'⟩
  have notOldest : m.id.time ≠ oldestMsgidTime := Int.ne_of_gt time
  rw [tags] at tags'
  refine ⟨id, msgId', answered, updated, .inr ⟨time' ▸ time, count', fun k inRange => ?_⟩, ?_, ?_⟩
  · rw [tags']
    by_cases here : k = i
    · simp [here]
      omega
    · rw [update_of_ne here]
      by_cases same : msgId.time = m.id.time
      · simpa [same] using (wf.resolve_left (positive same)).2.2 k inRange
      · simp [same]
  · have set : m.id.tag ≠ -1 := by omega
    simp [position, notOldest, tags', set, time']
  · intro j other
    have apart : j.val ≠ i.val := fun equal => other (Fin.ext equal)
    by_cases same : msgId.time = m.id.time
    · simp [position, tags', update_of_ne apart, same, time']
    · simp [position, notOldest, tags', update_of_ne apart, same, time']

/-! ## The best of the replies -/

/-- The replies that channels give: a message is found, or there is none. -/
def MultiReply.Sane (reply : MultiReply n) : Prop :=
  match reply.msg with
  | some _ => reply.status = .found
  | none => reply.status = .expected ∨ reply.status = .notfound

/-- The status without a message, having begun with `initial`. -/
@[simp] def emptyStatus (initial : MsgStatus) (seen : List (MultiReply n)) : MsgStatus :=
  if initial ≠ .pending then .expected
  else if seen = [] then .pending
  else if seen.all (·.status = .notfound) then .notfound
  else .expected

/-- The callback's data after the replies `seen`. -/
structure GetMultiMessage.Best (initial : MsgStatus) (seen : List (MultiReply n))
    (d : GetMultiMessage n) : Prop where
  none_found : d.msg = none →
    (∀ reply ∈ seen, reply.msg = none) ∧ d.msgStatus = emptyStatus initial seen
  found : ∀ i m, d.msg = some (i, m) → d.msgStatus = .found ∧
    (∃ reply ∈ seen, reply.n = i ∧ reply.msg = some m) ∧
    ∀ reply ∈ seen, ∀ b, reply.msg = some b → rank Msg.id (i, m) ≤ rank Msg.id (reply.n, b)

theorem emptyStatus_eq_lastStatus {initial : MsgStatus}
    (known : initial = .pending ∨ initial = .expected) {seen : List (MultiReply n)}
    (sane : ∀ reply ∈ seen, reply.Sane) (none : ∀ reply ∈ seen, reply.msg = none) :
    emptyStatus initial seen = lastStatus initial seen := by
  have status : ∀ reply ∈ seen, reply.status = .expected ∨ reply.status = .notfound := by
    intro reply on
    simpa [MultiReply.Sane, none reply on] using sane reply on
  rcases known with rfl | rfl
  · by_cases gone : seen.all (·.status = .notfound)
    · have never : ¬ ∃ reply ∈ seen, reply.status = .expected := by
        rintro ⟨reply, on, expected⟩
        simpa [expected] using all_eq_true.mp gone reply on
      cases last : seen.getLast? with
      | none => simp [List.getLast?_eq_none_iff.mp last]
      | some reply =>
        have on := mem_of_getLast? last
        have notfound : reply.status = .notfound := by
          simpa using all_eq_true.mp gone reply on
        simp [gone, never, last, notfound, ne_nil_of_mem on]
    · obtain ⟨reply, on, other⟩ : ∃ reply ∈ seen, reply.status ≠ .notfound := by
        simpa using gone
      have expected : ∃ reply ∈ seen, reply.status = .expected :=
        ⟨reply, on, (status reply on).resolve_right other⟩
      simp [gone, expected, ne_nil_of_mem on]
  · simp

theorem GetMultiMessage.Best.of_replies {initial : MsgStatus}
    (known : initial = .pending ∨ initial = .expected) (wantedMsgid : MsgId)
    (replies : List (MultiReply n)) (sane : ∀ reply ∈ replies, reply.Sane ∧
      ∀ m, reply.msg = some m → wantedMsgid.time ≤ m.id.time) :
    ∃ d : GetMultiMessage n, replies.foldlM (multiMessageCallback wantedMsgid) ⟨initial, none⟩ =
      some d ∧ d.Best initial replies := by
  have inTime : ∀ reply ∈ replies, reply.InTime wantedMsgid := fun reply on m has =>
    ⟨by simpa [MultiReply.Sane, has] using (sane reply on).1, (sane reply on).2 m has⟩
  obtain ⟨d, folded, best⟩ := (GetMultiMessage.Earliest.begin initial).fold wantedMsgid replies inTime
  refine ⟨d, folded, fun holds => ?_, best.found⟩
  obtain ⟨none, status⟩ := best.none_found holds
  refine ⟨none, status.trans (emptyStatus_eq_lastStatus known ?_ none).symm⟩
  exact fun reply on => (sane reply on).1

/-! ## One request -/

/-- A channel whose log is sorted, with an internal subscriber that has seen nothing or all. -/
structure MultiChannel.Ok (ch : MultiChannel) : Prop where
  sorted : ch.messages.Pairwise (·.id < ·.id)
  stamped : ∀ m ∈ ch.messages, 0 < m.id.time ∧ 0 ≤ m.id.tag ∧ m.id.tag ≤ 32767
  last : ch.lastMsgid.time = 0 ∨ ch.lastMsgid.time = -1 ∨
    ∃ m, ch.messages.getLast? = some m ∧ ch.lastMsgid = m.id

variable {chans : Fin n → MultiChannel} {msgId : MsgId}

/-- The messages that are still to come. -/
def remaining (chans : Fin n → MultiChannel) (msgId : MsgId) (i : Fin n) : List Msg :=
  (chans i).messages.filter (msgId.position i < ·.id)

/-- A channel with nothing in it, for a subscriber that is not at the beginning of time. -/
def Nothing (chans : Fin n → MultiChannel) (msgId : MsgId) (i : Fin n) : Prop :=
  (chans i).messages = [] ∧ (msgId.position i).time ≠ 0 ∧ (chans i).maxMessages ≠ 0

instance (i : Fin n) : Decidable (Nothing chans msgId i) := by
  unfold Nothing
  infer_instance

@[simp] def replyOf (chans : Fin n → MultiChannel) (msgId : MsgId) (i : Fin n) : MultiReply n :=
  ⟨i, if (remaining chans msgId i).head?.isSome then .found
    else if Nothing chans msgId i then .notfound else .expected, (remaining chans msgId i).head?⟩

section

variable (ok : ∀ i, (chans i).Ok)

include ok

theorem multiReply_eq (wf : msgId.WellFormed n) (i : Fin n) :
    multiReply chans (i, msgId.position i) = some (replyOf chans msgId i) := by
  unfold multiReply MultiChannel.getMessage
  rw [findNext_of_sorted (ok i).sorted (wf.position_bounds i.isLt).1]
  rfl

theorem remaining_sorted (i : Fin n) :
    (remaining chans msgId i).Pairwise (·.id < ·.id) :=
  (ok i).sorted.filter _

omit ok in
theorem mem_remaining {i : Fin n} {m : Msg} :
    m ∈ remaining chans msgId i ↔ m ∈ (chans i).messages ∧ msgId.position i < m.id := by
  simp [remaining]

theorem replyOf_sane (wf : msgId.WellFormed n) (i : Fin n) :
    (replyOf chans msgId i).Sane ∧
      ∀ m, (replyOf chans msgId i).msg = some m → msgId.time ≤ m.id.time := by
  constructor
  · cases first : (remaining chans msgId i).head? with
    | some m => simp [MultiReply.Sane, first]
    | none =>
      by_cases nothing : Nothing chans msgId i
      · simp [MultiReply.Sane, first, nothing]
      · simp [MultiReply.Sane, first, nothing]
  · intro m first
    obtain ⟨on, after⟩ := mem_remaining.mp (mem_of_mem_head? first)
    exact (wf.position_bounds i.isLt).2.2.2 m.id ((ok i).stamped m on).2.2 after

def wantedChannels (chans : Fin n → MultiChannel) (msgId : MsgId) : List (Fin n) :=
  (List.finRange n).filter fun i =>
    msgId.time = 0 ∨ wantMsg (chans i).lastMsgid (msgId.position i)

omit ok in
theorem wantedMsgids_eq (wf : msgId.WellFormed n) :
    wantedMsgids chans msgId = some
      ((wantedChannels chans msgId).map fun i : Fin n => (i, msgId.position i)) := by
  have extracted : (fun i : Fin n => (msgId.extractFromMultiMsgid i).map fun req => (i, req)) =
      fun i : Fin n => pure (i, msgId.position i) := by
    funext i
    rw [wf.extract i.isLt]
    rfl
  unfold wantedMsgids wantedChannels
  rw [extracted, mapM_pure]
  by_cases all : msgId.time = 0
  · simp [all]
  · simp [all, filter_map, Function.comp_def]

theorem unwanted {i : Fin n} (not : i ∉ wantedChannels chans msgId) :
    remaining chans msgId i = [] ∧ (chans i).messages ≠ [] := by
  simp only [wantedChannels, mem_filter, mem_finRange, true_and, decide_eq_true_eq,
    wantMsg] at not
  cases (ok i).last with
  | inl unset => omega
  | inr rest =>
    cases rest with
    | inl unset => omega
    | inr latest =>
      obtain ⟨m, last, is⟩ := latest
      have past : m.id < msgId.position i := by
        rw [Stamp.lt_iff, ← is]
        omega
      obtain ⟨front, split⟩ := List.getLast?_eq_some_iff.mp last
      refine ⟨filter_eq_nil_iff.mpr fun a on => ?_, by simp [split]⟩
      have upTo : a.id ≤ m.id := by
        have sorted := (ok i).sorted
        rw [split] at on sorted
        cases mem_append.mp on with
        | inl before =>
          exact ((pairwise_append.mp sorted).2.2 a before m (mem_singleton_self m)).le
        | inr isLast => exact (mem_singleton.mp isLast) ▸ le_rfl
      simpa using (upTo.trans_lt past).le

theorem arrived_replies (wf : msgId.WellFormed n)
    {arrived : List (Fin n × Stamp)}
    (perm : arrived.Perm ((wantedChannels chans msgId).map fun i : Fin n => (i, msgId.position i))) :
    ∃ order : List (Fin n), order.Perm (wantedChannels chans msgId) ∧
      arrived.mapM (multiReply chans) = some (order.map (replyOf chans msgId)) := by
  have paired : arrived = (arrived.map Prod.fst).map fun i : Fin n => (i, msgId.position i) := by
    rw [map_map]
    refine (map_id _).symm.trans (map_congr_left fun x on => ?_)
    obtain ⟨i, _, rfl⟩ := mem_map.mp (perm.mem_iff.mp on)
    rfl
  refine ⟨arrived.map Prod.fst, ?_, ?_⟩
  · simpa [Function.comp_def] using perm.map Prod.fst
  · have replied : multiReply chans ∘ (fun i : Fin n => (i, msgId.position i)) =
        fun i => pure (replyOf chans msgId i) := funext fun i => multiReply_eq ok wf i
    rw [paired, mapM_map, replied, mapM_pure]
    simp

/-- What the last request is answered. -/
def finalStatus (chans : Fin n → MultiChannel) (msgId : MsgId) : MsgStatus :=
  if ∀ i, Nothing chans msgId i then .notfound else .expected

omit ok in
theorem finalStatus_expected {i : Fin n} (nonempty : (chans i).messages ≠ []) :
    finalStatus chans msgId = .expected :=
  if_neg fun nothing => nonempty (nothing i).1

theorem emptyStatus_final {order : List (Fin n)}
    (asked : order.Perm (wantedChannels chans msgId)) (some : order ≠ [])
    (none : ∀ i, remaining chans msgId i = []) :
    emptyStatus (if (wantedChannels chans msgId).length = n then .pending else .expected)
      (order.map (replyOf chans msgId)) = finalStatus chans msgId := by
  have status : ∀ i, (replyOf chans msgId i).status = .notfound ↔ Nothing chans msgId i := by
    intro i
    by_cases nothing : Nothing chans msgId i
    · simp [none i]
    · simp [none i]
  by_cases all : (wantedChannels chans msgId).length = n
  · -- every channel was asked
    have everyone : ∀ i, i ∈ order := by
      have whole : wantedChannels chans msgId = List.finRange n :=
        filter_sublist.eq_of_length (by simpa [wantedChannels] using all)
      intro i
      rw [asked.mem_iff, whole]
      exact mem_finRange i
    have agree : (order.map (replyOf chans msgId)).all (·.status = .notfound) ↔
        ∀ i, Nothing chans msgId i := by
      simp only [all_map, all_eq_true, Function.comp, decide_eq_true_eq, status]
      exact ⟨fun gone i => gone i (everyone i), fun gone i _ => gone i⟩
    simp only [emptyStatus, all, if_true, ne_eq, not_true_eq_false, if_false, map_eq_nil_iff,
      some, agree, finalStatus]
  · -- one that was not asked has messages
    obtain ⟨i, not⟩ : ∃ i, i ∉ wantedChannels chans msgId := by
      by_contra none
      refine all (Nat.le_antisymm ?_ ?_)
      · simpa [wantedChannels] using (filter_sublist (l := List.finRange n)).length_le
      · have whole : List.finRange n ⊆ wantedChannels chans msgId := fun i _ =>
          not_not.mp fun not => none ⟨i, not⟩
        simpa using (nodup_finRange n).length_le_of_subset whole
    rw [finalStatus_expected (unwanted ok not).2]
    simp [all]

/-- A request is answered with the earliest message that is still to come, or with the final
    status if there is none. -/
theorem getMultiMessage_spec (wf : msgId.WellFormed n)
    (channels : 0 < n) {arrive : List (Fin n × Stamp) → List (Fin n × Stamp)}
    (perm : ∀ wanted, (arrive wanted).Perm wanted) :
    (∃ i m, (remaining chans msgId i).head? = some m ∧
      (∀ j b, (remaining chans msgId j).head? = some b → rank Msg.id (i, m) ≤ rank Msg.id (j, b)) ∧
      ∀ id, multiMessageId msgId i m = some id → ∃ ret, ret.n = i ∧ ret.msg = m ∧ ret.id = id ∧
        getMultiMessage chans arrive msgId = some (.found, some ret)) ∨
    (∀ i, remaining chans msgId i = []) ∧
      getMultiMessage chans arrive msgId = some (finalStatus chans msgId, none) := by
  by_cases idle : wantedChannels chans msgId = []
  · have allUnwanted : ∀ i, i ∉ wantedChannels chans msgId := by simp [idle]
    refine .inr ⟨fun i => (unwanted ok (allUnwanted i)).1, ?_⟩
    rw [finalStatus_expected (unwanted ok (allUnwanted ⟨0, channels⟩)).2]
    simp [getMultiMessage, wantedMsgids_eq wf, idle]
  -- the replies come in, and the best of them is kept
  obtain ⟨order, asked, replied⟩ := arrived_replies ok wf (perm _)
  have someAsked : order ≠ [] := fun none => idle (nil_perm.mp (none ▸ asked))
  have known : (if (wantedChannels chans msgId).length = n then MsgStatus.pending else .expected) =
      .pending ∨ (if (wantedChannels chans msgId).length = n then MsgStatus.pending else .expected) =
      .expected := by
    split <;> simp
  obtain ⟨d, folded, best⟩ :=
    GetMultiMessage.Best.of_replies known msgId (order.map (replyOf chans msgId)) fun reply on => by
      obtain ⟨i, _, rfl⟩ := mem_map.mp on
      exact replyOf_sane ok wf i
  have answer : getMultiMessage chans arrive msgId = multiMessageRespond msgId d := by
    simp [getMultiMessage, wantedMsgids_eq wf, idle, replied, folded]
  have replyOf_mem : ∀ j b, (remaining chans msgId j).head? = some b →
      replyOf chans msgId j ∈ order.map (replyOf chans msgId) := by
    intro j b first
    refine mem_map_of_mem (asked.mem_iff.mpr (not_not.mp fun not => ?_))
    simp [(unwanted ok not).1] at first
  cases holds : d.msg with
  | none =>
    obtain ⟨none, status⟩ := best.none_found holds
    have exhausted : ∀ i, remaining chans msgId i = [] := by
      intro i
      cases first : (remaining chans msgId i).head? with
      | none => exact List.head?_eq_none_iff.mp first
      | some b => exact absurd (none _ (replyOf_mem i b first)) (by simp [first])
    refine .inr ⟨exhausted, ?_⟩
    rw [answer, multiMessageRespond, holds, status, emptyStatus_final ok asked someAsked exhausted]
  | some bestMsg =>
    obtain ⟨i, m⟩ := bestMsg
    obtain ⟨found, ⟨reply, on, rfl, has⟩, least⟩ := best.found i m holds
    obtain ⟨i, _, rfl⟩ := mem_map.mp on
    refine .inl ⟨i, m, has, fun j b first => least _ (replyOf_mem j b first) b first, ?_⟩
    intro id ofId
    refine ⟨⟨i, m, id, (ofStamp m.prevId).copyMsgId msgId⟩, rfl, rfl, rfl, ?_⟩
    have ofReply : multiMessageId msgId (replyOf chans msgId i).n m = some id := ofId
    simp only [answer, multiMessageRespond, holds, ofReply, Option.map_some, found]
    rfl

/-! ## Until there is nothing to come -/

/-- Moving the id past the earliest message takes that message from what is to come, and nothing
    else, in the channels that the id has lost track of too. -/
theorem remaining_advanced (wf : msgId.WellFormed n) {msgId' : MsgId}
    {i : Fin n} {m : Msg} {rest : List Msg} (head : remaining chans msgId i = m :: rest)
    (least : ∀ j b, (remaining chans msgId j).head? = some b →
      rank Msg.id (i, m) ≤ rank Msg.id (j, b))
    (here : msgId'.position i = m.id)
    (others : ∀ j : Fin n, j ≠ i → msgId'.position j =
      if msgId.time = m.id.time then msgId.position j else ⟨m.id.time - 1, 32767⟩) :
    remaining chans msgId' = update (remaining chans msgId) i rest := by
  have onLog := mem_remaining.mp (head ▸ mem_cons_self : m ∈ remaining chans msgId i)
  funext j
  by_cases same : j = i
  · -- what comes after `m` in its channel
    subst same
    rw [update_self]
    have sorted : (m :: rest).Pairwise (·.id < ·.id) := head ▸ remaining_sorted ok j
    have after : remaining chans msgId' j = (m :: rest).filter (m.id < ·.id) := by
      rw [← head, remaining, remaining, filter_filter, here]
      refine filter_congr fun a _ => ?_
      by_cases later : m.id < a.id
      · simp [onLog.2.trans later]
      · simp [later]
    rw [after, filter_cons_of_neg (by simp)]
    exact filter_eq_self.mpr fun a on => by simpa using rel_of_pairwise_cons sorted on
  · rw [update_of_ne same]
    by_cases sameTime : msgId.time = m.id.time
    · rw [remaining, remaining, others j same, if_pos sameTime]
    · -- nothing lies between the old position and the end of the second before `m`
      refine filter_congr fun a on => ?_
      rw [others j same, if_neg sameTime, decide_eq_decide]
      obtain ⟨-, notPast, tagBound, -⟩ := wf.position_bounds j.isLt
      have mTime := (wf.position_bounds i.isLt).2.2.2 m.id ((ok i).stamped m onLog.1).2.2 onLog.2
      constructor
      · intro later
        rw [Stamp.lt_iff] at later ⊢
        simp only at later
        omega
      · intro later
        have toCome : a ∈ remaining chans msgId j := mem_remaining.mpr ⟨on, later⟩
        obtain ⟨b, tail, cons⟩ := exists_cons_of_ne_nil (ne_nil_of_mem toCome)
        have first : m.id ≤ b.id := by
          cases rank_le_iff.mp (least j b (by rw [cons]; rfl)) with
          | inl lt => exact lt.le
          | inr eq => exact eq.1.le
        have onward : b.id ≤ a.id := by
          have sorted : (remaining chans msgId j).Pairwise (·.id < ·.id) := remaining_sorted ok j
          rw [cons] at toCome sorted
          cases mem_cons.mp toCome with
          | inl is => exact is ▸ le_rfl
          | inr inTail => exact (rel_of_pairwise_cons sorted inTail).le
        have upTo := first.trans onward
        rw [Stamp.le_iff] at upTo
        rw [Stamp.lt_iff]
        simp only
        omega

theorem resumeMulti_merges (several : 2 ≤ n)
    {arrive : Nat → List (Fin n × Stamp) → List (Fin n × Stamp)}
    (perm : ∀ round wanted, (arrive round wanted).Perm wanted) (fuel round : Nat) (msgId : MsgId)
    (wf : msgId.WellFormed n) (enough : ∑ i, (remaining chans msgId i).length < fuel) :
    ∃ out, resumeMulti chans arrive fuel round msgId = some (out, finalStatus chans msgId) ∧
      Merges Msg.id (remaining chans msgId) out := by
  induction fuel generalizing round msgId with
  | zero => omega
  | succ fuel ih =>
    cases getMultiMessage_spec ok wf (by omega) (perm round) with
    | inr done =>
      obtain ⟨exhausted, answer⟩ := done
      exact ⟨[], by simp [resumeMulti, answer], .done exhausted⟩
    | inl next =>
      obtain ⟨i, m, first, least, answers⟩ := next
      obtain ⟨rest, head⟩ := List.head?_eq_some_iff.mp first
      have onLog := mem_remaining.mp (head ▸ mem_cons_self : m ∈ remaining chans msgId i)
      have stamped := (ok i).stamped m onLog.1
      obtain ⟨id, msgId', ofId, updated, wf', here, others⟩ :=
        multiMessageId_advances several wf stamped.1 stamped.2 onLog.2
      obtain ⟨ret, rfl, rfl, rfl, answer⟩ := answers id ofId
      have left := remaining_advanced ok wf head least here others
      have fewer := sum_length_update head
      rw [← left] at fewer
      obtain ⟨out, resumed, merges⟩ := ih (round + 1) msgId' wf' (by omega)
      have nonempty : (chans ret.n).messages ≠ [] := ne_nil_of_mem onLog.1
      refine ⟨(ret.n, ret.msg) :: out, ?_, .take head least (left ▸ merges)⟩
      rw [finalStatus_expected nonempty] at resumed ⊢
      simp [resumeMulti, answer, updated, resumed]

end

/-- Resuming a subscription to several channels passes every message after the starting position
    once, by time, then tag, then channel, whatever the order in which the channels reply.  Then
    it is answered `MSG_EXPECTED`, but `MSG_NOTFOUND` if all channels keep messages, have none and
    the subscriber has not started at the beginning of time in any of them. -/
theorem resume_multi_is_merge (chans : Fin n → MultiChannel) (ok : ∀ i, (chans i).Ok)
    (several : 2 ≤ n) (arrive : Nat → List (Fin n × Stamp) → List (Fin n × Stamp))
    (perm : ∀ round wanted, (arrive round wanted).Perm wanted) (start : MsgId)
    (wf : start.WellFormed n) (fuel : Nat) (enough : ∑ i, (chans i).messages.length < fuel) :
    ∃ position : Fin n → Stamp, (∀ i : Fin n, start.extractFromMultiMsgid i = some (position i)) ∧
      ∃ out, resumeMulti chans arrive fuel 0 start = some (out,
          if ∀ i, (chans i).messages = [] ∧ (position i).time ≠ 0 ∧ (chans i).maxMessages ≠ 0
          then .notfound else .expected) ∧
        out.Pairwise (fun x y => x.2.id < y.2.id ∨ x.2.id = y.2.id ∧ x.1 < y.1) ∧
        ∀ i, (out.filter (·.1 = i)).map (·.2) =
          (chans i).messages.filter (position i < ·.id) := by
  have fits : ∑ i, (remaining chans start i).length < fuel :=
    lt_of_le_of_lt (Finset.sum_le_sum fun i _ => length_filter_le ..) enough
  obtain ⟨out, resumed, merges⟩ := resumeMulti_merges ok several perm fuel 0 start wf fits
  refine ⟨fun i => start.position i, fun i => wf.extract i.isLt, out, ?_, ?_, merges.of_source⟩
  · rw [resumed, finalStatus]
    rfl
  · exact (merges.sorted (remaining_sorted ok)).imp fun lt => Prod.Lex.toLex_lt_toLex.mp lt

/-- Two channels that both have a message in the second 5. -/
def twoChannels : Fin 2 → MultiChannel
  | 0 => ⟨10, [⟨⟨5, 0⟩, ⟨0, 0⟩, 99⟩, ⟨⟨5, 1⟩, ⟨5, 0⟩, 99⟩, ⟨⟨7, 0⟩, ⟨5, 1⟩, 99⟩], ⟨-1, 0⟩⟩
  | 1 => ⟨10, [⟨⟨5, 0⟩, ⟨0, 0⟩, 99⟩, ⟨⟨6, 0⟩, ⟨5, 0⟩, 99⟩], ⟨6, 0⟩⟩

def pastFirst : MsgId := ⟨5, fun i => if i = 0 then 0 else -1, fun _ => 0, 0, 2⟩

theorem twoChannels_ok (i : Fin 2) : (twoChannels i).Ok := by
  match i with
  | 0 => exact ⟨by decide, by decide, .inr (.inl rfl)⟩
  | 1 => exact ⟨by decide, by decide, .inr (.inr ⟨_, rfl, rfl⟩)⟩

theorem resume_multi_is_merge_two :
    ∃ position : Fin 2 → Stamp,
      (∀ i : Fin 2, pastFirst.extractFromMultiMsgid i = some (position i)) ∧
      ∃ out, resumeMulti twoChannels (fun _ => List.reverse) 6 0 pastFirst = some (out,
          if ∀ i, (twoChannels i).messages = [] ∧ (position i).time ≠ 0 ∧
            (twoChannels i).maxMessages ≠ 0 then .notfound else .expected) ∧
        out.Pairwise (fun x y => x.2.id < y.2.id ∨ x.2.id = y.2.id ∧ x.1 < y.1) ∧
        ∀ i, (out.filter (·.1 = i)).map (·.2) =
          (twoChannels i).messages.filter (position i < ·.id) := by
  refine resume_multi_is_merge twoChannels twoChannels_ok (by decide) _
    (fun _ wanted => reverse_perm wanted) pastFirst (.inr ⟨by decide, rfl, ?_⟩) 6 (by decide)
  intro i inRange
  match i with
  | 0 => decide
  | 1 => decide

def emptyChannels : Fin 2 → MultiChannel := fun _ => ⟨10, [], ⟨-1, 0⟩⟩

/-- A subscriber of empty channels with an id of its own is not told to expect a message. -/
theorem resume_empty_not_found :
    (∀ i, (emptyChannels i).Ok) ∧ pastFirst.WellFormed 2 ∧
      resumeMulti emptyChannels (fun _ wanted => wanted) 1 0 pastFirst = some ([], .notfound) := by
  refine ⟨fun i => ⟨.nil, nofun, .inr (.inl rfl)⟩, .inr ⟨by decide, rfl, ?_⟩, rfl⟩
  intro i inRange
  match i with
  | 0 => decide
  | 1 => decide

end Nchan.Memstore
