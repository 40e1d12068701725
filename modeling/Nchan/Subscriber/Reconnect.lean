import Nchan.MsgIdText
import Nchan.Memstore.MultiMerge
import Nchan.Lib.Run

/-! # Reconnecting with an advertised id

A subscriber to several channels is told an id with each message and reconnects with it.  Some
responses tell the id that the subscriber has got to, in which the tags of all channels are
merged, others the message's own.  A message that is passed on as it is published has -1 for all
the other channels, so that its own id is before what the others had in that second.
-/

namespace Nchan.Subscriber

open Nchan.Lib Nchan.Memstore List MsgId IdRequest Int Run
open Function (update update_of_ne update_self)

variable {n : Nat}

/-! ## Telling ids -/

inductive Encoder where
  | eventsource
  /-- A WebSocket with the subprotocol `ws+meta.nchan`. -/
  | websocketMeta
  | httpMultipart
  | longpollMultipart

/-- The characters in the `charbuf` of `headerbuf_t`. -/
abbrev headerbufSize : Nat := 58 + 10 * fixedMultitagMax

/-- The headers of a part in `multipart_respond_message`: how much they take with the id and the
    end of the headers, which is after a content type of so many characters if there is one.
    What does not fit is written past the buffer. -/
def partFits (idHeaders : Nat) (contentType : Option Nat) : Prop :=
  idHeaders + (match contentType with
    | none => 2
    | some length => min 255 (18 + length)) ≤ headerbufSize

instance (idHeaders : Nat) (contentType : Option Nat) :
    Decidable (partFits idHeaders contentType) := by
  unfold partFits
  infer_instance

/-- `Last-Modified` and its date, and `Etag`. -/
abbrev twoHeaders (tags : Nat) : Nat := 17 + 29 + 2 + 6 + tags + 2

/-- `Etag` alone. -/
abbrev etagHeader (text : Nat) : Nat := 2 + 6 + text + 2

/-- What a client says that was told an id by `multipart_respond_message`. -/
def multipartRequest (cf : IdConf) (id : MsgId) (contentType : Option Nat) : Option IdRequest :=
  if cf.msgInEtagOnly then
    id.msgidToStr.bind fun text =>
      if partFits (etagHeader text.length) contentType then some { ifNoneMatch := some text }
      else none
  else
    id.msgtagToStr.bind fun tags =>
      if partFits (twoHeaders tags.length) contentType then
        some { ifModifiedSince := some id.time, ifNoneMatch := some tags }
      else none

/-- And by `nchan_set_msgid_http_response_headers`. -/
def responseRequest (cf : IdConf) (id : MsgId) : Option IdRequest :=
  if cf.msgInEtagOnly then id.msgidToStr.map fun text => { ifNoneMatch := some text }
  else
    id.msgtagToStr.map fun tags =>
      if id.time > 0 then { ifModifiedSince := some id.time, ifNoneMatch := some tags } else {}

/-- Is it the message's own id that is told?  `longpoll_multipart_respond` tells that of the last
    message, but the subscriber's if there is only one. -/
def Encoder.tellsOwn (encoder : Encoder) (first : Bool) : Bool :=
  match encoder with
  | .eventsource | .websocketMeta => false
  | .httpMultipart => true
  | .longpollMultipart => !first

/-- What a client says when it reconnects after a message: the id is sent back where the
    response says so. -/
def Encoder.request (encoder : Encoder) (cf : IdConf) (first : Bool) (lastMsgid own : MsgId)
    (contentType : Option Nat) : Option IdRequest :=
  let id := if encoder.tellsOwn first then own else lastMsgid
  match encoder with
  | .eventsource => id.msgidToStr.map fun text => { lastMessageId := [text, []] }
  | .websocketMeta => id.msgidToStr.map fun text => { lastMessageId := [[], text] }
  | .httpMultipart => multipartRequest cf id contentType
  | .longpollMultipart => responseRequest cf id

/-! ## A subscription -/

/-- A subscriber, with what is to come in each channel. -/
structure Subscription (n : Nat) where
  lastMsgid : MsgId
  upcoming : Fin n → List Msg
  delivered : List (Fin n × Msg) := []
  request : Option IdRequest := none

inductive Arrival (n : Nat) where
  /-- It is published, and passed on by the internal subscriber of its channel. -/
  | live (i : Fin n) (contentType : Option Nat)
  | fetched (contentType : Option Nat)

/-- The id that `sub_respond_message` of `memstore_multi.c` gives a message. -/
def liveId (i : Fin n) (m : Msg) : Option MsgId :=
  ((roomyId n m.id).expandMultiTag 0 i (-1)).map fun id => { id with tagactive := i }

variable (chans : Fin n → MultiChannel)
  (arrive : Nat → List (Fin n × Stamp) → List (Fin n × Stamp)) (cf : IdConf) (encoder : Encoder)

namespace Subscription

/-- `respond_message` of the subscriber. -/
def respondMessage (i : Fin n) (m : Msg) (own : MsgId) (contentType : Option Nat)
    (s : Subscription n) : Option (Subscription n) :=
  (s.lastMsgid.updateMultiMsgid own).map fun lastMsgid =>
    { lastMsgid := lastMsgid
      upcoming := update s.upcoming i (s.upcoming i).tail
      delivered := s.delivered ++ [(i, m)]
      request := encoder.request cf s.delivered.isEmpty lastMsgid own contentType }

/-- One message.  Who starts with `NEWEST` fetches nothing. -/
def arrival (op : Arrival n) (s : Subscription n) : Option (Subscription n) :=
  match op with
  | .live i contentType =>
    match s.upcoming i with
    | [] => none
    | m :: _ => (liveId i m).bind fun own => s.respondMessage cf encoder i m own contentType
  | .fetched contentType =>
    if s.lastMsgid.time = newestMsgidTime then none
    else
      (getMultiMessage chans (arrive s.delivered.length) s.lastMsgid).bind fun (_, msg) =>
        msg.bind fun ret => s.respondMessage cf encoder ret.n ret.msg ret.id contentType

end Subscription

/-! ## Arrivals after which nothing is lost -/

def nextTags (id : MsgId) (stamp : Stamp) : Nat → Int :=
  if id.time = stamp.time then id.tags else fun _ => -1

/-- The id fits where it is written, and where it is read. -/
def Encoder.Fits (encoder : Encoder) (n : Nat) (contentType : Option Nat) (time : Int)
    (tags : Nat → Int) : Prop :=
  match encoder with
  | .eventsource | .websocketMeta =>
    digitCount time.toNat + 1 + tagsWidth n tags ≤ lastMessageIdMax
  | .httpMultipart =>
    if cf.msgInEtagOnly then
      partFits (etagHeader (digitCount time.toNat + 1 + tagsWidth n tags)) contentType
    else partFits (twoHeaders (tagsWidth n tags)) contentType
  | .longpollMultipart => True

instance (n : Nat) (contentType : Option Nat) (time : Int) (tags : Nat → Int) :
    Decidable (encoder.Fits cf n contentType time tags) := by
  unfold Encoder.Fits
  split <;> infer_instance

/-- A message is published when no other channel has one of an earlier second to come.  If it is
    the subscriber's first of its second, or if it is its own id that is told, then no other
    channel has one of the second that is not to come.  And the id fits. -/
def Lossless (op : Arrival n) (s : Subscription n) : Prop :=
  match op with
  | .live i contentType => ∃ m rest, s.upcoming i = m :: rest ∧
      (∀ j ≠ i, ∀ b ∈ s.upcoming j, m.id.time ≤ b.id.time) ∧
      (s.lastMsgid.time ≠ m.id.time ∨ encoder.tellsOwn s.delivered.isEmpty = true →
        ∀ j ≠ i, ∀ b ∈ (chans j).messages, m.id.time ≤ b.id.time → b ∈ s.upcoming j) ∧
      encoder.Fits cf n contentType m.id.time
        (update (if encoder.tellsOwn s.delivered.isEmpty then fun _ => -1
          else nextTags s.lastMsgid m.id) i m.id.tag)
  | .fetched contentType => s.lastMsgid.time ≠ newestMsgidTime ∧
      ∃ i m rest, s.upcoming i = m :: rest ∧
        (∀ j b, (s.upcoming j).head? = some b → rank Msg.id (i, m) ≤ rank Msg.id (j, b)) ∧
        encoder.Fits cf n contentType m.id.time
          (update (nextTags s.lastMsgid m.id) i m.id.tag)

/-- Where a subscription starts: after an id, or with what is published from now on. -/
def Starts (start : MsgId) (upcoming : Fin n → List Msg) : Prop :=
  start.WellFormed n ∧ upcoming = remaining chans start ∨
    start.time = newestMsgidTime ∧ ∀ i, upcoming i <:+ (chans i).messages

/-! ## Ids after a message -/

/-- An id of a message in the channel `i`. -/
structure Names (i : Fin n) (stamp : Stamp) (others : Nat → Int) (id : MsgId) : Prop where
  time : id.time = stamp.time
  counts : id.tagcount = n
  active : id.tagactive = i
  tags : id.tags = update others i.val stamp.tag

theorem liveId_names (i : Fin n) (m : Msg) :
    ∃ own, liveId i m = some own ∧ Names i m.id (fun _ => -1) own := by
  obtain ⟨time, counts, tag⟩ := roomyId_spec n m.id
  have room : 0 < (roomyId n m.id).tagcount ∧ i.val < (roomyId n m.id).tagcount := by
    exact ⟨i.pos, i.isLt⟩
  obtain ⟨id, expanded, idTime, idCounts, idTags⟩ := expandMultiTag_spec (-1) room
  refine ⟨{ id with tagactive := i }, ?_, idTime.trans time, idCounts.trans counts, rfl, ?_⟩
  · rw [liveId, expanded]
    rfl
  · rw [← tag]
    exact idTags

variable {i : Fin n} {m : Msg} {others : Nat → Int} {id lastMsgid own : MsgId}

theorem Names.updated (names : Names i m.id others own) (several : 2 ≤ n)
    (counts : lastMsgid.time = m.id.time → lastMsgid.tagcount = n)
    (tag : 0 ≤ m.id.tag)
    (past : lastMsgid.time = m.id.time → lastMsgid.tags i ≠ -1 → lastMsgid.tags i < m.id.tag)
    (known : others = (fun _ => -1) ∨ others = nextTags lastMsgid m.id) :
    ∃ id, lastMsgid.updateMultiMsgid own = some id ∧
      Names i m.id (nextTags lastMsgid m.id) id := by
  have manyTags : own.tagcount ≠ 1 := by
    rw [names.counts]
    omega
  by_cases same : lastMsgid.time = m.id.time
  · have advances : own.tags own.tagactive ≠ -1 → lastMsgid.tags own.tagactive ≠ -1 →
        lastMsgid.tags own.tagactive < own.tags own.tagactive := by
      rw [names.active, names.tags, update_self]
      exact fun _ => past same
    obtain ⟨id, updated, time, count, tags⟩ := updateMultiMsgid_of_eq manyTags
      (same.trans names.time.symm) ((counts same).trans names.counts.symm) advances
    refine ⟨id, updated, time.trans names.time, count.trans names.counts,
      (updateMultiMsgid_tagactive manyTags updated).trans names.active, ?_⟩
    rw [tags, nextTags, if_pos same]
    funext k
    by_cases here : k = i
    · subst here
      have set : m.id.tag ≠ -1 := by omega
      simp [mergeTags, names.tags, set]
    · rcases known with none | all
      · simp [mergeTags, names.tags, update_of_ne here, none]
      · simp [mergeTags, names.tags, update_of_ne here, all, nextTags, same]
  · obtain ⟨id, updated, time, count, tags⟩ :=
      updateMultiMsgid_of_ne manyTags (names.time ▸ same)
    refine ⟨id, updated, time.trans names.time, count.trans names.counts,
      (updateMultiMsgid_tagactive manyTags updated).trans names.active, ?_⟩
    rw [tags, names.tags]
    rcases known with none | all
    · rw [none, nextTags, if_neg same]
    · rw [all]

def Bounded (n : Nat) (tags : Nat → Int) : Prop := ∀ k < n, -1 ≤ tags k ∧ tags k ≤ 32767

theorem Bounded.next (wf : lastMsgid.WellFormed n ∨ lastMsgid.time = newestMsgidTime)
    (time : 0 < m.id.time) : Bounded n (nextTags lastMsgid m.id) := by
  unfold nextTags
  split
  · rename_i same
    rcases wf with (oldest | ⟨_, _, bounded⟩) | newest
    · rw [same] at oldest
      exact absurd oldest (by simp only [oldestMsgidTime]; omega)
    · exact bounded
    · rw [same] at newest
      exact absurd newest (by simp only [newestMsgidTime]; omega)
  · exact fun k _ => ⟨le_refl _, show (-1 : Int) ≤ 32767 by decide⟩

namespace Names

variable (names : Names i m.id others id) (tag : 0 ≤ m.id.tag ∧ m.id.tag ≤ 32767)
include names tag

theorem tags_bounded (bounded : Bounded n others) {k : Nat} (inRange : k < n) :
    -1 ≤ id.tags k ∧ id.tags k ≤ 32767 := by
  rw [names.tags]
  by_cases here : k = i
  · rw [here, update_self]
    omega
  · rw [update_of_ne here]
    exact bounded k inRange

theorem wellFormed (bounded : Bounded n others) (time : 0 < m.id.time) : id.WellFormed n :=
  .inr ⟨names.time ▸ time, names.counts, fun _ => names.tags_bounded tag bounded⟩

theorem written (bounded : Bounded n others) (several : 2 ≤ n) (room : n ≤ multitagMax) :
    id.Written n where
  several := several
  room := room
  counts := names.counts
  bounded _ := names.tags_bounded tag bounded
  active := names.active ▸ i.isLt
  set := by
    rw [names.active, names.tags, update_self]
    exact tag.1

theorem position_self (time : 0 < m.id.time) : id.position i = m.id := by
  have set : m.id.tag ≠ -1 := by omega
  have notOldest : m.id.time ≠ oldestMsgidTime := ne_of_gt time
  simp [position, names.time, names.tags, set, notOldest]

omit tag in
theorem position_of_ne (time : 0 < m.id.time) {j : Fin n} (other : j ≠ i) :
    id.position j = if others j = -1 then ⟨m.id.time - 1, 32767⟩ else ⟨m.id.time, others j⟩ := by
  have apart : j.val ≠ i.val := fun equal => other (Fin.ext equal)
  have notOldest : m.id.time ≠ oldestMsgidTime := ne_of_gt time
  simp [position, names.time, names.tags, update_of_ne apart, notOldest]

end Names

/-! ## Reading the id back -/

/-- `id'` is `id` as far as it is used. -/
structure Rereads (n : Nat) (id id' : MsgId) : Prop where
  time : id'.time = id.time
  counts : id'.tagcount = n
  tags : ∀ k < n, id'.tags k = id.tags k

section Reading

variable {cf : IdConf} {id : MsgId} (written : id.Written n) (time : 0 < id.time)
  (representable : id.time < 2 ^ 63)
include written time representable

theorem etag_reads : ∃ text, id.msgidToStr = some text ∧
    text.length = digitCount id.time.toNat + 1 + tagsWidth n id.tags ∧
    ∀ mid, ∃ id', getMsgId cf n mid { ifNoneMatch := some text } = some id' ∧
      Rereads n id id' := by
  obtain ⟨text, isText, width, reads⟩ := written.parseCompoundMsgid time.le representable
  refine ⟨text, isText, width, fun mid => ?_⟩
  obtain ⟨id', parsed, sameTime, counts, _, tags⟩ := reads mid
  exact ⟨id', by simp [getMsgId, parsed], sameTime, counts, tags⟩

omit representable in
theorem headers_read (both : cf.msgInEtagOnly = false) : ∃ tags, id.msgtagToStr = some tags ∧
    tags.length = tagsWidth n id.tags ∧
    ∀ mid, ∃ id', getMsgId cf n mid
        { ifModifiedSince := some id.time, ifNoneMatch := some tags } = some id' ∧
      Rereads n id id' := by
  obtain ⟨text, isText, width, reads⟩ := written.parseMsgTag
  refine ⟨text, isText, width, fun mid => ?_⟩
  obtain ⟨id', parsed, sameTime, counts, _, tags⟩ := reads { mid with time := id.time }
  refine ⟨id', ?_, sameTime, counts, tags⟩
  simp [getMsgId, both, not_le.mpr time, parsed]

theorem lastMessageId_reads
    (short : digitCount id.time.toNat + 1 + tagsWidth n id.tags ≤
      lastMessageIdMax) :
    ∃ text, id.msgidToStr = some text ∧ ∀ values ∈ [[text, []], [[], text]],
      ∀ mid, ∃ id', getMsgId cf n mid { lastMessageId := values } = some id' ∧
        Rereads n id id' := by
  obtain ⟨text, isText, width, reads⟩ := written.parseCompoundMsgid time.le representable
  have nonempty : text ≠ [] := ne_nil_of_length_pos (by omega)
  have fits : ¬ (text.length > lastMessageIdMax ∨ text = []) := by
    simp only [nonempty, or_false]
    omega
  refine ⟨text, isText, fun values one mid => ?_⟩
  obtain ⟨id', parsed, sameTime, counts, _, tags⟩ := reads mid
  refine ⟨id', ?_, sameTime, counts, tags⟩
  rcases mem_pair.mp one with rfl | rfl
  · simp [getMsgId, alternative, fits, parsed]
  · simp [getMsgId, alternative, fits, parsed]

theorem Encoder.request_reads {encoder : Encoder} {first : Bool} {contentType : Option Nat}
    (fits : encoder.Fits cf n contentType id.time id.tags)
    (tells : (if encoder.tellsOwn first then own else lastMsgid) = id) :
    ∃ r, encoder.request cf first lastMsgid own contentType = some r ∧
      ∀ mid, ∃ id', r.getMsgId cf n mid = some id' ∧ Rereads n id id' := by
  unfold Encoder.request
  dsimp only
  rw [tells]
  cases encoder with
  | eventsource =>
    obtain ⟨text, isText, reads⟩ := lastMessageId_reads written time representable fits
    exact ⟨_, by rw [isText]; rfl, reads _ (by simp)⟩
  | websocketMeta =>
    obtain ⟨text, isText, reads⟩ := lastMessageId_reads written time representable fits
    exact ⟨_, by rw [isText]; rfl, reads _ (by simp)⟩
  | httpMultipart =>
    unfold multipartRequest
    cases only : cf.msgInEtagOnly with
    | true =>
      obtain ⟨text, isText, width, reads⟩ := etag_reads written time representable
      simp only [Encoder.Fits, only, if_true, ← width] at fits
      exact ⟨_, by simp [isText, fits], reads⟩
    | false =>
      obtain ⟨tags, isTags, width, reads⟩ := headers_read written time only
      simp only [Encoder.Fits, only, Bool.false_eq_true, if_false, ← width] at fits
      exact ⟨_, by simp [isTags, fits], reads⟩
  | longpollMultipart =>
    unfold responseRequest
    cases only : cf.msgInEtagOnly with
    | true =>
      obtain ⟨text, isText, _, reads⟩ := etag_reads written time representable
      exact ⟨_, by simp [isText], reads⟩
    | false =>
      obtain ⟨tags, isTags, _, reads⟩ := headers_read written time only
      exact ⟨_, by simp [isTags, time], reads⟩

end Reading

/-! ## What is to come -/

variable {chans : Fin n → MultiChannel}

/-- What is after a position is the end of a sorted log, and which end it is, is said by its
    messages. -/
theorem filter_eq_of_suffix {log later : List Msg} {position : Stamp}
    (sorted : log.Pairwise (·.id < ·.id)) (suffix : later <:+ log)
    (past : ∀ b ∈ log, position < b.id ↔ b ∈ later) : log.filter (position < ·.id) = later := by
  obtain ⟨earlier, rfl⟩ := suffix
  rw [filter_append, filter_eq_nil_iff.mpr, filter_eq_self.mpr, nil_append]
  · intro b on
    simpa using (past b (mem_append_right _ on)).mpr on
  · intro b on
    rw [decide_eq_true_eq, past b (mem_append_left _ on)]
    exact fun on' => lt_irrefl _ ((pairwise_append.mp sorted).2.2 b on b on')

theorem filter_suffix {log : List Msg} (sorted : log.Pairwise (·.id < ·.id)) (position : Stamp) :
    log.filter (position < ·.id) <:+ log := by
  induction log with
  | nil => exact suffix_refl []
  | cons m log ih =>
    obtain ⟨above, sorted⟩ := pairwise_cons.mp sorted
    by_cases past : position < m.id
    · rw [filter_eq_self.mpr]
      intro b on
      rcases mem_cons.mp on with rfl | later
      · simpa using past
      · simpa using past.trans (above b later)
    · rw [filter_cons_of_neg (by simpa using past)]
      exact (ih sorted).trans (suffix_cons m log)

theorem remaining_rereads {id' : MsgId} (rereads : Rereads n id id') :
    remaining chans id' = remaining chans id := by
  funext i
  unfold remaining position
  rw [rereads.time, rereads.tags i i.isLt]

/-- Where the subscriber is.  Its id says what is to come, unless it waits for the first message
    to be published. -/
structure Located (chans : Fin n → MultiChannel) (s : Subscription n) : Prop where
  suffix : ∀ i, s.upcoming i <:+ (chans i).messages
  known : s.lastMsgid.WellFormed n ∧ remaining chans s.lastMsgid = s.upcoming ∨
    s.lastMsgid.time = newestMsgidTime

section Advance

variable {s : Subscription n} {rest : List Msg} (ok : ∀ i, (chans i).Ok)
  (located : Located chans s) (next : s.upcoming i = m :: rest)
include ok located next

theorem Located.stamped : 0 < m.id.time ∧ 0 ≤ m.id.tag ∧ m.id.tag ≤ 32767 :=
  (ok i).stamped m ((located.suffix i).subset (next ▸ mem_cons_self))

omit ok in
theorem Located.past (time : 0 < m.id.time) (same : s.lastMsgid.time = m.id.time) :
    s.lastMsgid.tagcount = n ∧
      (s.lastMsgid.tags i ≠ -1 → s.lastMsgid.tags i < m.id.tag) ∧
      remaining chans s.lastMsgid = s.upcoming := by
  rcases located.known with ⟨oldest | ⟨_, counts, _⟩, remains⟩ | newest
  · simp only [oldestMsgidTime] at oldest
    omega
  · refine ⟨counts, fun set => ?_, remains⟩
    have on : m ∈ remaining chans s.lastMsgid i := by
      rw [remains, next]
      exact mem_cons_self
    have notOldest : s.lastMsgid.time ≠ oldestMsgidTime := by
      simp only [oldestMsgidTime]
      omega
    have past := (mem_remaining.mp on).2
    simp only [position, notOldest, set, if_false, Stamp.lt_iff] at past
    omega
  · simp only [newestMsgidTime] at newest
    omega

theorem Located.remaining_names (names : Names i m.id others id)
    (past : ∀ j ≠ i, ∀ b ∈ (chans j).messages, id.position j < b.id ↔ b ∈ s.upcoming j) :
    remaining chans id = update s.upcoming i rest := by
  have stamped := located.stamped ok next
  funext j
  by_cases here : j = i
  · subst here
    have suffix : m :: rest <:+ (chans j).messages := next ▸ located.suffix j
    rw [update_self, remaining, names.position_self stamped.2 stamped.1]
    refine filter_eq_of_suffix (ok j).sorted ((suffix_cons m rest).trans suffix) fun b on => ?_
    have sorted := (ok j).sorted
    obtain ⟨earlier, split⟩ := suffix
    rw [← split] at sorted on
    obtain ⟨_, sortedEnd, across⟩ := pairwise_append.mp sorted
    constructor
    · intro later
      rcases mem_append.mp on with before | atOrAfter
      · exact absurd (later.trans (across b before m mem_cons_self)) (lt_irrefl _)
      · rcases mem_cons.mp atOrAfter with rfl | after
        · exact absurd later (lt_irrefl _)
        · exact after
    · exact rel_of_pairwise_cons sortedEnd
  · rw [update_of_ne here]
    exact filter_eq_of_suffix (ok j).sorted (located.suffix j) (past j here)

omit located next in
theorem past_iff {j : Fin n} {upcoming : List Msg}
    (position : id.position j = ⟨m.id.time - 1, 32767⟩)
    (inOrder : ∀ b ∈ upcoming, m.id.time ≤ b.id.time)
    (fresh : ∀ b ∈ (chans j).messages, m.id.time ≤ b.id.time → b ∈ upcoming) :
    ∀ b ∈ (chans j).messages, id.position j < b.id ↔ b ∈ upcoming := by
  intro b on
  have bound := ((ok j).stamped b on).2.2
  rw [position, Stamp.lt_iff]
  constructor
  · intro later
    exact fresh b on (by simp only at later; omega)
  · intro toCome
    have := inOrder b toCome
    simp only
    omega

variable {id : MsgId} (inOrder : ∀ j ≠ i, ∀ b ∈ s.upcoming j, m.id.time ≤ b.id.time)
include inOrder

theorem Located.unmerged (names : Names i m.id (fun _ => -1) id)
    (fresh : ∀ j ≠ i, ∀ b ∈ (chans j).messages, m.id.time ≤ b.id.time → b ∈ s.upcoming j) :
    remaining chans id = update s.upcoming i rest := by
  refine located.remaining_names ok next names fun j other => ?_
  refine past_iff ok ?_ (inOrder j other) (fresh j other)
  rw [names.position_of_ne (located.stamped ok next).1 other, if_pos rfl]

theorem Located.merged (names : Names i m.id (nextTags s.lastMsgid m.id) id)
    (fresh : s.lastMsgid.time ≠ m.id.time →
      ∀ j ≠ i, ∀ b ∈ (chans j).messages, m.id.time ≤ b.id.time → b ∈ s.upcoming j) :
    remaining chans id = update s.upcoming i rest := by
  have time := (located.stamped ok next).1
  by_cases same : s.lastMsgid.time = m.id.time
  · refine located.remaining_names ok next names fun j other b on => ?_
    have remains := (located.past next time same).2.2
    have notOldest : m.id.time ≠ oldestMsgidTime := ne_of_gt time
    have unmoved : id.position j = s.lastMsgid.position j := by
      rw [names.position_of_ne time other]
      simp [position, nextTags, same, notOldest]
    rw [unmoved, ← remains, mem_remaining]
    exact (and_iff_right on).symm
  · rw [nextTags, if_neg same] at names
    exact located.unmerged ok next inOrder names (fresh same)

end Advance

/-! ## Steps -/

/-- What holds of a subscription: nothing that was to come is lost, now or after reconnecting. -/
structure Informed (chans : Fin n → MultiChannel) (cf : IdConf) (initial : Fin n → List Msg)
    (s : Subscription n) : Prop where
  located : Located chans s
  account : ∀ i, (s.delivered.filter (·.1 = i)).map (·.2) ++ s.upcoming i = initial i
  told : s.delivered ≠ [] → ∃ r, s.request = some r ∧ ∀ mid, ∃ id,
    r.getMsgId cf n mid = some id ∧ id.WellFormed n ∧ remaining chans id = s.upcoming

section Steps

variable {cf : IdConf} {encoder : Encoder} {initial : Fin n → List Msg} {s : Subscription n}
  {contentType : Option Nat}

theorem account_concat {rest : List Msg} (next : s.upcoming i = m :: rest)
    (account : ∀ j, (s.delivered.filter (·.1 = j)).map (·.2) ++ s.upcoming j = initial j) (j : Fin n) :
    ((s.delivered ++ [(i, m)]).filter (·.1 = j)).map (·.2) ++
      update s.upcoming i rest j = initial j := by
  rw [← account j, filter_append, map_append, append_assoc]
  by_cases here : j = i
  · subst here
    simp [next]
  · simp [here, Ne.symm here]

variable (several : 2 ≤ n) (room : n ≤ multitagMax) (ok : ∀ i, (chans i).Ok)
  (representable : ∀ i, ∀ m ∈ (chans i).messages, m.id.time < 2 ^ 63)
include several room ok representable

variable (informed : Informed chans cf initial s)

include informed

theorem Informed.respond {rest : List Msg}
    (next : s.upcoming i = m :: rest) (names : Names i m.id others own)
    (known : others = (fun _ => -1) ∨ others = nextTags s.lastMsgid m.id)
    (inOrder : ∀ j ≠ i, ∀ b ∈ s.upcoming j, m.id.time ≤ b.id.time)
    (fresh : s.lastMsgid.time ≠ m.id.time →
      ∀ j ≠ i, ∀ b ∈ (chans j).messages, m.id.time ≤ b.id.time → b ∈ s.upcoming j)
    (alone : encoder.tellsOwn s.delivered.isEmpty = true →
      remaining chans own = update s.upcoming i rest)
    (fits : encoder.Fits cf n contentType m.id.time
      (update (if encoder.tellsOwn s.delivered.isEmpty then others
        else nextTags s.lastMsgid m.id) i m.id.tag)) :
    ∃ s', s.respondMessage cf encoder i m own contentType = some s' ∧
      s'.delivered = s.delivered ++ [(i, m)] ∧ Informed chans cf initial s' := by
  have located := informed.located
  obtain ⟨time, tag⟩ := located.stamped ok next
  have bounded : Bounded n (nextTags s.lastMsgid m.id) :=
    .next (located.known.imp_left And.left) time
  have othersBounded : Bounded n others := by
    rcases known with rfl | rfl
    · exact fun k _ => ⟨le_refl _, show (-1 : Int) ≤ 32767 by decide⟩
    · exact bounded
  obtain ⟨lastMsgid, updated, merged⟩ := names.updated several
    (fun same => (located.past next time same).1) tag.1
    (fun same => (located.past next time same).2.1) known
  have remains := located.merged ok next inOrder merged fresh
  have tail : (s.upcoming i).tail = rest := by rw [next]; rfl
  -- the id that is told, whichever it is
  obtain ⟨told, is, namesTold, remainsTold⟩ : ∃ told,
      (if encoder.tellsOwn s.delivered.isEmpty then own else lastMsgid) = told ∧
      Names i m.id (if encoder.tellsOwn s.delivered.isEmpty then others
        else nextTags s.lastMsgid m.id) told ∧
      remaining chans told = update s.upcoming i rest := by
    cases tells : encoder.tellsOwn s.delivered.isEmpty with
    | true => exact ⟨own, rfl, names, alone tells⟩
    | false => exact ⟨lastMsgid, rfl, merged, remains⟩
  have toldBounded : Bounded n (if encoder.tellsOwn s.delivered.isEmpty then others
      else nextTags s.lastMsgid m.id) := by
    split
    · exact othersBounded
    · exact bounded
  have on : m ∈ (chans i).messages := (located.suffix i).subset (next ▸ mem_cons_self)
  obtain ⟨r, request, reads⟩ := Encoder.request_reads
    (namesTold.written tag toldBounded several room) (namesTold.time ▸ time)
    (namesTold.time ▸ representable i m on) (by rw [namesTold.time, namesTold.tags]; exact fits) is
  refine ⟨_, by rw [Subscription.respondMessage, updated]; rfl, rfl, ?_, ?_, fun _ => ?_⟩
  · refine ⟨fun j => ?_, .inl ⟨merged.wellFormed tag bounded time, ?_⟩⟩
    · dsimp only
      rw [tail]
      by_cases here : j = i
      · subst here
        rw [update_self]
        exact (suffix_cons m rest).trans (next ▸ located.suffix j)
      · rw [update_of_ne here]
        exact located.suffix j
    · dsimp only
      rw [tail, remains]
  · dsimp only
    rw [tail]
    exact account_concat next informed.account
  · refine ⟨r, request, fun mid => ?_⟩
    obtain ⟨id, got, rereads⟩ := reads mid
    refine ⟨id, got, ?_, ?_⟩
    · refine .inr ⟨rereads.time ▸ namesTold.time ▸ time, rereads.counts, fun k inRange => ?_⟩
      rw [rereads.tags k inRange]
      exact namesTold.tags_bounded tag toldBounded inRange
    · dsimp only
      rw [tail, remaining_rereads rereads, remainsTold]

theorem Informed.live
    (arrive : Nat → List (Fin n × Stamp) → List (Fin n × Stamp))
    (lossless : Lossless chans cf encoder (.live i contentType) s) :
    ∃ s', s.arrival chans arrive cf encoder (.live i contentType) = some s' ∧
      s'.delivered.length = s.delivered.length + 1 ∧ Informed chans cf initial s' := by
  obtain ⟨m, rest, next, inOrder, fresh, fits⟩ := lossless
  obtain ⟨own, isOwn, names⟩ := liveId_names i m
  obtain ⟨s', responded, delivered, informed'⟩ := informed.respond several room ok representable next
    names (.inl rfl) inOrder (fun later => fresh (.inl later))
    (fun tells => informed.located.unmerged ok next inOrder names (fresh (.inr tells))) fits
  refine ⟨s', ?_, by simp [delivered], informed'⟩
  simp [Subscription.arrival, next, isOwn, responded]

omit informed in
omit several room representable in
theorem least_inOrder (located : Located chans s)
    (least : ∀ j b, (s.upcoming j).head? = some b → rank Msg.id (i, m) ≤ rank Msg.id (j, b))
    (j : Fin n) : ∀ b ∈ s.upcoming j, m.id.time ≤ b.id.time := by
  intro b on
  obtain ⟨first, tail, cons⟩ := exists_cons_of_ne_nil (ne_nil_of_mem on)
  have sorted := (ok j).sorted.sublist (located.suffix j).sublist
  have upTo : m.id ≤ first.id := by
    rcases rank_le_iff.mp (least j first (by rw [cons]; rfl)) with lt | eq
    · exact lt.le
    · exact eq.1.le
  have onward : first.id ≤ b.id := by
    rw [cons] at on sorted
    rcases mem_cons.mp on with rfl | later
    · exact le_rfl
    · exact (rel_of_pairwise_cons sorted later).le
  have := Stamp.le_iff.mp (upTo.trans onward)
  omega

theorem Informed.fetched
    {arrive : Nat → List (Fin n × Stamp) → List (Fin n × Stamp)}
    (perm : ∀ round wanted, (arrive round wanted).Perm wanted)
    (lossless : Lossless chans cf encoder (.fetched contentType) s) :
    ∃ s', s.arrival chans arrive cf encoder (.fetched contentType) = some s' ∧
      s'.delivered.length = s.delivered.length + 1 ∧ Informed chans cf initial s' := by
  obtain ⟨explicit, i, m, rest, next, least, fits⟩ := lossless
  have located := informed.located
  obtain ⟨wf, remains⟩ := located.known.resolve_right explicit
  cases getMultiMessage_spec ok wf (by omega) (perm s.delivered.length) with
  | inr none => simp [← remains, none.1 i] at next
  | inl found =>
    obtain ⟨k, a, first, leastToo, answers⟩ := found
    rw [remains] at first leastToo
    -- there is only one least message
    have same := le_antisymm (least k a first) (leastToo i m (by rw [next]; rfl))
    obtain rfl : i = k := congrArg (fun r => (ofLex r).2) same
    obtain rfl : m = a := by
      rw [next] at first
      exact Option.some.inj first
    have time := (located.stamped ok next).1
    obtain ⟨own, isOwn, ownTime, counts, active, tags⟩ := multiMessageId_spec i m
      fun same => (located.past next time same).1
    have names : Names i m.id (nextTags s.lastMsgid m.id) own := ⟨ownTime, counts, active, tags⟩
    obtain ⟨ret, rfl, rfl, rfl, answer⟩ := answers own isOwn
    have inOrder : ∀ j ≠ ret.n, ∀ b ∈ s.upcoming j, ret.msg.id.time ≤ b.id.time :=
      fun j _ => least_inOrder ok located least j
    have fresh (later : s.lastMsgid.time ≠ ret.msg.id.time) : ∀ j ≠ ret.n,
        ∀ b ∈ (chans j).messages, ret.msg.id.time ≤ b.id.time → b ∈ s.upcoming j := by
      intro j _ b on notBefore
      have onLog : ret.msg ∈ remaining chans s.lastMsgid ret.n := by
        rw [remains, next]
        exact mem_cons_self
      have upTo := (wf.position_bounds ret.n.isLt).2.2.2 ret.msg.id
        (located.stamped ok next).2.2 (mem_remaining.mp onLog).2
      have position := (wf.position_bounds j.isLt).2.1
      rw [← remains]
      exact mem_remaining.mpr ⟨on, Stamp.lt_iff.mpr (.inl (by omega))⟩
    obtain ⟨s', responded, delivered, informed'⟩ := informed.respond several room ok representable
      next names (.inr rfl) inOrder fresh (fun _ => located.merged ok next inOrder names fresh)
      (by rw [ite_self]; exact fits)
    refine ⟨s', ?_, by simp [delivered], informed'⟩
    simp [Subscription.arrival, explicit, answer, responded]

theorem Informed.arrival
    {arrive : Nat → List (Fin n × Stamp) → List (Fin n × Stamp)}
    (perm : ∀ round wanted, (arrive round wanted).Perm wanted) {op : Arrival n}
    (lossless : Lossless chans cf encoder op s) :
    ∃ s', s.arrival chans arrive cf encoder op = some s' ∧
      s'.delivered.length = s.delivered.length + 1 ∧ Informed chans cf initial s' := by
  cases op with
  | live i contentType => exact informed.live several room ok representable arrive lossless
  | fetched contentType => exact informed.fetched several room ok representable perm lossless

end Steps

/-! ## Whole subscriptions -/

theorem Starts.informed {start : MsgId} {upcoming : Fin n → List Msg}
    (starts : Starts chans start upcoming) (cf : IdConf) (ok : ∀ i, (chans i).Ok) :
    Informed chans cf upcoming ⟨start, upcoming, [], none⟩ where
  located := by
    rcases starts with ⟨wf, rfl⟩ | ⟨newest, suffix⟩
    · exact ⟨fun i => filter_suffix (ok i).sorted _, .inl ⟨wf, rfl⟩⟩
    · exact ⟨suffix, .inr newest⟩
  account _ := rfl
  told none := absurd rfl none

/-- After any number of messages that come losslessly, a client that reconnects gets those that it
    has not had, and no others, by time, then tag, then channel. -/
theorem advertised_id_resumes (several : 2 ≤ n) (room : n ≤ multitagMax) (ok : ∀ i, (chans i).Ok)
    (representable : ∀ i, ∀ m ∈ (chans i).messages, m.id.time < 2 ^ 63)
    {arrive : Nat → List (Fin n × Stamp) → List (Fin n × Stamp)}
    (perm : ∀ round wanted, (arrive round wanted).Perm wanted) {cf : IdConf} {encoder : Encoder}
    {start : MsgId} {upcoming : Fin n → List Msg} (starts : Starts chans start upcoming)
    {arrivals : List (Arrival n)} (some : arrivals ≠ [])
    (lossless : Run.Along (Subscription.arrival chans arrive cf encoder)
      (Lossless chans cf encoder) arrivals ⟨start, upcoming, [], none⟩)
    {fuel : Nat} (enough : ∑ i, (chans i).messages.length < fuel) (mid : MsgId) :
    ∃ s r id out, run (Subscription.arrival chans arrive cf encoder) arrivals
        ⟨start, upcoming, [], none⟩ = .some s ∧
      s.delivered.length = arrivals.length ∧ s.request = .some r ∧
      r.getMsgId cf n mid = .some id ∧
      resumeMulti chans arrive fuel 0 id = .some (out, .expected) ∧
      out.Pairwise (fun x y => x.2.id < y.2.id ∨ x.2.id = y.2.id ∧ x.1 < y.1) ∧
      ∀ i, (s.delivered.filter (·.1 = i)).map (·.2) ++ (out.filter (·.1 = i)).map (·.2) =
        upcoming i := by
  have keeps (done : List (Arrival n)) (op : Arrival n) (s : Subscription n)
      (known : s.delivered.length = done.length ∧ Informed chans cf upcoming s)
      (good : Lossless chans cf encoder op s) :
      ∃ s', s.arrival chans arrive cf encoder op = .some s' ∧
        s'.delivered.length = (done ++ [op]).length ∧ Informed chans cf upcoming s' := by
    obtain ⟨s', stepped, more, informed⟩ :=
      known.2.arrival several room ok representable perm good
    exact ⟨s', stepped, by simp [more, known.1], informed⟩
  have begun : ([] : List (Fin n × Msg)).length = ([] : List (Arrival n)).length ∧
      Informed chans cf upcoming ⟨start, upcoming, [], none⟩ := ⟨rfl, starts.informed cf ok⟩
  obtain ⟨s, reaches, count, informed⟩ := run_succeeds keeps begun lossless
  have nonempty : s.delivered ≠ [] := fun none => some (by simpa [none] using count.symm)
  obtain ⟨r, request, reads⟩ := informed.told nonempty
  obtain ⟨id, got, wf, remains⟩ := reads mid
  have fits : ∑ i, (remaining chans id i).length < fuel :=
    lt_of_le_of_lt (Finset.sum_le_sum fun i _ => length_filter_le ..) enough
  obtain ⟨out, resumed, merges⟩ := resumeMulti_merges ok several perm fuel 0 id wf fits
  -- what has been delivered is on a log
  have status : finalStatus chans id = .expected := by
    obtain ⟨⟨i, m⟩, rest, cons⟩ := exists_cons_of_ne_nil nonempty
    have account := informed.account i
    have suffix := (starts.informed cf ok).located.suffix i
    refine finalStatus_expected (i := i) (ne_nil_of_mem (suffix.subset (a := m) ?_))
    dsimp only
    rw [← account, cons]
    simp
  refine ⟨s, r, id, out, reaches, count, request, got, status ▸ resumed, ?_, fun i => ?_⟩
  · exact (merges.sorted (remaining_sorted ok)).imp fun lt => Prod.Lex.toLex_lt_toLex.mp lt
  · rw [merges.of_source i, remains]
    exact informed.account i

def bothFirst : List (Arrival 2) :=
  [.live ⟨0, Nat.zero_lt_two⟩ none, .live ⟨1, Nat.one_lt_two⟩ none]

def fromOldest : Subscription 2 := ⟨.oldest, fun i => (twoChannels i).messages, [], none⟩

theorem twoChannels_starts : Starts twoChannels .oldest fun i => (twoChannels i).messages := by
  refine .inl ⟨.inl rfl, funext fun i => ?_⟩
  match i with
  | 0 => rfl
  | 1 => rfl

theorem bothFirst_lossless : Run.Along
    (Subscription.arrival twoChannels (fun _ => List.reverse) {} .eventsource)
    (Lossless twoChannels {} .eventsource) bothFirst fromOldest := by
  refine ⟨⟨_, _, rfl, by decide, fun _ => by decide, by decide⟩, ?_⟩
  intro s stepped
  cases stepped
  refine ⟨⟨_, _, rfl, by decide, ?_, by decide⟩, fun _ _ => trivial⟩
  rintro (later | own)
  · exact absurd rfl later
  · cases own

theorem advertised_id_resumes_both : ∃ s r id out, run
    (Subscription.arrival twoChannels (fun _ => List.reverse) {} .eventsource) bothFirst fromOldest =
      some s ∧
    s.delivered.length = 2 ∧ s.request = some r ∧ r.getMsgId {} 2 .oldest = some id ∧
    resumeMulti twoChannels (fun _ => List.reverse) 6 0 id = some (out, .expected) ∧
    out.Pairwise (fun x y => x.2.id < y.2.id ∨ x.2.id = y.2.id ∧ x.1 < y.1) ∧
    ∀ i, (s.delivered.filter (·.1 = i)).map (·.2) ++ (out.filter (·.1 = i)).map (·.2) =
      (twoChannels i).messages :=
  advertised_id_resumes (by decide) (by decide) twoChannels_ok (by decide)
    (fun _ wanted => reverse_perm wanted) twoChannels_starts (by simp [bothFirst])
    bothFirst_lossless (by decide) .oldest

/-- As many channels as it takes for an id of more than 128 characters. -/
def manyChannels : Fin 63 → MultiChannel := fun i =>
  ⟨10, if i = 0 then [⟨⟨5, 0⟩, ⟨0, 0⟩, 99⟩] else [], ⟨-1, 0⟩⟩

set_option maxRecDepth 8000 in
/-- A multipart client is told an id that is before the first of the two messages, so that it
    gets that message once more.  An EventSource client with many channels sends back an id that
    is not read, and starts all over again. -/
theorem advertised_id_repeats :
    (∃ s r id out, run
      (Subscription.arrival twoChannels (fun _ => List.reverse) {} .httpMultipart) bothFirst
      fromOldest = some s ∧ s.request = some r ∧ r.getMsgId {} 2 .oldest = some id ∧
      resumeMulti twoChannels (fun _ => List.reverse) 6 0 id = some (out, .expected) ∧
      s.delivered.head? = out.head? ∧ out.head? ≠ none) ∧
    ∃ s r id out, run
      (Subscription.arrival manyChannels (fun _ => List.reverse) {} .eventsource) [.live 0 none]
      ⟨.oldest, fun i => (manyChannels i).messages, [], none⟩ = some s ∧ s.request = some r ∧
      r.getMsgId {} 63 .oldest = some id ∧
      resumeMulti manyChannels (fun _ => List.reverse) 2 0 id = some (out, .expected) ∧
      s.delivered = out ∧ out ≠ [] :=
  ⟨⟨_, _, _, _, rfl, rfl, rfl, rfl, rfl, by decide⟩, _, _, _, _, rfl, rfl, rfl, rfl, rfl, by decide⟩

end Nchan.Subscriber
