import Mathlib.Data.List.Nodup
import Nchan.Memstore.SharedGroup

/-! # Group limits

What a worker checks before it publishes to a channel of a group or subscribes to one, and
what the limit on channels comes to.  The checks run while nothing else does, so that
whatever a callback asks for is answered from the state the check began in.
-/

namespace Nchan.Memstore.GroupLimits

/-! ## The checks -/

inductive LimitReached where
  | messages | memory | disk | channels
  deriving DecidableEq

/-- The text that goes with the 403. -/
def LimitReached.text : LimitReached → String
  | .messages => "Group limit reached for number of messages."
  | .memory => "Group limit reached for memory used by messages."
  | .disk => "Group limit reached for disk space used by messages."
  | .channels => "Group limit reached for number of channels."

inductive Verdict where
  | accepted
  | forbidden (err : LimitReached)
  deriving DecidableEq

/-- What is known of a channel id: `nchan_memstore_find_chanhead` looks for a chanhead of this
    worker, `nchan_store_find_channel` asks the channel's owner. -/
structure Lookup where
  chanheadHere : Bool
  channelFound : Bool
  deriving DecidableEq

/-- `group_publish_accounting_channelcheck`. -/
def groupPublishAccountingChannelcheck (found : Lookup) : Verdict :=
  if found.channelFound then .accepted else .forbidden .channels

/-- The channel check of `group_publish_accounting_check`. -/
def publishChannelCheck (g : SharedGroup) (found : Lookup) : Verdict :=
  if g.limit.channels = 0 then .accepted
  else if g.count .channels + 1 = g.limit.channels then
    -- publishing may create a channel; first the easy way, then the costly one
    if found.chanheadHere then .accepted else groupPublishAccountingChannelcheck found
  else if g.limit.channels ≤ g.count .channels then .forbidden .channels
  else .accepted

/-- `group_publish_accounting_check`, for a message of `n` channels. -/
def groupPublishAccountingCheck (sizes : Sizes) (g : SharedGroup) (n : Nat) (m : Message)
    (found : Lookup) : Verdict :=
  if ¬ (g.limit.messages = 0 ∨ g.count .messages < g.limit.messages) then .forbidden .messages
  else if g.limit.messagesShmemBytes ≠ 0 ∧ ¬ (g.count .messagesShmemBytes
      + n * memstoreMsgMemsize sizes m ≤ g.limit.messagesShmemBytes) then .forbidden .memory
  else if g.limit.messagesFileBytes ≠ 0 ∧ ¬ (g.count .messagesFileBytes + m.buf.size
      ≤ g.limit.messagesFileBytes) then .forbidden .disk
  else publishChannelCheck g found

inductive Refusal where
  | channels | notExisting | subscribers
  deriving DecidableEq

inductive Subscribed where
  | accepted
  | forbidden (why : Refusal)
  deriving DecidableEq

/-- `channel_status`. -/
inductive ChannelStatus where
  | unauthorized (why : Refusal)
  | authorized
  | notsure

/-- A subscription to a channel id: the location with `subscribe_only_existing_channel`,
    `max_channel_subscribers` and Redis or without, whether this worker owns the channel, and what
    there is to be found.  `existing` is the answer of the owner's existence check, or of Redis,
    and `existingFull` the number of subscribers that goes with it; `hereFull` is about the
    chanhead of this worker. -/
structure Subscription extends Lookup where
  onlyExisting : Bool
  maxSubscribers : Bool
  redis : Bool
  owner : Bool
  existing : Bool
  existingFull : Bool
  hereFull : Bool

namespace Subscription

/-- `receive_channel_auth_check`. -/
def channelAuthCheck (sub : Subscription) : ChannelStatus :=
  if ¬ sub.existing then if sub.onlyExisting then .unauthorized .notExisting else .authorized
  else if sub.maxSubscribers && sub.existingFull then .unauthorized .subscribers
  else .authorized

/-- The status that `nchan_store_subscribe` goes on with. -/
def channelStatus (sub : Subscription) : ChannelStatus :=
  if ¬ sub.onlyExisting ∧ ¬ sub.maxSubscribers then .authorized
  else if sub.owner then .notsure
  else sub.channelAuthCheck

/-- The last test of `nchan_store_subscribe_continued`.  A chanhead that is made now has no
    subscribers. -/
def finish (chanhead : Bool) (sub : Subscription) : Subscribed :=
  if ¬ chanhead ∧ sub.onlyExisting then .forbidden .notExisting
  else if sub.chanheadHere && sub.maxSubscribers && sub.hereFull then .forbidden .subscribers
  else .accepted

/-- `nchan_store_subscribe_continued`, with `redis_subscribe_channel_existence_callback`,
    `group_subscribe_channel_limit_check` and `group_subscribe_channel_limit_reached`; the last two
    arguments are `d->channel_exists` and `d->group_channel_limit_pass`.  An id found at the limit
    is checked all over again; the rounds are counted down. -/
def subscribeContinued (g : SharedGroup) (sub : Subscription) :
    Nat → ChannelStatus → Bool → Bool → Option Subscribed
  | 0, _, _, _ => none
  | _ + 1, .unauthorized why, _, _ => some (.forbidden why)
  | rounds + 1, .authorized, channelExists, pass =>
    if pass || channelExists || sub.chanheadHere then some (sub.finish true)
    else if g.limit.channels = 0 ∨ g.count .channels < g.limit.channels then
      subscribeContinued g sub rounds .authorized channelExists true
    else if g.count .channels = g.limit.channels then
      if sub.channelFound then subscribeContinued g sub rounds .authorized channelExists pass
      else some (.forbidden .channels)
    else subscribeContinued g sub rounds (.unauthorized .channels) channelExists pass
  | rounds + 1, .notsure, _, pass =>
    if ¬ sub.redis then some (sub.finish sub.chanheadHere)
    else if sub.onlyExisting && sub.chanheadHere then some (sub.finish true)
    else if ¬ sub.existing ∧ sub.onlyExisting then
      subscribeContinued g sub rounds (.unauthorized .notExisting) false pass
    else subscribeContinued g sub rounds .authorized sub.existing pass

/-- `nchan_store_subscribe`. -/
def subscribe (g : SharedGroup) (sub : Subscription) (rounds : Nat) : Option Subscribed :=
  sub.subscribeContinued g rounds sub.channelStatus false false

/-- The subscription is refused because of the channel limit. -/
def Refused (g : SharedGroup) (sub : Subscription) : Prop :=
  ∃ rounds, sub.subscribe g rounds = some (.forbidden .channels)

/-- It gets past the channel limit. -/
def Passes (g : SharedGroup) (sub : Subscription) : Prop :=
  ∃ rounds, ∃ answer ∈ sub.subscribe g rounds, answer ≠ .forbidden .channels

/-- The channel limit is looked at: there is no chanhead here, and the channel is not known to
    exist.  An owner that checks for existing channels or the number of subscribers makes the
    chanhead without it, except with Redis. -/
def limitChecked (sub : Subscription) : Bool :=
  !sub.chanheadHere &&
    match sub.channelStatus with
    | .unauthorized _ => false
    | .authorized => true
    | .notsure => sub.redis && !sub.existing && !sub.onlyExisting

end Subscription

/-! ## The channel limit -/

/-- A group with its channels, which its counter counts, and the ids that this worker has a
    chanhead for. -/
structure Population (C : Type) where
  group : SharedGroup
  existing : List C
  here : List C
  counted : group.count .channels = existing.length

variable {C : Type} [DecidableEq C]

@[simp] def Population.lookup (pop : Population C) (c : C) : Lookup := ⟨c ∈ pop.here, c ∈ pop.existing⟩

/-- A new channel, with the chanhead the publisher's worker has for it. -/
def Population.create (c : C) (pop : Population C) : Population C where
  group := { pop.group with count := groupAddChannelInternal false true 1 pop.group.count }
  existing := c :: pop.existing
  here := c :: pop.here
  counted := by
    simp [groupAddChannelInternal, addCount, channelCount, pop.counted]

/-- How many of these new channels are created by publishing to one after another, before the
    first refusal. -/
def createdBeforeRefusal : List C → Population C → Nat
  | [], _ => 0
  | c :: cs, pop =>
    if publishChannelCheck pop.group (pop.lookup c) = .accepted then
      createdBeforeRefusal cs (pop.create c) + 1
    else 0

variable {g : SharedGroup} {found : Lookup}

theorem publishChannelCheck_accepted (limited : 0 < g.limit.channels) :
    publishChannelCheck g found = .accepted ↔
      g.count .channels + 1 < g.limit.channels ∨ g.count .channels + 1 = g.limit.channels ∧
        (found.chanheadHere = true ∨ found.channelFound = true) := by
  unfold publishChannelCheck groupPublishAccountingChannelcheck
  rw [if_neg (by omega)]
  split
  case isTrue last => cases here : found.chanheadHere <;> simp [last]
  case isFalse notLast =>
    split
    case isTrue reached => simp only [reduceCtorEq, false_iff]; omega
    case isFalse below => simp only [true_iff]; omega

theorem publishChannelCheck_forbidden {err : LimitReached}
    (refused : publishChannelCheck g found = .forbidden err) : err = .channels := by
  unfold publishChannelCheck groupPublishAccountingChannelcheck at refused
  grind

/-- Publishing to an id is not refused if it is of an existing channel, and accepted otherwise
    exactly if there is room for one more. -/
def PublishRight (g : SharedGroup) (found : Lookup) : Prop :=
  let verdict := publishChannelCheck g found
  (found.channelFound = true → verdict ≠ .forbidden .channels) ∧
    (found.channelFound = false →
      (verdict = .accepted ↔ g.count .channels < g.limit.channels))

theorem publishRight_iff (limited : 0 < g.limit.channels) :
    PublishRight g found ↔
      (found.channelFound = true → g.count .channels < g.limit.channels) ∧
      (found.channelFound = false →
        found.chanheadHere = true ∨ g.count .channels + 1 ≠ g.limit.channels) := by
  have refuses : publishChannelCheck g found ≠ .forbidden .channels ↔
      publishChannelCheck g found = .accepted := by
    cases verdict : publishChannelCheck g found with
    | accepted => simp
    | forbidden err => simp [publishChannelCheck_forbidden verdict]
  rw [PublishRight, refuses, publishChannelCheck_accepted limited]
  refine and_congr (forall_congr' fun present => ?_) (forall_congr' fun absent => ?_)
  · simp only [present, or_true, and_true]
    omega
  · cases found.chanheadHere <;> simp [absent] <;> omega

namespace Subscription

variable {sub : Subscription}

theorem finish_ne_channels (chanhead : Bool) : sub.finish chanhead ≠ .forbidden .channels := by
  unfold finish
  grind

section

variable (limited : 0 < g.limit.channels) (absent : sub.chanheadHere = false)

include limited absent

theorem subscribeContinued_at_limit (reached : g.count .channels = g.limit.channels)
    (found : sub.channelFound = true) (rounds : Nat) :
    sub.subscribeContinued g rounds .authorized false false = none := by
  induction rounds with
  | zero => rfl
  | succ rounds ih =>
    rw [subscribeContinued, if_neg (by simp [absent]), if_neg (by omega), if_pos reached,
      if_pos found, ih]

theorem subscribeContinued_authorized (rounds : Nat) :
    sub.subscribeContinued g (rounds + 2) .authorized false false =
      if g.count .channels < g.limit.channels then some (sub.finish true)
      else if g.count .channels = g.limit.channels ∧ sub.channelFound = true then none
      else some (.forbidden .channels) := by
  by_cases below : g.count .channels < g.limit.channels
  · rw [if_pos below, subscribeContinued, if_neg (by simp [absent]), if_pos (.inr below)]
    simp [subscribeContinued]
  · rw [if_neg below]
    by_cases reached : g.count .channels = g.limit.channels
    · cases found : sub.channelFound with
      | true =>
        rw [if_pos ⟨reached, rfl⟩]
        exact subscribeContinued_at_limit limited absent reached found _
      | false =>
        rw [subscribeContinued, if_neg (by simp [absent]), if_neg (by omega), if_pos reached]
        simp [found]
    · rw [subscribeContinued, if_neg (by simp [absent]), if_neg (by omega), if_neg reached]
      simp [subscribeContinued, reached]

end

theorem subscribeContinued_mono {rounds : Nat} (more : Nat) {status : ChannelStatus}
    {channelExists pass : Bool} {answer : Subscribed}
    (answered : sub.subscribeContinued g rounds status channelExists pass = some answer) :
    sub.subscribeContinued g (rounds + more) status channelExists pass = some answer := by
  induction rounds generalizing status channelExists pass with
  | zero => cases answered
  | succ rounds ih =>
    rw [Nat.succ_add]
    cases status with
    | unauthorized why => exact answered
    | authorized =>
      rw [subscribeContinued] at answered ⊢
      grind
    | notsure =>
      rw [subscribeContinued] at answered ⊢
      grind

theorem channelStatus_ne_channels : sub.channelStatus ≠ .unauthorized .channels := by
  unfold channelStatus channelAuthCheck
  grind

theorem subscribe_checked (limited : 0 < g.limit.channels) (checked : sub.limitChecked = true)
    (rounds : Nat) : sub.subscribe g (rounds + 3) =
      if g.count .channels < g.limit.channels then some (sub.finish true)
      else if g.count .channels = g.limit.channels ∧ sub.channelFound = true then none
      else some (.forbidden .channels) := by
  obtain ⟨absent, checked⟩ : sub.chanheadHere = false ∧ _ := by
    simpa [limitChecked] using checked
  have authorized := subscribeContinued_authorized limited absent
  unfold subscribe
  cases is : sub.channelStatus with
  | unauthorized why => simp [is] at checked
  | authorized => exact authorized (rounds + 1)
  | notsure =>
    obtain ⟨⟨redis, missing⟩, anyone⟩ : (sub.redis = true ∧ sub.existing = false) ∧
        sub.onlyExisting = false := by
      simpa [is] using checked
    have next : sub.subscribeContinued g (rounds + 3) .notsure false false =
        sub.subscribeContinued g (rounds + 2) .authorized false false := by
      conv_lhs => rw [subscribeContinued]
      simp [redis, missing, anyone]
    exact next.trans (authorized rounds)

theorem subscribe_unchecked (unchecked : sub.limitChecked = false) :
    ∃ answer ≠ Subscribed.forbidden .channels, ∀ rounds,
      sub.subscribe g (rounds + 3) = some answer := by
  unfold subscribe
  cases is : sub.channelStatus with
  | unauthorized why =>
    refine ⟨.forbidden why, fun same => ?_, fun _ => rfl⟩
    cases same
    exact channelStatus_ne_channels is
  | authorized =>
    have here : sub.chanheadHere = true := by simpa [limitChecked, is] using unchecked
    exact ⟨sub.finish true, finish_ne_channels true, fun _ => by simp [subscribeContinued, here]⟩
  | notsure =>
    by_cases memory : sub.redis = false
    · exact ⟨sub.finish sub.chanheadHere, finish_ne_channels _, fun _ => by
        simp [subscribeContinued, memory]⟩
    · by_cases missing : sub.existing = false ∧ sub.onlyExisting = true ∧ sub.chanheadHere = false
      · refine ⟨.forbidden .notExisting, by simp, fun _ => ?_⟩
        simp [subscribeContinued, memory, missing]
      · refine ⟨sub.finish true, finish_ne_channels true, fun _ => ?_⟩
        simp only [limitChecked, is] at unchecked
        rw [subscribeContinued]
        grind [subscribeContinued]

theorem refused_iff (limited : 0 < g.limit.channels) :
    sub.Refused g ↔ sub.limitChecked = true ∧ (g.limit.channels < g.count .channels ∨
      g.count .channels = g.limit.channels ∧ sub.channelFound = false) := by
  cases checked : sub.limitChecked with
  | false =>
    obtain ⟨answer, other, answers⟩ := subscribe_unchecked (g := g) checked
    simp only [Bool.false_eq_true, false_and, iff_false]
    rintro ⟨rounds, refused⟩
    exact other (Option.some.inj ((answers rounds).symm.trans (subscribeContinued_mono 3 refused)))
  | true =>
    have answers := subscribe_checked limited checked
    have finished := @finish_ne_channels sub true
    constructor
    · rintro ⟨rounds, refused⟩
      have := (answers rounds).symm.trans (subscribeContinued_mono 3 refused)
      grind
    · intro above
      exact ⟨3, (answers 0).trans (by grind)⟩

theorem passes_iff (limited : 0 < g.limit.channels) :
    sub.Passes g ↔ (sub.limitChecked = true → g.count .channels < g.limit.channels) := by
  cases checked : sub.limitChecked with
  | false =>
    obtain ⟨answer, other, answers⟩ := subscribe_unchecked (g := g) checked
    simp only [Bool.false_eq_true, false_implies, iff_true]
    exact ⟨3, answer, answers 0, other⟩
  | true =>
    have answers := subscribe_checked limited checked
    constructor
    · rintro ⟨rounds, answer, passed, other⟩ -
      have := (answers rounds).symm.trans (subscribeContinued_mono 3 passed)
      grind
    · intro below
      exact ⟨3, sub.finish true, (answers 0).trans (if_pos (below rfl)), finish_ne_channels true⟩

/-- Subscribing to an existing channel is not refused because of the limit, and one that makes a
    channel gets past it exactly if there is room for one more. -/
def Right (g : SharedGroup) (sub : Subscription) : Prop :=
  (sub.channelFound = true → ¬ sub.Refused g) ∧
    (sub.channelFound = false → sub.onlyExisting = false →
      (sub.Passes g ↔ g.count .channels < g.limit.channels))

theorem right_iff (limited : 0 < g.limit.channels) :
    sub.Right g ↔
      (sub.channelFound = true → sub.limitChecked = true →
        g.count .channels ≤ g.limit.channels) ∧
      (sub.channelFound = false → sub.onlyExisting = false → sub.limitChecked = false →
        g.count .channels < g.limit.channels) := by
  rw [Right, refused_iff limited, passes_iff limited]
  refine and_congr (forall_congr' fun found => ?_) (forall_congr' fun _ => forall_congr' fun _ => ?_)
  · simp [found]
  · cases sub.limitChecked <;> simp

end Subscription

theorem createdBeforeRefusal_eq (cs : List C) (pop : Population C) (distinct : cs.Nodup)
    (new : ∀ c ∈ cs, c ∉ pop.existing ∧ c ∉ pop.here) (limited : 0 < pop.group.limit.channels)
    (enough : pop.group.limit.channels ≤ pop.existing.length + cs.length)
    (room : (pop.existing.length : Int) < pop.group.limit.channels) :
    (createdBeforeRefusal cs pop : Int) = pop.group.limit.channels - 1 - pop.existing.length := by
  induction cs generalizing pop with
  | nil =>
    simp only [List.length_nil] at enough
    omega
  | cons c cs ih =>
    have accepts : publishChannelCheck pop.group (pop.lookup c) = .accepted ↔
        (pop.existing.length : Int) + 1 < pop.group.limit.channels := by
      rw [publishChannelCheck_accepted limited]
      simp [pop.counted, new c (by simp)]
    rw [createdBeforeRefusal]
    -- the last free place is refused
    by_cases last : (pop.existing.length : Int) + 1 < pop.group.limit.channels
    · rw [if_pos (accepts.mpr last)]
      obtain ⟨fresh, rest⟩ := List.nodup_cons.mp distinct
      have others : ∀ d ∈ cs, d ∉ (pop.create c).existing ∧ d ∉ (pop.create c).here := by
        intro d is
        have other : d ≠ c := fun same => fresh (same ▸ is)
        simpa [Population.create, other] using new d (List.mem_cons_of_mem _ is)
      have longer : ((pop.create c).existing.length : Int) = pop.existing.length + 1 := by
        simp [Population.create]
      have same : (pop.create c).group.limit.channels = pop.group.limit.channels := rfl
      rw [List.length_cons, Nat.cast_add, Nat.cast_one] at enough
      have created := ih (pop.create c) rest others limited (by omega) (by omega)
      omega
    · rw [if_neg (mt accepts.mp last)]
      omega

/-- The channel limit `L` with `c` channels: publishing is right to existing channels below the
    limit and to new ones unless exactly one place is left, and this worker has no chanhead for
    them.  Subscribing is right to existing channels up to the limit, or where it is not looked at,
    and to new ones where it is, or below it; at the limit the subscriber to an existing channel
    waits for good.  Publishing to new channels creates one less than the limit. -/
theorem channel_limit_right_iff (pop : Population C) (limited : 0 < pop.group.limit.channels) :
    (∀ found, PublishRight pop.group found ↔
      (found.channelFound = true → pop.group.count .channels < pop.group.limit.channels) ∧
      (found.channelFound = false → found.chanheadHere = true ∨
        pop.group.count .channels + 1 ≠ pop.group.limit.channels)) ∧
    (∀ sub : Subscription, sub.Right pop.group ↔
      (sub.channelFound = true → sub.limitChecked = true →
        pop.group.count .channels ≤ pop.group.limit.channels) ∧
      (sub.channelFound = false → sub.onlyExisting = false → sub.limitChecked = false →
        pop.group.count .channels < pop.group.limit.channels)) ∧
    (∀ sub : Subscription, sub.Passes pop.group ↔
      (sub.limitChecked = true → pop.group.count .channels < pop.group.limit.channels)) ∧
    (pop.existing = [] → ∀ cs : List C, cs.Nodup → (∀ c ∈ cs, c ∉ pop.here) →
      pop.group.limit.channels ≤ cs.length →
      (createdBeforeRefusal cs pop : Int) = pop.group.limit.channels - 1) := by
  refine ⟨fun _ => publishRight_iff limited, fun _ => Subscription.right_iff limited,
    fun _ => Subscription.passes_iff limited, fun empty cs distinct new enough => ?_⟩
  have created := createdBeforeRefusal_eq cs pop distinct (by simpa [empty] using new) limited
    (by simpa [empty] using enough) (by simpa [empty] using limited)
  simpa [empty] using created

/-- An empty group limited to `n` channels. -/
def allowed (n : Nat) : Population Nat where
  group := ⟨fun _ => 0, ⟨n, 0, 0, 0, 0⟩⟩
  existing := []
  here := []
  counted := rfl

/-- Three of five channels are created where four are allowed. -/
theorem channel_limit_right_four :
    0 < (allowed 4).group.limit.channels ∧
      (createdBeforeRefusal [7, 8, 9, 10, 11] (allowed 4) : Int) = 3 :=
  ⟨by decide, (channel_limit_right_iff (allowed 4) (by decide)).2.2.2 rfl [7, 8, 9, 10, 11]
    (by decide) (by decide) (by decide)⟩

/-- A subscriber on the worker that owns the channel, in a location that limits the number of
    subscribers. -/
def ownerSubscribes : Subscription where
  chanheadHere := false
  channelFound := false
  onlyExisting := false
  maxSubscribers := true
  redis := false
  owner := true
  existing := false
  existingFull := false
  hereFull := false

/-- The first channel of a group limited to one is refused, and so is a message to a channel
    that exists; but a subscriber may make the second one. -/
theorem last_channel_refused :
    publishChannelCheck (allowed 1).group ((allowed 1).lookup 7) = .forbidden .channels ∧
      publishChannelCheck ((allowed 1).create 7).group (((allowed 1).create 7).lookup 7) =
        .forbidden .channels ∧
      ownerSubscribes.subscribe ((allowed 1).create 7).group 3 = some .accepted := by
  decide

end Nchan.Memstore.GroupLimits
