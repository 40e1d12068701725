import Nchan.Spool.Tidy

/-! # Subscribers, timers and replies

What the other functions of the spooler do to spools that are attended to.  A reply of the store
with a message, or without one, takes the spool away from the id that was asked about, unless
there is none yet.  Then the spool stays where it is, and it must not be one that is still to ask.
-/

namespace Nchan.Spool

open MsgId Lib List Option Spooler
open Function (update update_of_ne update_self)

variable {P : Type} {good : Stamp → Prop} {busy : Option Nat} {spl spl' : Spooler P} {now : Int}

/-- There is no node at `x`. -/
def Vacant (x : Stamp) (spl : Spooler P) : Prop :=
  ∀ c pool, c ≠ 0 → spl.pools c = some pool → pool.id.stamp ≠ x

variable {a : Nat} {pool pool' : SubscriberPool P}

theorem Vacant.write {x : Stamp} (vacant : Vacant x spl) (found : spl.pools a = some pool)
    (id : pool'.id = pool.id) (pools : spl'.pools = update spl.pools a (some pool')) :
    Vacant x spl' := by
  intro c old node there
  rw [pools] at there
  rcases update_eq_some there with ⟨rfl, is⟩ | ⟨-, is⟩
  · rw [← some.inj is, id]
    exact vacant c pool node found
  · exact vacant c old node is

/-! ## Asking the store -/

theorem askStore_cases {ids : List MsgId} (done : pool.askStore = some (pool', ids)) :
    pool' = { pool with msgStatus := .pending } ∧ ids = [pool.id] := by
  unfold SubscriberPool.askStore at done
  split at done
  · cases done
  · cases done
    exact ⟨rfl, rfl⟩

theorem fetchMsg_cases {ids : List MsgId} (done : pool.fetchMsg now = some (pool', ids)) :
    pool'.id = pool.id ∧ pool'.msg = pool.msg ∧
      (pool'.msgStatus = pool.msgStatus ∧ ids = [] ∨
        pool'.msgStatus = .pending ∧ ids = [pool.id]) := by
  unfold SubscriberPool.fetchMsg at done
  split at done
  · split at done
    · cases done
      exact ⟨rfl, rfl, .inl ⟨rfl, rfl⟩⟩
    · obtain ⟨rfl, rfl⟩ := askStore_cases done
      exact ⟨rfl, rfl, .inr ⟨rfl, rfl⟩⟩
  · obtain ⟨rfl, rfl⟩ := askStore_cases done
    exact ⟨rfl, rfl, .inr ⟨rfl, rfl⟩⟩

theorem Tidy.fetchMsg (tidy : Tidy good busy spl) (found : spl.pools a = some pool) (node : a ≠ 0)
    (done : spl.fetchMsg now a = some spl') :
    Tidy good busy spl' ∧ ∃ pool', pool'.id = pool.id ∧
      spl'.pools = update spl.pools a (some pool') := by
  rw [Spooler.fetchMsg, found, bind_some] at done
  obtain ⟨⟨pool', ids⟩, asked, rfl⟩ := map_eq_some_iff.mp done
  obtain ⟨id, msg, status⟩ := fetchMsg_cases asked
  refine ⟨tidy.write found pool' ids rfl id rfl rfl ?_ (fun newest => absurd newest node) ?_,
    pool', id, rfl⟩
  · intro request on
    rcases status with ⟨-, rfl⟩ | ⟨-, rfl⟩
    · cases on
    · exact ⟨node, mem_singleton.mp on⟩
  · intro _ _ settled
    rcases status with ⟨same, rfl⟩ | ⟨pending, rfl⟩
    · exact ⟨⟨msg.trans settled.1, same ▸ settled.2⟩, fun was => .inl (same ▸ was)⟩
    · exact ⟨⟨msg.trans settled.1, .inr (.inl pending)⟩, fun _ => .inr (mem_singleton_self _)⟩

/-! ## Subscribers -/

/-- The ids that subscribers come with. -/
def Wanted (id : MsgId) : Prop := id.time = newestMsgidTime ∨ id.Single

instance (id : MsgId) : Decidable (Wanted id) := inferInstanceAs (Decidable (_ ∨ _))

theorem Tidy.getSpool (tidy : Tidy good busy spl) {id : MsgId} (wanted : Wanted id) :
    ∃ address pool between, spl.getSpool id = (address, between) ∧ Tidy good busy between ∧
      between.pools address = some pool ∧
      (address = 0 ∧ id.time = newestMsgidTime ∨ address ≠ 0 ∧ pool.id.stamp = id.stamp) ∧
      ∀ c old, spl.pools c = some old → between.pools c = some old := by
  rcases wanted with newest | single
  · obtain ⟨pool, there, -⟩ := tidy.current
    exact ⟨0, pool, spl, by simp [Spooler.getSpool, tidy.findSpool_newest newest], tidy, there,
      .inl ⟨rfl, newest⟩, fun c old was => was⟩
  · rw [getSpool_node single.not_newest]
    cases search : spl.rbtreeFindNode id with
    | some address =>
      obtain ⟨node, pool, there, same⟩ := rbtreeFindNode_some search
      refine ⟨address, pool, spl, rfl, tidy, there, .inr ⟨node, ?_⟩, fun c old was => was⟩
      exact ((compare_single single (tidy.single address pool node there)).mp same).symm
    | none =>
      have positive : spl.created ≠ 0 := by
        obtain ⟨pool, there, -⟩ := tidy.current
        exact (tidy.below 0 pool there).ne'
      refine ⟨spl.created, _, _, rfl, ?_, update_self .., .inr ⟨positive, rfl⟩,
        fun c old was => ?_⟩
      · refine tidy.change spl.created [] ?_ (append_nil _).symm (by simp) (Nat.le_succ _)
          (Nat.lt_succ_self _) (fun c pool _ other there => ?_) fun pool _ there => ?_
        · obtain ⟨pool, there, is⟩ := tidy.current
          exact ⟨pool, (update_of_ne positive.symm _ _).trans there, is⟩
        · rw [pools_set, update_of_ne other] at there
          exact ⟨there, fun free => free⟩
        · rw [pools_set, update_self] at there
          cases there
          refine ⟨single, fun c old node other there same => ?_, fun _ =>
            ⟨⟨rfl, .inl rfl⟩, fun asked => absurd rfl asked⟩⟩
          rw [pools_set, update_of_ne other] at there
          exact rbtreeFindNode_none tidy.below search node there
            ((compare_single single (tidy.single c old node there)).mpr same.symm)
      · exact (update_of_ne (tidy.below c old was).ne _ _).trans was

variable (tidy : Tidy good none spl)

include tidy

theorem Tidy.status (found : spl.pools a = some pool) :
    a ≠ 0 ∧ pool.msg = none ∧ pool.msgStatus = .invalid ∨ pool.msgStatus = .pending ∨
      pool.msgStatus = .expected := by
  by_cases first : a = 0
  · subst first
    obtain ⟨current, there, -, expected⟩ := tidy.current
    exact .inr (.inr (some.inj (found.symm.trans there) ▸ expected))
  · obtain ⟨empty, invalid | asked⟩ := tidy.settled a pool first (some_ne_none a) found
    · exact .inl ⟨first, empty, invalid⟩
    · exact .inr asked

theorem Tidy.addSubscriber {sub : Subscriber}
    (wanted : Wanted sub.lastMsgid) (done : spl.addSubscriber now sub = some spl') :
    Tidy good none spl' := by
  obtain ⟨address, pool, between, search, tidy, there, -, -⟩ := tidy.getSpool wanted
  have joined : Tidy good none (between.set address { pool with subs := sub :: pool.subs }) :=
    tidy.setSubs there _ rfl rfl rfl
  have here : (between.set address { pool with subs := sub :: pool.subs }).pools address =
      some { pool with subs := sub :: pool.subs } := update_self ..
  simp only [Spooler.addSubscriber, search, there, bind_some] at done
  generalize between.set address { pool with subs := sub :: pool.subs } = after at done joined here
  rcases tidy.status there with ⟨node, empty, invalid⟩ | pending | expected
  · simp only [invalid, empty, isSome_none, Bool.false_eq_true, if_false] at done
    exact (joined.fetchMsg here node done).1
  · simp only [pending] at done
    cases done
    exact joined
  · simp only [expected] at done
    split at done
    · cases done
      exact joined.setSubs here pool.subs rfl rfl rfl
    · cases done
      exact joined

theorem Tidy.dequeueSubscriber {address sub : Nat}
    (done : spl.dequeueSubscriber address sub = some spl') : Tidy good none spl' := by
  obtain ⟨pool, there, left⟩ := bind_eq_some_iff.mp done
  split at left
  · cases left
    exact tidy.setSubs there _ rfl rfl rfl
  · cases left

theorem Tidy.fetchmsgEvHandler {address : Nat}
    (done : spl.fetchmsgEvHandler now address = some spl') : Tidy good none spl' := by
  unfold Spooler.fetchmsgEvHandler at done
  split at done
  · cases done
    exact tidy
  case h_2 pool there =>
    split at done
    case isFalse =>
      cases done
      exact tidy
    case isTrue =>
      have off : Tidy good none (spl.set address { pool with fetchmsgTimer := false }) := by
        refine tidy.write there _ [] rfl rfl rfl (append_nil _).symm ?_ (fun _ => rfl) ?_
        · exact forall_mem_nil _
        · exact fun _ _ settled => ⟨settled, fun asked => .inl asked⟩
      split at done
      case isTrue invalid =>
        rcases tidy.status there with ⟨node, -⟩ | pending | expected
        · exact (off.fetchMsg (update_self ..) node done).1
        · exact absurd (invalid.symm.trans pending) (by decide)
        · exact absurd (invalid.symm.trans expected) (by decide)
      case isFalse =>
        cases done
        exact off

/-! ## Replies -/

omit tidy in
theorem Tidy.destroySpool (tidy : Tidy good (some a) spl) (found : spl.pools a = some pool)
    (node : a ≠ 0) :
    Tidy good none (spl.destroySpool a) ∧ Vacant pool.id.stamp (spl.destroySpool a) := by
  have gone : (spl.destroySpool a).pools a = none := update_self ..
  have others : ∀ c old, (spl.destroySpool a).pools c = some old →
      c ≠ a ∧ spl.pools c = some old := by
    intro c old there
    rcases update_eq_some there with ⟨-, is⟩ | ⟨other, was⟩
    · cases is
    · exact ⟨other, was⟩
  constructor
  · refine tidy.change a [] ?_ (append_nil _).symm (by simp) (Nat.le_refl _)
      (tidy.below a pool found) (fun c old _ other there => ?_) fun old _ there => ?_
    · obtain ⟨current, there, is⟩ := tidy.current
      exact ⟨current, (update_of_ne (Ne.symm node) _ _).trans there, is⟩
    · exact ⟨(others c old there).2, fun _ is => other (some.inj is)⟩
    · rw [gone] at there
      cases there
  · intro c old node' there same
    obtain ⟨other, was⟩ := others c old there
    exact other (tidy.apart c a old pool node' node was found same)

omit tidy in
theorem Tidy.restart {b : Nat} (tidy : Tidy good (some a) spl) {target : SubscriberPool P}
    (found : spl.pools a = some pool) (node : a ≠ 0) (other : a ≠ b)
    (there : spl.pools b = some target) (done : spl.restart a b = some spl') :
    Tidy good none spl' ∧ Vacant pool.id.stamp spl' ∧
      ∃ target', target'.id = target.id ∧ spl'.pools b = some target' := by
  obtain ⟨subs, is⟩ : ∃ subs, spl.restart a b = some (((spl.set a { pool with subs := [] }).set b
      { target with subs := subs }).destroySpool a) := by
    rw [Spooler.restart, Spooler.transferSubscribers, found, bind_some, there]
    exact ⟨_, rfl⟩
  obtain rfl := some.inj (is.symm.trans done)
  have emptied : Tidy good (some a) (spl.set a { pool with subs := [] }) :=
    tidy.setSubs found _ rfl rfl rfl
  have there' : (spl.set a { pool with subs := [] }).pools b = some target :=
    (update_of_ne (Ne.symm other) _ _).trans there
  have moved : Tidy good (some a) ((spl.set a { pool with subs := [] }).set b
      { target with subs := subs }) := emptied.setSubs there' subs rfl rfl rfl
  have still := (update_of_ne other (some { target with subs := subs }) _).trans
    (update_self a (some { pool with subs := [] }) spl.pools)
  obtain ⟨tidy, vacant⟩ := moved.destroySpool still node
  exact ⟨tidy, vacant, { target with subs := subs }, rfl,
    (update_of_ne (Ne.symm other) _ _).trans (update_self ..)⟩

variable {msgid : MsgId}

omit tidy in
theorem Tidy.findSpool (tidy : Tidy good busy spl) (single : msgid.Single) :
    spl.findSpool msgid = (none, spl) ∧ Vacant msgid.stamp spl ∨
      ∃ address pool, spl.findSpool msgid = (some address, spl) ∧ address ≠ 0 ∧
        spl.pools address = some pool ∧ pool.id.stamp = msgid.stamp := by
  rw [findSpool_node single.not_newest]
  cases search : spl.rbtreeFindNode msgid with
  | none =>
    refine .inl ⟨rfl, fun c pool node there same => ?_⟩
    exact rbtreeFindNode_none tidy.below search node there
      ((compare_single single (tidy.single c pool node there)).mpr same.symm)
  | some address =>
    obtain ⟨node, pool, there, same⟩ := rbtreeFindNode_some search
    refine .inr ⟨address, pool, rfl, node, there, ?_⟩
    exact ((compare_single single (tidy.single address pool node there)).mp same).symm

theorem Tidy.reply_found (request : msgid.Single) {msg : Msg P}
    (single : msg.id.Single) (done : spl.fetchMsgCallback now msgid .found (some msg) = some spl') :
    Tidy good none spl' ∧ Vacant msgid.stamp spl' := by
  rcases tidy.findSpool request with ⟨search, vacant⟩ | ⟨address, pool, search, node, there, same⟩
  · simp only [fetchMsgCallback, search] at done
    cases done
    exact ⟨tidy, vacant⟩
  · simp only [fetchMsgCallback, search, there, bind_some] at done
    have busy := (tidy.toBusy (some address)).setBusy there node
      { pool with msgStatus := .found, msg := some msg } rfl
    obtain ⟨tidy', passed, apart⟩ := busy.advance (update_self ..) single done
    refine ⟨tidy', fun c old node' there' equal => ?_⟩
    have differs : old.id.stamp ≠ msg.id.stamp := by
      rw [equal, ← same]
      exact apart node
    obtain ⟨other, was⟩ := passed.old c old node' there' differs
    rw [pools_set, update_of_ne other] at was
    exact other (tidy.apart c address old pool node' node was there (equal.trans same.symm))

theorem Tidy.reply_expected (request : msgid.Single)
    (asked : ∀ a pool, a ≠ 0 → spl.pools a = some pool → pool.id.stamp = msgid.stamp →
      pool.msgStatus ≠ .invalid)
    (done : spl.fetchMsgCallback now msgid .expected none = some spl') : Tidy good none spl' := by
  rcases tidy.findSpool request with ⟨search, -⟩ | ⟨address, pool, search, node, there, same⟩
  · simp only [fetchMsgCallback, search] at done
    cases done
    exact tidy
  · have notNth : pool.id.time ≠ nthMsgidTime := by
      have nonneg := (tidy.single address pool node there).time_nonneg
      rintro nth
      rw [nth] at nonneg
      exact absurd nonneg (by decide)
    simp only [fetchMsgCallback, search, there, bind_some, notNth, if_false,
      isSome_none, Bool.false_eq_true, respondNoContent, pools_set,
      update_self, map_some, some.injEq] at done
    subst done
    have expects : Tidy good none
        (spl.set address { pool with msgStatus := .expected, msg := none }) := by
      refine tidy.write there _ [] rfl rfl rfl (append_nil _).symm ?_
        (fun newest => absurd newest node) fun _ _ _ => ?_
      · exact forall_mem_nil _
      · exact ⟨⟨rfl, .inr (.inr rfl)⟩, fun _ => .inl (asked address pool node there same)⟩
    exact expects.setSubs (update_self ..) _ rfl rfl rfl

theorem Tidy.reply_notfound (request : msgid.Single)
    (done : spl.fetchMsgCallback now msgid .notfound none = some spl') :
    Tidy good none spl' ∧ Vacant msgid.stamp spl' := by
  rcases tidy.findSpool request with ⟨search, vacant⟩ | ⟨address, pool, search, node, there, same⟩
  · simp only [fetchMsgCallback, search] at done
    cases done
    exact ⟨tidy, vacant⟩
  · simp only [fetchMsgCallback, search, there, bind_some] at done
    have marked := (tidy.toBusy (some address)).setBusy there node
      { pool with msgStatus := .notfound } rfl
    obtain ⟨told, tells, done⟩ := bind_eq_some_iff.mp done
    simp only [respondNoContent, pools_set, update_self, map_some,
      some.injEq] at tells
    obtain ⟨here, left⟩ : told.pools address = some { pool with
        msgStatus := .notfound, subs := pool.subs.filter (!·.actAsIntervalpoll) } ∧
        Tidy good (some address) told := by
      rw [← tells]
      exact ⟨update_self .., marked.setSubs (update_self ..) _ rfl rfl rfl⟩
    obtain ⟨nuspool, target, between, search', tidy', there', place, keeps⟩ :=
      left.getSpool (.inr single_oldest)
    have here' := keeps address _ here
    simp only [oldestMsgId, search'] at done
    obtain ⟨node', atOldest⟩ := place.resolve_left fun is => single_oldest.not_newest is.2
    split at done
    case isTrue other =>
      obtain ⟨restarted, restarts, fetches⟩ := bind_eq_some_iff.mp done
      obtain ⟨tidy, vacant, target', id, there⟩ := tidy'.restart here' node other there' restarts
      obtain ⟨tidy, pool', id', pools⟩ := tidy.fetchMsg there node' fetches
      exact ⟨tidy, same ▸ vacant.write there id' pools⟩
    case isFalse is =>
      obtain rfl : address = nuspool := not_not.mp is
      have poolSingle := tidy.single address pool node there
      -- the oldest message was asked for
      have oldest : pool.id.tagcount = 1 ∧ spoolRbtreeCompare pool.id MsgId.oldest = .eq := by
        refine ⟨poolSingle.tagcount, (compare_single poolSingle single_oldest).mpr ?_⟩
        rw [some.inj (there'.symm.trans here')] at atOldest
        exact atOldest
      rw [if_pos oldest] at done
      simp only [Spooler.getSpool, tidy'.findSpool_newest (show latestMsgId.time = _ from rfl),
        node, if_false] at done
      obtain ⟨current, newest, -⟩ := tidy'.current
      obtain ⟨tidy, vacant, -⟩ := tidy'.restart here' node node newest done
      exact ⟨tidy, same ▸ vacant⟩

end Nchan.Spool
