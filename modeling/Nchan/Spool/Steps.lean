import Nchan.Spool.Spooler

/-! # What the spooler's functions do

Every function ends in one spool being written, after its subscribers may have come from another
spool that is emptied or destroyed.  `Woken` says what becomes of a spool that has got
subscribers, and `Moved` what a spool's way to the next message does to the spools.
-/

namespace Nchan.Spool

open Function Spooler Option Bool

variable {P : Type} {spl : Spooler P} {now : Int}

/-! ## One spool -/

/-- What `spool_fetch_msg` makes of a spool: it waits for the store, or for its timer. -/
structure Asked (pool pool' : SubscriberPool P) (ids : List MsgId) : Prop where
  id : pool'.id = pool.id
  msg : pool'.msg = none
  subs : pool'.subs = pool.subs
  status : pool'.msgStatus = .pending ∧ ids = [pool.id] ∨
    pool'.msgStatus = .invalid ∧ pool'.fetchmsgTimer = true ∧ ids = []

theorem askStore_asked (pool : SubscriberPool P) (empty : pool.msg = none)
    (invalid : pool.msgStatus = .invalid) :
    ∃ pool' ids, pool.askStore = some (pool', ids) ∧ Asked pool pool' ids := by
  refine ⟨_, _, by simp [SubscriberPool.askStore, empty, invalid]; exact ⟨rfl, rfl⟩, ?_⟩
  exact ⟨rfl, rfl, rfl, .inl ⟨rfl, rfl⟩⟩

variable {pool : SubscriberPool P}

theorem fetchMsg_asked (empty : pool.msg = none) (invalid : pool.msgStatus = .invalid) (now : Int) :
    ∃ pool' ids, pool.fetchMsg now = some (pool', ids) ∧ Asked pool pool' ids := by
  unfold SubscriberPool.fetchMsg
  by_cases again : pool.fetchmsgPrevMsec = now
  · by_cases often : pool.fetchmsgCurrentCount > fetchmsgMaxTimes
    · rw [if_pos again, if_pos often]
      exact ⟨_, _, rfl, rfl, empty, rfl, .inr ⟨invalid, rfl, rfl⟩⟩
    · rw [if_pos again, if_neg often]
      obtain ⟨pool', ids, asked, waits⟩ := askStore_asked { pool with
        fetchmsgCurrentCount := pool.fetchmsgCurrentCount + 1 } empty invalid
      exact ⟨pool', ids, asked, waits.id, waits.msg, waits.subs, waits.status⟩
  · rw [if_neg again]
    obtain ⟨pool', ids, asked, waits⟩ := askStore_asked { pool with
      fetchmsgCurrentCount := 0, fetchmsgPrevMsec := now } empty invalid
    exact ⟨pool', ids, asked, waits.id, waits.msg, waits.subs, waits.status⟩

def SubscriberPool.Settled (pool : SubscriberPool P) : Prop :=
  pool.msg = none ∧
    (pool.msgStatus = .invalid ∨ pool.msgStatus = .pending ∨ pool.msgStatus = .expected)

/-- What becomes of a spool that has got subscribers. -/
inductive Woken (pool : SubscriberPool P) : SubscriberPool P → List MsgId → Prop
  | asleep (idle : pool.subs = [] ∨ pool.msgStatus = .pending) : Woken pool pool []
  | told (expected : pool.msgStatus = .expected) :
      Woken pool { pool with subs := pool.subs.filter (!·.actAsIntervalpoll) } []
  | asked {pool' : SubscriberPool P} {ids : List MsgId} (invalid : pool.msgStatus = .invalid)
      (asked : Asked pool pool' ids) : Woken pool pool' ids

namespace Woken

variable {pool pool' : SubscriberPool P} {ids : List MsgId}

theorem id_eq (woken : Woken pool pool' ids) : pool'.id = pool.id := by
  cases woken with
  | asleep | told => rfl
  | asked _ asked => exact asked.id

theorem settled (woken : Woken pool pool' ids) (settled : pool.Settled) : pool'.Settled := by
  cases woken with
  | asleep | told => exact settled
  | asked _ asked =>
    refine ⟨asked.msg, ?_⟩
    cases asked.status with
    | inl pending => exact .inr (.inl pending.1)
    | inr timer => exact .inl timer.1

end Woken

/-! ## Writing to spools -/

@[simp] theorem pools_set (address : Nat) (pool : SubscriberPool P) :
    (spl.set address pool).pools = update spl.pools address (some pool) := rfl

variable {address : Nat}

section

variable (found : spl.pools address = some pool)

include found

theorem set_self : spl.set address pool = spl := by
  unfold Spooler.set
  rw [← found, Function.update_eq_self]

/-- The spooler with one spool written and the store asked for `ids`. -/
def Spooler.write (address : Nat) (pool : SubscriberPool P) (ids : List MsgId) (spl : Spooler P) :
    Spooler P :=
  { spl.set address pool with fetches := spl.fetches ++ ids }

theorem fetchMsg_spec (empty : pool.msg = none)
    (invalid : pool.msgStatus = .invalid) (now : Int) :
    ∃ pool' ids, spl.fetchMsg now address = some (spl.write address pool' ids) ∧
      Asked pool pool' ids := by
  obtain ⟨pool', ids, fetched, asked⟩ := fetchMsg_asked empty invalid now
  exact ⟨pool', ids, by simp [fetchMsg, found, fetched, write], asked⟩

theorem wakeSpool_spec (settled : pool.Settled)
    (now : Int) :
    ∃ pool' ids, spl.wakeSpool now address = some (spl.write address pool' ids) ∧
      Woken pool pool' ids := by
  have unchanged : spl.write address pool [] = spl := by
    rw [write, List.append_nil]
    exact set_self found
  by_cases empty : pool.subs = []
  · exact ⟨pool, [], by simp [wakeSpool, found, empty, unchanged], .asleep (.inl empty)⟩
  · rcases settled.2 with invalid | pending | expected
    · obtain ⟨pool', ids, fetched, asked⟩ := fetchMsg_spec found settled.1 invalid now
      exact ⟨pool', ids, by simp [wakeSpool, found, empty, invalid, fetched],
        .asked invalid asked⟩
    · exact ⟨pool, [], by simp [wakeSpool, found, pending, unchanged],
        .asleep (.inr pending)⟩
    · refine ⟨_, [], ?_, .told expected⟩
      simp [wakeSpool, found, empty, expected, respondNoContent, write, Spooler.set]

end

/-! ## Ids that compare equal -/

theorem compareTags_eq_iff {tags1 tags2 : Nat → Int} {indices : List Nat} :
    compareTags tags1 tags2 indices = .eq ↔ ∀ i ∈ indices, tags1 i = tags2 i := by
  induction indices with
  | nil => simp [compareTags]
  | cons i rest ih => simp [compareTags, ih]

theorem spoolRbtreeCompare_eq_iff {id1 id2 : MsgId} (counts : id1.tagcount = id2.tagcount) :
    spoolRbtreeCompare id1 id2 = .eq ↔
      id1.time = id2.time ∧ ∀ i < id1.tagcount, id1.tags i = id2.tags i := by
  rw [spoolRbtreeCompare, Ordering.then_eq_eq, compare_eq_iff_eq, compareTags_eq_iff, ← counts,
    max_self]
  refine and_congr_right fun _ => forall_congr' fun i => ?_
  rw [List.mem_range]
  refine imp_congr_right fun inside => ?_
  simp [inside]

/-! ## Finding spools -/

def Spooler.Below (spl : Spooler P) : Prop :=
  ∀ address pool, spl.pools address = some pool → address < spl.created

variable {id : MsgId}

theorem rbtreeFindNode_some (found : spl.rbtreeFindNode id = some address) :
    address ≠ 0 ∧ ∃ pool, spl.pools address = some pool ∧ spoolRbtreeCompare id pool.id = .eq := by
  have here := List.find?_some found
  simpa [any_eq_true] using here

theorem rbtreeFindNode_none (below : spl.Below) (missing : spl.rbtreeFindNode id = none)
    (node : address ≠ 0) (found : spl.pools address = some pool) :
    spoolRbtreeCompare id pool.id ≠ .eq := fun same => by
  have not := List.find?_eq_none.mp missing address (List.mem_range.mpr (below address pool found))
  simp [node, found, same] at not

theorem findSpool_node (node : id.time ≠ newestMsgidTime) :
    spl.findSpool id = (spl.rbtreeFindNode id, spl) := if_neg node

theorem getSpool_node (node : id.time ≠ newestMsgidTime) :
    spl.getSpool id = match spl.rbtreeFindNode id with
      | some address => (address, spl)
      | none => (spl.created, { spl.set spl.created (.init id) with created := spl.created + 1 }) := by
  unfold getSpool
  rw [findSpool_node node]
  cases spl.rbtreeFindNode id <;> rfl

/-! ## On to the next spool -/

/-- The subscribers of the spool at `address` move on to a spool for `newId` at `next`, which is
    `base` before it is woken. -/
structure Moved (spl : Spooler P) (address : Nat) (pool : SubscriberPool P) (newId : MsgId)
    (next : Nat) (base woken : SubscriberPool P) (ids : List MsgId) (spl' : Spooler P) : Prop where
  pools : spl'.pools = update (update spl.pools address
    (if address = 0 then some { pool with subs := [] } else none)) next (some woken)
  created : spl.created ≤ spl'.created ∧ next < spl'.created
  fetches : spl'.fetches = spl.fetches ++ ids
  responded : spl'.responded = spl.responded
  wakes : Woken base woken ids
  same : spoolRbtreeCompare newId base.id = .eq
  node : next ≠ 0
  source : (∃ old, next ≠ address ∧ spl.pools next = some old ∧
      base = { old with subs := pool.subs.reverse ++ old.subs }) ∨
    (next = address ∨ spl.pools next = none) ∧ base.id.tagcount = newId.tagcount ∧
      base.msg = none ∧ base.msgStatus = .invalid ∧ base.subs.Perm pool.subs ∧
      ∀ c old, c ≠ 0 → spl.pools c = some old → spoolRbtreeCompare newId old.id ≠ .eq

/-- The spooler just before the spool at `next` is woken. -/
def Spooler.handOver (address : Nat) (pool : SubscriberPool P) (next : Nat) (base : SubscriberPool P)
    (created : Nat) (spl : Spooler P) : Spooler P :=
  { spl with
    pools := update (update spl.pools address
      (if address = 0 then some { pool with subs := [] } else none)) next (some base)
    created := created }

theorem wake_handOver (address : Nat) {next created : Nat} (pool base : SubscriberPool P)
    {newId : MsgId}
    (now : Int) (more : spl.created ≤ created ∧ next < created) (settled : base.Settled)
    (same : spoolRbtreeCompare newId base.id = .eq) (node : next ≠ 0)
    (source : (∃ old, next ≠ address ∧ spl.pools next = some old ∧
        base = { old with subs := pool.subs.reverse ++ old.subs }) ∨
      (next = address ∨ spl.pools next = none) ∧ base.id.tagcount = newId.tagcount ∧
        base.msg = none ∧ base.msgStatus = .invalid ∧ base.subs.Perm pool.subs ∧
        ∀ c old, c ≠ 0 → spl.pools c = some old → spoolRbtreeCompare newId old.id ≠ .eq) :
    ∃ woken ids spl', (spl.handOver address pool next base created).wakeSpool now next = some spl' ∧
      Moved spl address pool newId next base woken ids spl' := by
  have here : (spl.handOver address pool next base created).pools next = some base :=
    update_self ..
  obtain ⟨woken, ids, wakes, is⟩ := wakeSpool_spec here settled now
  refine ⟨woken, ids, _, wakes, ?_, more, rfl, rfl, is, same, node, source⟩
  exact update_idem ..

section

variable {address : Nat} {pool : SubscriberPool P} {newLastId newId : MsgId}

theorem transferSubscribers_spec (spl : Spooler P) {src dst : Nat} {spool newspool : SubscriberPool P}
    (atSrc : spl.pools src = some spool) (atDst : spl.pools dst = some newspool) :
    spl.transferSubscribers src dst false = some ((spl.set src { spool with subs := [] }).set dst
      { newspool with subs := spool.subs.reverse ++ newspool.subs }) := by
  simp [transferSubscribers, atSrc, atDst]

theorem nextmsg_existing (now : Int) (found : spl.pools address = some pool)
    (updated : (zeroMsgid.copyMsgId pool.id).updateMultiMsgid newLastId = some newId)
    (moves : msgIdsEqual pool.id newId = false) (node : newId.time ≠ newestMsgidTime)
    (immortal : pool.id.time = newestMsgidTime ↔ address = 0) {next : Nat}
    {old : SubscriberPool P} (hit : spl.rbtreeFindNode newId = some next) (other : next ≠ address)
    (there : spl.pools next = some old) :
    spl.nextmsg now address newLastId = (spl.handOver address pool next
      { old with subs := pool.subs.reverse ++ old.subs } spl.created).wakeSpool now next := by
  have transferred := transferSubscribers_spec spl found there
  by_cases current : address = 0
  · subst current
    have newest := immortal.mpr rfl
    simp only [nextmsg, found, updated, moves, newest, getSpool_node node, hit, other,
      transferred, bind_some, if_true, if_false, false_eq_true]
    rfl
  · have notNewest := mt immortal.mp current
    simp only [nextmsg, found, updated, moves, notNewest, findSpool_node node, hit, other,
      transferred, bind_some, if_false, false_eq_true]
    simp only [destroySpool, Spooler.set, handOver, current, if_false]
    rw [update_comm other, update_idem]

theorem nextmsg_fresh (now : Int) (found : spl.pools address = some pool)
    (updated : (zeroMsgid.copyMsgId pool.id).updateMultiMsgid newLastId = some newId)
    (moves : msgIdsEqual pool.id newId = false) (node : newId.time ≠ newestMsgidTime)
    (immortal : pool.id.time = newestMsgidTime ↔ address = 0) (below : spl.Below)
    (miss : spl.rbtreeFindNode newId = none) :
    spl.nextmsg now address newLastId =
      if address = 0 then (spl.handOver address pool spl.created
        { SubscriberPool.init newId with subs := pool.subs.reverse } (spl.created + 1)).wakeSpool now
          spl.created
      else (spl.handOver address pool address
        { pool with id := pool.id.copyMsgId newId, msgStatus := .invalid, msg := none }
        spl.created).wakeSpool now address := by
  by_cases current : address = 0
  · subst current
    have newest := immortal.mpr rfl
    have apart : spl.created ≠ 0 := (below 0 pool found).ne'
    have stillThere : (update spl.pools spl.created (some (.init newId))) 0 = some pool := by
      rw [update_of_ne apart.symm, found]
    have transferred := transferSubscribers_spec
      { spl.set spl.created (.init newId) with created := spl.created + 1 }
      stillThere (update_self spl.created ..)
    simp only [nextmsg, found, updated, moves, newest, getSpool_node node, miss, apart,
      transferred, bind_some, if_true, if_false, false_eq_true]
    simp only [Spooler.set, handOver, if_true, SubscriberPool.init, List.append_nil]
    rw [update_comm apart, update_idem]
  · have notNewest := mt immortal.mp current
    simp only [nextmsg, found, updated, moves, notNewest, findSpool_node node, miss,
      current, bind_some, if_false, false_eq_true]
    simp [Spooler.set, handOver]

theorem copyMsgId_compare (dst src : MsgId) :
    spoolRbtreeCompare src (dst.copyMsgId src) = .eq := by
  rw [spoolRbtreeCompare_eq_iff (MsgId.copyMsgId_tagcount dst src).symm]
  simp

theorem spoolRbtreeCompare_self (id : MsgId) : spoolRbtreeCompare id id = .eq := by
  simp [spoolRbtreeCompare_eq_iff rfl]

theorem nextmsg_moved (now : Int) (found : spl.pools address = some pool)
    (updated : (zeroMsgid.copyMsgId pool.id).updateMultiMsgid newLastId = some newId)
    (moves : msgIdsEqual pool.id newId = false)
    (differs : address ≠ 0 → spoolRbtreeCompare newId pool.id ≠ .eq)
    (node : newId.time ≠ newestMsgidTime)
    (immortal : pool.id.time = newestMsgidTime ↔ address = 0) (below : spl.Below)
    (settled : ∀ c old, c ≠ 0 → c ≠ address → spl.pools c = some old →
      spoolRbtreeCompare newId old.id = .eq → old.Settled) :
    ∃ next base woken ids spl', spl.nextmsg now address newLastId = some spl' ∧
      Moved spl address pool newId next base woken ids spl' := by
  cases search : spl.rbtreeFindNode newId with
  | some next =>
    obtain ⟨nonzero, old, there, same⟩ := rbtreeFindNode_some search
    have other : next ≠ address := by
      rintro rfl
      exact differs nonzero (Option.some.inj (found.symm.trans there) ▸ same)
    obtain ⟨woken, ids, spl', wakes, moved⟩ := wake_handOver address pool
      { old with subs := pool.subs.reverse ++ old.subs } now
      ⟨Nat.le_refl spl.created, below next old there⟩
      (settled next old nonzero other there same) same nonzero (.inl ⟨old, other, there, rfl⟩)
    rw [nextmsg_existing now found updated moves node immortal search other there]
    exact ⟨next, _, woken, ids, spl', wakes, moved⟩
  | none =>
    have missing : ∀ c old, c ≠ 0 → spl.pools c = some old →
        spoolRbtreeCompare newId old.id ≠ .eq :=
      fun c old nonzero there => rbtreeFindNode_none below search nonzero there
    rw [nextmsg_fresh now found updated moves node immortal below search]
    by_cases current : address = 0
    · have positive : 0 < spl.created := current ▸ below address pool found
      have unused : spl.pools spl.created = none := by
        cases there : spl.pools spl.created with
        | none => rfl
        | some old => exact absurd (below spl.created old there) (Nat.lt_irrefl _)
      rw [if_pos current]
      obtain ⟨woken, ids, spl', wakes, moved⟩ := wake_handOver address pool
        { SubscriberPool.init newId with subs := pool.subs.reverse } now
        ⟨Nat.le_succ spl.created, Nat.lt_succ_self _⟩ ⟨rfl, .inl rfl⟩
        (spoolRbtreeCompare_self newId) positive.ne'
        (.inr ⟨.inr unused, rfl, rfl, rfl, List.reverse_perm _, missing⟩)
      exact ⟨spl.created, _, woken, ids, spl', wakes, moved⟩
    · rw [if_neg current]
      obtain ⟨woken, ids, spl', wakes, moved⟩ := wake_handOver address pool
        { pool with id := pool.id.copyMsgId newId, msgStatus := .invalid, msg := none } now
        ⟨Nat.le_refl spl.created, below address pool found⟩ ⟨rfl, .inl rfl⟩
        (copyMsgId_compare pool.id newId) current
        (.inr ⟨.inl rfl, MsgId.copyMsgId_tagcount .., rfl, rfl, .refl _, missing⟩)
      exact ⟨address, _, woken, ids, spl', wakes, moved⟩

end

end Nchan.Spool
