import Nchan.Spool.SingleTag

/-! # Spools that are attended to

A spool of a single channel is left to others once it has asked the store: either its request is
still on its way, or somebody else sees to it.  Who that is, is left open here, and depends on the
id that the spool is at.  The functions of the spooler keep this.
-/

namespace Nchan.Spool

open MsgId Lib List Option Spooler
open Function (update update_eq_self update_of_ne update_self)

variable {P : Type}

/-- There is a request for the message after `x`, or somebody sees to it. -/
def Attended (good : Stamp → Prop) (fetches : List MsgId) (x : Stamp) : Prop :=
  good x ∨ ∃ request ∈ fetches, request.stamp = x

/-- The invariant of a spooler.  A spool that is busy is being seen to right now. -/
structure Tidy (good : Stamp → Prop) (busy : Option Nat) (spl : Spooler P) : Prop where
  below : spl.Below
  current : ∃ pool, spl.pools 0 = some pool ∧ pool.id = latestMsgId ∧ pool.msgStatus = .expected
  single : ∀ a pool, a ≠ 0 → spl.pools a = some pool → pool.id.Single
  apart : ∀ a b pool pool', a ≠ 0 → b ≠ 0 → spl.pools a = some pool → spl.pools b = some pool' →
    pool.id.stamp = pool'.id.stamp → a = b
  settled : ∀ a pool, a ≠ 0 → some a ≠ busy → spl.pools a = some pool → pool.Settled
  waits : ∀ a pool, a ≠ 0 → some a ≠ busy → spl.pools a = some pool →
    pool.msgStatus ≠ .invalid → Attended good spl.fetches pool.id.stamp
  requests : ∀ request ∈ spl.fetches, request.Single

section

variable {good good' : Stamp → Prop} {busy busy' : Option Nat} {spl spl' : Spooler P}

theorem Attended.append {fetches : List MsgId} {x : Stamp} (attended : Attended good fetches x)
    (ids : List MsgId) : Attended good (fetches ++ ids) x := by
  refine attended.imp_right fun ⟨request, on, same⟩ => ?_
  exact ⟨request, mem_append_left _ on, same⟩

theorem Tidy.start : Tidy good none (Spooler.start : Spooler P) := by
  have only : ∀ a pool, (Spooler.start : Spooler P).pools a = some pool → a = 0 := by
    intro a pool found
    by_contra node
    simp [Spooler.start, node] at found
  constructor
  case below =>
    intro a pool found
    rw [only a pool found]
    exact Nat.zero_lt_one
  case current => exact ⟨_, rfl, rfl, rfl⟩
  case single => exact fun a pool node found => absurd (only a pool found) node
  case apart => exact fun a b pool pool' node _ found => absurd (only a pool found) node
  case settled => exact fun a pool node _ found => absurd (only a pool found) node
  case waits => exact fun a pool node _ found => absurd (only a pool found) node
  case requests => exact forall_mem_nil _

theorem Tidy.imp (tidy : Tidy good busy spl)
    (better : ∀ a pool, a ≠ 0 → spl.pools a = some pool → pool.msgStatus ≠ .invalid →
      good pool.id.stamp → good' pool.id.stamp) : Tidy good' busy spl :=
  { tidy with
    waits := fun a pool node free found asked =>
      (tidy.waits a pool node free found asked).imp_left (better a pool node found asked) }

theorem eq_or_mem_eraseIdx {α : Type*} {l : List α} {i : Nat} {x y : α} (is : l[i]? = some y)
    (on : x ∈ l) : x = y ∨ x ∈ l.eraseIdx i := by
  obtain ⟨j, at_⟩ := mem_iff_getElem?.mp on
  by_cases here : j = i
  · exact .inl (some.inj (at_.symm.trans (here ▸ is)))
  · exact .inr (mem_eraseIdx_iff_getElem?.mpr ⟨j, here, at_⟩)

theorem Tidy.looked (tidy : Tidy good busy spl) {i : Nat} {request : MsgId}
    (is : spl.fetches[i]? = some request)
    (better : ∀ a pool, a ≠ 0 → spl.pools a = some pool → good pool.id.stamp →
      good' pool.id.stamp) (seen : good' request.stamp) :
    Tidy good' busy { spl with fetches := spl.fetches.eraseIdx i } := by
  refine { tidy with
    waits := fun a pool node free found asked => ?_
    requests := fun other on => tidy.requests other (mem_of_mem_eraseIdx on) }
  rcases tidy.waits a pool node free found asked with cared | ⟨other, on, same⟩
  · exact .inl (better a pool node found cared)
  · rcases eq_or_mem_eraseIdx is on with rfl | left
    · exact .inl (same ▸ seen)
    · exact .inr ⟨other, left, same⟩

theorem Tidy.toBusy (tidy : Tidy good none spl) (busy : Option Nat) : Tidy good busy spl :=
  { tidy with
    settled := fun a pool node _ => tidy.settled a pool node (some_ne_none a)
    waits := fun a pool node _ => tidy.waits a pool node (some_ne_none a) }

theorem Tidy.change (tidy : Tidy good busy spl) (a : Nat) (ids : List MsgId)
    (current : ∃ pool, spl'.pools 0 = some pool ∧ pool.id = latestMsgId ∧
      pool.msgStatus = .expected)
    (fetches : spl'.fetches = spl.fetches ++ ids) (requests : ∀ request ∈ ids, request.Single)
    (created : spl.created ≤ spl'.created) (within : a < spl'.created)
    (others : ∀ c pool, c ≠ 0 → c ≠ a → spl'.pools c = some pool →
      spl.pools c = some pool ∧ (some c ≠ busy' → some c ≠ busy))
    (here : ∀ pool, a ≠ 0 → spl'.pools a = some pool → pool.id.Single ∧
      (∀ c old, c ≠ 0 → c ≠ a → spl'.pools c = some old → old.id.stamp ≠ pool.id.stamp) ∧
      (some a ≠ busy' → pool.Settled ∧
        (pool.msgStatus ≠ .invalid → Attended good spl'.fetches pool.id.stamp))) :
    Tidy good busy' spl' := by
  constructor
  case below =>
    intro c pool found
    by_cases first : c = 0
    · rw [first]
      exact Nat.zero_lt_of_lt within
    by_cases there : c = a
    · rw [there]
      exact within
    · exact (tidy.below c pool (others c pool first there found).1).trans_le created
  case current => exact current
  case single =>
    intro c pool node found
    by_cases there : c = a
    · subst there
      exact (here pool node found).1
    · exact tidy.single c pool node (others c pool node there found).1
  case apart =>
    intro c d pool pool' node node' found found' same
    by_cases first : c = a
    · subst first
      by_contra other
      exact (here pool node found).2.1 d pool' node' (Ne.symm other) found' same.symm
    · by_cases second : d = a
      · subst second
        exact absurd same ((here pool' node' found').2.1 c pool node first found)
      · exact tidy.apart c d pool pool' node node' (others c pool node first found).1
          (others d pool' node' second found').1 same
  case settled =>
    intro c pool node free found
    by_cases there : c = a
    · subst there
      exact ((here pool node found).2.2 free).1
    · obtain ⟨was, wasFree⟩ := others c pool node there found
      exact tidy.settled c pool node (wasFree free) was
  case waits =>
    intro c pool node free found asked
    by_cases there : c = a
    · subst there
      exact ((here pool node found).2.2 free).2 asked
    · obtain ⟨was, wasFree⟩ := others c pool node there found
      rw [fetches]
      exact (tidy.waits c pool node (wasFree free) was asked).append ids
  case requests =>
    intro request on
    rw [fetches] at on
    exact (mem_append.mp on).elim (tidy.requests request) (requests request)

variable {a address : Nat} {pool : SubscriberPool P}

section

variable (found : spl.pools a = some pool)

include found

theorem Tidy.immortal (tidy : Tidy good busy spl) :
    pool.id.time = newestMsgidTime ↔ a = 0 := by
  constructor
  · intro newest
    by_contra node
    exact (tidy.single a pool node found).not_newest newest
  · rintro rfl
    obtain ⟨current, there, latest, -⟩ := tidy.current
    rw [some.inj (found.symm.trans there), latest]
    rfl

theorem Tidy.write (tidy : Tidy good busy spl)
    (pool' : SubscriberPool P) (ids : List MsgId)
    (pools : spl'.pools = update spl.pools a (some pool')) (id : pool'.id = pool.id)
    (created : spl'.created = spl.created) (fetches : spl'.fetches = spl.fetches ++ ids)
    (requests : ∀ request ∈ ids, a ≠ 0 ∧ request = pool.id)
    (newest : a = 0 → pool'.msgStatus = pool.msgStatus)
    (settled : a ≠ 0 → some a ≠ busy → pool.Settled → pool'.Settled ∧
      (pool'.msgStatus ≠ .invalid → pool.msgStatus ≠ .invalid ∨ pool.id ∈ ids)) :
    Tidy good busy spl' := by
  have unchanged : ∀ c old, c ≠ a → spl'.pools c = some old → spl.pools c = some old := by
    intro c old other there
    rwa [pools, update_of_ne other] at there
  refine tidy.change a ids ?_ fetches (fun request on => ?_) created.ge
    (created ▸ tidy.below a pool found)
    (fun c old _ other there => ⟨unchanged c old other there, fun free => free⟩)
    fun new node there => ?_
  · obtain ⟨current, there, latest, expected⟩ := tidy.current
    by_cases first : a = 0
    · subst first
      obtain rfl := some.inj (found.symm.trans there)
      exact ⟨pool', by rw [pools, update_self], id.trans latest,
        (newest rfl).trans expected⟩
    · exact ⟨current, by rw [pools, update_of_ne (Ne.symm first), there], latest,
        expected⟩
  · obtain ⟨node, rfl⟩ := requests request on
    exact tidy.single a pool node found
  · rw [pools, update_self] at there
    cases there
    refine ⟨id ▸ tidy.single a pool node found, fun c old node' other there equal => ?_,
      fun free => ?_⟩
    · exact other (tidy.apart c a old pool node' node (unchanged c old other there) found
        (id ▸ equal))
    · obtain ⟨settled', asked⟩ := settled node free (tidy.settled a pool node free found)
      refine ⟨settled', fun was => ?_⟩
      rw [fetches, id]
      rcases asked was with before | on
      · exact (tidy.waits a pool node free found before).append ids
      · exact .inr ⟨pool.id, mem_append_right _ on, rfl⟩

theorem Tidy.setSubs (tidy : Tidy good busy spl)
    (subs : List Subscriber)
    (pools : spl'.pools = update spl.pools a (some { pool with subs := subs }))
    (created : spl'.created = spl.created) (fetches : spl'.fetches = spl.fetches) :
    Tidy good busy spl' := by
  refine tidy.write found _ [] pools rfl created (by rw [fetches, append_nil]) ?_ ?_ ?_
  · exact forall_mem_nil _
  · exact fun _ => rfl
  · exact fun _ _ settled => ⟨settled, fun asked => .inl asked⟩

theorem Tidy.setBusy (tidy : Tidy good (some a) spl)
    (node : a ≠ 0) (pool' : SubscriberPool P) (id : pool'.id = pool.id) :
    Tidy good (some a) (spl.set a pool') := by
  refine tidy.write found pool' [] rfl id rfl (append_nil _).symm ?_ ?_ ?_
  · exact forall_mem_nil _
  · exact fun newest => absurd newest node
  · exact fun _ free => absurd rfl free

end

/-! ## On to the next spool -/

theorem Woken.attended {pool' : SubscriberPool P} {ids fetches : List MsgId}
    (woken : Woken pool pool' ids)
    (before : pool.msgStatus ≠ .invalid → Attended good fetches pool.id.stamp)
    (asked : pool'.msgStatus ≠ .invalid) : Attended good (fetches ++ ids) pool'.id.stamp := by
  cases woken with
  | asleep | told => exact (before asked).append []
  | asked _ asks =>
    rcases asks.status with ⟨-, rfl⟩ | ⟨invalid, -⟩
    · exact .inr ⟨pool.id, by simp, asks.id ▸ rfl⟩
    · exact absurd invalid asked

theorem Woken.requests {pool' : SubscriberPool P} {ids : List MsgId} (woken : Woken pool pool' ids)
    {request : MsgId} (on : request ∈ ids) : request = pool.id := by
  cases woken with
  | asleep | told => cases on
  | asked _ asks =>
    rcases asks.status with ⟨-, rfl⟩ | ⟨-, -, rfl⟩
    · exact mem_singleton.mp on
    · cases on

variable {id : MsgId}

theorem single_of_compare {newId : MsgId} (single : newId.Single) (count : id.tagcount = 1)
    (same : spoolRbtreeCompare newId id = .eq) : id.Single ∧ id.stamp = newId.stamp := by
  have counts : newId.tagcount = id.tagcount := single.tagcount.trans count.symm
  obtain ⟨time, tags⟩ := (spoolRbtreeCompare_eq_iff counts).mp same
  have tag := tags 0 (single.tagcount ▸ Nat.zero_lt_one)
  have few : id.tagcount ≤ fixedMultitagMax := count ▸ (by decide)
  rw [single.tags, MsgId.tags, if_pos few] at tag
  have stamps : id.stamp = newId.stamp := Stamp.ext time.symm tag.symm
  exact ⟨⟨count, stamps ▸ single.nonneg, time ▸ single.representable⟩, stamps⟩

section

variable {address next : Nat} {pool base woken : SubscriberPool P} {newId : MsgId}
  {ids : List MsgId}

variable (moved : Moved spl address pool newId next base woken ids spl')

include moved

theorem Moved.base_single
    (tidy : Tidy good busy spl) (single : newId.Single) :
    base.id.Single ∧ base.id.stamp = newId.stamp := by
  rcases moved.source with ⟨old, -, there, rfl⟩ | ⟨-, count, -⟩
  · have oldSingle := tidy.single next old moved.node there
    exact ⟨oldSingle, ((compare_single single oldSingle).mp moved.same).symm⟩
  · exact single_of_compare single (count.trans single.tagcount) moved.same

theorem Moved.others {c : Nat}
    {old : SubscriberPool P} (node : c ≠ 0) (other : c ≠ next) (there : spl'.pools c = some old) :
    c ≠ address ∧ spl.pools c = some old := by
  rw [moved.pools, update_of_ne other] at there
  rcases update_eq_some there with ⟨rfl, is⟩ | ⟨elsewhere, is⟩
  · rw [if_neg node] at is
    cases is
  · exact ⟨elsewhere, is⟩

theorem Moved.tidy
    (tidy : Tidy good (some address) spl) (found : spl.pools address = some pool)
    (single : newId.Single) : Tidy good none spl' := by
  obtain ⟨baseSingle, same⟩ := moved.base_single tidy single
  have target : base.Settled ∧
      (base.msgStatus ≠ .invalid → Attended good spl.fetches base.id.stamp) ∧
      ∀ c old, c ≠ 0 → c ≠ next → spl.pools c = some old → old.id.stamp ≠ base.id.stamp := by
    rcases moved.source with ⟨old, elsewhere, there, rfl⟩ | ⟨-, -, empty, invalid, -, missing⟩
    · have free : some next ≠ some address := fun is => elsewhere (some.inj is)
      refine ⟨tidy.settled next old moved.node free there,
        fun asked => tidy.waits next old moved.node free there asked,
        fun c other node elsewhere found' equal => ?_⟩
      exact elsewhere (tidy.apart c next other old node moved.node found' there equal)
    · refine ⟨⟨empty, .inl invalid⟩, fun asked => absurd invalid asked,
        fun c old node _ there equal => ?_⟩
      exact missing c old node there
        ((compare_single single (tidy.single c old node there)).mpr (equal.trans same).symm)
  obtain ⟨settled, before, unique⟩ := target
  refine tidy.change next ids ?_ moved.fetches (fun request on => ?_) moved.created.1
    moved.created.2 (fun c old node other there => ?_) fun pool' _ there => ?_
  · obtain ⟨current, there, latest⟩ := tidy.current
    rw [moved.pools, update_of_ne (Ne.symm moved.node)]
    by_cases first : address = 0
    · subst first
      refine ⟨_, rfl, ?_⟩
      rw [some.inj (there.symm.trans found)] at latest
      exact latest
    · rw [update_of_ne (Ne.symm first)]
      exact ⟨current, there, latest⟩
  · exact moved.wakes.requests on ▸ baseSingle
  · obtain ⟨elsewhere, was⟩ := moved.others node other there
    exact ⟨was, fun _ is => elsewhere (some.inj is)⟩
  · rw [moved.pools, update_self] at there
    cases there
    have id := moved.wakes.id_eq
    refine ⟨id ▸ baseSingle, fun c old node other there => ?_, fun _ =>
      ⟨moved.wakes.settled settled, fun asked => ?_⟩⟩
    · rw [id]
      exact unique c old node other (moved.others node other there).2
    · rw [moved.fetches]
      exact moved.wakes.attended before asked

/-- The spools after one of them has gone on to `x`. -/
structure Passed (address : Nat) (x : Stamp) (spl spl' : Spooler P) : Prop where
  keeps : ∀ c old, c ≠ address → spl.pools c = some old → old.id.stamp ≠ x →
    spl'.pools c = some old
  old : ∀ c pool, c ≠ 0 → spl'.pools c = some pool → pool.id.stamp ≠ x →
    c ≠ address ∧ spl.pools c = some pool

theorem Moved.passed
    (tidy : Tidy good busy spl) (single : newId.Single) : Passed address newId.stamp spl spl' := by
  obtain ⟨-, same⟩ := moved.base_single tidy single
  constructor
  case keeps =>
    intro c old other there differs
    have notNext : c ≠ next := by
      rintro rfl
      rcases moved.source with ⟨target, -, found, rfl⟩ | ⟨unused, -⟩
      · exact differs ((some.inj (there.symm.trans found)) ▸ same)
      · exact some_ne_none old (there.symm.trans (unused.resolve_left other))
    rw [moved.pools, update_of_ne notNext, update_of_ne other, there]
  case old =>
    intro c old node there differs
    by_cases target : c = next
    · rw [target, moved.pools, update_self] at there
      rw [← some.inj there, moved.wakes.id_eq] at differs
      exact absurd same differs
    · exact moved.others node target there

end

variable {now : Int}

theorem Tidy.nextmsg (tidy : Tidy good (some address) spl) (found : spl.pools address = some pool)
    {newId : MsgId} (single : newId.Single) (done : spl.nextmsg now address newId = some spl') :
    (address ≠ 0 → pool.id.stamp ≠ newId.stamp) ∧
      ∃ next base woken ids, Moved spl address pool newId next base woken ids spl' := by
  have updated : (zeroMsgid.copyMsgId pool.id).updateMultiMsgid newId = some newId :=
    if_pos single.tagcount
  -- or an assert would have failed
  have moves : msgIdsEqual pool.id newId = false := by
    by_contra same
    simp [Spooler.nextmsg, found, updated, same] at done
  have apart : address ≠ 0 → pool.id.stamp ≠ newId.stamp := fun node =>
    (msgIdsEqual_single (tidy.single address pool node found) single).mp moves
  have differs : address ≠ 0 → spoolRbtreeCompare newId pool.id ≠ .eq := fun node same =>
    apart node ((compare_single single (tidy.single address pool node found)).mp same).symm
  obtain ⟨next, base, woken, ids, result, is, moved⟩ := nextmsg_moved now found updated moves
    differs single.not_newest (tidy.immortal found) tidy.below
    fun c old node other there _ =>
      tidy.settled c old node (fun is => other (some.inj is)) there
  obtain rfl := some.inj (is.symm.trans done)
  exact ⟨apart, next, base, woken, ids, moved⟩

/-! ## Messages -/

variable {msg : Msg P}

theorem respondMsg_spec (found : spl.pools address = some pool)
    (done : spl.respondMsg address msg = some spl') :
    spl'.pools = update spl.pools address
        (some { pool with subs := pool.subs.filter (!·.dequeueAfterResponse) }) ∧
      spl'.created = spl.created ∧ spl'.fetches = spl.fetches := by
  rw [respondMsg, found, map_some] at done
  cases done
  exact ⟨rfl, rfl, rfl⟩

theorem Tidy.advance (tidy : Tidy good (some address) spl) (found : spl.pools address = some pool)
    (single : msg.id.Single) (done : spl.advance now msg address = some spl') :
    Tidy good none spl' ∧ Passed address msg.id.stamp spl spl' ∧
      (address ≠ 0 → pool.id.stamp ≠ msg.id.stamp) := by
  obtain ⟨responded, responds, moves⟩ := bind_eq_some_iff.mp done
  obtain ⟨pools, created, fetches⟩ := respondMsg_spec found responds
  have tidy' : Tidy good (some address) responded := tidy.setSubs found _ pools created fetches
  have here := (congrFun pools address).trans (update_self ..)
  obtain ⟨apart, next, base, woken, ids, moved⟩ := tidy'.nextmsg here single moves
  have passed := moved.passed tidy' single
  have elsewhere : ∀ c, c ≠ address → responded.pools c = spl.pools c := fun c other => by
    rw [pools, update_of_ne other]
  refine ⟨moved.tidy tidy' here single, ⟨fun c old other there => ?_,
    fun c pool node there differs => ?_⟩, apart⟩
  · exact passed.keeps c old other ((elsewhere c other).trans there)
  · obtain ⟨other, was⟩ := passed.old c pool node there differs
    exact ⟨other, (elsewhere c other).symm.trans was⟩

theorem Tidy.advanceAll (tidy : Tidy good none spl) (single : msg.id.Single) {collected : List Nat}
    (nodup : collected.Nodup)
    (here : ∀ a ∈ collected, ∃ pool, spl.pools a = some pool ∧ pool.id.stamp ≠ msg.id.stamp)
    (done : collected.foldlM (fun spl address => spl.advance now msg address) spl = some spl') :
    Tidy good none spl' ∧ ∀ c pool, c ≠ 0 → spl'.pools c = some pool → pool.id.stamp ≠ msg.id.stamp →
      c ∉ collected ∧ spl.pools c = some pool := by
  induction collected generalizing spl with
  | nil =>
    cases done
    exact ⟨tidy, fun c pool _ there _ => ⟨not_mem_nil, there⟩⟩
  | cons address rest ih =>
    obtain ⟨notAgain, nodup⟩ := nodup_cons.mp nodup
    obtain ⟨pool, found, -⟩ := here address mem_cons_self
    obtain ⟨between, advanced, done⟩ := bind_eq_some_iff.mp done
    obtain ⟨tidy, passed, -⟩ := (tidy.toBusy _).advance found single advanced
    -- the other spools are where they were
    have still : ∀ a ∈ rest, ∃ pool, between.pools a = some pool ∧
        pool.id.stamp ≠ msg.id.stamp := by
      intro a on
      obtain ⟨old, there, differs⟩ := here a (mem_cons_of_mem _ on)
      exact ⟨old, passed.keeps a old (fun is => notAgain (is ▸ on)) there differs, differs⟩
    obtain ⟨tidy', left⟩ := ih tidy nodup still done
    refine ⟨tidy', fun c pool node there differs => ?_⟩
    obtain ⟨notRest, was⟩ := left c pool node there differs
    obtain ⟨other, before⟩ := passed.old c pool node was differs
    exact ⟨fun on => (mem_cons.mp on).elim other notRest, before⟩

theorem rangeDirection_ne_stop (msg : Msg P) (id : MsgId) : rangeDirection msg id ≠ .stop := by
  unfold rangeDirection
  split
  · split <;> decide
  · decide

theorem mem_nodes_iff (below : spl.Below) :
    a ∈ spl.nodes ↔ a ≠ 0 ∧ ∃ pool, spl.pools a = some pool := by
  simp only [nodes, mem_filter, mem_range, decide_eq_true_eq,
    isSome_iff_exists]
  exact ⟨fun is => is.2, fun is => ⟨is.2.elim (below a), is⟩⟩

theorem Tidy.collectSpools (tidy : Tidy good none spl) (one : msg.id.tagcount = 1)
    (prevOne : msg.prevId.tagcount = 1) {tree : Lib.Tree Nat} (shape : spl.IsTree tree) :
    ∃ collected, spl.collectSpools tree msg = some collected ∧ collected.Nodup ∧
      ∀ a, a ∈ collected ↔ a ≠ 0 ∧ ∃ pool, spl.pools a = some pool ∧ inRange msg pool.id := by
  let wanted := fun a => (spl.pools a).any fun pool => inRange msg pool.id
  let direction := fun a => ((spl.pools a).map fun pool => rangeDirection msg pool.id).getD .stop
  have nodeOf : ∀ a ∈ tree.inorder, ∃ pool, spl.pools a = some pool ∧ pool.id.Single := by
    intro a on
    obtain ⟨node, pool, there⟩ := (mem_nodes_iff tidy.below).mp (shape.1.mem_iff.mp on)
    exact ⟨pool, there, tidy.single a pool node there⟩
  have visits : ∀ a ∈ tree.inorder, ((spl.pools a).bind fun spool =>
      collectSpoolRange msg spool.id) = some (wanted a, direction a) ∧ direction a ≠ .stop := by
    intro a on
    obtain ⟨pool, there, single⟩ := nodeOf a on
    simp [wanted, direction, there, collectSpoolRange_of_one single.tagcount one prevOne,
      rangeDirection_ne_stop]
  have prunes : tree.Prunes wanted direction := by
    refine shape.2.imp_of_mem fun {before after} onBefore onAfter less => ?_
    obtain ⟨pool, there, single⟩ := nodeOf before onBefore
    obtain ⟨pool', there', single'⟩ := nodeOf after onAfter
    have lower := stamp_lt_of_rbtreeLt single single' (less pool there pool' there')
    simp only [wanted, direction, there, there', map_some, getD_some,
      any_some, rangeDirection, inRange, decide_eq_false_iff_not]
    constructor
    · intro right inside
      rw [if_pos (inside.1.trans lower.le)] at right
      split at right <;> cases right
    · intro left inside
      rw [if_pos (lower.trans inside.2)] at left
      split at left <;> cases left
  obtain ⟨collected, walked, perm⟩ := Lib.Tree.conditionalWalk_perm visits prunes
  have nodup : tree.inorder.Nodup := shape.1.nodup_iff.mpr (nodup_range.filter _)
  refine ⟨collected, walked, perm.nodup_iff.mpr (nodup.filter _), fun a => ?_⟩
  rw [perm.mem_iff, mem_filter, shape.1.mem_iff, mem_nodes_iff tidy.below, and_assoc]
  refine and_congr_right fun _ => ?_
  constructor
  · rintro ⟨⟨pool, there⟩, want⟩
    exact ⟨pool, there, by simpa [wanted, there] using want⟩
  · rintro ⟨pool, there, want⟩
    exact ⟨⟨pool, there⟩, by simpa [wanted, there] using want⟩

theorem Tidy.findSpool_newest (tidy : Tidy good busy spl) (newest : id.time = newestMsgidTime) :
    spl.findSpool id = (some 0, spl) := by
  obtain ⟨pool, there, -, expected⟩ := tidy.current
  have same : { pool with msgStatus := .expected } = pool := by rw [← expected]
  rw [findSpool, if_pos newest, there, map_some, same, ← there,
    update_eq_self]

/-- There is no node in the range of a message. -/
def Clear (msg : Msg P) (spl : Spooler P) : Prop :=
  ∀ c pool, c ≠ 0 → spl.pools c = some pool → inRange msg pool.id = false

theorem stamp_ne_of_inRange (inside : ¬ inRange msg id = false) : id.stamp ≠ msg.id.stamp := by
  rw [Bool.not_eq_false] at inside
  exact (of_decide_eq_true inside).2.ne

theorem Passed.clear (passed : Passed address msg.id.stamp spl spl') (clear : Clear msg spl) :
    Clear msg spl' := by
  intro c pool node there
  by_contra inside
  have was := (passed.old c pool node there (stamp_ne_of_inRange inside)).2
  exact inside (clear c pool node was)

theorem Tidy.respondMessage (tidy : Tidy good none spl) (single : msg.id.Single)
    (prevOne : msg.prevId.tagcount = 1) {tree : Lib.Tree Nat} (shape : spl.IsTree tree)
    (done : spl.respondMessage now tree msg = some spl') :
    Tidy good none spl' ∧ Clear msg spl' := by
  obtain ⟨collected, walked, nodup, mem⟩ := tidy.collectSpools single.tagcount prevOne shape
  rw [Spooler.respondMessage, walked, bind_some] at done
  obtain ⟨between, advanced, done⟩ := bind_eq_some_iff.mp done
  have apart : ∀ a ∈ collected.reverse, ∃ pool, spl.pools a = some pool ∧
      pool.id.stamp ≠ msg.id.stamp := by
    intro a on
    obtain ⟨-, pool, there, inside⟩ := (mem a).mp (mem_reverse.mp on)
    exact ⟨pool, there, stamp_ne_of_inRange (by simp [inside])⟩
  obtain ⟨tidy', left⟩ := tidy.advanceAll single ((reverse_perm _).nodup_iff.mpr nodup) apart
    advanced
  have clear : Clear msg between := by
    intro c pool node there
    by_contra inside
    obtain ⟨notOn, was⟩ := left c pool node there (stamp_ne_of_inRange inside)
    rw [Bool.not_eq_false] at inside
    exact notOn (mem_reverse.mpr ((mem c).mpr ⟨node, pool, was, inside⟩))
  -- the subscribers of the newest messages
  obtain ⟨current, there, -⟩ := tidy'.current
  simp only [getSpool, tidy'.findSpool_newest (show latestMsgId.time = _ from rfl), there,
    bind_some] at done
  split at done
  · cases done
    exact ⟨tidy', clear⟩
  · obtain ⟨tidy, passed, -⟩ := (tidy'.toBusy _).advance there single done
    exact ⟨tidy, passed.clear clear⟩

end

end Nchan.Spool
