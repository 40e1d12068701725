import Nchan.Lib.Run
import Mathlib.Data.List.Count

/-! # Reservations of a message

A message in shared memory counts the reservations of all workers.  A worker may derive messages
from it that differ in their ids: on the heap, in the pool of a request or on the stack.  They count
their own reservations, and each of these is one of the shared message too.  The reaper takes a
message only if it can replace a count of 0 by `MSG_REFCOUNT_INVALID` at once.

A derived message belongs to one worker, so that a reservation or release as a whole takes effect
with the atomic instruction on the count of the shared message.  A failed assert is `none`.
-/

namespace Nchan.Memstore

open Nchan.Lib List Function Option Bool

/-- The `nchan_msg_storage_t` of a derived message. -/
inductive MsgStorage where
  | heap | pool | stack
  deriving DecidableEq

/-- The shared message, or one of those that were derived from it. -/
inductive MsgRef where
  | shared
  | child (k : Nat)
  deriving DecidableEq

structure ChildMsg where
  storage : MsgStorage
  refcount : Int

/-- A message in shared memory with what was derived from it; `held` are the reservations that
    have been made and not been released. -/
structure SharedMsg where
  refcount : Int
  expires : Int
  reaped : Bool
  children : Nat → Option ChildMsg
  derived : Nat
  held : List MsgRef

inductive RefOp where
  | derive (parent : MsgRef) (storage : MsgStorage)
  | reserve (msg : MsgRef)
  | release (msg : MsgRef)
  /-- The reaper looks at the message, and may have to leave it until it has expired. -/
  | reap (respectExpire : Bool) (now : Int)

/-- `MSG_REFCOUNT_INVALID`. -/
def msgRefcountInvalid : Int := -9000

namespace SharedMsg

def create (expires : Int) : SharedMsg := ⟨0, expires, false, fun _ => none, 0, []⟩

def Live (s : SharedMsg) : MsgRef → Prop
  | .shared => True
  | .child k => (s.children k).isSome

instance (s : SharedMsg) : (msg : MsgRef) → Decidable (s.Live msg)
  | .shared => .isTrue trivial
  | .child k => inferInstanceAs (Decidable ((s.children k).isSome = true))

def setChild (k : Nat) (c : Option ChildMsg) (s : SharedMsg) : SharedMsg :=
  { s with children := update s.children k c }

/-- `msg_derive_init`. -/
def derive (parent : MsgRef) (storage : MsgStorage) (s : SharedMsg) : Option SharedMsg :=
  if s.Live parent then
    some { s.setChild s.derived (some ⟨storage, 0⟩) with derived := s.derived + 1 }
  else none

/-- `msg_reserve` of the shared message. -/
def reserveShared (s : SharedMsg) : Option SharedMsg :=
  if s.refcount + 1 ≥ 0 then some { s with refcount := s.refcount + 1 } else none

/-- `msg_release` of the shared message. -/
def releaseShared (s : SharedMsg) : Option SharedMsg :=
  if s.refcount > 0 then some { s with refcount := s.refcount - 1 } else none

/-- `msg_reserve`. -/
def msgReserve (msg : MsgRef) (s : SharedMsg) : Option SharedMsg :=
  match msg with
  | .shared => reserveShared { s with held := .shared :: s.held }
  | .child k =>
    (s.children k).bind fun c =>
      reserveShared
        { s.setChild k (some { c with refcount := c.refcount + 1 }) with held := .child k :: s.held }

def afterRelease (c : ChildMsg) : Option ChildMsg :=
  if c.refcount - 1 = 0 then
    match c.storage with
    | .heap => none
    -- the id is freed, and the rest is cleaned with the pool
    | .pool => some { c with refcount := 0 }
    | .stack => some { c with refcount := 0 }
  else some { c with refcount := c.refcount - 1 }

/-- `msg_release`. -/
def msgRelease (msg : MsgRef) (s : SharedMsg) : Option SharedMsg :=
  match msg with
  | .shared => releaseShared { s with held := s.held.erase .shared }
  | .child k =>
    (s.children k).bind fun c =>
      if c.refcount - 1 ≥ 0 then
        releaseShared { s.setChild k (afterRelease c) with held := s.held.erase (.child k) }
      else none

/-- `nchan_memstore_store_msg_ready_to_reap_generic`, not forced, and the reaping of what is ready. -/
def reap (respectExpire : Bool) (now : Int) (s : SharedMsg) : SharedMsg :=
  if respectExpire ∧ s.expires > now then s
  -- msg_refcount_invalidate_if_zero
  else if s.refcount = 0 then { s with refcount := msgRefcountInvalid, reaped := true }
  else s

def step : RefOp → SharedMsg → Option SharedMsg
  | .derive parent storage, s => s.derive parent storage
  | .reserve msg, s => s.msgReserve msg
  | .release msg, s => s.msgRelease msg
  | .reap respectExpire now, s => some (s.reap respectExpire now)

/-- A release is that of an earlier reservation. -/
def Matched : RefOp → SharedMsg → Prop
  | .release msg, s => msg ∈ s.held
  | _, _ => True

instance : (op : RefOp) → (s : SharedMsg) → Decidable (Matched op s)
  | .derive _ _, _ => .isTrue trivial
  | .reserve _, _ => .isTrue trivial
  | .release msg, s => inferInstanceAs (Decidable (msg ∈ s.held))
  | .reap _ _, _ => .isTrue trivial

/-! ## What is counted -/

def childCount (s : SharedMsg) (k : Nat) : Int := (s.children k).elim 0 (·.refcount)

theorem childCount_setChild (s : SharedMsg) (k k' : Nat) (c : Option ChildMsg) :
    (s.setChild k c).childCount k' = if k' = k then c.elim 0 (·.refcount) else s.childCount k' := by
  unfold childCount setChild
  by_cases here : k' = k
  · simp [here]
  · simp [here]

/-- The counts are those of the reservations that are held, until the message is reaped. -/
structure Conserved (s : SharedMsg) : Prop where
  counts : s.reaped = false → s.refcount = s.held.length
  invalid : s.reaped = true → s.held = [] ∧ s.refcount = msgRefcountInvalid
  children : ∀ k, s.childCount k = s.held.count (.child k)
  fresh : ∀ k, s.derived ≤ k → s.children k = none

theorem conserved_create (expires : Int) : (create expires).Conserved :=
  ⟨fun _ => rfl, by simp [create], fun _ => rfl, fun _ _ => rfl⟩

theorem reap_cases (s : SharedMsg) (respectExpire : Bool) (now : Int) :
    s.reap respectExpire now = s ∨
      s.refcount = 0 ∧
        s.reap respectExpire now = { s with refcount := msgRefcountInvalid, reaped := true } := by
  unfold reap
  split
  · exact .inl rfl
  · split
    · exact .inr ⟨‹_›, rfl⟩
    · exact .inl rfl

namespace Conserved

variable {s s' : SharedMsg} {msg : MsgRef}

variable (conserved : s.Conserved)

include conserved

theorem not_reaped_of_held (held : msg ∈ s.held) : s.reaped = false := by
  refine eq_false_iff.mpr fun reaped => ?_
  rw [(conserved.invalid reaped).1] at held
  exact not_mem_nil held

theorem exists_child {k : Nat} (held : .child k ∈ s.held) :
    ∃ c, s.children k = some c := by
  have one : 0 < s.held.count (.child k) := count_pos_iff.mpr held
  have count := conserved.children k
  refine ne_none_iff_exists'.mp fun none => ?_
  rw [childCount, none, elim_none] at count
  omega

theorem fresh_setChild {k k' : Nat} {c : ChildMsg} {c' : Option ChildMsg}
    (here : s.children k = some c) (above : s.derived ≤ k') :
    update s.children k c' k' = none := by
  have other : k' ≠ k := by
    rintro rfl
    simp [conserved.fresh k' above] at here
  exact (update_of_ne other ..).trans (conserved.fresh k' above)

theorem live (held : msg ∈ s.held) : s.Live msg := by
  cases msg with
  | shared => trivial
  | child k =>
    obtain ⟨c, here⟩ := conserved.exists_child held
    exact isSome_of_eq_some here

theorem derive {parent : MsgRef} {storage : MsgStorage}
    (derived : s.derive parent storage = some s') : s'.Conserved := by
  obtain ⟨_, is⟩ := ite_none_right_eq_some.mp derived
  cases is
  have unused := conserved.fresh s.derived (Nat.le_refl _)
  refine ⟨conserved.counts, conserved.invalid, fun k => ?_, fun k above => ?_⟩
  · refine ((childCount_setChild s s.derived k _).trans ?_).trans (conserved.children k)
    split
    · rename_i new
      rw [new, childCount, unused]
      rfl
    · rfl
  · have other : k ≠ s.derived := Nat.ne_of_gt above
    refine (update_of_ne other ..).trans (conserved.fresh k (Nat.le_of_succ_le above))

theorem msgReserve_of_reaped (reaped : s.reaped = true) (msg : MsgRef) :
    s.msgReserve msg = none := by
  have invalid : ¬ s.refcount + 1 ≥ 0 := by
    rw [(conserved.invalid reaped).2]
    decide
  cases msg with
  | shared => exact if_neg invalid
  | child k =>
    rw [msgReserve, bind_eq_none_iff]
    exact fun c _ => if_neg invalid

theorem msgReserve_isSome (alive : s.reaped = false) (live : s.Live msg) :
    (s.msgReserve msg).isSome := by
  have valid : s.refcount + 1 ≥ 0 := by
    rw [conserved.counts alive]
    omega
  cases msg with
  | shared => simp [msgReserve, reserveShared, valid]
  | child k =>
    obtain ⟨c, here⟩ := isSome_iff_exists.mp live
    simp [msgReserve, here, reserveShared, setChild, valid]

theorem reserve (reserved : s.msgReserve msg = some s') :
    s'.Conserved := by
  have alive : s.reaped = false := by
    refine eq_false_iff.mpr fun reaped => ?_
    rw [conserved.msgReserve_of_reaped reaped] at reserved
    cases reserved
  have counts := conserved.counts alive
  cases msg with
  | shared =>
    obtain ⟨_, is⟩ := ite_none_right_eq_some.mp reserved
    cases is
    refine ⟨fun _ => by simp [counts], fun reaped => ?_, fun k => ?_, conserved.fresh⟩
    · exact absurd (alive.symm.trans reaped) false_ne_true
    · refine (conserved.children k).trans ?_
      simp
  | child k =>
    obtain ⟨c, here, reserved⟩ := bind_eq_some_iff.mp reserved
    obtain ⟨_, is⟩ := ite_none_right_eq_some.mp reserved
    cases is
    refine ⟨fun _ => by simp [setChild, counts], fun reaped => ?_, fun k' => ?_, fun k' above => ?_⟩
    · exact absurd (alive.symm.trans reaped) false_ne_true
    · refine (childCount_setChild s k k' _).trans ?_
      have count := conserved.children k'
      by_cases same : k' = k
      · subst same
        rw [childCount, here] at count
        simpa using count
      · simp [same, Ne.symm same, count]
    · exact conserved.fresh_setChild here above

omit conserved in
theorem elim_afterRelease (c : ChildMsg) :
    (afterRelease c).elim 0 (·.refcount) = c.refcount - 1 := by
  unfold afterRelease
  split
  · rename_i last
    split <;> simp [last]
  · rfl

theorem release (held : msg ∈ s.held) :
    ∃ s', s.msgRelease msg = some s' ∧ s'.Conserved := by
  have alive := conserved.not_reaped_of_held held
  have counts := conserved.counts alive
  have positive : 0 < s.held.length := length_pos_of_mem held
  have counted : s.refcount > 0 := by omega
  have fewer : s.refcount - 1 = (s.held.erase msg).length := by
    rw [length_erase_of_mem held, counts]
    omega
  have stays : ¬ s.reaped = true := eq_false_iff.mp alive
  cases msg with
  | shared =>
    refine ⟨_, if_pos counted, fun _ => fewer, fun reaped => absurd reaped stays, fun k => ?_,
      conserved.fresh⟩
    refine (conserved.children k).trans ?_
    rw [count_erase_of_ne (by simp)]
  | child k =>
    obtain ⟨c, here⟩ := conserved.exists_child held
    have one : 0 < s.held.count (.child k) := count_pos_iff.mpr held
    have count := conserved.children k
    rw [childCount, here, elim_some] at count
    have some : c.refcount - 1 ≥ 0 := by omega
    rw [msgRelease, here, bind_some, if_pos some]
    refine ⟨_, if_pos counted, fun _ => fewer, fun reaped => absurd reaped stays, fun k' => ?_,
      fun k' above => ?_⟩
    · refine (childCount_setChild s k k' _).trans ?_
      by_cases same : k' = k
      · subst same
        rw [if_pos rfl, elim_afterRelease, count]
        rw [count_erase_self]
        omega
      · have apart : MsgRef.child k' ≠ .child k := fun equal => same (MsgRef.child.inj equal)
        rw [if_neg same]
        rw [count_erase_of_ne apart]
        exact conserved.children k'
    · exact conserved.fresh_setChild here above

theorem held_of_zero (zero : s.refcount = 0) : s.held = [] := by
  cases reaped : s.reaped with
  | true => exact (conserved.invalid reaped).1
  | false =>
    have counts := conserved.counts reaped
    exact length_eq_zero_iff.mp (by omega)

theorem reap (respectExpire : Bool) (now : Int) :
    (s.reap respectExpire now).Conserved := by
  rcases s.reap_cases respectExpire now with same | ⟨zero, is⟩
  · rw [same]
    exact conserved
  · rw [is]
    exact ⟨fun alive => absurd alive (by simp), fun _ => ⟨conserved.held_of_zero zero, rfl⟩,
      conserved.children, conserved.fresh⟩

end Conserved

theorem conserved_step (op : RefOp) (s s' : SharedMsg) (conserved : s.Conserved)
    (matched : Matched op s) (stepped : step op s = some s') : s'.Conserved := by
  cases op with
  | derive parent storage => exact conserved.derive stepped
  | reserve msg => exact conserved.reserve stepped
  | release msg =>
    obtain ⟨s'', released, conserved'⟩ := conserved.release matched
    obtain rfl := some.inj (released.symm.trans stepped)
    exact conserved'
  | reap respectExpire now =>
    cases stepped
    exact conserved.reap respectExpire now

/-- In every state of a message the counts are those of the reservations that are held.  The message
    is reaped only if there are none, and cannot be reserved after that. -/
theorem refcounts_conserved (expires : Int) (ops : List RefOp) (s : SharedMsg)
    (matched : Run.Along step Matched ops (create expires))
    (reaches : Run.run step ops (create expires) = some s) :
    (s.reaped = false → s.refcount = s.held.length) ∧
    (∀ k c, s.children k = some c → c.refcount = s.held.count (.child k)) ∧
    (∀ respectExpire now s', step (.reap respectExpire now) s = some s' → s'.reaped = true →
      s.held = []) ∧
    (s.reaped = true → ∀ msg, step (.reserve msg) s = none) ∧
    (s.reaped = false → ∀ msg, s.Live msg → (step (.reserve msg) s).isSome) ∧
    ∀ msg ∈ s.held, s.Live msg ∧ (step (.release msg) s).isSome := by
  have conserved := Run.run_invariant conserved_step (conserved_create expires) matched reaches
  refine ⟨conserved.counts, fun k c here => ?_, fun respectExpire now s' reaped isReaped => ?_,
    conserved.msgReserve_of_reaped, fun alive msg live => conserved.msgReserve_isSome alive live,
    fun msg held => ⟨?_, ?_⟩⟩
  · rw [← conserved.children k, childCount, here]
    rfl
  · cases reaped
    rcases s.reap_cases respectExpire now with same | ⟨zero, _⟩
    · rw [same] at isReaped
      exact (conserved.invalid isReaped).1
    · exact conserved.held_of_zero zero
  · exact conserved.live held
  · obtain ⟨s', released, _⟩ := conserved.release held
    exact isSome_of_eq_some released

/-- A message that is reserved through a copy on the heap is left by the reaper, and taken after
    the release. -/
theorem refcounts_conserved_heap :
    ∃ s, Run.run step [.derive .shared .heap, .reserve (.child 0), .reap false 10,
        .release (.child 0), .reap false 10] (create 0) = some s ∧
      s.reaped = true ∧ ∀ msg, step (.reserve msg) s = none := by
  refine ⟨_, rfl, rfl, ?_⟩
  refine (refcounts_conserved 0 [.derive .shared .heap, .reserve (.child 0), .reap false 10,
    .release (.child 0), .reap false 10] _ (by decide) rfl).2.2.2.1 rfl

end SharedMsg

end Nchan.Memstore
