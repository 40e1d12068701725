import Mathlib.Data.Option.Basic
import Mathlib.Tactic.Common

/-! # Keys that expire

A key of a store whose keys may have a time to live.  Time is in milliseconds.  Nobody sees a
value whose time has come, whether or not it has been reclaimed yet: reads do not find it, and
writes start from nothing, without a time to live.
-/

namespace Nchan.Lib

open Option

/-- A value and the time from which it is gone, if there is one. -/
structure Entry (α : Type*) where
  value : α
  expiry : Option Int

abbrev Slot (α : Type*) := Option (Entry α)

namespace Slot

variable {α : Type*}

def look (now : Int) (s : Slot α) : Slot α := s.filter fun e => e.expiry.all (now < ·)

def get (now : Int) (s : Slot α) : Option α := (s.look now).map (·.value)

/-- Write to a key.  A key that is there keeps its time to live. -/
def write (now : Int) (v : α) (s : Slot α) : Slot α := some ⟨v, (s.look now).bind (·.expiry)⟩

/-- Set the time to live; one that is not positive deletes the key. -/
def pexpire (now ms : Int) (s : Slot α) : Slot α :=
  (s.look now).bind fun e => if ms ≤ 0 then none else some { e with expiry := some (now + ms) }

def expire (now seconds : Int) (s : Slot α) : Slot α := s.pexpire now (seconds * 1000)

def persist (now : Int) (s : Slot α) : Slot α := (s.look now).map fun e => { e with expiry := none }

/-- What is left of the time to live: -1 if there is none, and -2 if there is no key. -/
def pttl (now : Int) (s : Slot α) : Int :=
  match s.look now with
  | none => -2
  | some e => e.expiry.elim (-1) (· - now)

def ttl (now : Int) (s : Slot α) : Int :=
  match s.look now with
  | none => -2
  | some e => e.expiry.elim (-1) fun t => (t - now + 500) / 1000

/-- An expired key may be reclaimed at any time. -/
def reclaim (now : Int) (which : Bool) (s : Slot α) : Slot α := if which then s.look now else s

/-! ## What is seen -/

variable {now : Int} {s : Slot α}

variable {e : Entry α}

theorem look_eq_some : s.look now = some e ↔ s = some e ∧ ∀ t ∈ e.expiry, now < t := by
  rw [look, filter_eq_some_iff]
  simp [all_eq_true]

variable {v : α}

theorem get_eq_some : s.get now = some v ↔ ∃ e, s.look now = some e ∧ e.value = v := by
  simp [get]

theorem get_eq_none : s.get now = none ↔ s.look now = none := by simp [get]

theorem look_of_le {now' : Int} (later : now ≤ now') (seen : s.look now' = some e) :
    s.look now = some e := by
  rw [look_eq_some] at seen ⊢
  exact ⟨seen.1, fun t on => Int.lt_of_le_of_lt later (seen.2 t on)⟩

theorem get_of_le {now' : Int} (later : now ≤ now') (seen : s.get now' = some v) :
    s.get now = some v := by
  obtain ⟨e, looked, rfl⟩ := get_eq_some.mp seen
  exact get_eq_some.mpr ⟨e, look_of_le later looked, rfl⟩

theorem ttl_some (seen : s.look now = some e) :
    s.ttl now = e.expiry.elim (-1) fun t => (t - now + 500) / 1000 := by simp [ttl, seen]

theorem pttl_some (seen : s.look now = some e) :
    s.pttl now = e.expiry.elim (-1) (· - now) := by simp [pttl, seen]

theorem look_write (v : α) : (s.write now v).look now = s.write now v := by
  rw [write, look_eq_some]
  refine ⟨rfl, fun t on => ?_⟩
  obtain ⟨e, seen, has⟩ := mem_bind_iff.mp on
  exact (look_eq_some.mp seen).2 t has

@[simp] theorem get_write (v : α) : (s.write now v).get now = some v := by
  rw [get, look_write]
  rfl

theorem write_write (v w : α) : (s.write now v).write now w = s.write now w := by
  rw [write, look_write, write, write]
  rfl

theorem write_of_none (v : α) (gone : s.look now = none) : s.write now v = some ⟨v, none⟩ := by
  rw [write, gone]
  rfl

theorem write_of_some (v : α) (seen : s.look now = some e) :
    s.write now v = some { e with value := v } := by
  rw [write, seen]
  rfl

theorem expire_write_of_pos (v : α) {seconds : Int} (positive : 0 < seconds) :
    (s.write now v).expire now seconds = some ⟨v, some (now + seconds * 1000)⟩ := by
  have long : ¬ seconds * 1000 ≤ 0 := by omega
  rw [expire, pexpire, look_write, write, bind_some, if_neg long]

theorem expire_write_of_nonpos (v : α) {seconds : Int} (short : seconds ≤ 0) :
    (s.write now v).expire now seconds = none := by
  have ended : seconds * 1000 ≤ 0 := by omega
  rw [expire, pexpire, look_write, write, bind_some, if_pos ended]

theorem ttl_write (v : α) (seen : s.look now = some e) : (s.write now v).ttl now = s.ttl now := by
  rw [ttl_some seen, ttl, look_write]
  simp [write, seen]

variable {ms : Int}

theorem get_of_pexpire (seen : (s.pexpire now ms).get now = some v) : s.get now = some v := by
  obtain ⟨e, looked, rfl⟩ := get_eq_some.mp seen
  obtain ⟨old, there, set⟩ := bind_eq_some_iff.mp (look_eq_some.mp looked).1
  split at set
  · cases set
  · cases set
    exact get_eq_some.mpr ⟨old, there, rfl⟩

theorem get_of_persist (seen : (s.persist now).get now = some v) : s.get now = some v := by
  obtain ⟨e, looked, rfl⟩ := get_eq_some.mp seen
  obtain ⟨old, there, rfl⟩ := map_eq_some_iff.mp (look_eq_some.mp looked).1
  exact get_eq_some.mpr ⟨old, there, rfl⟩

theorem look_of_lt {t : Int} (found : s = some ⟨v, some t⟩) (alive : now < t) :
    s.look now = some ⟨v, some t⟩ :=
  look_eq_some.mpr ⟨found, by simpa using alive⟩

theorem of_reclaim {which : Bool} (found : s.reclaim now which = some e) : s = some e := by
  unfold reclaim at found
  split at found
  · exact (look_eq_some.mp found).1
  · exact found

theorem reclaim_of_alive {which : Bool} (found : s = some e) (alive : ∀ t ∈ e.expiry, now < t) :
    s.reclaim now which = some e := by
  unfold reclaim
  split
  · exact look_eq_some.mpr ⟨found, alive⟩
  · exact found

/-! ## Keys without a time to live -/

def Lasting (s : Slot α) : Prop := ∃ e, s = some e ∧ e.expiry = none

theorem Lasting.look (lasting : s.Lasting) : s.look now = s := by
  obtain ⟨e, rfl, forever⟩ := lasting
  exact look_eq_some.mpr ⟨rfl, by simp [forever]⟩

theorem lasting_write : (s.write now v).Lasting ↔ s.look now = none ∨ s.Lasting := by
  constructor
  · rintro ⟨e, written, forever⟩
    cases seen : s.look now with
    | none => exact .inl rfl
    | some old =>
      refine .inr ⟨old, (look_eq_some.mp seen).1, ?_⟩
      simp only [write, seen, bind_some, some.injEq] at written
      rw [← written] at forever
      exact forever
  · intro fresh
    refine ⟨_, rfl, ?_⟩
    cases fresh with
    | inl none => simp [none]
    | inr lasting =>
      rw [lasting.look]
      obtain ⟨e, rfl, forever⟩ := lasting
      exact forever

theorem not_lasting_pexpire (ms : Int) : ¬ (s.pexpire now ms).Lasting := by
  rintro ⟨e, set, forever⟩
  obtain ⟨old, -, is⟩ := bind_eq_some_iff.mp set
  split at is
  · cases is
  · cases is
    cases forever

theorem not_lasting_expire (seconds : Int) : ¬ (s.expire now seconds).Lasting :=
  not_lasting_pexpire _

theorem not_lasting_none : ¬ Lasting (none : Slot α) := by
  rintro ⟨e, is, -⟩
  cases is

theorem lasting_persist (seen : s.look now = some e) : (s.persist now).Lasting :=
  ⟨{ e with expiry := none }, by rw [Slot.persist, seen]; rfl, rfl⟩

theorem lasting_of_ttl_neg (seen : s.look now = some e) (negative : s.ttl now < 0) : s.Lasting := by
  obtain ⟨is, alive⟩ := look_eq_some.mp seen
  refine ⟨e, is, ?_⟩
  rw [ttl_some seen] at negative
  cases has : e.expiry with
  | none => rfl
  | some t =>
    have := alive t has
    rw [has, elim_some] at negative
    omega

/-! ## Keys that are still there at some later time -/

/-- The key, if there is one, is not gone at `stop` yet. -/
def Outlives (stop : Int) (s : Slot α) : Prop := ∀ e, s = some e → ∀ t ∈ e.expiry, stop < t

variable {stop : Int}

theorem outlives_none : Outlives stop (none : Slot α) := by
  intro e is
  cases is

section

variable (lives : s.Outlives stop)

include lives

variable (before : now ≤ stop)

include before

theorem Outlives.look : s.look now = s := by
  cases s with
  | none => rfl
  | some e => exact look_eq_some.mpr ⟨rfl, fun t on => Int.lt_of_le_of_lt before (lives e rfl t on)⟩

theorem Outlives.get : s.get now = s.map (·.value) := by
  rw [Slot.get, lives.look before]

theorem Outlives.write (v : α) :
    (s.write now v).Outlives stop := by
  intro e is t on
  rw [Slot.write, lives.look before] at is
  cases is
  obtain ⟨old, was, has⟩ := mem_bind_iff.mp on
  exact lives old was t has

theorem Outlives.pexpire (long : stop < now + ms) :
    s.pexpire now ms = s.map fun e => { e with expiry := some (now + ms) } := by
  have positive : ¬ ms ≤ 0 := by omega
  rw [Slot.pexpire, lives.look before]
  cases s with
  | none => rfl
  | some e => simp [positive]

end

theorem outlives_pexpire (long : stop < now + ms) : (s.pexpire now ms).Outlives stop := by
  intro e is t on
  obtain ⟨old, -, set⟩ := bind_eq_some_iff.mp is
  split at set
  · cases set
  · cases set
    cases on
    exact long

end Slot

end Nchan.Lib
