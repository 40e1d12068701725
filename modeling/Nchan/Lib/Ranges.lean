import Mathlib.Data.List.Basic

/-! # Tables of ranges

A table says to whom the ranges of an interval belong.  A place is looked up by a range around it.
Ranges that overlap belong to the same owner, so that it does not matter which of them is found.
The table is complete if it leaves no gaps, which is checked from range to range.
-/

namespace Nchan.Lib

open Option

/-- A range of places below `bound`. -/
structure Range (bound : Nat) where
  min : Nat
  max : Nat
  le : min ≤ max
  lt : max < bound
  deriving DecidableEq

namespace Range

variable {bound : Nat}

def single (k : Nat) (h : k < bound) : Range bound := ⟨k, k, Nat.le_refl k, h⟩

def overlaps (r s : Range bound) : Bool := r.min ≤ s.max && s.min ≤ r.max

theorem overlaps_iff {r s : Range bound} : r.overlaps s = true ↔ r.min ≤ s.max ∧ s.min ≤ r.max := by
  simp [overlaps]

theorem single_overlaps {k : Nat} {h : k < bound} {r : Range bound} :
    (single k h).overlaps r = true ↔ r.min ≤ k ∧ k ≤ r.max := by
  rw [overlaps_iff, single, and_comm]

end Range

abbrev Ranges (bound : Nat) (α : Type*) := List (Range bound × α)

namespace Ranges

variable {bound : Nat} {α : Type*}

def entry (r : Range bound) (t : Ranges bound α) : Option (Range bound × α) :=
  t.find? fun e => r.overlaps e.1

def owner (r : Range bound) (t : Ranges bound α) : Option α := (t.entry r).map (·.2)

/-- Go from range to range, beginning at `k`, while the owners are good ones.  Every range takes at
    least one place. -/
def complete (good : α → Bool) (t : Ranges bound α) : Nat → Nat → Bool
  | 0, k => bound ≤ k
  | fuel + 1, k =>
    if h : k < bound then
      match t.entry (.single k h) with
      | none => false
      | some e => good e.2 && complete good t fuel (e.1.max + 1)
    else true

def Agree (t : Ranges bound α) : Prop :=
  ∀ e ∈ t, ∀ e' ∈ t, e.1.overlaps e'.1 = true → e.2 = e'.2

/-- Every place has a good owner. -/
def Covered (good : α → Bool) (t : Ranges bound α) : Prop :=
  ∀ k (h : k < bound), ∃ a, t.owner (.single k h) = some a ∧ good a = true

variable {t : Ranges bound α} {good : α → Bool}

theorem entry_spec {r : Range bound} {e : Range bound × α} (found : t.entry r = some e) :
    e ∈ t ∧ r.overlaps e.1 = true :=
  ⟨List.mem_of_find?_eq_some found, by simpa using List.find?_some found⟩

theorem owner_spec {r : Range bound} {a : α} (owned : t.owner r = some a) :
    ∃ e, e ∈ t ∧ r.overlaps e.1 = true ∧ e.2 = a := by
  obtain ⟨e, found, is⟩ := map_eq_some_iff.mp owned
  exact ⟨e, (entry_spec found).1, (entry_spec found).2, is⟩

section

variable (agree : t.Agree)

include agree

theorem Agree.owner_single {e : Range bound × α} (on : e ∈ t) {k : Nat}
    (h : k < bound) (low : e.1.min ≤ k) (high : k ≤ e.1.max) :
    t.owner (.single k h) = some e.2 := by
  cases found : t.entry (.single k h) with
  | none =>
    have missed := List.find?_eq_none.mp found e on
    exact absurd (Range.single_overlaps.mpr ⟨low, high⟩) missed
  | some e' =>
    obtain ⟨on', over'⟩ := entry_spec found
    have := Range.single_overlaps.mp over'
    have same : e'.2 = e.2 := agree e' on' e on (Range.overlaps_iff.mpr ⟨by omega, by omega⟩)
    rw [owner, found, map_some, same]

theorem Covered.owner_good (covered : t.Covered good) {e : Range bound × α}
    (on : e ∈ t) : good e.2 = true := by
  have inside := Nat.lt_of_le_of_lt e.1.le e.1.lt
  obtain ⟨a, owned, fine⟩ := covered e.1.min inside
  rw [agree.owner_single on inside (Nat.le_refl _) e.1.le] at owned
  exact Option.some.inj owned ▸ fine

omit agree in
theorem Covered.owner_ne_none (covered : t.Covered good) (r : Range bound) : t.owner r ≠ none := by
  intro free
  obtain ⟨a, owned, -⟩ := covered r.min (Nat.lt_of_le_of_lt r.le r.lt)
  obtain ⟨e, on, covers, -⟩ := owner_spec owned
  have around := Range.single_overlaps.mp covers
  have wide := r.le
  have missed := List.find?_eq_none.mp (map_eq_none_iff.mp free) e on
  exact missed (Range.overlaps_iff.mpr ⟨around.2, by omega⟩)

theorem complete_iff (fuel k : Nat) (enough : bound ≤ fuel + k) :
    t.complete good fuel k = true ↔
      ∀ j (h : j < bound), k ≤ j → ∃ a, t.owner (.single j h) = some a ∧ good a = true := by
  -- the places below the end of the range that is found have its owner
  induction fuel generalizing k with
  | zero =>
    have done : bound ≤ k := by omega
    simp only [complete, done, decide_true, true_iff]
    intro j h least
    omega
  | succ fuel ih =>
    by_cases inside : k < bound
    · rw [complete, dif_pos inside]
      cases found : t.entry (.single k inside) with
      | none =>
        refine iff_of_false Bool.false_ne_true fun all => ?_
        obtain ⟨a, owned, -⟩ := all k inside (Nat.le_refl k)
        rw [owner, found] at owned
        cases owned
      | some e =>
        obtain ⟨on, covers⟩ := entry_spec found
        have around := Range.single_overlaps.mp covers
        rw [Bool.and_eq_true, ih (e.1.max + 1) (by omega)]
        constructor
        · rintro ⟨fine, rest⟩ j h least
          by_cases within : j ≤ e.1.max
          · exact ⟨e.2, agree.owner_single on h (by omega) within, fine⟩
          · exact rest j h (by omega)
        · intro all
          refine ⟨?_, fun j h least => all j h (by omega)⟩
          obtain ⟨a, owned, fine⟩ := all k inside (Nat.le_refl k)
          rw [agree.owner_single on inside around.1 around.2] at owned
          exact Option.some.inj owned ▸ fine
    · rw [complete, dif_neg inside]
      refine iff_of_true rfl fun j h least => ?_
      omega

theorem complete_iff_covered :
    t.complete good bound 0 = true ↔ t.Covered good := by
  rw [complete_iff agree bound 0 (Nat.le_refl _)]
  exact ⟨fun all k h => all k h (Nat.zero_le k), fun covered k h _ => covered k h⟩

theorem Agree.of_subset {t' : Ranges bound α} (part : t' ⊆ t) : t'.Agree :=
  fun e on e' on' => agree e (part on) e' (part on')

theorem Agree.append {rs : List (Range bound)} {a : α}
    (free : ∀ r ∈ rs, t.owner r = none) : Agree (t ++ rs.map fun r => (r, a)) := by
  have clear : ∀ r ∈ rs, ∀ e ∈ t, r.overlaps e.1 = false := fun r on e within =>
    Bool.eq_false_iff.mpr
      (List.find?_eq_none.mp (map_eq_none_iff.mp (free r on)) e within)
  have swap : ∀ r s : Range bound, r.overlaps s = s.overlaps r := fun r s => Bool.and_comm _ _
  intro e on e' on' overlap
  simp only [List.mem_append, List.mem_map] at on on'
  obtain on | ⟨r, has, rfl⟩ := on
  · obtain on' | ⟨r', has', rfl⟩ := on'
    · exact agree e on e' on' overlap
    · rw [swap, clear r' has' e on] at overlap
      cases overlap
  · obtain on' | ⟨r', has', rfl⟩ := on'
    · rw [clear r has e' on'] at overlap
      cases overlap
    · rfl

end

theorem Covered.mono {good' : α → Bool} (covered : t.Covered good)
    (better : ∀ e ∈ t, good e.2 = true → good' e.2 = true) : t.Covered good' := by
  intro k h
  obtain ⟨a, owned, fine⟩ := covered k h
  obtain ⟨e, on, -, rfl⟩ := owner_spec owned
  exact ⟨e.2, owned, better e on fine⟩

end Ranges

end Nchan.Lib
