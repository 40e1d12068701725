import Mathlib.Data.Nat.ModEq

/-! # Ring buffers with an unreduced read index

A ring of `cap` cells is read from an index that is never reduced modulo `cap`;
every access reduces on the spot.  `contents` is the queue such a ring stores,
and the lemmas say how it changes when a cell is written behind the last one
and when the read index advances.
-/

namespace Nchan.Lib.Ring

open List Function

variable {α : Type*} {cap : Nat} [NeZero cap]

/-- The `n` cells from index `first` on, in reading order. -/
def contents (cells : Fin cap → α) (first n : Nat) : List α :=
  (List.range n).map fun k => cells (Fin.ofNat cap (first + k))

variable (cells : Fin cap → α)

include cells

@[simp] theorem contents_zero (first : Nat) :
    contents cells first 0 = [] := rfl

@[simp] theorem length_contents (first n : Nat) :
    (contents cells first n).length = n := by
  simp [contents]

theorem contents_succ (first n : Nat) :
    contents cells first (n + 1) = cells (Fin.ofNat cap first) :: contents cells (first + 1) n := by
  simp only [contents, range_succ_eq_map, map_cons, map_map, Nat.add_zero]
  congr 1
  apply map_congr_left
  intro k _
  simp only [comp_apply, Nat.succ_eq_add_one]
  congr 2
  omega

theorem contents_succ_last (first n : Nat) :
    contents cells first (n + 1) = contents cells first n ++ [cells (Fin.ofNat cap (first + n))] := by
  simp [contents, range_succ]

theorem contents_congr {first first' : Nat}
    (same : first % cap = first' % cap) (n : Nat) :
    contents cells first n = contents cells first' n := by
  apply map_congr_left
  intro k _
  congr 1
  apply Fin.ext
  exact Nat.ModEq.add_right k same

omit cells in
theorem offset_ne (first : Nat) {k n : Nat} (hk : k < cap) (hn : n < cap) (ne : k ≠ n) :
    Fin.ofNat cap (first + k) ≠ Fin.ofNat cap (first + n) := by
  intro equal
  have residues : first + k ≡ first + n [MOD cap] := Fin.ext_iff.mp equal
  exact ne ((Nat.ModEq.add_left_cancel' first residues).eq_of_lt_of_lt hk hn)

theorem contents_push (first : Nat) {n : Nat} (room : n < cap) (a : α) :
    contents (update cells (Fin.ofNat cap (first + n)) a) first (n + 1)
      = contents cells first n ++ [a] := by
  rw [contents_succ_last, update_self]
  congr 1
  apply map_congr_left
  intro k inside
  rw [mem_range] at inside
  exact update_of_ne (offset_ne first (by omega) room (by omega)) _ _

theorem contents_take (first : Nat) {k n : Nat} (within : k ≤ n) :
    (contents cells first n).take k = contents cells first k := by
  simp [contents, ← map_take, Nat.min_eq_left within]

theorem contents_advance (first n k : Nat) :
    contents cells (first + k) (n - k) = (contents cells first n).drop k := by
  induction k generalizing first n with
  | zero => simp
  | succ k ih =>
    cases n with
    | zero => simp
    | succ n =>
      rw [contents_succ, drop_succ_cons, ← ih (first + 1) n]
      congr 1
      · omega
      · omega

end Nchan.Lib.Ring
