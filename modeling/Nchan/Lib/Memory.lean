import Mathlib.Data.Nat.Basic
import Mathlib.Tactic.Common

/-! # Loops over memory

A memory maps addresses to what is stored there.  A loop that goes through a stretch of it and
changes each place by itself does the same as all those changes at once, however the stretch is cut
into pieces.
-/

namespace Nchan.Lib

open Function

/-! ## Loops -/

section ForLoop

variable {σ : Type}

/-- `for (; i < limit; i += step)`; `none` is a failure of the body, or that the fuel is used up. -/
def forLoop (step limit : Nat) (body : Nat → σ → Option σ) : Nat → Nat → σ → Option (Nat × σ)
  | 0, i, s => if i < limit then none else some (i, s)
  | fuel + 1, i, s =>
    if i < limit then (body i s).bind (forLoop step limit body fuel (i + step)) else some (i, s)

theorem forLoop_invariant {step limit : Nat} {body : Nat → σ → Option σ} (inv : Nat → σ → Prop)
    (positive : 0 < step)
    (keeps : ∀ i s, i < limit → inv i s → ∃ s', body i s = some s' ∧ inv (i + step) s')
    {fuel i : Nat} {s : σ} (enough : limit ≤ i + fuel) (start : inv i s) :
    ∃ j s', forLoop step limit body fuel i s = some (j, s') ∧ limit ≤ j ∧ inv j s' := by
  induction fuel generalizing i s with
  | zero => exact ⟨i, s, if_neg (by omega), by omega, start⟩
  | succ fuel ih =>
    rw [forLoop]
    split
    · rename_i inside
      obtain ⟨s', done, kept⟩ := keeps i s inside start
      rw [done]
      exact ih (by omega) kept
    · rename_i outside
      exact ⟨i, s, rfl, by omega, start⟩

end ForLoop

/-! ## Stretches of memory -/

section Stretch

variable {α : Type}

/-- The places `first ≤ k < last`, counted from `base`, are changed by `f k`. -/
def change (f : Nat → α → α) (base first last : Nat) (mem : Nat → α) (a : Nat) : α :=
  if base + first ≤ a ∧ a < base + last then f (a - base) (mem a) else mem a

variable (f : Nat → α → α) (base : Nat) (mem : Nat → α)

@[simp] theorem change_empty (first : Nat) : change f base first first mem = mem := by
  funext a
  exact if_neg (by omega)

theorem change_append {first mid last : Nat} (le₁ : first ≤ mid) (le₂ : mid ≤ last) :
    change f base mid last (change f base first mid mem) = change f base first last mem := by
  funext a
  unfold change
  by_cases low : a < base + mid
  · rw [if_neg (by omega)]
    exact if_congr (by omega) rfl rfl
  · rw [if_neg (by omega : ¬ (base + first ≤ a ∧ a < base + mid))]
    exact if_congr (by omega) rfl rfl

theorem change_succ {first i : Nat} (le : first ≤ i) :
    update (change f base first i mem) (base + i) (f i (mem (base + i))) =
      change f base first (i + 1) mem := by
  rw [← change_append f base mem le (Nat.le_succ i)]
  funext a
  have here : change f base first i mem (base + i) = mem (base + i) := if_neg (by omega)
  by_cases is : a = base + i
  · subst is
    rw [update_self, change, if_pos (by omega), here, Nat.add_sub_cancel_left]
  · rw [update_of_ne is]
    exact (if_neg (by omega)).symm

variable {f}

theorem change_change {first last : Nat} (undo : ∀ k x, f k (f k x) = x) :
    change f base first last (change f base first last mem) = mem := by
  funext a
  unfold change
  split
  · exact undo _ _
  · rfl

theorem change_inside {first last i : Nat} (low : first ≤ i) (high : i < last) :
    change f base first last mem (base + i) = f i (mem (base + i)) := by
  rw [change, if_pos (by omega), Nat.add_sub_cancel_left]

theorem change_outside {first last a : Nat} (out : ¬ (base + first ≤ a ∧ a < base + last)) :
    change f base first last mem a = mem a := if_neg out

end Stretch

theorem getElem?_flatten_replicate {α : Type} {l : List α} {n j : Nat}
    (inside : j < n * l.length) : (List.replicate n l).flatten[j]? = l[j % l.length]? := by
  induction n generalizing j with
  | zero => simp at inside
  | succ n ih =>
    rw [Nat.succ_mul] at inside
    rw [List.replicate_succ, List.flatten_cons]
    by_cases first : j < l.length
    · rw [List.getElem?_append_left first, Nat.mod_eq_of_lt first]
    · have back : (j - l.length) % l.length = j % l.length :=
        (Nat.mod_eq_sub_mod (Nat.le_of_not_lt first)).symm
      rw [List.getElem?_append_right (Nat.le_of_not_lt first), ih (by omega), back]

end Nchan.Lib
