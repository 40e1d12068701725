import Mathlib.Algebra.BigOperators.Group.List.Basic
import Mathlib.Tactic.Abel

/-! # Tables

A finite table from keys to values, as a list of entries of which the first with a key
counts.  What the entries weigh together changes by what the entry at hand weighs.
-/

namespace Nchan.Lib

abbrev Table (K V : Type*) := List (K × V)

namespace Table

variable {K V M : Type*} [DecidableEq K]

def get (k : K) : Table K V → Option V
  | [] => none
  | (k', v) :: t => if k' = k then some v else get k t

/-- Write to the entry of `k`, or make one. -/
def set (k : K) (v : V) : Table K V → Table K V
  | [] => [(k, v)]
  | (k', v') :: t => if k' = k then (k, v) :: t else (k', v') :: set k v t

def erase (k : K) : Table K V → Table K V
  | [] => []
  | (k', v) :: t => if k' = k then t else (k', v) :: erase k t

def weigh [AddMonoid M] (f : K → V → M) (t : Table K V) : M := (t.map fun e => f e.1 e.2).sum

theorem get_set (k : K) (v : V) (t : Table K V) : get k (set k v t) = some v := by
  induction t with
  | nil => simp [set, get]
  | cons e t ih =>
    obtain ⟨k', v'⟩ := e
    by_cases same : k' = k
    · simp [set, get, same]
    · simp [set, get, same, ih]

variable [AddCommGroup M] (f : K → V → M) (k : K) (t : Table K V)

omit [DecidableEq K] in
@[simp] theorem weigh_nil : weigh f [] = 0 := rfl

omit [DecidableEq K] in
@[simp] theorem weigh_cons (e : K × V) : weigh f (e :: t) = f e.1 e.2 + weigh f t := rfl

theorem weigh_set (v : V) :
    weigh f (set k v t) = weigh f t - (get k t).elim 0 (f k) + f k v := by
  induction t with
  | nil => simp [set, get]
  | cons e t ih =>
    obtain ⟨k', v'⟩ := e
    by_cases same : k' = k
    · subst same
      simp only [set, get, if_true, weigh_cons, Option.elim]
      abel
    · simp only [set, get, if_neg same, weigh_cons, ih]
      abel

theorem weigh_erase : weigh f (erase k t) = weigh f t - (get k t).elim 0 (f k) := by
  induction t with
  | nil => simp [erase, get]
  | cons e t ih =>
    obtain ⟨k', v'⟩ := e
    by_cases same : k' = k
    · subst same
      simp only [erase, get, if_true, weigh_cons, Option.elim]
      abel
    · simp only [erase, get, if_neg same, weigh_cons, ih]
      abel

omit [DecidableEq K] in
theorem weigh_nonneg {f : K → V → Int} (positive : ∀ k v, 0 ≤ f k v) (t : Table K V) :
    0 ≤ weigh f t := by
  induction t with
  | nil => exact Int.le_refl 0
  | cons e t ih =>
    exact Int.add_nonneg (positive e.1 e.2) ih

end Table

end Nchan.Lib
