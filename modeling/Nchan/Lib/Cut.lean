import Mathlib.Data.List.Basic

/-! # Cutting a list at a separator -/

namespace Nchan.Lib

variable {α : Type*} [DecidableEq α]

/-- What is before the first such element, and what is behind it. -/
def cut (a : α) : List α → Option (List α × List α)
  | [] => none
  | x :: rest =>
    if x = a then some ([], rest) else (cut a rest).map fun (before, after) => (x :: before, after)

theorem cut_append {a : α} {before : List α} (free : a ∉ before) (after : List α) :
    cut a (before ++ a :: after) = some (before, after) := by
  induction before with
  | nil => simp [cut]
  | cons x before ih =>
    rw [List.mem_cons, not_or] at free
    simp [cut, Ne.symm free.1, ih free.2]

theorem cut_none {a : α} {l : List α} (free : a ∉ l) : cut a l = none := by
  induction l with
  | nil => rfl
  | cons x l ih =>
    rw [List.mem_cons, not_or] at free
    simp [cut, Ne.symm free.1, ih free.2]

end Nchan.Lib
