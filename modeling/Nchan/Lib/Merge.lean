import Mathlib.Algebra.BigOperators.Fin
import Mathlib.Data.Prod.Lex

/-! # Merging sorted sources

A merge of sources takes the least of their first elements again and again, until all sources
are exhausted; of equal elements that of the lower source goes first.  `Merges` is the trace
of such a merge, whatever finds the least element.
-/

namespace Nchan.Lib

open List Function

variable {ι κ α : Type*} [LinearOrder ι] [LinearOrder κ]

/-- The order in which elements are taken: by key, then by source. -/
def rank (key : α → κ) (x : ι × α) : κ ×ₗ ι := toLex (key x.2, x.1)

theorem rank_le_iff {key : α → κ} {x y : ι × α} :
    rank key x ≤ rank key y ↔ key x.2 < key y.2 ∨ key x.2 = key y.2 ∧ x.1 ≤ y.1 :=
  Prod.Lex.toLex_le_toLex

/-- What is left of the sources, and what the merge takes from them. -/
inductive Merges (key : α → κ) : (ι → List α) → List (ι × α) → Prop
  | done {src : ι → List α} (exhausted : ∀ i, src i = []) : Merges key src []
  | take {src : ι → List α} {i : ι} {a : α} {rest : List α} {out : List (ι × α)}
      (head : src i = a :: rest)
      (least : ∀ j b, (src j).head? = some b → rank key (i, a) ≤ rank key (j, b))
      (later : Merges key (update src i rest) out) :
      Merges key src ((i, a) :: out)

namespace Merges

variable {key : α → κ} {src : ι → List α} {out : List (ι × α)}

variable (merges : Merges key src out)

include merges

theorem of_source (i : ι) :
    (out.filter (·.1 = i)).map (·.2) = src i := by
  induction merges with
  | done exhausted => exact (exhausted i).symm
  | @take src j a rest out head least later ih =>
    by_cases same : j = i
    · subst same
      simpa [head] using ih
    · simpa [same, update_of_ne (Ne.symm same)] using ih

theorem mem_source {x : ι × α} (taken : x ∈ out) :
    x.2 ∈ src x.1 := by
  rw [← merges.of_source x.1]
  exact mem_map.mpr ⟨x, mem_filter.mpr ⟨taken, by simp⟩, rfl⟩

theorem sorted
    (sources : ∀ i, (src i).Pairwise fun a b => key a < key b) :
    out.Pairwise fun x y => rank key x < rank key y := by
  induction merges with
  | done => exact .nil
  | @take src i a rest out head least later ih =>
    have above := sources i
    rw [head, pairwise_cons] at above
    have sources' : ∀ j, (update src i rest j).Pairwise fun a b => key a < key b := by
      intro j
      by_cases same : j = i
      · subst same
        rw [update_self]
        exact above.2
      · rw [update_of_ne same]
        exact sources j
    refine .cons (fun y taken => ?_) (ih sources')
    have left := later.mem_source taken
    by_cases same : y.1 = i
    · -- a later one of the same source
      rw [same, update_self] at left
      exact Prod.Lex.toLex_lt_toLex.mpr (.inl (above.1 y.2 left))
    · -- no later than the first of its source, which was not taken
      rw [update_of_ne same] at left
      obtain ⟨b, tail, cons⟩ := exists_cons_of_ne_nil (ne_nil_of_mem left)
      have first : rank key (i, a) ≤ rank key (y.1, b) := least y.1 b (by rw [cons]; rfl)
      have onward : key b ≤ key y.2 := by
        have sortedSource := sources y.1
        rw [cons] at left sortedSource
        rcases mem_cons.mp left with rfl | later
        · exact le_rfl
        · exact le_of_lt (rel_of_pairwise_cons sortedSource later)
      refine lt_of_le_of_ne (first.trans ?_) fun equal =>
        same (congrArg (fun r => (ofLex r).2) equal).symm
      exact rank_le_iff.mpr (onward.lt_or_eq.imp_right fun equal => ⟨equal, le_rfl⟩)

end Merges

theorem sum_length_update [Fintype ι] {src : ι → List α} {i : ι} {a : α} {rest : List α}
    (head : src i = a :: rest) :
    ∑ j, (update src i rest j).length + 1 = ∑ j, (src j).length := by
  have others : ∀ j ∈ Finset.univ.erase i,
      (update src i rest j).length = (src j).length := fun j other => by
    rw [update_of_ne (Finset.ne_of_mem_erase other)]
  rw [← Finset.add_sum_erase _ _ (Finset.mem_univ i), ← Finset.add_sum_erase _ _ (Finset.mem_univ i),
    Finset.sum_congr rfl others, update_self, head, length_cons]
  omega

end Nchan.Lib
