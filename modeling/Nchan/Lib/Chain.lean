import Mathlib.Data.List.Basic

/-! # Singly linked lists in a heap

`Chain next start cells` says that following `next` from `start` visits exactly
`cells` and ends at the null pointer.  `next a = none` means that `a` is not an
allocated cell, so a chain also certifies that everything on it is allocated.
-/

namespace Nchan.Lib

open List Option

variable {A : Type*} {next next' : A → Option (Option A)}

/-- The cells visited from `start` are `cells`, and the last one ends the list. -/
def Chain (next : A → Option (Option A)) : Option A → List A → Prop
  | start, [] => start = none
  | start, a :: cells => start = some a ∧ ∃ rest, next a = some rest ∧ Chain next rest cells

variable {back cells front : List A} {a c : A}

namespace Chain

variable {start : Option A}

section

variable (chain : Chain next start cells)

include chain

theorem start_eq : start = cells.head? := by
  cases cells with
  | nil => exact chain
  | cons a cells => exact chain.1

theorem frame (same : ∀ a ∈ cells, next' a = next a) :
    Chain next' start cells := by
  induction cells generalizing start with
  | nil => exact chain
  | cons a cells ih =>
    obtain ⟨head, rest, step, tail⟩ := chain
    refine ⟨head, rest, ?_, ih tail fun b hb => same b (mem_cons_of_mem a hb)⟩
    rw [same a mem_cons_self, step]

theorem unique {cells' : List A}
    (chain' : Chain next start cells') : cells = cells' := by
  induction cells generalizing start cells' with
  | nil =>
    cases cells' with
    | nil => rfl
    | cons b _ => exact absurd (chain.symm.trans chain'.1) (by simp)
  | cons a cells ih =>
    cases cells' with
    | nil => exact absurd (chain'.symm.trans chain.1) (by simp)
    | cons b cells' =>
      obtain ⟨head, rest, step, tail⟩ := chain
      obtain ⟨head', rest', step', tail'⟩ := chain'
      obtain rfl : a = b := some.inj (head.symm.trans head')
      obtain rfl : rest = rest' := some.inj (step.symm.trans step')
      rw [ih tail tail']

omit chain in
theorem suffix (chain : Chain next start (front ++ a :: back)) :
    Chain next (some a) (a :: back) := by
  induction front generalizing start with
  | nil => exact ⟨rfl, chain.2⟩
  | cons b front ih => exact ih chain.2.choose_spec.2

/-- A chain that ends visits no cell twice: the rest from a repeated cell would
    have two different lengths. -/
theorem nodup : cells.Nodup := by
  induction cells generalizing start with
  | nil => exact nodup_nil
  | cons a cells ih =>
    obtain ⟨_, rest, step, tail⟩ := chain
    refine nodup_cons.mpr ⟨?_, ih tail⟩
    intro again
    obtain ⟨front, back, rfl⟩ := append_of_mem again
    have whole : Chain next (some a) (a :: (front ++ a :: back)) := ⟨rfl, rest, step, tail⟩
    have same := unique whole (suffix tail)
    have lengths := congrArg List.length same
    simp only [length_cons, length_append] at lengths
    omega

theorem allocated (on : a ∈ cells) : next a ≠ none := by
  obtain ⟨front, back, rfl⟩ := append_of_mem on
  obtain ⟨_, rest, step, _⟩ := suffix chain
  simp [step]

end

theorem append {b : A} (chain : Chain next start (cells ++ [b])) (fresh : c ∉ cells ++ [b])
    (linked : next' b = some (some c)) (ends : next' c = some none)
    (same : ∀ a ∈ cells, next' a = next a) : Chain next' start (cells ++ [b, c]) := by
  induction cells generalizing start with
  | nil => exact ⟨chain.1, some c, linked, rfl, none, ends, rfl⟩
  | cons a cells ih =>
    obtain ⟨head, rest, step, tail⟩ := chain
    refine ⟨head, rest, ?_, ?_⟩
    · rw [same a mem_cons_self, step]
    · exact ih tail (fun on => fresh (mem_cons_of_mem a on))
        fun d hd => same d (mem_cons_of_mem a hd)

theorem unlink (chain : Chain next start (front ++ a :: back))
    (bridge : ∀ b, front.getLast? = some b → next' b = next a)
    (sameFront : ∀ b ∈ front, front.getLast? ≠ some b → next' b = next b)
    (sameBack : ∀ b ∈ back, next' b = next b) :
    Chain next' (front ++ back).head? (front ++ back) := by
  induction front generalizing start with
  | nil =>
    obtain ⟨-, rest, -, tail⟩ := chain
    rw [nil_append, ← tail.start_eq]
    exact tail.frame sameBack
  | cons c front ih =>
    have nodup := nodup_cons.mp chain.nodup
    obtain ⟨-, rest, step, tail⟩ := chain
    refine ⟨rfl, ?_⟩
    rcases front.eq_nil_or_concat' with rfl | ⟨init, d, rfl⟩
    · -- `c` is the cell before `a`
      obtain ⟨-, next, stepped, tail⟩ := tail
      refine ⟨next, by rw [bridge c rfl, stepped], tail.frame sameBack⟩
    · have last' : (init ++ [d]).getLast? = some d := List.getLast?_concat
      have last : (c :: (init ++ [d])).getLast? = some d := by
        rw [List.getLast?_cons, last']
        rfl
      rw [last] at bridge sameFront
      have other : d ≠ c := by
        rintro rfl
        exact nodup.1 (by simp)
      refine ⟨_, ?_, ih tail (by rwa [last']) ?_⟩
      · rw [sameFront c mem_cons_self (by simp [other]), step, tail.start_eq]
        cases init <;> simp
      · intro b on notLast
        rw [last'] at notLast
        exact sameFront b (mem_cons_of_mem c on) notLast

end Chain

/-! ## Doubly linked lists

A doubly linked list is a chain in each direction over the same cells. -/

/-- From `first`, `next` visits `cells`; from `last`, `prev` visits them backwards. -/
structure DList (next prev : A → Option (Option A)) (first last : Option A)
    (cells : List A) : Prop where
  forward : Chain next first cells
  backward : Chain prev last cells.reverse

namespace DList

variable {prev prev' : A → Option (Option A)} {first last : Option A}

theorem empty (next prev : A → Option (Option A)) : DList next prev none none [] :=
  ⟨rfl, rfl⟩

variable (list : DList next prev first last cells)

include list

theorem first_eq : first = cells.head? :=
  list.forward.start_eq

theorem last_eq : last = cells.getLast? := by
  rw [list.backward.start_eq, List.head?_reverse]

omit list in
theorem links_at (list : DList next prev first last (front ++ a :: back)) :
    next a = some back.head? ∧ prev a = some front.getLast? := by
  obtain ⟨-, rest, step, tail⟩ := list.forward.suffix
  have backward := list.backward
  rw [reverse_append, reverse_cons, append_assoc, singleton_append] at backward
  obtain ⟨-, before, back, head⟩ := backward.suffix
  rw [step, back, tail.start_eq, head.start_eq, List.head?_reverse]
  exact ⟨rfl, rfl⟩

theorem frame (sameNext : ∀ a ∈ cells, next' a = next a)
    (samePrev : ∀ a ∈ cells, prev' a = prev a) : DList next' prev' first last cells where
  forward := list.forward.frame sameNext
  backward := list.backward.frame fun a on => samePrev a (mem_reverse.mp on)

theorem snoc (fresh : c ∉ cells)
    (linked : ∀ b, last = some b → next' b = some (some c))
    (sameNext : ∀ a ∈ cells, last ≠ some a → next' a = next a)
    (samePrev : ∀ a ∈ cells, prev' a = prev a) (ends : next' c = some none)
    (before : prev' c = some last) :
    DList next' prev' (cells ++ [c]).head? (some c) (cells ++ [c]) := by
  constructor
  · rcases cells.eq_nil_or_concat' with rfl | ⟨init, b, rfl⟩
    · exact ⟨rfl, none, ends, rfl⟩
    · have isLast : last = some b := by
        rw [list.last_eq]
        simp
      have apart : ∀ a ∈ init, last ≠ some a := by
        intro a on same
        rw [isLast] at same
        cases same
        exact (nodup_append.mp list.forward.nodup).2.2 b on b (by simp) rfl
      have extended := list.forward.append fresh (linked b isLast) ends
        fun a on => sameNext a (by simp [on]) (apart a on)
      rw [list.first_eq] at extended
      simpa using extended
  · rw [reverse_append]
    refine ⟨rfl, last, before, list.backward.frame fun a on => ?_⟩
    exact samePrev a (mem_reverse.mp on)

theorem reverse :
    DList prev next last first cells.reverse :=
  ⟨list.backward, by rw [reverse_reverse]; exact list.forward⟩

theorem cons (fresh : c ∉ cells)
    (linked : ∀ b, first = some b → prev' b = some (some c))
    (samePrev : ∀ a ∈ cells, first ≠ some a → prev' a = prev a)
    (sameNext : ∀ a ∈ cells, next' a = next a) (begins : prev' c = some none)
    (after : next' c = some first) :
    DList next' prev' (some c) (c :: cells).getLast? (c :: cells) := by
  have backwards := list.reverse.snoc (by simpa using fresh) linked
    (fun a on => samePrev a (by simpa using on)) (fun a on => sameNext a (by simpa using on))
    begins after
  have forwards := backwards.reverse
  rw [reverse_append, reverse_reverse, ← List.getLast?_reverse, reverse_append,
    reverse_reverse] at forwards
  exact forwards

omit list in
theorem unlink (list : DList next prev first last (front ++ a :: back))
    (bridgeNext : ∀ b, front.getLast? = some b → next' b = next a)
    (bridgePrev : ∀ b, back.head? = some b → prev' b = prev a)
    (sameNext : ∀ b ∈ front ++ back, front.getLast? ≠ some b → next' b = next b)
    (samePrev : ∀ b ∈ front ++ back, back.head? ≠ some b → prev' b = prev b) :
    DList next' prev' (front ++ back).head? (front ++ back).getLast? (front ++ back) := by
  have nodup := list.forward.nodup
  have apart : ∀ b ∈ front, b ∉ back := fun b on off =>
    (nodup_append.mp nodup).2.2 b on b (mem_cons_of_mem a off) rfl
  constructor
  · refine list.forward.unlink bridgeNext (fun b on => sameNext b (by simp [on])) ?_
    intro b on
    refine sameNext b (by simp [on]) fun last => ?_
    exact apart b (mem_of_getLast? last) on
  · have backward := list.backward
    rw [reverse_append, reverse_cons, append_assoc, singleton_append] at backward
    rw [reverse_append, ← List.head?_reverse, reverse_append]
    refine backward.unlink (by simpa using bridgePrev) ?_ ?_
    · intro b on notFirst
      rw [List.getLast?_reverse] at notFirst
      exact samePrev b (mem_append_right front (mem_reverse.mp on)) notFirst
    · intro b on
      rw [mem_reverse] at on
      refine samePrev b (by simp [on]) fun head => ?_
      exact apart b on (mem_of_head? head)

end DList

end Nchan.Lib
