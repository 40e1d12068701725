import Mathlib.Data.List.Basic

/-! # Partial functions and computations

`Gives o Q` is a postcondition: if `o` gives anything at all, that has the property `Q`.  There is
one rule for each way in which computations are put together.
-/

namespace Nchan.Lib

variable {α β : Type*}

theorem update_eq_some {f : Nat → Option α} {a c : Nat} {v : Option α} {w : α}
    (found : Function.update f a v c = some w) :
    c = a ∧ v = some w ∨ c ≠ a ∧ f c = some w := by
  rw [Function.update_apply] at found
  split at found
  case isTrue here => exact .inl ⟨here, found⟩
  case isFalse elsewhere => exact .inr ⟨elsewhere, found⟩

def Gives (o : Option α) (Q : α → Prop) : Prop := ∀ a, o = some a → Q a

namespace Gives

variable {o o' : Option α} {a : α} {Q : α → Prop}

theorem of_some (holds : Q a) : Gives (some a) Q := fun _ is => Option.some.inj is ▸ holds

theorem of_none : Gives none Q := by
  intro a is
  cases is

theorem ite {c : Prop} [Decidable c] (pos : c → Gives o Q) (neg : ¬ c → Gives o' Q) :
    Gives (if c then o else o') Q := by
  split
  · exact pos ‹c›
  · exact neg ‹¬ c›

theorem guard {c : Prop} [Decidable c] (rest : c → Gives o Q) : Gives (if c then o else none) Q :=
  ite rest fun _ => of_none

theorem assert {c : Prop} [Decidable c] (rest : ¬ c → Gives o Q) :
    Gives (if c then none else o) Q :=
  ite (fun _ => of_none) rest

theorem mono {Q' : α → Prop} (gives : Gives o Q) (weaker : ∀ a, Q a → Q' a) : Gives o Q' :=
  fun a is => weaker a (gives a is)

variable {f : α → Option β} {R : β → Prop}

theorem bind (rest : ∀ a, o = some a → Gives (f a) R) : Gives (o.bind f) R := by
  intro b is
  obtain ⟨a, first, second⟩ := Option.bind_eq_some_iff.mp is
  exact rest a first b second

theorem known (is : o = some a) (rest : Gives (f a) R) : Gives (o.bind f) R := by
  rw [is]
  exact rest

theorem seq (first : Gives o Q) (rest : ∀ a, Q a → Gives (f a) R) : Gives (o.bind f) R :=
  bind fun a is => rest a (first a is)

theorem map {g : α → β} (rest : ∀ a, o = some a → R (g a)) : Gives (o.map g) R := by
  intro b is
  obtain ⟨a, first, rfl⟩ := Option.map_eq_some_iff.mp is
  exact rest a first

theorem mapM (all : ∀ a, Gives (f a) R) (as : List α) :
    Gives (as.mapM f) fun bs => bs.length = as.length ∧ ∀ b ∈ bs, R b := by
  induction as with
  | nil => exact of_some ⟨rfl, List.forall_mem_nil _⟩
  | cons a as ih =>
    rw [List.mapM_cons]
    exact (all a).seq fun b here => ih.seq fun bs rest => of_some
      ⟨congrArg (· + 1) rest.1, List.forall_mem_cons.mpr ⟨here, rest.2⟩⟩

end Gives

end Nchan.Lib
