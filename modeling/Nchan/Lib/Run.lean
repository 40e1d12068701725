import Nchan.Lib.Partial

/-! # Runs of a labelled partial machine

A machine is a function `step : Op → S → Option S`; the label carries whatever the
environment decides, and `none` means that the machine aborts.  `Along good ops s`
says that every step of the run of `ops` from `s` meets `good` in the state it is
taken in.  The invariant rules turn what one step keeps into what a run keeps.
-/

namespace Nchan.Lib.Run

open Option

variable {Op S : Type*}

/-- Take the steps of `ops` in order, stopping at an abort. -/
def run (step : Op → S → Option S) : List Op → S → Option S
  | [], s => some s
  | op :: ops, s => (step op s).bind (run step ops)

/-- Every step taken meets `good` in the state before it. -/
def Along (step : Op → S → Option S) (good : Op → S → Prop) : List Op → S → Prop
  | [], _ => True
  | op :: ops, s => good op s ∧ ∀ s', step op s = some s' → Along step good ops s'

variable {step : Op → S → Option S} {good : Op → S → Prop}

@[simp] theorem run_nil (s : S) : run step [] s = some s := rfl

@[simp] theorem run_cons (op : Op) (ops : List Op) (s : S) :
    run step (op :: ops) s = (step op s).bind (run step ops) := rfl

theorem run_append (ops ops' : List Op) (s : S) :
    run step (ops ++ ops') s = (run step ops s).bind (run step ops') := by
  induction ops generalizing s with
  | nil => rfl
  | cons op ops ih =>
    cases h : step op s with
    | none => simp [h]
    | some s' => simp [h, ih]

theorem run_concat {ops : List Op} {op : Op} {s t t' : S} (reaches : run step ops s = some t)
    (stepped : step op t = some t') : run step (ops ++ [op]) s = some t' := by
  rw [run_append, reaches, bind_some, run_cons, stepped]
  rfl

theorem along_cons {op : Op} {ops : List Op} {s s' : S} (stepped : step op s = some s') :
    Along step good (op :: ops) s ↔ good op s ∧ Along step good ops s' := by
  refine ⟨fun all => ⟨all.1, all.2 s' stepped⟩, fun both => ⟨both.1, fun t stepped' => ?_⟩⟩
  obtain rfl := some.inj (stepped.symm.trans stepped')
  exact both.2

theorem Along.cons {op : Op} {ops : List Op} {s s' : S} (first : good op s)
    (stepped : step op s = some s') (rest : Along step good ops s') :
    Along step good (op :: ops) s :=
  (along_cons stepped).mpr ⟨first, rest⟩

theorem along_append {ops ops' : List Op} {s s' : S} (first : Along step good ops s)
    (reaches : run step ops s = some s') (second : Along step good ops' s') :
    Along step good (ops ++ ops') s := by
  induction ops generalizing s with
  | nil => exact some.inj reaches ▸ second
  | cons op ops ih =>
    refine ⟨first.1, fun t stepped => ?_⟩
    rw [run_cons, stepped] at reaches
    exact ih (first.2 t stepped) reaches

theorem Along.mono {good' : Op → S → Prop} (weaker : ∀ op s, good op s → good' op s)
    {ops : List Op} {s : S} (all : Along step good ops s) : Along step good' ops s := by
  induction ops generalizing s with
  | nil => trivial
  | cons op ops ih => exact ⟨weaker op s all.1, fun t stepped => ih (all.2 t stepped)⟩

theorem along_split {ops ops' : List Op} {s : S} (all : Along step good (ops ++ ops') s) :
    Along step good ops s ∧ ∀ s', run step ops s = some s' → Along step good ops' s' := by
  induction ops generalizing s with
  | nil => exact ⟨trivial, fun s' reaches => some.inj reaches ▸ all⟩
  | cons op ops ih =>
    refine ⟨⟨all.1, fun t stepped => (ih (all.2 t stepped)).1⟩, fun s' reaches => ?_⟩
    obtain ⟨t, stepped, rest⟩ := bind_eq_some_iff.mp reaches
    exact (ih (all.2 t stepped)).2 s' rest

/-- The run of a decidable condition can be checked by taking its steps. -/
instance Along.decidable [∀ op s, Decidable (good op s)] :
    (ops : List Op) → (s : S) → Decidable (Along step good ops s)
  | [], _ => .isTrue trivial
  | op :: ops, s =>
    have := Along.decidable ops
    decidable_of_iff (good op s ∧ ∀ s' ∈ step op s, Along step good ops s') Iff.rfl

/-- An invariant of the history and the state that every good step keeps, and
    under which good steps do not abort, holds after a whole run. -/
theorem run_succeeds {Inv : List Op → S → Prop}
    (keeps : ∀ done op s, Inv done s → good op s →
      ∃ s', step op s = some s' ∧ Inv (done ++ [op]) s')
    {ops done : List Op} {s : S} (initial : Inv done s) (all : Along step good ops s) :
    ∃ s', run step ops s = some s' ∧ Inv (done ++ ops) s' := by
  induction ops generalizing done s with
  | nil => exact ⟨s, rfl, by simpa using initial⟩
  | cons op ops ih =>
    obtain ⟨t, stepped, kept⟩ := keeps done op s initial all.1
    obtain ⟨s', reaches, holds⟩ := ih kept (all.2 t stepped)
    refine ⟨s', ?_, ?_⟩
    · rw [run_cons, stepped]
      exact reaches
    · simpa using holds

variable {Inv : S → Prop}

include Inv

theorem run_keeps
    (keeps : ∀ op s, Inv s → good op s → ∃ s', step op s = some s' ∧ Inv s')
    {ops : List Op} {s : S} (initial : Inv s) (all : Along step good ops s) :
    ∃ s', run step ops s = some s' ∧ Inv s' :=
  @run_succeeds Op S step good (fun _ => Inv) (fun _ => keeps) ops [] s initial all

theorem run_invariant
    (keeps : ∀ op s s', Inv s → good op s → step op s = some s' → Inv s')
    {ops : List Op} {s s' : S} (initial : Inv s) (all : Along step good ops s)
    (reaches : run step ops s = some s') : Inv s' := by
  induction ops generalizing s with
  | nil => exact some.inj reaches ▸ initial
  | cons op ops ih =>
    obtain ⟨t, stepped, rest⟩ := bind_eq_some_iff.mp reaches
    exact ih (keeps op s t initial all.1 stepped) (all.2 t stepped) rest

theorem run_gives (keeps : ∀ op s, Inv s → Gives (step op s) Inv) (ops : List Op)
    {s : S} (initial : Inv s) : Gives (run step ops s) Inv := by
  induction ops generalizing s with
  | nil => exact .of_some initial
  | cons op ops ih => exact (keeps op s initial).seq fun _ inv => ih inv

/-- A measure that good steps keep and all others raise tells at the end of a run whether its
    steps were good. -/
theorem run_measure {excess : S → Int}
    (keeps : ∀ op s s', Inv s → step op s = some s' → Inv s')
    (kept : ∀ op s s', Inv s → step op s = some s' → good op s → excess s' = excess s)
    (raised : ∀ op s s', Inv s → step op s = some s' → ¬ good op s → excess s < excess s')
    {ops : List Op} {s s' : S} (initial : Inv s) (reaches : run step ops s = some s') :
    Inv s' ∧ excess s ≤ excess s' ∧ (excess s' = excess s ↔ Along step good ops s) := by
  induction ops generalizing s with
  | nil =>
    cases reaches
    exact ⟨initial, Int.le_refl _, fun _ => trivial, fun _ => rfl⟩
  | cons op ops ih =>
    obtain ⟨t, stepped, rest⟩ := bind_eq_some_iff.mp reaches
    obtain ⟨inv, grows, iff⟩ := ih (keeps op s t initial stepped) rest
    rw [along_cons stepped, ← iff]
    by_cases was : good op s
    · have same := kept op s t initial stepped was
      exact ⟨inv, same ▸ grows, fun eq => ⟨was, eq.trans same.symm⟩, fun both => both.2.trans same⟩
    · have more := raised op s t initial stepped was
      refine ⟨inv, by omega, fun eq => ?_, fun both => absurd both.1 was⟩
      omega

/-- If some of the steps can be taken in a view of the state, and the others do not change that
    view, then the view after a run is what these steps alone lead to. -/
theorem run_view {mine : Op → Bool} {view : S → S}
    (keeps : ∀ op s s', Inv s → good op s → step op s = some s' → Inv s')
    (own : ∀ op s s', Inv s → good op s → mine op = true → step op s = some s' →
      step op (view s) = some (view s'))
    (others : ∀ op s s', Inv s → good op s → mine op = false → step op s = some s' →
      view s' = view s)
    {ops : List Op} {s s' : S} (initial : Inv s) (all : Along step good ops s)
    (reaches : run step ops s = some s') :
    run step (ops.filter mine) (view s) = some (view s') := by
  induction ops generalizing s with
  | nil => rw [some.inj reaches, List.filter_nil, run_nil]
  | cons op ops ih =>
    obtain ⟨t, stepped, rest⟩ := bind_eq_some_iff.mp reaches
    have after := ih (keeps op s t initial all.1 stepped) (all.2 t stepped) rest
    cases is : mine op with
    | true =>
      rw [List.filter_cons_of_pos is, run_cons, own op s t initial all.1 is stepped]
      exact after
    | false =>
      rw [List.filter_cons_of_neg (Bool.eq_false_iff.mp is), ← others op s t initial all.1 is stepped]
      exact after

end Nchan.Lib.Run
