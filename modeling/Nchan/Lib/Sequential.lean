import Mathlib.Data.List.Count

/-! # Requests run one after another

A machine that keeps its requests in a queue and runs the first of them.  While the callback
of a completed request runs, its place at the front is still taken, so a request made by the
callback waits until it returns.  Aborting the machine forgets the queue: what was running goes
on by itself, what was waiting is never started.
-/

namespace Nchan.Lib

open List Bool

structure Sequential (α : Type) where
  /-- Queued requests; unless `completing`, the first of them is running. -/
  queue : List α := []
  /-- The callback of the request before those in `queue` is running. -/
  completing : Bool := false
  orphans : List α := []
  started : List α := []

namespace Sequential

variable {α : Type}

def request (p : α) (m : Sequential α) : Sequential α :=
  if m.queue.isEmpty && !m.completing then
    { m with queue := [p], started := m.started ++ [p] }
  else { m with queue := m.queue ++ [p] }

def abort (m : Sequential α) : Sequential α :=
  { m with
    queue := []
    completing := false
    orphans := m.orphans ++ if m.completing then [] else m.queue.take 1 }

def complete (m : Sequential α) : Option (α × Sequential α) :=
  match m.queue, m.completing with
  | p :: rest, false => some (p, { m with queue := rest, completing := true })
  | _, _ => none

/-- The callback returns: the next request is started, unless the callback aborted the
    machine. -/
def finish (m : Sequential α) : Sequential α :=
  if m.completing then
    { m with completing := false, started := m.started ++ m.queue.take 1 }
  else m

def completeOrphan [DecidableEq α] (p : α) (m : Sequential α) : Option (Sequential α) :=
  if p ∈ m.orphans then some { m with orphans := m.orphans.erase p } else none

def waiting (m : Sequential α) : List α :=
  if m.completing then m.queue else m.queue.tail

/-! ## What is started -/

variable {m m' : Sequential α}

theorem request_of_idle (empty : m.queue = []) (idle : m.completing = false) (p : α) :
    m.request p = { m with queue := [p], started := m.started ++ [p] } := by
  simp [request, empty, idle]

theorem started_request (p : α) (m : Sequential α) :
    (m.request p).started = m.started ∨ (m.request p).started = m.started ++ [p] := by
  unfold request
  split
  · exact .inr rfl
  · exact .inl rfl

@[simp] theorem started_abort (m : Sequential α) : m.abort.started = m.started := rfl

@[simp] theorem waiting_abort (m : Sequential α) : m.abort.waiting = [] := rfl

theorem started_finish (m : Sequential α) :
    m.finish.started = m.started ∨ ∃ p ∈ m.waiting, m.finish.started = m.started ++ [p] := by
  unfold finish waiting
  cases m.completing with
  | false => exact .inl rfl
  | true =>
    cases m.queue with
    | nil => exact .inl (append_nil _)
    | cons front rest => exact .inr ⟨front, mem_cons_self, rfl⟩

variable {p : α}

theorem complete_keeps (done : m.complete = some (p, m')) :
    m'.started = m.started ∧ m'.waiting = m.waiting := by
  unfold complete at done
  split at done
  · rename_i front rest queued idle
    obtain ⟨-, rfl⟩ : front = p ∧ _ = m' := by simpa using done
    simp [waiting, queued, idle]
  · cases done

theorem complete_front (done : m.complete = some (p, m')) : m.queue.head? = some p := by
  unfold complete at done
  split at done
  · rename_i front rest queued idle
    obtain ⟨rfl, -⟩ : front = p ∧ _ = m' := by simpa using done
    rw [queued]
    rfl
  · cases done

variable [DecidableEq α]

theorem completeOrphan_keeps (done : m.completeOrphan p = some m') :
    m'.started = m.started ∧ m'.waiting = m.waiting := by
  obtain ⟨-, same⟩ := Option.ite_none_right_eq_some.mp done
  exact Option.some.inj same ▸ ⟨rfl, rfl⟩

/-- How many requests `p` have been started or are still to be. -/
def asked (p : α) (m : Sequential α) : Nat := m.started.count p + m.waiting.count p

theorem asked_request (p q : α) (m : Sequential α) :
    (m.request p).asked q = m.asked q + if p = q then 1 else 0 := by
  unfold request asked waiting
  cases m.queue with
  | nil => cases m.completing <;> simp [count_cons]
  | cons front rest =>
    cases m.completing <;> simp [count_append, count_cons] <;> omega

theorem asked_finish (q : α) (m : Sequential α) : m.finish.asked q = m.asked q := by
  unfold finish
  cases completing : m.completing with
  | false => simp
  | true =>
    unfold asked waiting
    cases m.queue with
    | nil => simp
    | cons front rest =>
      simp only [completing, if_true, false_eq_true, if_false, take_succ_cons,
        take_zero, count_append, count_cons, count_nil, tail_cons]
      omega

/-! ## What is outstanding -/

/-- How many requests `p` have not completed yet. -/
def outstanding (p : α) (m : Sequential α) : Nat := m.queue.count p + m.orphans.count p

theorem outstanding_request (p q : α) (m : Sequential α) :
    (m.request p).outstanding q = m.outstanding q + if p = q then 1 else 0 := by
  unfold request outstanding
  split <;> rename_i idle
  · have empty : m.queue = [] := by
      simp only [and_eq_true, List.isEmpty_iff] at idle
      exact idle.1
    simp only [empty, List.count_nil, List.count_cons, beq_iff_eq]
    omega
  · simp only [count_append, count_cons, count_nil, beq_iff_eq]
    omega

theorem outstanding_abort_le (q : α) (m : Sequential α) :
    m.abort.outstanding q ≤ m.outstanding q := by
  have first : (m.queue.take 1).count q ≤ m.queue.count q :=
    (take_sublist 1 m.queue).count_le q
  unfold abort outstanding
  cases m.completing with
  | true => simp
  | false =>
    simp only [false_eq_true, if_false, count_append, count_nil]
    omega

@[simp] theorem outstanding_finish (q : α) (m : Sequential α) :
    m.finish.outstanding q = m.outstanding q := by
  unfold finish outstanding
  split <;> rfl

theorem outstanding_complete (done : m.complete = some (p, m')) (q : α) :
    m.outstanding q = m'.outstanding q + if p = q then 1 else 0 := by
  unfold complete at done
  split at done
  · rename_i front rest queued idle
    obtain ⟨rfl, rfl⟩ : front = p ∧ _ = m' := by simpa using done
    simp only [outstanding, queued, count_cons, beq_iff_eq]
    omega
  · cases done

theorem outstanding_completeOrphan (done : m.completeOrphan p = some m') (q : α) :
    m.outstanding q = m'.outstanding q + if p = q then 1 else 0 := by
  unfold completeOrphan at done
  split at done
  · rename_i orphan
    cases done
    have positive := count_pos_iff.mpr orphan
    simp only [outstanding, count_erase, beq_iff_eq]
    split
    · rename_i same
      subst same
      omega
    · omega
  · cases done

end Sequential

end Nchan.Lib
