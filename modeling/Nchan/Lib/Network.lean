import Mathlib.Data.Fintype.BigOperators
import Mathlib.Tactic.Abel

/-! # Processes connected by queues

Every process has a state of its own, and for every pair of processes there is a queue
of messages from the one to the other.  A process acts by taking a new state and putting
messages at the end of its outgoing queues; delivering a message takes it from the front.
-/

namespace Nchan.Lib

open Finset

variable {W L M : Type*}

/-- The processes' states and the queues, by sender and receiver. -/
structure Net (W L M : Type*) where
  node : W → L
  wire : W → W → List M

/-- What a process sends to each other one. -/
abbrev Out (W M : Type*) := W → List M

namespace Out

def none : Out W M := fun _ => []

def send [DecidableEq W] (dst : W) (m : M) : Out W M := fun j => if j = dst then [m] else []

def broadcast [DecidableEq W] (self : W) (m : M) : Out W M := fun j => if j = self then [] else [m]

def andThen (first second : Out W M) : Out W M := fun j => first j ++ second j

variable {self dst j : W} {m a : M} {first second : Out W M}

@[simp] theorem mem_none : a ∈ (none : Out W M) j ↔ False := by simp [none]

@[simp] theorem andThen_none (out : Out W M) : out.andThen none = out :=
  funext fun _ => List.append_nil _

@[simp] theorem none_andThen (out : Out W M) : none.andThen out = out := rfl

@[simp] theorem mem_andThen : a ∈ first.andThen second j ↔ a ∈ first j ∨ a ∈ second j :=
  List.mem_append

variable [DecidableEq W]

@[simp] theorem mem_send : a ∈ send dst m j ↔ j = dst ∧ a = m := by
  unfold send
  split <;> simp_all

@[simp] theorem mem_broadcast : a ∈ broadcast self m j ↔ j ≠ self ∧ a = m := by
  unfold broadcast
  split <;> simp_all

end Out

namespace Net

variable [DecidableEq W]

/-- `w` takes the state `l` and sends `out`. -/
def act (w : W) (l : L) (out : Out W M) (net : Net W L M) : Net W L M where
  node := Function.update net.node w l
  wire := fun i j => if i = w then net.wire i j ++ out j else net.wire i j

/-- The queue from `src` to `dst` without its first message. -/
def pop (src dst : W) (net : Net W L M) : Net W L M :=
  { net with wire := fun i j => if i = src ∧ j = dst then (net.wire i j).tail else net.wire i j }

/-- `dst` handles the first message from `src`, if there is one. -/
def deliver (handle : W → W → M → L → Option (L × Out W M)) (src dst : W) (net : Net W L M) :
    Option (Net W L M) :=
  match net.wire src dst with
  | [] => some net
  | m :: _ => (handle src dst m (net.node dst)).map fun (l, out) => (net.pop src dst).act dst l out

variable {w : W} {l : L} {out : Out W M} {net : Net W L M}

@[simp] theorem act_node (i : W) : (net.act w l out).node i = if i = w then l else net.node i := by
  simp [act, Function.update_apply]

theorem sum_act [Fintype W] {N : Type*} [AddCommMonoid N] (net : Net W L M) (w : W) (l : L)
    (out : Out W M) (f : W → L → N) :
    ∑ i, f i ((net.act w l out).node i) + f w (net.node w) = ∑ i, f i (net.node i) + f w l := by
  have others : ∀ i ∈ univ.erase w, (net.act w l out).node i = net.node i := fun i is => by
    rw [act_node, if_neg (ne_of_mem_erase is)]
  rw [← add_sum_erase _ _ (mem_univ w),
    sum_congr rfl fun i is => by rw [others i is], act_node, if_pos rfl,
    ← add_sum_erase _ (fun i => f i (net.node i)) (mem_univ w)]
  abel

@[simp] theorem mem_act_wire {i j : W} {m : M} :
    m ∈ (net.act w l out).wire i j ↔ m ∈ net.wire i j ∨ i = w ∧ m ∈ out j := by
  simp only [act]
  split <;> simp_all

theorem mem_pop_wire {src dst i j : W} {m first : M} {rest : List M}
    (head : net.wire src dst = first :: rest) (on : m ∈ net.wire i j)
    (other : i = src → j = dst → m ≠ first) : m ∈ (net.pop src dst).wire i j := by
  simp only [pop]
  split
  case isTrue same =>
    obtain ⟨rfl, rfl⟩ := same
    rw [head] at on ⊢
    exact (List.mem_cons.mp on).resolve_left (other rfl rfl)
  case isFalse => exact on

theorem mem_of_mem_pop {src dst i j : W} {m : M} (on : m ∈ (net.pop src dst).wire i j) :
    m ∈ net.wire i j := by
  simp only [pop] at on
  split at on
  · exact List.mem_of_mem_tail on
  · exact on

end Net

end Nchan.Lib
