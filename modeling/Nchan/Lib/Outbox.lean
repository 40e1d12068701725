import Mathlib.Data.List.Nodup

/-! # Sending without copying

What is to be sent is not copied: the queue of a sender holds buffers, a buffer says which bytes
of the memory it stands for, and the bytes are read when they are sent.  So what a queue will
send is a function of the memory as it then is, and it stays the same only as long as nobody
writes to a buffer that is queued, or to the memory it refers to.
-/

namespace Nchan.Lib

open List Function

structure Slice (R : Type*) where
  region : R
  pos : Nat
  len : Nat
  deriving DecidableEq

variable {R α : Type*}

def overwrite (text old : List α) : List α := text ++ old.drop text.length

namespace Slice

def read (mem : R → List α) (s : Slice R) : List α := ((mem s.region).drop s.pos).take s.len

def Within (mem : R → List α) (s : Slice R) : Prop := s.pos + s.len ≤ (mem s.region).length

def advance (count : Nat) (s : Slice R) : Slice R := ⟨s.region, s.pos + count, s.len - count⟩

variable {mem mem' : R → List α} {s : Slice R}

theorem read_congr (same : mem' s.region = mem s.region) : s.read mem' = s.read mem := by
  rw [read, same, read]

theorem Within.congr (within : s.Within mem) (same : mem' s.region = mem s.region) :
    s.Within mem' := by
  rw [Within, same]
  exact within

theorem Within.length_read (within : s.Within mem) : (s.read mem).length = s.len := by
  rw [read, length_take, length_drop]
  exact Nat.min_eq_left (Nat.le_sub_of_add_le' within)

theorem of_written {region : R} {before text after : List α}
    (written : mem region = before ++ (text ++ after)) :
    (⟨region, before.length, text.length⟩ : Slice R).Within mem ∧
      (⟨region, before.length, text.length⟩ : Slice R).read mem = text := by
  constructor
  · simp only [Within, written, length_append]
    omega
  · simp [read, written]

theorem read_advance (count : Nat) : (s.advance count).read mem = (s.read mem).drop count := by
  rw [read, advance, read, drop_take, drop_drop]

theorem Within.advance {count : Nat} (within : s.Within mem) (fewer : count ≤ s.len) :
    (s.advance count).Within mem := by
  have whole : s.pos + count + (s.len - count) = s.pos + s.len := by omega
  rw [Within, Slice.advance, whole]
  exact within

end Slice

namespace Outbox

variable {B : Type*}

def reading (mem : R → List α) (bufs : B → Slice R) (out : List B) : List α :=
  out.flatMap fun b => (bufs b).read mem

variable {mem mem' : R → List α} {bufs bufs' : B → Slice R} {out : List B}

theorem reading_append (out new : List B) :
    reading mem bufs (out ++ new) = reading mem bufs out ++ reading mem bufs new :=
  flatMap_append

theorem reading_congr (sameBufs : ∀ b ∈ out, bufs' b = bufs b)
    (sameMem : ∀ b ∈ out, mem' (bufs b).region = mem (bufs b).region) :
    reading mem' bufs' out = reading mem bufs out := by
  refine flatMap_congr fun b listed => ?_
  rw [sameBufs b listed]
  exact Slice.read_congr (sameMem b listed)

variable [DecidableEq B]

/-- `room` bytes of a queue are sent.  The buffers that are done leave the queue, and the next one
    is advanced. -/
def send : Nat → List B → (B → Slice R) → List B × (B → Slice R)
  | _, [], bufs => ([], bufs)
  | room, b :: rest, bufs =>
    if (bufs b).len ≤ room then send (room - (bufs b).len) rest bufs
    else (b :: rest, update bufs b ((bufs b).advance room))

/-- What a buffer may become while it is sent. -/
structure Advanced (mem : R → List α) (s s' : Slice R) : Prop where
  region : s'.region = s.region
  within : s.Within mem → s'.Within mem

theorem Advanced.refl (s : Slice R) : Advanced mem s s := ⟨rfl, id⟩

theorem send_suffix (room : Nat) (out : List B) (bufs : B → Slice R) :
    (send room out bufs).1 <:+ out := by
  induction out generalizing room with
  | nil => exact suffix_rfl
  | cons b rest ih =>
    rw [send]
    split
    · exact (ih _).trans (suffix_cons b rest)
    · exact suffix_rfl

theorem send_bufs_of_not_mem (room : Nat) {b : B} (other : b ∉ out) :
    (send room out bufs).2 b = bufs b := by
  induction out generalizing room with
  | nil => rfl
  | cons head rest ih =>
    rw [send]
    split
    · exact ih _ fun listed => other (mem_cons_of_mem head listed)
    · have ne : b ≠ head := fun same => other (same ▸ mem_cons_self)
      exact update_of_ne ne ..

theorem send_advanced (mem : R → List α) (room : Nat) (out : List B) (bufs : B → Slice R) (b : B) :
    Advanced mem (bufs b) ((send room out bufs).2 b) := by
  induction out generalizing room with
  | nil => exact .refl _
  | cons head rest ih =>
    rw [send]
    split
    · exact ih _
    · rename_i partly
      by_cases same : b = head
      · subst same
        simp only [update_self]
        exact ⟨rfl, fun within => within.advance (Nat.le_of_not_le partly)⟩
      · simp only [update_of_ne same]
        exact .refl _

theorem reading_send (distinct : out.Nodup) (within : ∀ b ∈ out, (bufs b).Within mem)
    (room : Nat) :
    reading mem (send room out bufs).2 (send room out bufs).1 =
      (reading mem bufs out).drop room := by
  induction out generalizing room with
  | nil => rw [send, reading, flatMap_nil, drop_nil]
  | cons b rest ih =>
    obtain ⟨notRest, distinct⟩ := nodup_cons.mp distinct
    have length := (within b mem_cons_self).length_read
    have whole : reading mem bufs (b :: rest) =
        (bufs b).read mem ++ reading mem bufs rest := flatMap_cons
    rw [send, whole]
    split
    · rename_i all
      have gone : ((bufs b).read mem).drop room = [] := drop_eq_nil_of_le (length ▸ all)
      rw [ih distinct fun c listed => within c (mem_cons_of_mem b listed), drop_append,
        length, gone, nil_append]
    · rename_i partly
      have others : reading mem (update bufs b ((bufs b).advance room)) rest =
          reading mem bufs rest := by
        refine reading_congr (fun c listed => ?_) fun _ _ => rfl
        have ne : c ≠ b := fun same => notRest (same ▸ listed)
        exact update_of_ne ne ..
      rw [drop_append_of_le_length (length ▸ Nat.le_of_not_le partly), ← Slice.read_advance,
        ← others]
      simp [reading]

theorem send_all {room : Nat} (within : ∀ b ∈ out, (bufs b).Within mem)
    (enough : (reading mem bufs out).length ≤ room) : (send room out bufs).1 = [] := by
  induction out generalizing room with
  | nil => rfl
  | cons b rest ih =>
    have length := (within b mem_cons_self).length_read
    rw [reading, flatMap_cons, ← reading, length_append, length] at enough
    rw [send, if_pos (Nat.le_of_add_right_le enough)]
    exact ih (fun c listed => within c (mem_cons_of_mem b listed)) (by omega)

end Outbox

end Nchan.Lib
