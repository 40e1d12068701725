import Nchan.Lib.Ring
import Nchan.Lib.Chain
import Nchan.Lib.Run

/-! # The write buffer of an interprocess pipe

`ipc.c` sends alerts to another worker through a pipe.  What `write()` does not
take at once waits in a ring of `IPC_WRITEBUF_SIZE` alerts, and what the ring
cannot take waits in a linked overflow list that is squeezed back into the ring
when it drains.

`ipcAlert` and `ipcWriteHandler` are the two functions of `ipc.c` over one
destination slot.  Everything outside is answered by an `Environment`: what
`memstore_ready()` returns and whether each `write()` takes the alert.
`none` stands for an aborted worker, by a failed `assert` or a null pointer.
-/

namespace Nchan.Ipc

open Function

/-- `IPC_WRITEBUF_SIZE`. -/
abbrev ipcWritebufSize : Nat := 32

/-- `ipc_writebuf_overflow_t`. -/
structure WritebufOverflow (α : Type) where
  alert : α
  next : Option Nat

/-- `ipc_writebuf_t`, with the heap its overflow nodes live in. -/
structure Writebuf (α : Type) where
  n : UInt16
  first : UInt16
  overflowN : Int32
  overflowFirst : Option Nat
  overflowLast : Option Nat
  alerts : Fin ipcWritebufSize → α
  heap : Nat → Option (WritebufOverflow α)

/-- The sending side of an `ipc_process_t`: its write buffer, and the alerts
    that `write()` has taken so far. -/
structure Process (α : Type) where
  wbuf : Writebuf α
  pipe : List α

/-- The answers one entry of `ipc_write_handler` gets: `memstore_ready()` for
    each (recursive) invocation, and for each `write()` whether it takes the
    alert (`true`) or says `EAGAIN`.  Beyond the lists the store is ready and the
    pipe is full. -/
structure Environment where
  ready : List Bool
  writes : List Bool

/-- `ipc_init` for one process slot. -/
def Process.init {α : Type} (zeroed : α) : Process α where
  wbuf :=
    { n := 0, first := 0, overflowN := 0, overflowFirst := none, overflowLast := none
      alerts := fun _ => zeroed, heap := fun _ => none }
  pipe := []

/-- How the write loop of `ipc_write_handler` stopped. -/
structure WriteLoop (α : Type) where
  i : Nat
  writes : List Bool
  pipe : List α
  writeAborted : Bool

/-- `for(i = first; i < last; i++)` over the ring, `k` being `last - i`. -/
def writeLoop {α : Type} (alerts : Fin ipcWritebufSize → α) :
    Nat → Nat → List Bool → List α → WriteLoop α
  | 0, i, writes, pipe => ⟨i, writes, pipe, false⟩
  | _ + 1, i, [], pipe => ⟨i, [], pipe, true⟩
  | _ + 1, i, false :: writes, pipe => ⟨i, writes, pipe, true⟩
  | k + 1, i, true :: writes, pipe =>
    writeLoop alerts k (i + 1) writes (pipe ++ [alerts (Fin.ofNat ipcWritebufSize i)])

/-- The loop that squeezes overflow into the ring cells from `i` on, `k` being
    `last - i`. -/
def squeezeOverflow {α : Type} : Nat → Nat → Writebuf α → Option (Writebuf α)
  | 0, _, wb => some wb
  | k + 1, i, wb =>
    match wb.overflowFirst with
    | none => none
    | some address =>
      match wb.heap address with
      | none => none
      | some node =>
        let squeezed :=
          { wb with
            alerts := update wb.alerts (Fin.ofNat ipcWritebufSize i) node.alert
            overflowN := wb.overflowN - 1
            n := wb.n + 1
            overflowFirst := node.next
            heap := update wb.heap address none }
        -- assert(proc->wbuf.overflow_n >= 0)
        if squeezed.overflowN < 0 then none
        else
          match node.next with
          | none => some { squeezed with overflowLast := none }
          | some _ => squeezeOverflow k (i + 1) squeezed

def afterWriting {α : Type} (wb : Writebuf α) (w : WriteLoop α) : Writebuf α :=
  if w.i = wb.first.toNat + wb.n.toNat then { wb with first := 0, n := 0 }
  else
    { wb with first := UInt16.ofNat w.i, n := wb.n - UInt16.ofNat (w.i - wb.first.toNat) }

/-! ## Termination of the retry

The handler calls itself after squeezing, and only if everything in the ring was
written; the overflow count is then positive before and smaller after. -/

theorem writeLoop_i_of_not_aborted {α : Type} (alerts : Fin ipcWritebufSize → α)
    (k i : Nat) (writes : List Bool) (pipe : List α)
    (done : (writeLoop alerts k i writes pipe).writeAborted = false) :
    (writeLoop alerts k i writes pipe).i = i + k := by
  induction k generalizing i writes pipe with
  | zero => rfl
  | succ k ih =>
    cases writes with
    | nil => simp [writeLoop] at done
    | cons b writes =>
      cases b with
      | false => simp [writeLoop] at done
      | true =>
        simp only [writeLoop] at done ⊢
        rw [ih (i + 1) writes _ done]
        omega

theorem overflowN_pred {c : Int32} (nonneg : 0 ≤ c.toInt) : (c - 1).toInt = c.toInt - 1 := by
  have upper := Int32.toInt_lt c
  rw [Int32.toInt_sub, show (1 : Int32).toInt = 1 from rfl]
  exact Int.bmod_eq_of_le (by omega) (by omega)

theorem squeezeOverflow_decreases {α : Type} (k i : Nat) (wb wb' : Writebuf α)
    (nonneg : 0 ≤ wb.overflowN.toInt) (squeezed : squeezeOverflow k i wb = some wb') :
    0 ≤ wb'.overflowN.toInt ∧ wb'.overflowN.toInt ≤ wb.overflowN.toInt ∧
      (0 < k → wb'.overflowN.toInt < wb.overflowN.toInt) := by
  induction k generalizing i wb with
  | zero =>
    cases squeezed
    omega
  | succ k ih =>
    simp only [squeezeOverflow] at squeezed
    split at squeezed
    · contradiction
    split at squeezed
    · contradiction
    split at squeezed
    · contradiction
    rename_i passed
    rw [Int32.lt_iff_toInt_lt, Int32.toInt_zero, overflowN_pred nonneg] at passed
    split at squeezed
    · cases squeezed
      simp only [overflowN_pred nonneg]
      omega
    · have rest := ih _ _ (by simp only [overflowN_pred nonneg]; omega) squeezed
      simp only [overflowN_pred nonneg] at rest
      omega

@[simp] theorem afterWriting_overflowN {α : Type} (wb : Writebuf α) (w : WriteLoop α) :
    (afterWriting wb w).overflowN = wb.overflowN := by
  unfold afterWriting
  split <;> rfl

/-- `ipc_write_handler`. -/
def ipcWriteHandler {α : Type} (env : Environment) (p : Process α) : Option (Process α) :=
  -- if(!memstore_ready()) the write timer is set again and nothing is written
  if env.ready.head? = some false then some p
  else
    let first := p.wbuf.first.toNat
    let w := writeLoop p.wbuf.alerts p.wbuf.n.toNat first env.writes p.pipe
    let wb := afterWriting p.wbuf w
    if _overflowing : 0 < wb.overflowN ∧ 0 < w.i - first then
      match _squeezed : squeezeOverflow (ipcWritebufSize - wb.n.toNat)
          (wb.first.toNat + wb.n.toNat) wb with
      | none => none
      | some wb' =>
        -- "retry": the ring drained, so the squeezed alerts are tried at once
        if _aborted : w.writeAborted then some { wbuf := wb', pipe := w.pipe }
        else ipcWriteHandler ⟨env.ready.tail, w.writes⟩ { wbuf := wb', pipe := w.pipe }
    else some { wbuf := wb, pipe := w.pipe }
termination_by p.wbuf.overflowN.toInt.toNat
decreasing_by
  have drained := writeLoop_i_of_not_aborted _ _ _ _ _ (Bool.eq_false_iff.mpr _aborted)
  have empty : wb.n.toNat = 0 := by
    simp only [wb, afterWriting, w, drained, first, if_true]
    rfl
  have positive : 0 < p.wbuf.overflowN.toInt := by
    simpa [wb, Int32.lt_iff_toInt_lt] using _overflowing.1
  have count : wb.overflowN = p.wbuf.overflowN := afterWriting_overflowN _ _
  obtain ⟨nonneg, -, smaller⟩ := squeezeOverflow_decreases _ _ _ _ (by rw [count]; omega) _squeezed
  rw [count, empty] at smaller
  have smaller := smaller (by decide)
  omega

/-- The overflow branch of `ipc_alert`; `address` is what `ngx_alloc` answers. -/
def enqueueOverflow {α : Type} (alert : α) (address : Nat) (wb : Writebuf α) :
    Option (Writebuf α) :=
  let heap := update wb.heap address (some { alert := alert, next := none })
  let first := if wb.overflowFirst.isNone then some address else wb.overflowFirst
  let queue := { wb with
    overflowFirst := first, overflowLast := some address, overflowN := wb.overflowN + 1 }
  match wb.overflowLast with
  | none => some { queue with heap := heap }
  | some last =>
    (heap last).map fun node =>
      { queue with heap := update heap last (some { node with next := some address }) }

/-- `ipc_alert`: the alert goes behind the ring, or behind the overflow list when
    the ring is full, and then the write handler runs. -/
def ipcAlert {α : Type} (alert : α) (address : Nat) (env : Environment) (p : Process α) :
    Option (Process α) :=
  let wb := p.wbuf
  if wb.n.toNat < ipcWritebufSize then
    let cell := Fin.ofNat ipcWritebufSize (wb.first.toNat + wb.n.toNat)
    ipcWriteHandler env
      { p with wbuf := { wb with alerts := update wb.alerts cell alert, n := wb.n + 1 } }
  else
    (enqueueOverflow alert address wb).bind fun wb => ipcWriteHandler env { p with wbuf := wb }

/-! ## Runs -/

/-- What happens to a destination slot: somebody calls `ipc_alert`, or the event
    loop calls the write handler. -/
inductive Op (α : Type) where
  | alert (alert : α) (address : Nat) (env : Environment)
  | writable (env : Environment)

def Op.apply {α : Type} : Op α → Process α → Option (Process α)
  | .alert a address env, p => ipcAlert a address env p
  | .writable env, p => ipcWriteHandler env p

/-- The alerts a run passes to `ipc_alert`, in order. -/
def sent {α : Type} (ops : List (Op α)) : List α :=
  ops.filterMap fun
    | .alert a _ _ => some a
    | .writable _ => none

end Nchan.Ipc
