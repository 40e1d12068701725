import Nchan.Ipc.Writebuf

/-! # The write buffer is a first-in first-out queue

`Writebuf.Holds` reads a write buffer as two lists, the ring and the overflow.
Each piece of `ipc.c` has one lemma saying how it moves alerts between them, and
`Fifo` adds up what the pipe, the ring and the overflow list hold.
-/

namespace Nchan.Ipc

open Nchan.Lib Nchan.Lib.Run List Option
open Function (update update_of_ne update_self)

variable {α : Type}

/-- The list from `first` to `last` holds `alerts`. -/
def OverflowIs (heap : Nat → Option (WritebufOverflow α)) (first last : Option Nat)
    (alerts : List α) : Prop :=
  ∃ nodes, Chain (fun address => (heap address).map (·.next)) first nodes ∧
    last = nodes.getLast? ∧
    nodes.map (fun address => (heap address).map (·.alert)) = alerts.map some

/-- What the two parts of the write buffer hold. -/
structure Writebuf.Holds (wb : Writebuf α) (ring overflow : List α) : Prop where
  ring_eq : Ring.contents wb.alerts wb.first.toNat wb.n.toNat = ring
  fits : wb.n.toNat ≤ ipcWritebufSize
  overflow_list : OverflowIs wb.heap wb.overflowFirst wb.overflowLast overflow
  count : wb.overflowN.toInt = overflow.length

namespace Writebuf.Holds

variable {wb : Writebuf α} {ring overflow : List α}

theorem length_ring (holds : wb.Holds ring overflow) : ring.length = wb.n.toNat := by
  rw [← holds.ring_eq, Ring.length_contents]

end Writebuf.Holds

/-! ## The write loop -/

theorem writeLoop_spec (alerts : Fin ipcWritebufSize → α) (k i : Nat) (writes : List Bool)
    (pipe : List α) :
    let w := writeLoop alerts k i writes pipe
    ∃ written ≤ k, w.i = i + written ∧ w.pipe = pipe ++ Ring.contents alerts i written := by
  induction k generalizing i writes pipe with
  | zero => exact ⟨0, by omega, rfl, by simp [writeLoop]⟩
  | succ k ih =>
    cases writes with
    | nil => exact ⟨0, by omega, rfl, by simp [writeLoop]⟩
    | cons taken writes =>
      cases taken with
      | false => exact ⟨0, by omega, rfl, by simp [writeLoop]⟩
      | true =>
        obtain ⟨written, within, stops, writes⟩ := ih (i + 1) writes
          (pipe ++ [alerts (Fin.ofNat ipcWritebufSize i)])
        refine ⟨written + 1, by omega, ?_, ?_⟩
        · simp only [writeLoop, stops]
          omega
        · simp only [writeLoop, writes, Ring.contents_succ, append_assoc, singleton_append]

variable {wb : Writebuf α} {all overflow ring : List α}

theorem holds_afterWriting (holds : wb.Holds ring overflow) {w : WriteLoop α} {written : Nat}
    (within : written ≤ wb.n.toNat) (stops : w.i = wb.first.toNat + written) :
    (afterWriting wb w).Holds (ring.drop written) overflow := by
  have size : wb.n.toNat ≤ 32 := holds.fits
  unfold afterWriting
  split
  · rename_i all
    have drained : written = wb.n.toNat := by omega
    refine ⟨?_, by simp, holds.overflow_list, holds.count⟩
    rw [drained, ← holds.length_ring, drop_length]
    rfl
  · have first_mod : (UInt16.ofNat w.i).toNat % ipcWritebufSize = w.i % ipcWritebufSize := by
      -- the 16-bit index wraps at a multiple of the ring size
      exact Nat.mod_mod_of_dvd _ (by decide)
    have remaining : (wb.n - UInt16.ofNat (w.i - wb.first.toNat)).toNat = wb.n.toNat - written := by
      have small : (UInt16.ofNat written).toNat = written := UInt16.toNat_ofNat_of_lt' (by
        simp only [UInt16.size]; omega)
      rw [stops, Nat.add_sub_cancel_left, UInt16.toNat_sub_of_le, small]
      rw [UInt16.le_iff_toNat_le, small]
      exact within
    refine ⟨?_, ?_, holds.overflow_list, holds.count⟩
    · simp only [remaining]
      rw [Ring.contents_congr _ first_mod, stops, Ring.contents_advance, holds.ring_eq]
    · simp only [remaining]
      exact Nat.le_trans (Nat.sub_le _ _) holds.fits

/-! ## The overflow list -/

theorem overflowIs_nil (heap : Nat → Option (WritebufOverflow α)) :
    OverflowIs heap none none [] :=
  ⟨[], rfl, rfl, rfl⟩

theorem OverflowIs.uncons {heap : Nat → Option (WritebufOverflow α)} {first last : Option Nat}
    {a : α} {rest : List α} (list : OverflowIs heap first last (a :: rest)) :
    ∃ address node, first = some address ∧ heap address = some node ∧ node.alert = a ∧
      (node.next = none → rest = []) ∧
      (node.next ≠ none →
        rest ≠ [] ∧ OverflowIs (update heap address none) node.next last rest) := by
  obtain ⟨nodes, chain, ends, alerts⟩ := list
  cases nodes with
  | nil => cases alerts
  | cons address nodes =>
    simp only [map_cons, List.cons.injEq, map_eq_some_iff] at alerts
    obtain ⟨⟨node, here, holdsAlert⟩, alerts⟩ := alerts
    have nodup := nodup_cons.mp chain.nodup
    obtain ⟨head, next, step, tail⟩ := chain
    simp only [here, map_some, some.injEq] at step
    subst step
    refine ⟨address, node, head, here, holdsAlert, ?_, ?_⟩
    · intro last
      rw [tail.start_eq, List.head?_eq_none_iff] at last
      simpa [last] using alerts.symm
    · intro more
      have other : ∀ b ∈ nodes, update heap address none b = heap b := fun b on =>
        update_of_ne (ne_of_mem_of_not_mem on nodup.1) _ _
      have nonempty : nodes ≠ [] := by
        rintro rfl
        exact more tail
      refine ⟨?_, nodes, tail.frame fun b on => by rw [other b on], ?_, ?_⟩
      · rintro rfl
        simp [nonempty] at alerts
      · rw [ends, List.getLast?_cons_of_ne_nil nonempty]
      · rw [← alerts]
        exact map_congr_left fun b on => by rw [other b on]

theorem OverflowIs.snoc_nil (heap : Nat → Option (WritebufOverflow α)) (address : Nat) (a : α) :
    OverflowIs (update heap address (some ⟨a, none⟩)) (some address) (some address) [a] :=
  ⟨[address], ⟨rfl, none, by simp, rfl⟩, rfl, by simp⟩

variable {address : Nat}

theorem OverflowIs.snoc {heap : Nat → Option (WritebufOverflow α)} {first : Option Nat} {last : Nat}
    {alerts : List α} (a : α) (list : OverflowIs heap first (some last) alerts)
    (fresh : heap address = none) :
    ∃ node, heap last = some node ∧ first ≠ none ∧
      OverflowIs
        (update (update heap address (some ⟨a, none⟩)) last
          (some { node with next := some address }))
        first (some address) (alerts ++ [a]) := by
  obtain ⟨nodes, chain, ends, held⟩ := list
  obtain ⟨front, rfl⟩ := List.getLast?_eq_some_iff.mp ends.symm
  obtain ⟨_, next, step, _⟩ := chain.suffix
  obtain ⟨node, here, -⟩ := map_eq_some_iff.mp step
  have unused : address ∉ front ++ [last] := by
    intro on
    exact chain.allocated on (by simp [fresh])
  have different : address ≠ last := fun same => unused (by simp [same])
  have apart : ∀ b ∈ front, b ≠ last ∧ b ≠ address := by
    intro b on
    have nodup := nodup_append.mp chain.nodup
    exact ⟨nodup.2.2 b on last (by simp), fun same => unused (by simp [← same, on])⟩
  refine ⟨node, here, ?_, front ++ [last, address], ?_, by simp, ?_⟩
  · rw [chain.start_eq]
    cases front <;> simp
  · refine chain.append unused (by simp) (by simp [different]) fun b on => ?_
    simp [apart b on]
  · rw [map_append (f := some), ← held]
    simp only [map_append, map_cons, map_nil, update_self, here,
      update_of_ne different, map_some, append_assoc, cons_append,
      nil_append]
    congr 1
    refine map_congr_left fun b on => ?_
    rw [update_of_ne (apart b on).1, update_of_ne (apart b on).2]

/-! ## Moving alerts -/

theorem ring_count_succ {n : UInt16} (room : n.toNat < ipcWritebufSize) :
    (n + 1).toNat = n.toNat + 1 := by
  have small : n.toNat < 32 := room
  rw [UInt16.toNat_add, show (1 : UInt16).toNat = 1 from rfl]
  exact Nat.mod_eq_of_lt (by omega)

theorem contents_put (holds : wb.Holds ring overflow) (room : wb.n.toNat < ipcWritebufSize)
    (a : α) :
    Ring.contents
      (update wb.alerts (Fin.ofNat ipcWritebufSize (wb.first.toNat + wb.n.toNat)) a)
      wb.first.toNat (wb.n + 1).toNat = ring ++ [a] := by
  rw [ring_count_succ room, Ring.contents_push _ _ room, holds.ring_eq]

theorem holds_put (holds : wb.Holds ring overflow) (room : wb.n.toNat < ipcWritebufSize) (a : α) :
    Writebuf.Holds
      { wb with
        alerts := update wb.alerts
          (Fin.ofNat ipcWritebufSize (wb.first.toNat + wb.n.toNat)) a
        n := wb.n + 1 }
      (ring ++ [a]) overflow where
  ring_eq := contents_put holds room a
  fits := by
    rw [ring_count_succ room]
    exact room
  overflow_list := holds.overflow_list
  count := holds.count

/-- Apart from the counter, the overflow branch of `ipc_alert` appends to the
    overflow list and touches nothing else that is in use. -/
theorem enqueueOverflow_list (list : OverflowIs wb.heap wb.overflowFirst wb.overflowLast overflow)
    (fresh : wb.heap address = none) (a : α) :
    ∃ heap first last,
      enqueueOverflow a address wb = some { wb with
        heap := heap, overflowFirst := first, overflowLast := last
        overflowN := wb.overflowN + 1 } ∧
      OverflowIs heap first last (overflow ++ [a]) ∧
      ∀ b, b ≠ address → wb.heap b = none → heap b = none := by
  unfold enqueueOverflow
  cases last : wb.overflowLast with
  | none =>
    rw [last] at list
    obtain ⟨nodes, chain, ends, held⟩ := list
    obtain rfl : nodes = [] := List.getLast?_eq_none_iff.mp ends.symm
    obtain rfl : overflow = [] := by simpa using held.symm
    have empty : wb.overflowFirst = none := chain
    refine ⟨_, _, _, rfl, ?_, fun b other unused => ?_⟩
    · simp only [empty, isNone_none, if_true]
      exact OverflowIs.snoc_nil wb.heap address a
    · rw [update_of_ne other, unused]
  | some tail =>
    rw [last] at list
    obtain ⟨node, here, nonempty, appended⟩ := list.snoc a fresh
    have different : tail ≠ address := by
      rintro rfl
      simp [fresh] at here
    simp only [update_of_ne different, here, map_some]
    refine ⟨_, _, _, rfl, ?_, fun b other unused => ?_⟩
    · simpa [nonempty] using appended
    · have notTail : b ≠ tail := by
        rintro rfl
        simp [unused] at here
      rw [update_of_ne notTail, update_of_ne other, unused]

theorem holds_enqueueOverflow (holds : wb.Holds ring overflow) (fresh : wb.heap address = none)
    (counts : wb.overflowN.toInt < 2 ^ 31 - 1) (a : α) :
    ∃ wb', enqueueOverflow a address wb = some wb' ∧ wb'.Holds ring (overflow ++ [a]) := by
  have counted : (wb.overflowN + 1).toInt = ((overflow ++ [a]).length : Int) := by
    have nonneg : wb.overflowN.toInt = overflow.length := holds.count
    rw [Int32.toInt_add, show (1 : Int32).toInt = 1 from rfl, Int.bmod_eq_of_le (by omega) (by omega),
      holds.count]
    simp
  obtain ⟨heap, first, last, queued, list, -⟩ := enqueueOverflow_list holds.overflow_list fresh a
  exact ⟨_, queued, holds.ring_eq, holds.fits, list, counted⟩

theorem holds_squeezeOverflow (k : Nat) (holds : wb.Holds ring overflow) (nonempty : overflow ≠ [])
    (room : wb.n.toNat + k = ipcWritebufSize) :
    ∃ wb', squeezeOverflow k (wb.first.toNat + wb.n.toNat) wb = some wb' ∧
      wb'.Holds (ring ++ overflow.take k) (overflow.drop k) := by
  induction k generalizing wb ring overflow with
  | zero => exact ⟨wb, rfl, by simpa using holds⟩
  | succ k ih =>
    obtain ⟨a, rest, rfl⟩ := exists_cons_of_ne_nil nonempty
    obtain ⟨address, node, first, here, rfl, isLast, more⟩ := holds.overflow_list.uncons
    have free : wb.n.toNat < ipcWritebufSize := by omega
    have counted : wb.overflowN.toInt = rest.length + 1 := by
      simpa using holds.count
    have decremented : (wb.overflowN - 1).toInt = rest.length := by
      rw [overflowN_pred (by omega)]
      omega
    have passes : ¬ wb.overflowN - 1 < 0 := by
      rw [Int32.lt_iff_toInt_lt, Int32.toInt_zero]
      omega
    simp only [squeezeOverflow, first, here, passes, if_false]
    have filled := contents_put holds free node.alert
    have fits : (wb.n + 1).toNat ≤ ipcWritebufSize := by
      rw [ring_count_succ free]
      exact free
    -- the first of the overflow list is at the end of the ring now
    cases next : node.next with
    | none =>
      obtain rfl := isLast next
      exact ⟨_, rfl, by simpa using filled, fits, by simpa using overflowIs_nil _,
        by simpa using decremented⟩
    | some successor =>
      obtain ⟨nonempty, list⟩ := more (by simp [next])
      rw [next] at list
      have moved : Writebuf.Holds { wb with
          alerts := update wb.alerts
            (Fin.ofNat ipcWritebufSize (wb.first.toNat + wb.n.toNat)) node.alert
          overflowN := wb.overflowN - 1
          n := wb.n + 1
          overflowFirst := some successor
          heap := update wb.heap address none } (ring ++ [node.alert]) rest :=
        ⟨filled, fits, list, decremented⟩
      obtain ⟨wb', squeezed, moved⟩ :=
        ih moved nonempty (by simp only [ring_count_succ free]; omega)
      refine ⟨wb', ?_, by simpa using moved⟩
      simpa [ring_count_succ free, Nat.add_assoc] using squeezed

/-! ## The handler -/

/-- Pipe, ring and overflow list hold what was sent, in order; overflow exists
    only behind a full ring. -/
def Fifo (sent : List α) (p : Process α) : Prop :=
  ∃ ring overflow, p.wbuf.Holds ring overflow ∧ p.pipe ++ ring ++ overflow = sent ∧
    (overflow ≠ [] → ring.length = ipcWritebufSize)

variable {p : Process α}

theorem fifo_writeLoop (fifo : Fifo all p) (writes : List Bool) {w : WriteLoop α}
    (looped : w = writeLoop p.wbuf.alerts p.wbuf.n.toNat p.wbuf.first.toNat writes p.pipe) :
    ∃ ring overflow, (afterWriting p.wbuf w).Holds ring overflow ∧
      w.pipe ++ ring ++ overflow = all ∧
      (overflow ≠ [] → w.i - p.wbuf.first.toNat = 0 → ring.length = ipcWritebufSize) := by
  obtain ⟨ring, overflow, holds, sum, full⟩ := fifo
  obtain ⟨written, within, stops, wrote⟩ :=
    writeLoop_spec p.wbuf.alerts p.wbuf.n.toNat p.wbuf.first.toNat writes p.pipe
  rw [← looped] at stops wrote
  refine ⟨_, _, holds_afterWriting holds within stops, ?_, ?_⟩
  · rw [wrote, ← Ring.contents_take _ _ within, holds.ring_eq, ← sum]
    simp
  · intro nonempty nothing
    obtain rfl : written = 0 := by omega
    exact full nonempty

theorem fifo_squeezeOverflow {pipe : List α} (holds : wb.Holds ring overflow)
    (sum : pipe ++ ring ++ overflow = all) (overflowing : 0 < wb.overflowN) :
    ∃ wb', squeezeOverflow (ipcWritebufSize - wb.n.toNat) (wb.first.toNat + wb.n.toNat) wb
        = some wb' ∧ Fifo all ⟨wb', pipe⟩ := by
  have nonempty : overflow ≠ [] := by
    rintro rfl
    rw [Int32.lt_iff_toInt_lt, holds.count] at overflowing
    simp at overflowing
  have room := Nat.add_sub_of_le holds.fits
  generalize ipcWritebufSize - wb.n.toNat = k at room
  obtain ⟨wb', squeezed, moved⟩ := holds_squeezeOverflow k holds nonempty room
  refine ⟨wb', squeezed, _, _, moved, ?_, ?_⟩
  · rw [← sum]
    simp
  · intro remains
    have more : k < overflow.length := by
      by_contra short
      exact remains (drop_eq_nil_of_le (by omega))
    rw [length_append, length_take, Nat.min_eq_left (by omega), holds.length_ring]
    exact room

theorem ipcWriteHandler_fifo (env : Environment) (p : Process α) (all : List α)
    (fifo : Fifo all p) : ∃ p', ipcWriteHandler env p = some p' ∧ Fifo all p' := by
  fun_induction ipcWriteHandler env p with
  | case1 env p notReady => exact ⟨p, rfl, fifo⟩
  | case2 env p ready first w wb overflowing crashed =>
    obtain ⟨ring, overflow, holds, sum, -⟩ := fifo_writeLoop fifo env.writes (w := w) rfl
    obtain ⟨wb', squeezed, -⟩ := fifo_squeezeOverflow holds sum overflowing.1
    exact absurd (crashed.symm.trans squeezed) (by simp)
  | case3 env p ready first w wb overflowing wb' squeezed aborted =>
    obtain ⟨ring, overflow, holds, sum, -⟩ := fifo_writeLoop fifo env.writes (w := w) rfl
    obtain ⟨wb'', squeezed', fifo⟩ := fifo_squeezeOverflow holds sum overflowing.1
    obtain rfl : wb' = wb'' := some.inj (squeezed.symm.trans squeezed')
    exact ⟨_, rfl, fifo⟩
  | case4 env p ready first w wb overflowing wb' squeezed aborted ih =>
    obtain ⟨ring, overflow, holds, sum, -⟩ := fifo_writeLoop fifo env.writes (w := w) rfl
    obtain ⟨wb'', squeezed', fifo⟩ := fifo_squeezeOverflow holds sum overflowing.1
    obtain rfl : wb' = wb'' := some.inj (squeezed.symm.trans squeezed')
    exact ih fifo
  | case5 env p ready first w wb settled =>
    obtain ⟨ring, overflow, holds, sum, full⟩ := fifo_writeLoop fifo env.writes (w := w) rfl
    refine ⟨_, rfl, _, _, holds, sum, fun nonempty => full nonempty ?_⟩
    -- overflow is left, so the handler stopped because nothing was written
    have overflowing : 0 < wb.overflowN := by
      rw [Int32.lt_iff_toInt_lt, holds.count, Int32.toInt_zero]
      exact_mod_cast length_pos_iff.mpr nonempty
    have stuck : ¬ 0 < w.i - first := fun wrote => settled ⟨overflowing, wrote⟩
    exact Nat.eq_zero_of_not_pos stuck

/-! ## Alerts and runs -/

/-- What the surroundings promise for an `ipc_alert`: the allocator hands out an
    unused address, and the 32-bit overflow counter is not yet at its maximum when
    it has to count one more. -/
def Op.Counted (op : Op α) (p : Process α) : Prop :=
  match op with
  | .alert _ address _ =>
    p.wbuf.heap address = none ∧
      (p.wbuf.n.toNat = ipcWritebufSize → p.wbuf.overflowN.toInt < 2 ^ 31 - 1)
  | .writable _ => True

theorem ipcAlert_fifo (fifo : Fifo all p) (a : α) (env : Environment)
    (fresh : p.wbuf.heap address = none)
    (counts : p.wbuf.n.toNat = ipcWritebufSize → p.wbuf.overflowN.toInt < 2 ^ 31 - 1) :
    ∃ p', ipcAlert a address env p = some p' ∧ Fifo (all ++ [a]) p' := by
  obtain ⟨ring, overflow, holds, sum, full⟩ := fifo
  by_cases room : p.wbuf.n.toNat < ipcWritebufSize
  · simp only [ipcAlert, room, if_true]
    apply ipcWriteHandler_fifo
    -- the ring has room, so nothing waits in the overflow list
    have settled : overflow = [] := by
      by_contra nonempty
      have := full nonempty
      rw [holds.length_ring] at this
      omega
    subst settled
    exact ⟨_, _, holds_put holds room a, by simp [← sum], by simp⟩
  · have size : p.wbuf.n.toNat = ipcWritebufSize := Nat.le_antisymm holds.fits (Nat.not_lt.mp room)
    obtain ⟨wb', queued, holds'⟩ := holds_enqueueOverflow holds fresh (counts size) a
    simp only [ipcAlert, room, if_false, queued, bind_some]
    apply ipcWriteHandler_fifo
    refine ⟨_, _, holds', ?_, ?_⟩
    · rw [← sum]
      simp
    · intro _
      rw [holds.length_ring, size]

theorem Op.apply_fifo (done : List (Op α)) (op : Op α) (p : Process α) (fifo : Fifo (sent done) p)
    (counted : op.Counted p) : ∃ p', op.apply p = some p' ∧ Fifo (sent (done ++ [op])) p' := by
  cases op with
  | alert a address env =>
    have := ipcAlert_fifo fifo a env counted.1 counted.2
    simpa [sent, Op.apply] using this
  | writable env =>
    have := ipcWriteHandler_fifo env p _ fifo
    simpa [sent, Op.apply] using this

theorem init_fifo (zeroed : α) : Fifo [] (Process.init zeroed) :=
  ⟨[], [], ⟨rfl, Nat.zero_le _, overflowIs_nil _, rfl⟩, rfl, by simp⟩

/-! ## Queueing up

While the store is not ready every alert only queues up. -/

/-- The first `k` of these alerts while `memstore_ready()` is false. -/
def burst (alerts : Nat → α) : Nat → List (Op α)
  | 0 => []
  | k + 1 => burst alerts k ++ [.alert (alerts k) k ⟨[false], []⟩]

theorem ipcWriteHandler_not_ready (p : Process α) : ipcWriteHandler ⟨[false], []⟩ p = some p := by
  rw [ipcWriteHandler]
  simp

theorem ipcAlert_not_ready {p' : Process α} (holds : p.wbuf.Holds ring overflow) {a : α}
    (fresh : p.wbuf.heap address = none) (alerted : ipcAlert a address ⟨[false], []⟩ p = some p') :
    p'.pipe = p.pipe ∧ ∀ b, b ≠ address → p.wbuf.heap b = none → p'.wbuf.heap b = none := by
  by_cases room : p.wbuf.n.toNat < ipcWritebufSize
  · simp only [ipcAlert, room, if_true, ipcWriteHandler_not_ready, some.injEq] at alerted
    subst alerted
    exact ⟨rfl, fun _ _ unused => unused⟩
  · obtain ⟨heap, first, last, queued, -, frame⟩ :=
      enqueueOverflow_list holds.overflow_list fresh a
    simp only [ipcAlert, room, if_false, queued, bind_some, ipcWriteHandler_not_ready,
      some.injEq] at alerted
    subst alerted
    exact ⟨rfl, frame⟩

theorem burst_reaches (zeroed : α) (alerts : Nat → α) (k : Nat) (within : k ≤ 32 + (2 ^ 31 - 1)) :
    ∃ p, run Op.apply (burst alerts k) (Process.init zeroed) = some p ∧
      Along Op.apply Op.Counted (burst alerts k) (Process.init zeroed) ∧
      Fifo ((List.range k).map alerts) p ∧ p.pipe = [] ∧ ∀ b, k ≤ b → p.wbuf.heap b = none := by
  induction k with
  | zero => exact ⟨_, rfl, trivial, init_fifo zeroed, rfl, fun _ _ => rfl⟩
  | succ k ih =>
    obtain ⟨p, runs, counted, fifo, unsent, unused⟩ := ih (by omega)
    have counts : p.wbuf.n.toNat = ipcWritebufSize → p.wbuf.overflowN.toInt < 2 ^ 31 - 1 := by
      obtain ⟨ring, overflow, holds, sum, -⟩ := fifo
      intro full
      have total := congrArg List.length sum
      rw [unsent] at total
      simp only [nil_append, length_append, length_map, length_range, holds.length_ring,
        full, ipcWritebufSize] at total
      rw [holds.count]
      omega
    have fresh := unused k (Nat.le_refl k)
    obtain ⟨p', alerted, fifo'⟩ := ipcAlert_fifo fifo (alerts k) ⟨[false], []⟩ fresh counts
    obtain ⟨ring, overflow, holds, -, -⟩ := fifo
    obtain ⟨samePipe, frame⟩ := ipcAlert_not_ready holds fresh alerted
    refine ⟨p', ?_, ?_, ?_, samePipe.trans unsent, ?_⟩
    · exact run_concat runs alerted
    · exact along_append counted runs ⟨⟨fresh, counts⟩, fun _ _ => trivial⟩
    · rw [List.range_succ, map_append]
      exact fifo'
    · intro b above
      exact frame b (by omega) (unused b (by omega))

/-! ## Runs -/

/-- Every run of `ipc_alert` and `ipc_write_handler` calls, whatever the pipe and
    the store answer, keeps the queue: nothing is lost, duplicated or reordered and
    no assertion fires, as long as the overflow counter can count. -/
theorem ipc_queue_lossless_fifo (zeroed : α) (ops : List (Op α))
    (counted : Along Op.apply Op.Counted ops (Process.init zeroed)) :
    ∃ p overflow, run Op.apply ops (Process.init zeroed) = some p ∧
      OverflowIs p.wbuf.heap p.wbuf.overflowFirst p.wbuf.overflowLast overflow ∧
      p.pipe ++ Ring.contents p.wbuf.alerts p.wbuf.first.toNat p.wbuf.n.toNat ++ overflow
        = sent ops ∧
      p.wbuf.overflowN.toInt = overflow.length ∧
      (overflow ≠ [] → p.wbuf.n.toNat = ipcWritebufSize) := by
  obtain ⟨p, runs, ring, overflow, holds, sum, full⟩ :=
    run_succeeds Op.apply_fifo (show Fifo (sent []) _ from init_fifo zeroed) counted
  refine ⟨p, overflow, runs, holds.overflow_list, ?_, holds.count, ?_⟩
  · rw [holds.ring_eq]
    exact sum
  · intro nonempty
    rw [← holds.length_ring]
    exact full nonempty

/-- More alerts than the ring takes, of which three are written then. -/
theorem ipc_queue_lossless_fifo_overflow :
    let ops := burst id 40 ++ [.writable ⟨[true], [true, true, true]⟩]
    sent ops = List.range 40 ∧ ∃ p overflow, run Op.apply ops (Process.init 0) = some p ∧
      OverflowIs p.wbuf.heap p.wbuf.overflowFirst p.wbuf.overflowLast overflow ∧
      p.pipe ++ Ring.contents p.wbuf.alerts p.wbuf.first.toNat p.wbuf.n.toNat ++ overflow
        = sent ops ∧
      p.wbuf.overflowN.toInt = overflow.length ∧
      (overflow ≠ [] → p.wbuf.n.toNat = ipcWritebufSize) := by
  obtain ⟨p, runs, counted, -⟩ := burst_reaches 0 id 40 (by decide)
  exact ⟨by decide, ipc_queue_lossless_fifo 0 _
    (along_append counted runs ⟨trivial, fun _ _ => trivial⟩)⟩

/-! ## The counter wraps

After 32 alerts in the ring and `2 ^ 31 - 1` in the overflow list, the next one makes the signed
counter negative although the list has grown. -/

def Op.Allocated (op : Op α) (p : Process α) : Prop :=
  match op with
  | .alert _ address _ => p.wbuf.heap address = none
  | .writable _ => True

theorem Op.Counted.allocated (op : Op α) (p : Process α) (counted : op.Counted p) :
    op.Allocated p := by
  cases op with
  | alert => exact counted.1
  | writable => trivial

/-- With one alert more than the overflow counter can count, the counter is no
    longer the length of the overflow list. -/
theorem ipc_overflow_count_wraps :
    ∃ ops : List (Op Unit), Along Op.apply Op.Allocated ops (Process.init ()) ∧
      ∃ p overflow, run Op.apply ops (Process.init ()) = some p ∧
        OverflowIs p.wbuf.heap p.wbuf.overflowFirst p.wbuf.overflowLast overflow ∧
        p.wbuf.overflowN.toInt ≠ overflow.length := by
  obtain ⟨k, most⟩ : ∃ k, k = 32 + (2 ^ 31 - 1) := ⟨_, rfl⟩
  obtain ⟨p, runs, counted, ⟨ring, overflow, holds, sum, full⟩, unsent, unused⟩ :=
    burst_reaches () (fun _ => ()) k most.le
  have allocated := counted.mono Op.Counted.allocated
  have total := congrArg List.length sum
  have size : p.wbuf.n.toNat ≤ 32 := holds.fits
  rw [unsent, nil_append, length_append, holds.length_ring, length_map, length_range] at total
  have nonempty : overflow ≠ [] := by
    rintro rfl
    simp only [length_nil] at total
    omega
  have ringFull : p.wbuf.n.toNat = 32 := holds.length_ring ▸ full nonempty
  have room : ¬ p.wbuf.n.toNat < ipcWritebufSize := by
    rw [ringFull]
    decide
  -- one alert more takes the full count past the largest `int`
  have fresh := unused k (Nat.le_refl k)
  obtain ⟨heap, first, last, queued, list, -⟩ := enqueueOverflow_list holds.overflow_list fresh ()
  have alerted := ipcAlert.eq_1 () k ⟨[false], []⟩ p
  simp only [room, if_false, queued, bind_some, ipcWriteHandler_not_ready] at alerted
  have oneMore : Along Op.apply Op.Allocated [.alert () k ⟨[false], []⟩] p :=
    ⟨fresh, fun _ _ => trivial⟩
  refine ⟨_, along_append allocated runs oneMore, _, overflow ++ [()], run_concat runs alerted,
    list, ?_⟩
  have count : p.wbuf.overflowN = Int32.maxValue := by
    rw [← Int32.toInt_inj, holds.count, show Int32.maxValue.toInt = 2147483647 from rfl]
    omega
  have wraps : (Int32.maxValue + 1).toInt < 0 := by decide
  simp only [count]
  omega

end Nchan.Ipc
