import Mathlib.Data.List.Nodup
import Nchan.Lib.Run

/-! # The slots of workers across reloads

All workers share a table of process slots.  A reload looks for a free stretch of it for the new
workers and writes their slots there; each of them remembers where its stretch begins.  Old workers
leave later, and the last of them clears its stretch.
-/

namespace Nchan.Memstore.WorkerSlots

open Nchan.Lib List Option Run

/-- `NGX_MAX_PROCESSES`. -/
abbrev maxProcesses : Nat := 1024

/-- A worker process: its `ngx_process_slot`, its `memstore_procslot_offset` and the reload that it
    was started by. -/
structure Worker where
  slot : Nat
  offset : Nat
  generation : Nat
  deriving DecidableEq

/-- The part of `shm_data_t` that is about workers, and the workers that live.  A count of -1 is not
    set, and neither is an entry that is `none`. -/
structure Shdata where
  procslot : Nat → Option Nat
  maxWorkers : Int
  oldMaxWorkers : Int
  totalActiveWorkers : Int
  reloading : Int
  generation : Nat
  live : List Worker

def Shdata.start : Shdata := ⟨fun _ => none, -1, -1, 0, 0, 0, []⟩

/-! ## Starting -/

/-- The loop that looks for `workers` entries in a row that are not set, with `count` of them right
    before `i`. -/
def findStretch (procslot : Nat → Option Nat) (workers : Nat) : Nat → Nat → Nat → Option Nat
  | 0, _, _ => none
  | fuel + 1, i, count =>
    let count := if procslot i = none then count + 1 else 0
    if count = workers then some (i + 1 - workers) else findStretch procslot workers fuel (i + 1) count

/-- The `memstore_procslot_offset` that `nchan_store_init_module` finds. -/
def findOffset (procslot : Nat → Option Nat) (workers : Nat) : Option Nat :=
  findStretch procslot workers maxProcesses 0 0

/-- `init_shdata_procslots` for one worker after the other. -/
def initShdataProcslots (offset : Nat) : List Nat → (Nat → Option Nat) → Option (Nat → Option Nat)
  | [], procslot => some procslot
  | slot :: slots, procslot =>
    -- assert(shdata->procslot[offset] == NCHAN_INVALID_SLOT)
    if procslot offset ≠ none then none
    else initShdataProcslots (offset + 1) slots (Function.update procslot offset (some slot))

/-- Workers with `slots` have come. -/
def Shdata.join (offset : Nat) (slots : List Nat) (d : Shdata) : Shdata :=
  { d with
    totalActiveWorkers := d.totalActiveWorkers + slots.length
    live := d.live ++ slots.map (⟨·, offset, d.generation⟩) }

/-- `nchan_store_init_worker`, which has to find the slot of the worker. -/
def initWorker (offset : Nat) (d : Shdata) (slot : Nat) : Option Shdata :=
  if ∃ i ∈ List.range maxProcesses, offset ≤ i ∧ i < maxProcesses - offset ∧ d.procslot i = some slot
  then some (d.join offset [slot])
  else none

/-- The counts at a reload, and the table with the new slots. -/
def Shdata.renew (workers : Nat) (procslot : Nat → Option Nat) (d : Shdata) : Shdata :=
  { d with
    procslot := procslot
    reloading := if d.totalActiveWorkers > 0 then d.reloading + d.maxWorkers else d.reloading
    oldMaxWorkers := if d.maxWorkers = -1 then (workers : Int) else d.maxWorkers
    maxWorkers := workers
    generation := d.generation + 1 }

/-- `nchan_store_init_module` for workers that are going to get `slots`, with their offset. -/
def initModule (slots : List Nat) (d : Shdata) : Option (Nat × Shdata) := do
  let offset ← findOffset d.procslot slots.length
  let procslot ← initShdataProcslots offset slots d.procslot
  return (offset, d.renew slots.length procslot)

def reload (slots : List Nat) (d : Shdata) : Option Shdata := do
  let (offset, d) ← initModule slots d
  slots.foldlM (initWorker offset) d

/-! ## Leaving -/

/-- The entries from `offset` on, `n` of them, are cleared. -/
def clear (offset n : Nat) (procslot : Nat → Option Nat) : Nat → Option Nat :=
  fun i => if offset ≤ i ∧ i < offset + n then none else procslot i

/-- The number of entries that an exiting worker takes for those of its generation. -/
def Shdata.ownCount (d : Shdata) : Int :=
  if d.oldMaxWorkers = -1 then d.maxWorkers else d.oldMaxWorkers

def Shdata.leave (w : Worker) (d : Shdata) : Shdata :=
  { d with
    oldMaxWorkers := d.ownCount
    reloading := d.reloading - 1
    procslot :=
      if d.reloading - 1 = 0 then clear w.offset d.ownCount.toNat d.procslot else d.procslot
    totalActiveWorkers := d.totalActiveWorkers - 1
    live := d.live.erase w }

/-- `nchan_store_exit_worker`. -/
def exitWorker (w : Worker) (d : Shdata) : Option Shdata :=
  -- my procslot not found! I don't know what to do!
  if ∀ n < d.ownCount.toNat, d.procslot (w.offset + n) ≠ some w.slot then none
  else some (d.leave w)

inductive Op where
  | reload (slots : List Nat)
  | exit (w : Worker)

def Op.apply : Op → Shdata → Option Shdata
  | .reload slots, d => WorkerSlots.reload slots d
  | .exit w, d => exitWorker w d

/-! ## The table -/

def stretch (offset : Nat) (slots : List Nat) (i : Nat) : Option Nat :=
  if offset ≤ i then slots[i - offset]? else none

/-- How many workers were started with this one. -/
def Shdata.generationSize (d : Shdata) (w : Worker) : Int :=
  if w.generation = d.generation then d.maxWorkers else d.oldMaxWorkers

/-- Every living worker has its entry in the stretch of its generation, and once all old workers are
    gone there are just the entries of the current ones, in a row. -/
structure Sound (d : Shdata) : Prop where
  own : ∀ w ∈ d.live, ∃ n < (d.generationSize w).toNat, d.procslot (w.offset + n) = some w.slot
  clean : (∀ w ∈ d.live, w.generation = d.generation) →
    ∃ offset, d.procslot = stretch offset ((d.live.map (·.slot)))

/-- What the table is in orderly runs: the current workers are `xs`, and if any old workers `zs` are
    left, the generation `ys` that they belong to has its stretch as well. -/
structure Table (c : Nat) (xs : List Nat) (o : Nat) (ys zs : List Nat) (g : Nat) (d : Shdata) :
    Prop where
  procslot : ∀ i, d.procslot i = (stretch c xs i).or (if zs = [] then none else stretch o ys i)
  apart : zs ≠ [] → c + xs.length ≤ o ∨ o + ys.length ≤ c
  left : ∀ z ∈ zs, z ∈ ys
  size : xs ≠ [] → d.maxWorkers = xs.length
  old : zs ≠ [] → d.oldMaxWorkers = ys.length
  reloading : d.reloading = zs.length
  total : d.totalActiveWorkers = xs.length + zs.length
  older : g ≠ d.generation
  live : d.live = zs.map (⟨·, o, g⟩) ++ xs.map (⟨·, c, d.generation⟩)

/-- Slots are given to one worker at a time; a reload waits until the old workers are gone, and
    finds a stretch in the lower half of the table; and only old workers leave. -/
def Orderly : Op → Shdata → Prop
  | .reload slots, d =>
    slots ≠ [] ∧ (∀ w ∈ d.live, w.generation = d.generation) ∧
      ∃ offset ∈ findOffset d.procslot slots.length, 2 * offset + slots.length ≤ maxProcesses
  | .exit w, d => w ∈ d.live ∧ w.generation ≠ d.generation

instance (op : Op) (d : Shdata) : Decidable (Orderly op d) := by
  cases op <;> exact inferInstanceAs (Decidable (_ ∧ _))

theorem stretch_add {c n : Nat} {xs : List Nat} : stretch c xs (c + n) = xs[n]? := by
  simp [stretch]

theorem stretch_eq_none {c i : Nat} {xs : List Nat} (outside : i < c ∨ c + xs.length ≤ i) :
    stretch c xs i = none := by
  unfold stretch
  split
  · exact List.getElem?_eq_none (by omega)
  · rfl

theorem stretch_ne_none {c i : Nat} {xs : List Nat} (low : c ≤ i) (high : i < c + xs.length) :
    stretch c xs i ≠ none := by
  simp only [stretch, low, if_true, ne_eq, List.getElem?_eq_none_iff]
  omega

variable {procslot : Nat → Option Nat} {d : Shdata} {c o g offset workers : Nat}
  {xs ys zs slots : List Nat}

theorem findStretch_spec {fuel i count : Nat}
    (free : ∀ j, i ≤ j + count → j < i → procslot j = none) (few : count ≤ i)
    (found : findStretch procslot workers fuel i count = some offset) :
    offset + workers ≤ i + fuel ∧ ∀ n < workers, procslot (offset + n) = none := by
  induction fuel generalizing i count with
  | zero => cases found
  | succ fuel ih =>
    have next : ∀ j, i + 1 ≤ j + (if procslot i = none then count + 1 else 0) → j < i + 1 →
        procslot j = none := by
      intro j low high
      split at low
      · rcases Nat.lt_succ_iff_lt_or_eq.mp high with before | rfl
        · exact free j (by omega) before
        · assumption
      · omega
    have few' : (if procslot i = none then count + 1 else 0) ≤ i + 1 := by split <;> omega
    rw [findStretch] at found
    generalize (if procslot i = none then count + 1 else 0) = count' at found next few'
    split at found
    · cases found
      refine ⟨by omega, fun n within => next _ ?_ ?_⟩ <;> omega
    · obtain ⟨inside, clear⟩ := ih next few' found
      exact ⟨by omega, clear⟩

theorem findOffset_spec (found : findOffset procslot workers = some offset) :
    offset + workers ≤ maxProcesses ∧ ∀ n < workers, procslot (offset + n) = none := by
  have := findStretch_spec (by omega) (Nat.le_refl 0) found
  omega

theorem initShdataProcslots_spec (free : ∀ n < slots.length, procslot (offset + n) = none) :
    initShdataProcslots offset slots procslot =
      some fun i => (stretch offset slots i).or (procslot i) := by
  induction slots generalizing offset procslot with
  | nil => simp [initShdataProcslots, stretch]
  | cons slot slots ih =>
    have here : procslot offset = none := free 0 (by simp)
    rw [initShdataProcslots, if_neg (by simp [here]), ih fun n within => ?_]
    · congr 1
      funext i
      rcases Nat.lt_trichotomy i offset with low | rfl | high
      · simp [stretch_eq_none (.inl low), stretch_eq_none (.inl (Nat.lt_succ_of_lt low)),
          Function.update_of_ne (Nat.ne_of_lt low)]
      · rw [stretch_eq_none (.inl (Nat.lt_succ_self i))]
        simp [stretch]
      · obtain ⟨n, rfl⟩ := Nat.exists_eq_add_of_lt high
        rw [show offset + n + 1 = (offset + 1) + n by omega, stretch_add,
          show offset + 1 + n = offset + (n + 1) by omega, stretch_add, List.getElem?_cons_succ,
          Function.update_of_ne (by omega)]
    · rw [Function.update_of_ne (by omega), show offset + 1 + n = offset + (n + 1) by omega]
      exact free (n + 1) (by simpa using within)

theorem initWorkers_spec (d : Shdata) (found : ∀ slot ∈ slots, ∃ i, offset ≤ i ∧
      i < maxProcesses - offset ∧ d.procslot i = some slot) :
    slots.foldlM (initWorker offset) d = some (d.join offset slots) := by
  induction slots generalizing d with
  | nil => simp [Shdata.join]
  | cons slot slots ih =>
    obtain ⟨i, low, high, is⟩ := found slot mem_cons_self
    rw [foldlM_cons, initWorker,
      if_pos ⟨i, mem_range.mpr (by omega), low, high, is⟩]
    refine (ih (d.join offset [slot]) fun other on => ?_).trans ?_
    · exact found other (mem_cons_of_mem _ on)
    · simp only [Shdata.join, length_cons, map_cons]
      simp
      omega

/-! ## Steps -/

section

variable (table : Table c xs o ys zs g d)

include table

theorem Table.current
    (current : ∀ w ∈ d.live, w.generation = d.generation) : zs = [] := by
  rw [table.live] at current
  refine eq_nil_iff_forall_not_mem.mpr fun z on => table.older ?_
  exact current ⟨z, o, g⟩ (by simp [on])

theorem Table.reload (orderly : Orderly (.reload slots) d) :
    ∃ d' c', (Op.reload slots).apply d = some d' ∧ Table c' slots c xs xs d.generation d' := by
  obtain ⟨nonempty, current, offset, found, lower⟩ := orderly
  obtain rfl := table.current current
  obtain ⟨inside, free⟩ := findOffset_spec found
  have before (i : Nat) : d.procslot i = stretch c xs i := by simp [table.procslot i]
  let renewed := d.renew slots.length fun i => (stretch offset slots i).or (d.procslot i)
  have begun : initModule slots d = some (offset, renewed) := by
    simp [initModule, mem_def.mp found, initShdataProcslots_spec free, renewed]
  refine ⟨renewed.join offset slots, offset, ?_, ?_⟩
  · rw [Op.apply, WorkerSlots.reload, begun]
    refine initWorkers_spec renewed fun slot on => ?_
    obtain ⟨n, within, is⟩ := mem_iff_getElem.mp on
    refine ⟨offset + n, by omega, by omega, ?_⟩
    simp [renewed, Shdata.renew, stretch_add, within, is]
  have total := table.total
  have reloading := table.reloading
  refine ⟨fun i => ?_, fun some => ?_, fun _ => id, fun _ => rfl, fun some => ?_, ?_, ?_, ?_, ?_⟩
  · change (stretch offset slots i).or (d.procslot i) = _
    rw [before i]
    split
    · simp_all [stretch]
    · rfl
  · -- one place in both stretches would not have been free
    by_contra overlaps
    have here := before (max c offset)
    have := length_pos_iff.mpr some
    have := length_pos_iff.mpr nonempty
    obtain ⟨n, is⟩ : ∃ n, max c offset = offset + n := ⟨max c offset - offset, by omega⟩
    rw [is, free n (by omega)] at here
    exact stretch_ne_none (by omega) (by omega) here.symm
  · have size := table.size some
    simp only [renewed, Shdata.join, Shdata.renew]
    rw [if_neg (by omega), size]
  · simp only [renewed, Shdata.join, Shdata.renew]
    cases xs with
    | nil => simp_all
    | cons x xs =>
      have size := table.size (cons_ne_nil x xs)
      rw [if_pos (by simp at total; omega), reloading, size]
      simp
  · simp [renewed, Shdata.join, Shdata.renew, total, Int.add_comm]
  · exact Nat.ne_of_lt (Nat.lt_succ_self _)
  · simp [renewed, Shdata.join, Shdata.renew, table.live]

theorem Table.exit {w : Worker} (orderly : Orderly (.exit w) d) :
    ∃ d', (Op.exit w).apply d = some d' ∧ Table c xs o ys (zs.erase w.slot) g d' := by
  obtain ⟨alive, old⟩ := orderly
  obtain ⟨z, on, rfl⟩ : ∃ z ∈ zs, ⟨z, o, g⟩ = w := by
    rw [table.live] at alive
    rcases mem_append.mp alive with alive | alive
    · simpa using alive
    · obtain ⟨x, -, rfl⟩ := mem_map.mp alive
      exact absurd rfl old
  have some : zs ≠ [] := ne_nil_of_mem on
  have apart := table.apart some
  have length := length_erase_of_mem on
  have positive := length_pos_of_mem on
  have entry {n : Nat} (within : n < ys.length) : d.procslot (o + n) = ys[n]? := by
    rw [table.procslot, stretch_eq_none (by omega), if_neg some, stretch_add]
    rfl
  -- the search ends at the own entry, before the assert
  have finds : ¬ ∀ n < ys.length, d.procslot (o + n) ≠ Option.some z := fun missing => by
    obtain ⟨n, within, is⟩ := mem_iff_getElem.mp (table.left z on)
    exact missing n within (by rw [entry within, List.getElem?_eq_getElem within, is])
  have count : d.ownCount = ys.length := by
    rw [Shdata.ownCount, if_neg (by rw [table.old some]; omega), table.old some]
  refine ⟨d.leave ⟨z, o, g⟩, ?_, ?_⟩
  · rw [Op.apply, exitWorker, count, Int.toNat_natCast, if_neg finds]
  have reloading := table.reloading
  have gone : zs.erase z = [] ↔ d.reloading - 1 = 0 := by
    rw [← length_eq_zero_iff, length]
    omega
  refine ⟨fun i => ?_, fun _ => apart, fun z' on' => table.left z' (mem_of_mem_erase on'),
    table.size, fun _ => count, ?_, ?_, table.older, ?_⟩
  · simp only [Shdata.leave, count, Int.toNat_natCast]
    -- the last of the old workers clears their stretch
    by_cases last : d.reloading - 1 = 0
    · rw [if_pos last, if_pos (gone.mpr last), or_none, clear]
      split
      · exact (stretch_eq_none (by omega)).symm
      · rw [table.procslot, if_neg some, stretch_eq_none (c := o) (by omega), or_none]
    · rw [if_neg last, if_neg (mt gone.mp last), table.procslot, if_neg some]
  · simp only [Shdata.leave]
    omega
  · have total := table.total
    simp only [Shdata.leave]
    omega
  · have injective : Function.Injective fun z => (⟨z, o, g⟩ : Worker) := fun _ _ same => by
      cases same; rfl
    simp only [Shdata.leave]
    rw [table.live, erase_append_left _ (mem_map_of_mem on), map_erase injective]

theorem Table.sound : Sound d where
  own w on := by
    rw [table.live] at on
    rcases mem_append.mp on with on | on
    · obtain ⟨z, left, rfl⟩ := mem_map.mp on
      have some := ne_nil_of_mem left
      obtain ⟨n, within, is⟩ := mem_iff_getElem.mp (table.left z left)
      have := table.apart some
      refine ⟨n, ?_, ?_⟩
      · rw [Shdata.generationSize, if_neg table.older, table.old some]
        exact within
      · rw [table.procslot, stretch_eq_none (by simp only; omega), if_neg some, stretch_add]
        simp [within, is]
    · obtain ⟨x, present, rfl⟩ := mem_map.mp on
      obtain ⟨n, within, is⟩ := mem_iff_getElem.mp present
      refine ⟨n, ?_, ?_⟩
      · rw [Shdata.generationSize, if_pos rfl, table.size (ne_nil_of_mem present)]
        exact within
      · rw [table.procslot, stretch_add]
        simp [within, is]
  clean current := by
    obtain rfl := table.current current
    refine ⟨c, funext fun i => ?_⟩
    simp [table.procslot i, table.live, Function.comp_def]

end

/-- In every orderly run no assert fails, and the table is sound. -/
theorem worker_slots_sound {ops : List Op} (orderly : Run.Along Op.apply Orderly ops .start) :
    ∃ d, run Op.apply ops .start = some d ∧ Sound d := by
  have initial : ∃ c xs o ys zs g, Table c xs o ys zs g .start :=
    ⟨0, [], 0, [], [], 1, by simp [Shdata.start, stretch], by simp, by simp, by simp, by simp, rfl,
      rfl, by simp [Shdata.start], rfl⟩
  have keeps : ∀ op d, (∃ c xs o ys zs g, Table c xs o ys zs g d) → Orderly op d →
      ∃ d', op.apply d = some d' ∧ ∃ c xs o ys zs g, Table c xs o ys zs g d' := by
    rintro op d ⟨c, xs, o, ys, zs, g, table⟩ orderly
    cases op with
    | reload slots =>
      obtain ⟨d', c', stepped, table⟩ := table.reload orderly
      exact ⟨d', stepped, _, _, _, _, _, _, table⟩
    | exit w =>
      obtain ⟨d', stepped, table⟩ := table.exit orderly
      exact ⟨d', stepped, _, _, _, _, _, _, table⟩
  obtain ⟨d, reaches, c, xs, o, ys, zs, g, table⟩ := run_keeps keeps initial orderly
  exact ⟨d, reaches, table.sound⟩

/-- Two workers are replaced by one, and then leave. -/
theorem worker_slots_sound_reloaded : ∃ d,
    run Op.apply [.reload [0, 1], .reload [2], .exit ⟨1, 0, 1⟩, .exit ⟨0, 0, 1⟩] .start =
      some d ∧ Sound d :=
  worker_slots_sound (by decide +kernel)

/-- Four workers are replaced by one, and that by another, before they leave: one of the four does
    not find its entry. -/
theorem worker_slot_lost :
    (∃ d ∈ run Op.apply [.reload [0, 1, 2, 3], .reload [4], .reload [5]] .start,
      ⟨3, 0, 1⟩ ∈ d.live) ∧
    (run Op.apply [.reload [0, 1, 2, 3], .reload [4], .reload [5], .exit ⟨3, 0, 1⟩]
      .start).isNone := by
  decide +kernel

end Nchan.Memstore.WorkerSlots
