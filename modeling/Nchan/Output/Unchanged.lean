import Nchan.Output.Pending

/-! # What a client receives

`Kept` says that nobody else writes to the buffers that wait on a connection, nor to what they
refer to.  Every step keeps it, as long as static variables are not written while they are
referred to and nothing waits that is on the stack.  It follows that the bytes a client receives
are the bytes of the responses, however slowly it takes them.
-/

namespace Nchan.Output.Pending

open Nchan.Lib List Function Outbox Option Run
open Nchan.Output.Pending.Worker Nchan.Output.Pending.Connection

variable {ι M : Type}

/-- A buffer that no other connection has, and that is not given to another part.  `onStack`
    says whether the stack is still as it was. -/
def Connection.Owns (onStack : Prop) (i : ι) (conn : Connection ι) : BufAddr ι → Prop
  | .link j address => j = i ∧ address ∈ conn.bcp.used
  | .request j number => j = i ∧ number < conn.requestBufs
  | .stack => onStack

/-- Memory that nobody writes to while the connection refers to it; `safe` are the messages that
    are reserved. -/
def Connection.Holds (safe : List (ι × M)) (onStack : Prop) (i : ι) (conn : Connection ι) :
    Region ι M → Prop
  | .fixed _ => True
  | .entry j address => j = i ∧ address ∈ conn.outputStrQueue.used
  | .message m _ => (i, m) ∈ safe
  | .scratch memory => memory = .stack → onStack

/-- A connection takes more from its pools. -/
structure Connection.Grows (conn conn' : Connection ι) : Prop where
  links : conn.bcp.Sound → conn'.bcp.Sound
  entries : conn.outputStrQueue.Sound → conn'.outputStrQueue.Sound
  usedLinks : ∀ address ∈ conn.bcp.used, address ∈ conn'.bcp.used
  usedEntries : ∀ address ∈ conn.outputStrQueue.used, address ∈ conn'.outputStrQueue.used
  requestBufs : conn.requestBufs ≤ conn'.requestBufs

variable {b : BufAddr ι} {region : Region ι M}

namespace Connection

variable {conn conn' : Connection ι} {i : ι} {onStack : Prop} {safe : List (ι × M)}

theorem Grows.refl (conn : Connection ι) : conn.Grows conn :=
  ⟨id, id, fun _ used => used, fun _ used => used, Nat.le_refl _⟩

theorem Grows.of_same (bcp : conn'.bcp = conn.bcp)
    (queue : conn'.outputStrQueue = conn.outputStrQueue)
    (requestBufs : conn'.requestBufs = conn.requestBufs) : conn.Grows conn' :=
  ⟨bcp ▸ id, queue ▸ id, bcp ▸ fun _ used => used, queue ▸ fun _ used => used,
    Nat.le_of_eq requestBufs.symm⟩

theorem Grows.owns (grows : conn.Grows conn') (owns : conn.Owns onStack i b) :
    conn'.Owns onStack i b := by
  cases b with
  | link j address => exact ⟨owns.1, grows.usedLinks address owns.2⟩
  | request j number => exact ⟨owns.1, Nat.lt_of_lt_of_le owns.2 grows.requestBufs⟩
  | stack => exact owns

theorem Grows.holds (grows : conn.Grows conn') (holds : conn.Holds safe onStack i region) :
    conn'.Holds safe onStack i region := by
  cases region with
  | entry j address => exact ⟨holds.1, grows.usedEntries address holds.2⟩
  | _ => exact holds

theorem Owns.mono {onStack' : Prop} (weaker : onStack → onStack') (owns : conn.Owns onStack i b) :
    conn.Owns onStack' i b := by
  cases b with
  | stack => exact weaker owns
  | _ => exact owns

theorem Holds.mono {safe' : List (ι × M)} {onStack' : Prop}
    (more : ∀ m, (i, m) ∈ safe → (i, m) ∈ safe') (weaker : onStack → onStack')
    (holds : conn.Holds safe onStack i region) : conn.Holds safe' onStack' i region := by
  cases region with
  | message m field => exact more m holds
  | scratch memory => exact fun isStack => weaker (holds isStack)
  | _ => exact holds

end Connection

/-- The memory that a region shares with other responses. -/
def Region.uses : Region ι M → List Scratch
  | .scratch memory => [memory]
  | _ => []

namespace Worker

structure Kept (safe : List (ι × M)) (onStack : Prop) (i : ι) (w : Worker ι M) : Prop where
  links : (w.connections i).bcp.Sound
  entries : (w.connections i).outputStrQueue.Sound
  distinct : (w.connections i).out.Nodup
  owns : ∀ b ∈ (w.connections i).out, (w.connections i).Owns onStack i b
  holds : ∀ b ∈ (w.connections i).out, (w.connections i).Holds safe onStack i (w.bufs b).region
  within : ∀ b ∈ (w.connections i).out, (w.bufs b).Within w.mem

def Inv (safe : List (ι × M)) (onStack : ι → Prop) (w : Worker ι M) : Prop :=
  ∀ i, w.Kept safe (onStack i) i

variable {safe safe' : List (ι × M)} {onStack onStack' : ι → Prop} {w w' : Worker ι M} {i j : ι}

/-- Nothing that waits on the connection is written to. -/
structure Spares (j : ι) (w w' : Worker ι M) : Prop where
  out : (w'.connections j).out = (w.connections j).out
  bufs : ∀ b ∈ (w.connections j).out, w'.bufs b = w.bufs b
  mem : ∀ b ∈ (w.connections j).out, w'.mem (w.bufs b).region = w.mem (w.bufs b).region

theorem Spares.pending (spares : Spares j w w') : w'.pending j = w.pending j := by
  rw [Worker.pending, spares.out]
  exact reading_congr spares.bufs spares.mem

variable {p : Prop}

theorem Kept.of_spares (kept : w.Kept safe p j) (spares : Spares j w w')
    (grows : (w.connections j).Grows (w'.connections j)) : w'.Kept safe p j := by
  refine ⟨grows.links kept.links, grows.entries kept.entries, spares.out ▸ kept.distinct,
    ?_, ?_, ?_⟩
  all_goals
    intro b listed
    rw [spares.out] at listed
  · exact grows.owns (kept.owns b listed)
  · rw [spares.bufs b listed]
    exact grows.holds (kept.holds b listed)
  · rw [spares.bufs b listed]
    exact (kept.within b listed).congr (spares.mem b listed)

theorem Kept.mono {p' : Prop} (kept : w.Kept safe p i) (more : ∀ m, (i, m) ∈ safe → (i, m) ∈ safe')
    (weaker : p → p') : w.Kept safe' p' i :=
  ⟨kept.links, kept.entries, kept.distinct, fun b listed => (kept.owns b listed).mono weaker,
    fun b listed => (kept.holds b listed).mono more weaker, kept.within⟩

/-- The invariant between steps: every connection is kept, nothing that waits is on the stack, and
    what has been written and what waits are together what was produced. -/
structure Settled (w : Worker ι M) : Prop where
  inv : w.Inv w.reserved fun _ => False
  total : ∀ i, (w.connections i).written ++ w.pending i = (w.connections i).produced

theorem initial_settled (messages : M → Message) : (initial messages : Worker ι M).Settled :=
  ⟨fun _ => ⟨Recycle.empty_sound, Recycle.empty_sound, nodup_nil, forall_mem_nil _,
    forall_mem_nil _, forall_mem_nil _⟩, fun _ => rfl⟩

theorem Settled.of_spares (settled : w.Settled) (spares : ∀ j, Spares j w w')
    (reserved : w'.reserved = w.reserved)
    (grows : ∀ j, (w.connections j).Grows (w'.connections j))
    (written : ∀ j, (w'.connections j).written = (w.connections j).written)
    (produced : ∀ j, (w'.connections j).produced = (w.connections j).produced) : w'.Settled where
  inv j := reserved ▸ (settled.inv j).of_spares (spares j) (grows j)
  total j := by rw [written, produced, (spares j).pending, settled.total]

theorem Settled.drained (settled : w.Settled) (empty : (w.connections i).out = []) :
    (w.connections i).written = (w.connections i).produced := by
  rw [← settled.total i, pending, empty]
  exact (append_nil _).symm

/-! ## Making a response -/

/-- Bytes are added to what waits on a connection, and only the memory in `uses` is referred to
    that was not before. -/
structure Adds (i : ι) (text : Bytes) (uses : List Scratch) (w w' : Worker ι M) : Prop where
  pending : w'.pending i = w.pending i ++ text
  others : ∀ j, j ≠ i → w'.pending j = w.pending j
  unreferred : ∀ memory ∉ uses, w.Unreferred memory → w'.Unreferred memory
  messages : w'.messages = w.messages
  reserved : w'.reserved = w.reserved
  written : ∀ j, (w'.connections j).written = (w.connections j).written
  produced : ∀ j, (w'.connections j).produced = (w.connections j).produced

theorem Adds.refl (i : ι) (w : Worker ι M) : Adds i [] [] w w :=
  ⟨(append_nil _).symm, fun _ _ => rfl, fun _ _ free => free, rfl, rfl, fun _ => rfl,
    fun _ => rfl⟩

variable {text : Bytes}

theorem Adds.trans {w'' : Worker ι M} {text' : Bytes} {uses uses' : List Scratch}
    (first : Adds i text uses w w') (second : Adds i text' uses' w' w'') :
    Adds i (text ++ text') (uses ++ uses') w w'' where
  pending := by rw [second.pending, first.pending, append_assoc]
  others j ne := (second.others j ne).trans (first.others j ne)
  unreferred memory unused free := by
    rw [mem_append, not_or] at unused
    exact second.unreferred memory unused.2 (first.unreferred memory unused.1 free)
  messages := second.messages.trans first.messages
  reserved := second.reserved.trans first.reserved
  written j := (second.written j).trans (first.written j)
  produced j := (second.produced j).trans (first.produced j)

theorem Adds.of_spares (spares : ∀ j, Spares j w w') (messages : w'.messages = w.messages)
    (reserved : w'.reserved = w.reserved)
    (written : ∀ j, (w'.connections j).written = (w.connections j).written)
    (produced : ∀ j, (w'.connections j).produced = (w.connections j).produced) :
    Adds i [] [] w w' where
  pending := (spares i).pending.trans (append_nil _).symm
  others j _ := (spares j).pending
  unreferred memory _ free j b listed := by
    rw [(spares j).out] at listed
    rw [(spares j).bufs b listed]
    exact free j b listed
  messages := messages
  reserved := reserved
  written := written
  produced := produced

theorem Inv.writeScratch {memory : Scratch} (inv : w.Inv safe onStack)
    (free : w.Unreferred memory) (text : Bytes) :
    (w.writeScratch memory text).Inv safe onStack ∧
      Adds i [] [] w (w.writeScratch memory text) := by
  have spares (j : ι) : Spares j w (w.writeScratch memory text) := by
    refine ⟨rfl, fun _ _ => rfl, fun b listed => ?_⟩
    cases is : (w.bufs b).region with
    | scratch other =>
      have ne : other ≠ memory := fun same => free j b listed (is.trans (congrArg _ same))
      exact update_of_ne ne ..
    | _ => rfl
  exact ⟨fun j => (inv j).of_spares (spares j) (.refl _),
    .of_spares spares rfl rfl (fun _ => rfl) fun _ => rfl⟩

theorem Inv.apart (inv : w.Inv safe onStack) (alone : ∀ j, onStack j → j = i) (other : j ≠ i)
    (listed : b ∈ (w.connections j).out) : b ∉ (w.connections i).out := by
  intro here
  have ofOther := (inv j).owns b listed
  cases b with
  | stack => exact other (alone j ofOther)
  | _ => exact other (ofOther.1.symm.trans ((inv i).owns _ here).1)

def Room (onStack : Prop) (chain : Chain M) (w : Worker ι M) : Prop :=
  ∀ part, chain = .stack part → onStack ∧ ∀ j, .stack ∉ (w.connections j).out

/-- A buffer is taken that is nowhere in use. -/
structure Takes (onStack : Prop) (i : ι) (w : Worker ι M) (b : BufAddr ι)
    (conn : Connection ι) : Prop where
  fresh : ∀ j, b ∉ (w.connections j).out
  owns : conn.Owns onStack i b
  grows : (w.connections i).Grows conn
  out : conn.out = (w.connections i).out
  queue : conn.outputStrQueue = (w.connections i).outputStrQueue
  written : conn.written = (w.connections i).written
  produced : conn.produced = (w.connections i).produced

variable {chain : Chain M}

theorem Inv.takes (inv : w.Inv safe onStack) (room : w.Room (onStack i) chain) :
    w.Takes (onStack i) i (newBuf i chain (w.connections i)).1
      (newBuf i chain (w.connections i)).2 := by
  cases chain with
  | pooled parts message =>
    refine ⟨fun j listed => ?_, ⟨rfl, Recycle.mem_used_reserve.mpr (.inl rfl)⟩,
      ⟨Recycle.Sound.reserve, id, fun _ used => Recycle.mem_used_reserve.mpr (.inr used),
        fun _ used => used, Nat.le_refl _⟩, rfl, rfl, rfl, rfl⟩
    obtain ⟨rfl, used⟩ := (inv j).owns _ listed
    exact (inv i).links.reserve_fresh used
  | request part =>
    refine ⟨fun j listed => ?_, ⟨rfl, Nat.lt_succ_self _⟩,
      ⟨id, id, fun _ used => used, fun _ used => used, Nat.le_succ _⟩, rfl, rfl, rfl, rfl⟩
    obtain ⟨rfl, used⟩ := (inv j).owns _ listed
    exact Nat.lt_irrefl _ used
  | stack part =>
    obtain ⟨intact, free⟩ := room part rfl
    exact ⟨free, intact, .refl _, rfl, rfl, rfl, rfl⟩

variable [DecidableEq ι]

variable {conn : Connection ι}

theorem rel_update {P : Connection ι → Connection ι → Prop} (refl : ∀ conn, P conn conn)
    (changed : P (w.connections i) conn) (j : ι) :
    P (w.connections j) (update w.connections i conn j) := by
  by_cases same : j = i
  · subst same
    rw [update_self]
    exact changed
  · rw [update_of_ne same]
    exact refl _

theorem field_update {α : Type} (f : Connection ι → α) (same : f conn = f (w.connections i))
    (j : ι) : f (update w.connections i conn j) = f (w.connections j) :=
  rel_update (P := fun conn conn' => f conn' = f conn) (fun _ => rfl) same j

theorem Inv.pushEntry (inv : w.Inv safe onStack) (text : Bytes) :
    (w.pushEntry i text).Inv safe onStack ∧ Adds i [] [] w (w.pushEntry i text) := by
  have spares (j : ι) : Spares j w (w.pushEntry i text) := by
    refine ⟨?_, fun _ _ => rfl, fun b listed => ?_⟩
    · exact field_update out (by rfl) j
    have holds := (inv j).holds b listed
    cases is : (w.bufs b).region with
    | entry k address =>
      -- the entry that is pushed was not in use
      rw [is] at holds
      obtain ⟨rfl, used⟩ := holds
      have ne : (k, address) ≠ (i, (w.connections i).outputStrQueue.reserve.1) := by
        intro same
        obtain ⟨rfl, rfl⟩ := Prod.mk.inj same
        exact (inv k).entries.reserve_fresh used
      exact update_of_ne ne ..
    | _ => rfl
  have grows : (w.connections i).Grows { w.connections i with
      outputStrQueue := (w.connections i).outputStrQueue.reserve.2 } :=
    ⟨id, Recycle.Sound.reserve, fun _ used => used,
      fun _ used => Recycle.mem_used_reserve.mpr (.inr used), Nat.le_refl _⟩
  refine ⟨fun j => (inv j).of_spares (spares j) (rel_update Connection.Grows.refl grows j),
    .of_spares spares rfl rfl (fun j => ?_) fun j => ?_⟩
  · exact field_update written (by rfl) j
  · exact field_update produced (by rfl) j

theorem mem_pushEntry (text : Bytes) :
    (w.pushEntry i text).mem (.entry i (w.connections i).outputStrQueue.reserve.1) =
      overwrite text (w.entries (i, (w.connections i).outputStrQueue.reserve.1)) :=
  update_self ..

theorem mem_appendBuf (b : BufAddr ι) (conn : Connection ι) (s : Slice (Region ι M)) :
    (w.appendBuf i b conn s).mem = w.mem := by
  funext region
  cases region <;> rfl

theorem appendBuf_self (b : BufAddr ι) (conn : Connection ι) (s : Slice (Region ι M)) :
    (w.appendBuf i b conn s).connections i = { conn with out := conn.out ++ [b] } :=
  update_self ..

section

variable (takes : w.Takes p i b conn)

include takes

variable (s : Slice (Region ι M))

include s

theorem Takes.bufs {b' : BufAddr ι}
    (listed : b' ∈ (w.connections j).out) : (w.appendBuf i b conn s).bufs b' = w.bufs b' := by
  have ne : b' ≠ b := fun same => takes.fresh j (same ▸ listed)
  exact update_of_ne ne ..

theorem Takes.spares (other : j ≠ i) :
    Spares j w (w.appendBuf i b conn s) :=
  ⟨congrArg Connection.out (update_of_ne other ..), fun _ listed => takes.bufs s listed,
    fun _ _ => by rw [mem_appendBuf]⟩

theorem Takes.out_appendBuf :
    ((w.appendBuf i b conn s).connections i).out = (w.connections i).out ++ [b] := by
  rw [appendBuf_self, takes.out]

omit s in
theorem Takes.kept {s : Slice (Region ι M)} (kept : w.Kept safe p i)
    (holds : (w.connections i).Holds safe p i s.region) (within : s.Within w.mem) :
    (w.appendBuf i b conn s).Kept safe p i := by
  have at_i : (w.appendBuf i b conn s).connections i = _ := appendBuf_self b conn s
  have at_b : (w.appendBuf i b conn s).bufs b = s := update_self ..
  have grows : (w.connections i).Grows ((w.appendBuf i b conn s).connections i) := by
    rw [at_i]
    exact ⟨takes.grows.links, takes.grows.entries, takes.grows.usedLinks, takes.grows.usedEntries,
      takes.grows.requestBufs⟩
  have owns : ((w.appendBuf i b conn s).connections i).Owns p i b := by
    rw [at_i]
    cases b <;> exact takes.owns
  refine ⟨grows.links kept.links, grows.entries kept.entries, ?_, ?_, ?_, ?_⟩
  · rw [takes.out_appendBuf]
    exact nodup_append.mpr ⟨kept.distinct, nodup_singleton _, fun b' listed _ last same =>
      takes.fresh i (mem_singleton.mp last ▸ same ▸ listed)⟩
  all_goals
    rw [takes.out_appendBuf]
    refine forall_mem_append.mpr ⟨fun b' listed => ?_, forall_mem_singleton.mpr ?_⟩
  · exact grows.owns (kept.owns b' listed)
  · exact owns
  · rw [takes.bufs s listed]
    exact grows.holds (kept.holds b' listed)
  · rw [at_b]
    exact grows.holds holds
  · rw [takes.bufs s listed, mem_appendBuf]
    exact kept.within b' listed
  · rw [at_b, mem_appendBuf]
    exact within

omit takes in
theorem appendBuf_of_ne (b : BufAddr ι) (conn : Connection ι)
    (other : j ≠ i) : (w.appendBuf i b conn s).connections j = w.connections j :=
  update_of_ne other ..

theorem Takes.adds :
    Adds i (s.read w.mem) s.region.uses w (w.appendBuf i b conn s) := by
  have at_b : (w.appendBuf i b conn s).bufs b = s := update_self ..
  refine ⟨?_, fun j other => (takes.spares s other).pending,
    fun memory unused free j b' listed => ?_, rfl, rfl, field_update Connection.written takes.written,
    field_update Connection.produced takes.produced⟩
  · have before : reading w.mem (w.appendBuf i b conn s).bufs (w.connections i).out =
        w.pending i :=
      reading_congr (fun _ listed => takes.bufs s listed) fun _ _ => rfl
    rw [pending, takes.out_appendBuf, mem_appendBuf, reading_append, before]
    simp [reading, at_b]
  · have old (listed : b' ∈ (w.connections j).out) :
        ((w.appendBuf i b conn s).bufs b').region ≠ .scratch memory := by
      rw [takes.bufs s listed]
      exact free j b' listed
    by_cases other : j = i
    · subst other
      rw [takes.out_appendBuf] at listed
      rcases mem_append.mp listed with before | last
      · exact old before
      · obtain rfl := mem_singleton.mp last
        rw [at_b]
        intro same
        exact unused (by rw [same]; exact mem_singleton_self _)
    · rw [appendBuf_of_ne _ _ _ other] at listed
      exact old listed

end

theorem Inv.addBuf {s : Slice (Region ι M)} (inv : w.Inv safe onStack)
    (room : w.Room (onStack i) chain) (holds : (w.connections i).Holds safe (onStack i) i s.region)
    (within : s.Within w.mem) :
    (w.addBuf i chain s).Inv safe onStack ∧
      Adds i (s.read w.mem) s.region.uses w (w.addBuf i chain s) := by
  have takes := inv.takes room
  refine ⟨fun j => ?_, takes.adds s⟩
  by_cases other : j = i
  · subst other
    exact takes.kept (inv j) holds within
  · have same : (w.addBuf i chain s).connections j = _ := appendBuf_of_ne _ _ _ other
    refine (inv j).of_spares (takes.spares s other) ?_
    rw [same]
    exact .refl _

theorem Inv.addText {before after : Bytes} (inv : w.Inv safe onStack)
    (room : w.Room (onStack i) chain) (holds : (w.connections i).Holds safe (onStack i) i region)
    (written : w.mem region = before ++ (text ++ after)) :
    (w.addBuf i chain ⟨region, before.length, text.length⟩).Inv safe onStack ∧
      Adds i text region.uses w (w.addBuf i chain ⟨region, before.length, text.length⟩) := by
  obtain ⟨within, read⟩ := Slice.of_written written
  have added := inv.addBuf room holds within
  rwa [read] at added

/-! ## A whole chain -/

theorem mem_addBuf (chain : Chain M) (s : Slice (Region ι M)) :
    (w.addBuf i chain s).mem = w.mem := mem_appendBuf ..

theorem addBuf_queue (chain : Chain M) (s : Slice (Region ι M)) :
    ((w.addBuf i chain s).connections i).outputStrQueue = (w.connections i).outputStrQueue := by
  have at_i : (w.addBuf i chain s).connections i = _ := appendBuf_self ..
  rw [at_i]
  cases chain <;> rfl

theorem Inv.addEntry {address : Nat} {before after : Bytes} (notStack : ∀ part, chain ≠ .stack part)
    (texts : List Bytes) (inv : w.Inv safe onStack)
    (used : address ∈ (w.connections i).outputStrQueue.used)
    (written : w.mem (.entry i address) = before ++ (texts.flatten ++ after)) :
    ((slicesFrom (.entry i address) before.length texts).foldl (Worker.addBuf i chain) w).Inv safe
        onStack ∧
      Adds i texts.flatten [] w
        ((slicesFrom (.entry i address) before.length texts).foldl (Worker.addBuf i chain) w) := by
  induction texts generalizing w before with
  | nil => exact ⟨inv, .refl i w⟩
  | cons text rest ih =>
    have room : w.Room (onStack i) chain := fun part is => absurd is (notStack part)
    have holds : (w.connections i).Holds safe (onStack i) i (.entry i address) := ⟨rfl, used⟩
    rw [flatten_cons, append_assoc] at written
    obtain ⟨kept, first⟩ := inv.addText room holds written
    have later := ih kept (by rwa [addBuf_queue])
      (by rw [mem_addBuf, written, ← append_assoc before text])
    rw [length_append] at later
    exact ⟨later.1, first.trans later.2⟩

theorem Inv.addPart {part : Part M} (inv : w.Inv safe onStack) (room : w.Room (onStack i) chain)
    (single : ∀ texts, part = .queued texts →
      ∀ part, chain ≠ .stack part)
    (own : part.Own w.messages chain.message) (reserved : ∀ m ∈ chain.message, (i, m) ∈ safe)
    (free : ∀ memory ∈ part.uses, w.Unreferred memory) (intact : .stack ∈ part.uses → onStack i) :
    (w.addPart i chain part).Inv safe onStack ∧
      Adds i (part.text w.messages) part.uses w (w.addPart i chain part) := by
  cases part with
  | fixed text =>
    have written : w.mem (.fixed text) = [] ++ (text ++ []) := (append_nil text).symm
    have holds : (w.connections i).Holds safe (onStack i) i (.fixed text) := trivial
    exact inv.addText room holds written
  | queued texts =>
    obtain ⟨pushed, first⟩ := inv.pushEntry (i := i) texts.flatten
    have used : (w.connections i).outputStrQueue.reserve.1 ∈
        ((w.pushEntry i texts.flatten).connections i).outputStrQueue.used := by
      have at_i : (w.pushEntry i texts.flatten).connections i = _ := update_self ..
      rw [at_i]
      exact Recycle.mem_used_reserve.mpr (.inl rfl)
    have there : (w.pushEntry i texts.flatten).mem
        (.entry i (w.connections i).outputStrQueue.reserve.1) =
          [] ++ (texts.flatten ++ _) := mem_pushEntry _
    have added := pushed.addEntry (single texts rfl) texts used there
    exact ⟨added.1, first.trans added.2⟩
  | message m field pos len => exact inv.addBuf room (reserved m own.1) own.2
  | scratch memory text =>
    obtain ⟨written, first⟩ :=
      inv.writeScratch (i := i) (free memory (mem_singleton_self _)) text
    have there : (w.writeScratch memory text).mem (.scratch memory) =
        [] ++ (text ++ (w.scratch memory).drop text.length) := update_self ..
    have holds : ((w.writeScratch memory text).connections i).Holds safe (onStack i) i
        (.scratch memory) := fun isStack => intact (isStack ▸ mem_singleton_self _)
    have added := written.addText room holds there
    exact ⟨added.1, first.trans added.2⟩

theorem Inv.addParts (notStack : ∀ part, chain ≠ .stack part) (parts : List (Part M))
    (inv : w.Inv safe onStack) (distinct : (parts.flatMap Part.uses).Nodup)
    (own : ∀ part ∈ parts, part.Own w.messages chain.message)
    (reserved : ∀ m ∈ chain.message, (i, m) ∈ safe)
    (free : ∀ memory ∈ parts.flatMap Part.uses, w.Unreferred memory)
    (intact : .stack ∈ parts.flatMap Part.uses → onStack i) :
    (parts.foldl (Worker.addPart i chain) w).Inv safe onStack ∧
      Adds i (parts.flatMap (Part.text w.messages)) (parts.flatMap Part.uses) w
        (parts.foldl (Worker.addPart i chain) w) := by
  induction parts generalizing w with
  | nil => exact ⟨inv, .refl i w⟩
  | cons part rest ih =>
    have room : w.Room (onStack i) chain := fun part is => absurd is (notStack part)
    obtain ⟨kept, first⟩ := inv.addPart room (fun _ _ => notStack)
      (own part mem_cons_self) reserved
      (fun memory used => free memory (mem_append_left _ used))
      (fun used => intact (mem_append_left _ used))
    -- the memory of the other parts is not that of this one
    have apart := disjoint_of_nodup_append distinct
    have later := ih kept distinct.of_append_right
      (fun part listed => first.messages ▸ own part (mem_cons_of_mem _ listed))
      (fun memory used => first.unreferred memory (fun here => apart here used)
        (free memory (mem_append_right _ used)))
      (fun used => intact (mem_append_right _ used))
    rw [first.messages] at later
    exact ⟨later.1, first.trans later.2⟩

theorem Inv.addChain (inv : w.Inv safe onStack) (sound : chain.Sound w.messages)
    (room : w.Room (onStack i) chain) (reserved : ∀ m ∈ chain.message, (i, m) ∈ safe)
    (free : ∀ memory ∈ chain.uses, w.Unreferred memory) (intact : .stack ∈ chain.uses → onStack i) :
    (w.addChain i chain).Inv safe onStack ∧
      Adds i (chain.text w.messages) (chain.parts.flatMap Part.uses) w (w.addChain i chain) := by
  cases chain with
  | pooled parts message =>
    exact inv.addParts (fun _ => by simp) parts sound.distinct sound.own reserved free intact
  | request part =>
    exact inv.addParts (fun _ => by simp) [part] sound.distinct sound.own reserved free intact
  | stack part =>
    have added := inv.addPart room
      (fun texts is => absurd (congrArg Chain.stack is) (sound.single texts))
      (sound.own part (mem_singleton_self _)) reserved
      (fun memory used => free memory (mem_cons_of_mem _ used))
      (fun used => intact (mem_cons_of_mem _ used))
    simp only [Chain.text, Chain.parts, flatMap_singleton]
    exact added

/-! ## Sending it -/

theorem mem_outputFilter (accepts : Nat) : (w.outputFilter i accepts).mem = w.mem := by
  funext region
  cases region <;> rfl

theorem outputFilter_self (accepts : Nat) : (w.outputFilter i accepts).connections i =
    { w.connections i with
      out := (send accepts (w.connections i).out w.bufs).1
      written := (w.connections i).written ++ (w.pending i).take accepts } :=
  update_self ..

theorem Inv.outputFilter (inv : w.Inv safe onStack) (alone : ∀ j, onStack j → j = i)
    (accepts : Nat) : (w.outputFilter i accepts).Inv safe onStack ∧
      (∀ j, j ≠ i → Spares j w (w.outputFilter i accepts)) := by
  have spares (j : ι) (other : j ≠ i) : Spares j w (w.outputFilter i accepts) := by
    refine ⟨congrArg out (update_of_ne other ..), fun b listed => ?_,
      fun _ _ => by rw [mem_outputFilter]⟩
    exact send_bufs_of_not_mem accepts (inv.apart alone other listed)
  refine ⟨fun j => ?_, spares⟩
  by_cases other : j = i
  · subst other
    have advanced := send_advanced w.mem accepts (w.connections j).out w.bufs
    have left : ∀ b ∈ ((w.outputFilter j accepts).connections j).out,
        b ∈ (w.connections j).out := by
      rw [outputFilter_self]
      exact fun b listed => (send_suffix ..).subset listed
    have grows : (w.connections j).Grows ((w.outputFilter j accepts).connections j) := by
      rw [outputFilter_self]
      exact .of_same rfl rfl rfl
    refine ⟨grows.links (inv j).links, grows.entries (inv j).entries, ?_, fun b listed => ?_,
      fun b listed => ?_, fun b listed => ?_⟩
    · rw [outputFilter_self]
      exact (inv j).distinct.sublist (send_suffix ..).sublist
    · exact grows.owns ((inv j).owns b (left b listed))
    · have same : ((w.outputFilter j accepts).bufs b).region = (w.bufs b).region :=
        (advanced b).region
      rw [same]
      exact grows.holds ((inv j).holds b (left b listed))
    · rw [mem_outputFilter]
      exact (advanced b).within ((inv j).within b (left b listed))
  · have same : (w.outputFilter i accepts).connections j = _ := update_of_ne other ..
    exact (inv j).of_spares (spares j other) (same ▸ .refl _)

theorem Inv.pending_outputFilter (inv : w.Inv safe onStack) (accepts : Nat) :
    (w.outputFilter i accepts).pending i = (w.pending i).drop accepts := by
  rw [pending, mem_outputFilter, outputFilter_self]
  exact reading_send (inv i).distinct (inv i).within accepts

theorem Inv.total_outputFilter (inv : w.Inv safe onStack) (alone : ∀ j, onStack j → j = i)
    (accepts : Nat) (j : ι) :
    ((w.outputFilter i accepts).connections j).written ++ (w.outputFilter i accepts).pending j =
      (w.connections j).written ++ w.pending j := by
  by_cases other : j = i
  · subst other
    rw [inv.pending_outputFilter, outputFilter_self, append_assoc, take_append_drop]
  · have same : (w.outputFilter i accepts).connections j = _ := update_of_ne other ..
    rw [((inv.outputFilter alone accepts).2 j other).pending, same]

theorem flush_self : (w.flushAllTheReservedThings i).connections i =
    { w.connections i with
      bcp := (w.connections i).bcp.flush
      outputStrQueue := (w.connections i).outputStrQueue.flushUsed } :=
  update_self ..

theorem flush_spares (j : ι) : Spares j w (w.flushAllTheReservedThings i) :=
  ⟨field_update out (by rfl) j, fun _ _ => rfl,
    fun b _ => by cases (w.bufs b).region <;> rfl⟩

theorem Inv.flush (inv : w.Inv safe onStack) (drained : (w.connections i).out = [])
    (alone : ∀ j, onStack j → j = i) (others : ∀ j m, j ≠ i → (j, m) ∈ safe → (j, m) ∈ w.reserved) :
    (w.flushAllTheReservedThings i).Inv (w.flushAllTheReservedThings i).reserved
      fun _ => False := by
  intro j
  by_cases other : j = i
  · subst other
    have empty : ((w.flushAllTheReservedThings j).connections j).out = [] := by
      rw [flush_self]
      exact drained
    refine ⟨?_, ?_, empty ▸ nodup_nil, ?_, ?_, ?_⟩
    · rw [flush_self]
      exact (inv j).links.flush
    · rw [flush_self]
      exact (inv j).entries.flushUsed
    all_goals
      rw [empty]
      exact forall_mem_nil _
  · have same : (w.flushAllTheReservedThings i).connections j = _ := update_of_ne other ..
    have grows : (w.connections j).Grows ((w.flushAllTheReservedThings i).connections j) :=
      same ▸ .refl _
    have kept := (inv j).of_spares (flush_spares j) grows
    refine kept.mono (fun m listed => ?_) fun intact => other (alone j intact)
    exact mem_filter.mpr ⟨others j m other listed, decide_eq_true other⟩

variable {accepts : Nat}

theorem Inv.settle {message : Option M}
    (inv : w.Inv ((message.toList.map fun m => (i, m)) ++ w.reserved) onStack)
    (total : ∀ j, (w.connections j).written ++ w.pending j = (w.connections j).produced)
    (alone : ∀ j, onStack j → j = i) (atOnce : onStack i → (w.pending i).length ≤ accepts) :
    (w.nchanOutputFilterGeneric i message accepts).Settled := by
  obtain ⟨kept, -⟩ := inv.outputFilter alone accepts
  have after (j : ι) : ((w.outputFilter i accepts).connections j).written ++
      (w.outputFilter i accepts).pending j =
        ((w.outputFilter i accepts).connections j).produced := by
    have produced : ((w.outputFilter i accepts).connections j).produced = _ :=
      field_update produced (by rfl) j
    rw [inv.total_outputFilter alone, total, produced]
  unfold nchanOutputFilterGeneric
  dsimp only
  split
  · rename_i drained
    refine ⟨kept.flush drained alone fun j m other listed => ?_, fun j => ?_⟩
    · rcases mem_append.mp listed with new | old
      · obtain ⟨_, -, same⟩ := mem_map.mp new
        exact absurd (Prod.mk.inj same).1.symm other
      · exact old
    · have written : (((w.outputFilter i accepts).flushAllTheReservedThings i).connections
          j).written = _ := field_update written (by rfl) j
      have produced : (((w.outputFilter i accepts).flushAllTheReservedThings i).connections
          j).produced = _ := field_update produced (by rfl) j
      rw [written, produced, (flush_spares j).pending, after]
  · rename_i waits
    refine ⟨fun j => ?_, after⟩
    have spares : Spares j (w.outputFilter i accepts) { w.outputFilter i accepts with
        reserved := (message.toList.map fun m => (i, m)) ++ w.reserved } :=
      ⟨rfl, fun _ _ => rfl, fun b _ => by cases ((w.outputFilter i accepts).bufs b).region <;> rfl⟩
    refine ((kept j).of_spares spares (.refl _)).mono (fun _ listed => listed) fun intact => ?_
    -- a response that needs the stack has been written
    obtain rfl := alone j intact
    apply waits
    rw [outputFilter_self]
    exact send_all (inv j).within (atOnce intact)

theorem record_produced (text : Bytes) (j : ι) : ((w.record i text).connections j).produced =
    (w.connections j).produced ++ if j = i then text else [] := by
  by_cases same : j = i
  · subst same
    have at_j : (w.record j text).connections j = _ := update_self ..
    rw [at_j, if_pos rfl]
  · have at_j : (w.record i text).connections j = _ := update_of_ne same ..
    rw [at_j, if_neg same, append_nil]

theorem record_spares (text : Bytes) (j : ι) : Spares j w (w.record i text) :=
  ⟨field_update out (by rfl) j, fun _ _ => rfl,
    fun b _ => by cases (w.bufs b).region <;> rfl⟩

theorem Adds.total {uses : List Scratch} (adds : Adds i text uses w w')
    (total : ∀ j, (w.connections j).written ++ w.pending j = (w.connections j).produced) (j : ι) :
    (w'.connections j).written ++ w'.pending j =
      (w.connections j).produced ++ if j = i then text else [] := by
  rw [adds.written]
  split
  · rename_i same
    subst same
    rw [adds.pending, ← append_assoc, total]
  · rename_i other
    rw [adds.others j other, append_nil, total]

theorem Settled.respond (settled : w.Settled) (sound : chain.Sound w.messages)
    (free : ∀ memory ∈ chain.uses, memory ≠ .stack → w.Unreferred memory)
    (atOnce : .stack ∈ chain.uses →
      (w.pending i).length + (chain.text w.messages).length ≤ accepts) :
    (w.respond i chain accepts).Settled := by
  -- while the response is made it may refer to the stack, and its message is in use
  have inv : w.Inv ((chain.message.toList.map fun m => (i, m)) ++ w.reserved)
      fun j => j = i ∧ .stack ∈ chain.uses :=
    fun j => (settled.inv j).mono (fun m listed => mem_append_right _ listed) False.elim
  have room : w.Room (i = i ∧ .stack ∈ chain.uses) chain := by
    rintro part rfl
    exact ⟨⟨rfl, mem_cons_self⟩, fun j listed => (settled.inv j).owns _ listed⟩
  have reserved : ∀ m ∈ chain.message,
      (i, m) ∈ (chain.message.toList.map fun m => (i, m)) ++ w.reserved := fun m named =>
    mem_append_left _ (mem_map_of_mem (mem_toList.mpr named))
  have unreferred : ∀ memory ∈ chain.uses, w.Unreferred memory := by
    intro memory used
    by_cases isStack : memory = .stack
    · intro j b listed same
      have holds := (settled.inv j).holds b listed
      rw [same] at holds
      exact holds isStack
    · exact free memory used isStack
  obtain ⟨kept, adds⟩ := inv.addChain sound room reserved unreferred fun used => ⟨rfl, used⟩
  have total := adds.total settled.total
  unfold Worker.respond
  generalize w.addChain i chain = made at kept adds total
  have keptOn : (made.record i (chain.text w.messages)).Inv
      ((chain.message.toList.map fun m => (i, m)) ++
        (made.record i (chain.text w.messages)).reserved)
      fun j => j = i ∧ .stack ∈ chain.uses := by
    intro j
    have same : (made.record i (chain.text w.messages)).reserved = w.reserved := adds.reserved
    rw [same]
    refine (kept j).of_spares (record_spares _ j) (rel_update Connection.Grows.refl ?_ j)
    exact .of_same rfl rfl rfl
  refine keptOn.settle (fun j => ?_) (fun j intact => intact.1) fun intact => ?_
  · have written : ((made.record i (chain.text w.messages)).connections j).written = _ :=
      field_update written (by rfl) j
    rw [written, (record_spares _ j).pending, total, record_produced, adds.produced]
  · rw [(record_spares _ i).pending, adds.pending, length_append]
    exact atOnce intact.2

theorem Settled.outputFilter (settled : w.Settled) (accepts : Nat) :
    (w.outputFilter i accepts).Settled := by
  have alone : ∀ j : ι, False → j = i := fun _ => False.elim
  refine ⟨(settled.inv.outputFilter alone accepts).1, fun j => ?_⟩
  have produced : ((w.outputFilter i accepts).connections j).produced = _ :=
    field_update produced (by rfl) j
  rw [settled.inv.total_outputFilter alone, settled.total, produced]

theorem Settled.writeEvent (settled : w.Settled) (accepts : Nat) :
    (w.nchanOutputFilterGeneric i none accepts).Settled :=
  Inv.settle settled.inv settled.total (fun _ => False.elim) False.elim

theorem Settled.finalize (settled : w.Settled) :
    (w.set i { w.connections i with finalized := true }).Settled := by
  refine settled.of_spares (fun j => ⟨?_, fun _ _ => rfl, fun b _ => ?_⟩) rfl (fun j => ?_)
    (fun j => ?_) fun j => ?_
  · exact field_update out (by rfl) j
  · cases (w.bufs b).region <;> rfl
  · refine rel_update Connection.Grows.refl ?_ j
    exact .of_same rfl rfl rfl
  · exact field_update written (by rfl) j
  · exact field_update produced (by rfl) j

theorem Settled.call (settled : w.Settled) (buf : Slice (Region ι M)) (text : Bytes) :
    { w with
      bufs := update w.bufs .stack buf
      scratch := update w.scratch .stack text }.Settled := by
  refine settled.of_spares (fun j => ⟨rfl, fun b listed => ?_, fun b listed => ?_⟩) rfl
    (fun _ => .refl _) (fun _ => rfl) fun _ => rfl
  · have ne : b ≠ .stack := by
      rintro rfl
      exact (settled.inv j).owns _ listed
    exact update_of_ne ne ..
  · have holds := (settled.inv j).holds b listed
    cases region : (w.bufs b).region with
    | scratch memory =>
      rw [region] at holds
      exact update_of_ne holds ..
    | _ => rfl

variable [DecidableEq M]

omit [DecidableEq ι] in
theorem Settled.store {m : M} (settled : w.Settled) (unreserved : m ∉ w.reserved.map Prod.snd)
    (msg : Message) : { w with messages := update w.messages m msg }.Settled := by
  refine settled.of_spares (fun j => ⟨rfl, fun _ _ => rfl, fun b listed => ?_⟩) rfl
    (fun _ => .refl _) (fun _ => rfl) fun _ => rfl
  have holds := (settled.inv j).holds b listed
  cases region : (w.bufs b).region with
  | message m' field =>
    rw [region] at holds
    have ne : m' ≠ m := fun same => unreserved (same ▸ mem_map_of_mem holds)
    exact congrArg (Message.field · field) (update_of_ne ne ..)
  | _ => rfl

theorem Settled.step {ext : Externals} {op : Op ι M} (settled : w.Settled) (good : Good ext op w)
    (stepped : step ext op w = some w') : w'.Settled := by
  cases op with
  | respond i response accepts =>
    simp only [Worker.step] at stepped
    split at stepped
    · exact some.inj stepped ▸ settled
    · obtain ⟨chain, is, made⟩ := map_eq_some_iff.mp stepped
      obtain ⟨free, atOnce⟩ := good chain is
      split at made
      · exact made ▸ settled
      · exact made ▸ settled.respond (Response.chain_sound _ _ is) free atOnce
  | writeEvent i accepts =>
    simp only [Worker.step] at stepped
    split at stepped
    · exact some.inj stepped ▸ settled.outputFilter accepts
    · exact some.inj stepped ▸ settled.writeEvent accepts
  | finalize i => exact some.inj stepped ▸ settled.finalize
  | store m msg =>
    obtain ⟨unreserved, is⟩ := ite_none_left_eq_some.mp stepped
    exact some.inj is ▸ settled.store unreserved msg
  | call buf text => exact some.inj stepped ▸ settled.call buf text

theorem Settled.drain (ext : Externals) (settled : w.Settled)
    (enough : (w.pending i).length ≤ accepts) :
    ∃ w', Worker.step ext (.writeEvent i accepts) w = some w' ∧ (w'.connections i).out = [] ∧
      (w'.connections i).produced = (w.connections i).produced := by
  have sent : ((w.outputFilter i accepts).connections i).out = [] := by
    rw [outputFilter_self]
    exact send_all (settled.inv i).within enough
  have produced : ((w.outputFilter i accepts).connections i).produced = _ :=
    field_update produced (by rfl) i
  by_cases finalized : (w.connections i).finalized
  · exact ⟨_, congrArg some (if_pos finalized), sent, produced⟩
  · refine ⟨_, congrArg some (if_neg finalized), ?_⟩
    rw [nchanOutputFilterGeneric, if_pos sent, flush_self]
    exact ⟨sent, produced⟩

/-- In a run in which static variables are written only while nothing that waits refers to them,
    and in which the responses that need the stack are taken at once, what has been written to a
    connection and what waits there are together its responses as they were produced.  So once
    nothing waits the client has received just them, and that is so after a write event that
    takes what is left. -/
theorem written_as_produced (ext : Externals) (messages : M → Message) (ops : List (Op ι M))
    (w : Worker ι M) (reached : run (step ext) ops (initial messages) = some w)
    (good : Run.Along (step ext) (Good ext) ops (initial messages)) (i : ι) :
    (w.connections i).written ++ w.pending i = (w.connections i).produced ∧
      ((w.connections i).out = [] → (w.connections i).written = (w.connections i).produced) ∧
      ∀ accepts, (w.pending i).length ≤ accepts →
        ∃ w', step ext (.writeEvent i accepts) w = some w' ∧ (w'.connections i).out = [] ∧
          (w'.connections i).written = (w.connections i).produced := by
  have settled : w.Settled :=
    run_invariant (fun _ _ _ settled good stepped => settled.step good stepped)
      (initial_settled messages) good reached
  refine ⟨settled.total i, settled.drained, fun accepts enough => ?_⟩
  have always : Good ext (.writeEvent i accepts) w := trivial
  obtain ⟨w', stepped, empty, produced⟩ := settled.drain ext enough
  exact ⟨w', stepped, empty, ((settled.step always stepped).drained empty).trans produced⟩

def noExternals : Externals := ⟨fun _ => [], id⟩

def infoOf (count : Nat) : ChannelInfo := ⟨.plain, count, 0, 0, 0, none⟩

def greeting : Message := ⟨bytes "hi", false, none, none, none⟩

/-- A subscriber takes a chunk a few bytes at a time, while the reply to a publisher waits and the
    next one is sent after it. -/
def slowClients : List (Op Bool Unit) :=
  [.respond false (.chunkedMessage ()) 2, .respond true (.websocketPublished (infoOf 1)) 0,
    .call ⟨.fixed [], 0, 0⟩ (bytes "?"), .writeEvent false 3, .writeEvent true 500,
    .respond true (.websocketPublished (infoOf 2)) 10]

theorem written_as_produced_slow_clients :
    ∃ w, run (step noExternals) slowClients (initial fun _ => greeting) = some w ∧
      (w.connections false).written = bytes "2\r\nhi" ∧
      (w.connections true).out.length = 1 ∧
      ∀ i, (w.connections i).written ++ w.pending i = (w.connections i).produced := by
  have good : Run.Along (step noExternals) (Good noExternals) slowClients
      (initial fun _ => greeting) := by
    decide
  refine ⟨_, rfl, rfl, rfl, fun i => ?_⟩
  exact (written_as_produced noExternals (fun _ => greeting) slowClients _ rfl good i).1

/-- The reply to one publisher waits when another is replied to. -/
def twoPublishers : List (Op Bool Unit) :=
  [.respond false (.websocketPublished (infoOf 1)) 0,
    .respond true (.websocketPublished (infoOf 2)) 500, .writeEvent false 500]

/-- The first one receives the reply to the second. -/
theorem waiting_reply_overwritten :
    ∃ w, run (step noExternals) twoPublishers (initial fun _ => greeting) = some w ∧
      (w.connections false).out = [] ∧
      (w.connections false).written ≠ (w.connections false).produced ∧
      (w.connections false).written = (w.connections true).produced := by
  refine ⟨_, rfl, rfl, ?_, rfl⟩
  decide

end Worker

end Nchan.Output.Pending
