import Nchan.Lib.Recycle
import Nchan.Lib.Run
import Nchan.Output.FdCache

/-! # Sending messages that are kept in files

A buffer of a message that is kept in a file refers to a copy of the message's `ngx_file_t`, with
a descriptor from the cache.  The copy comes from the connection's buffer chain pool, and then
its descriptor is looked up again before every call of the output filter; or, for a long-poll
response of one message, from the request's memory, and then it is not.  A long-poll request is
finalized with its response, after which nginx's own writer sends what is left.

Memory does not run out.  Buffers in memory are of no concern here but for keeping the output
queue from being empty.
-/

namespace Nchan.Output

open Nchan.Lib List Function Option Run

/-- `ngx_file_t`: the name of the file and a descriptor of it. -/
structure NgxFile (Name : Type) where
  name : Name
  fd : Option Nat
  deriving DecidableEq

/-- Where a copy of an `ngx_file_t` is: in the pool of a connection's files, or in the memory of
    its request. -/
inductive FileAddr where
  | pooled (address : Nat)
  | request (address : Nat)
  deriving DecidableEq

/-- A buffer that has not been sent.  One in a file refers to a copy of the `ngx_file_t` of a
    message that is kept in the file `message`; `unopened` still refers to the message's own,
    which has no descriptor. -/
inductive OutBuf (Name : Type) where
  | memory
  | inFile (file : FileAddr) (message : Name)
  | unopened (message : Name)
  deriving DecidableEq

/-- A connection: `pool` are the files of its buffer chain pool, `requestFiles` counts those in
    the request's memory, and `out` is `r->out`. -/
structure Connection (Name : Type) where
  finalized : Bool
  files : FileAddr → Option (NgxFile Name)
  pool : Recycle
  requestFiles : Nat
  out : List (OutBuf Name)

/-- The responses that send messages.  `longpoll` is `nchan_respond_msg`. -/
inductive Kind where
  | longpoll | longpollMultipart | eventSource | chunked | multipart | rawStream | websocket
  deriving DecidableEq

def Kind.finalizes : Kind → Bool
  | .longpoll | .longpollMultipart => true
  | _ => false

/-- A part of a response: a buffer in memory, or a message that is kept in a file and sent in a
    number of buffers (an EventSource makes one for each line). -/
inductive Part (Name : Type) where
  | memory
  | message (file : Name) (buffers : Nat)
  deriving DecidableEq

namespace Connection

variable {Name : Type}

def initial : Connection Name := ⟨false, fun _ => none, .empty, 0, []⟩

/-- `nchan_bufchain_pool_reserve_file`, and for a long-poll response of one message a new
    `ngx_file_t` of the request's. -/
def reserveFile (kind : Kind) (conn : Connection Name) : FileAddr × Connection Name :=
  match kind with
  | .longpoll =>
    (.request conn.requestFiles, { conn with requestFiles := conn.requestFiles + 1 })
  | _ => (.pooled conn.pool.reserve.1, { conn with pool := conn.pool.reserve.2 })

/-- Is the descriptor looked up again before the output filter is called? -/
def refreshes (conn : Connection Name) : FileAddr → Bool
  | .pooled address => !conn.finalized && conn.pool.used.contains address
  | .request _ => false

/-- The buffer can be read: if it is in a file, it has a descriptor that is open on the message's
    file. -/
def Readable (cache : FdCache Name) (conn : Connection Name) : OutBuf Name → Prop
  | .memory => True
  | .unopened _ => False
  | .inFile file message => ∃ copy fd, conn.files file = some copy ∧ copy.fd = some fd ∧
      cache.descriptors fd = some message

/-- What the output filter has not sent stays in `r->out`.  Once nothing is left, the pool takes
    its files back, unless nginx's own writer is at work. -/
def deliver (sent : Nat) (conn : Connection Name) : Connection Name :=
  let conn := { conn with out := conn.out.drop sent }
  if conn.out = [] ∧ conn.finalized = false then { conn with pool := conn.pool.flush } else conn

variable [DecidableEq Name]

/-- `nchan_msg_buf_open_fd_if_needed` with the copy at `file`; the message's own `ngx_file_t` has
    no descriptor. -/
def openFdIfNeeded (failing : List Name) (now : Nat) (filename : Name) (file : FileAddr)
    (cache : FdCache Name) (conn : Connection Name) :
    OutBuf Name × FdCache Name × Connection Name :=
  let (fd, cache) := cache.get failing now filename
  let conn := { conn with files := update conn.files file (some ⟨filename, fd⟩) }
  match fd with
  | none => (.unopened filename, cache, conn)
  | some _ => (.inFile file filename, cache, conn)

def addPart (kind : Kind) (failing : List Name) (now : Nat)
    (state : FdCache Name × Connection Name) (part : Part Name) :
    FdCache Name × Connection Name :=
  match part with
  | .memory => (state.1, { state.2 with out := state.2.out ++ [.memory] })
  | .message filename buffers =>
    let (file, conn) := state.2.reserveFile kind
    let (buf, cache, conn) := openFdIfNeeded failing now filename file state.1 conn
    (cache, { conn with out := conn.out ++ List.replicate buffers buf })

/-- The loop of `nchan_bufchain_pool_refresh_files` over the files in use. -/
def refresh (failing : List Name) (now : Nat) :
    List Nat → FdCache Name × Connection Name → FdCache Name × Connection Name
  | [], state => state
  | address :: rest, (cache, conn) =>
    match conn.files (.pooled address) with
    | none => refresh failing now rest (cache, conn)
    | some file =>
      let (fd, cache) := cache.get failing now file.name
      let files := update conn.files (.pooled address) (some { file with fd := fd })
      refresh failing now rest (cache, { conn with files := files })

/-- `nchan_bufchain_pool_refresh_files`, but nginx's own writer does not call it. -/
def refreshFiles (failing : List Name) (now : Nat) (state : FdCache Name × Connection Name) :
    FdCache Name × Connection Name :=
  if state.2.finalized then state else refresh failing now state.2.pool.used state

/-- The state in which a response calls the output filter. -/
def respond (kind : Kind) (parts : List (Part Name)) (failing : List Name) (now : Nat)
    (state : FdCache Name × Connection Name) : FdCache Name × Connection Name :=
  refreshFiles failing now (parts.foldl (addPart kind failing now) state)

end Connection

/-! ## The worker -/

structure Worker (ι Name : Type) where
  cache : FdCache Name
  now : Nat
  connections : ι → Connection Name

/-- What happens next.  `failing` are the files that do not open at that moment, `ends` says whether
    a stream is ended with the response, and `sent` how many of the buffers the output filter gets
    rid of. -/
inductive Op (ι Name : Type) where
  | tick (seconds : Nat)
  | gc
  | lookup (filename : Name) (failing : List Name)
  | respond (i : ι) (kind : Kind) (parts : List (Part Name)) (ends : Bool) (failing : List Name)
      (sent : Nat)
  | flush (i : ι) (failing : List Name) (sent : Nat)
  deriving DecidableEq

namespace Worker

variable {ι Name : Type}

def initial : Worker ι Name := ⟨.empty, 0, fun _ => .initial⟩

variable [DecidableEq ι] [DecidableEq Name]

def set (i : ι) (state : FdCache Name × Connection Name) (w : Worker ι Name) : Worker ι Name :=
  { w with cache := state.1, connections := update w.connections i state.2 }

/-- The connection on which the output filter is called in a step, and the state at that moment.
    Nothing more is sent to a request that is finalized. -/
def atOutput (op : Op ι Name) (w : Worker ι Name) : Option (ι × Worker ι Name) :=
  match op with
  | .respond i kind parts _ failing _ =>
    if (w.connections i).finalized then none
    else some (i, w.set i (Connection.respond kind parts failing w.now (w.cache, w.connections i)))
  | .flush i failing _ =>
    some (i, w.set i (Connection.refreshFiles failing w.now (w.cache, w.connections i)))
  | _ => none

/-- The output filter returns, and the request may be finalized. -/
@[simp] def delivered (i : ι) (finalizes : Bool) (sent : Nat) (w : Worker ι Name) : Worker ι Name :=
  let conn := (w.connections i).deliver sent
  { w with connections :=
      update w.connections i { conn with finalized := conn.finalized || finalizes } }

def step (op : Op ι Name) (w : Worker ι Name) : Option (Worker ι Name) :=
  match op with
  | .tick seconds => some { w with now := w.now + seconds }
  | .gc => some { w with cache := w.cache.gcTimerHandler w.now }
  | .lookup filename failing => some { w with cache := (w.cache.get failing w.now filename).2 }
  | .respond i kind parts ends failing sent =>
    match w.atOutput (.respond i kind parts ends failing sent) with
    | none => some w
    | some called => some (called.2.delivered i (kind.finalizes || ends) sent)
  | .flush i failing sent =>
    match w.atOutput (.flush i failing sent) with
    | none => some w
    | some called => some (called.2.delivered i false sent)

/-- All buffers on the connection can be read. -/
def Readable (i : ι) (w : Worker ι Name) : Prop :=
  ∀ buf ∈ (w.connections i).out, (w.connections i).Readable w.cache buf

/-- A gc pass finds no entry expired whose descriptor is in use by a buffer that will be sent
    without looking it up again. -/
def Unhurried (w : Worker ι Name) : Prop :=
  ∀ i, ∀ buf ∈ (w.connections i).out,
    match buf with
    | .inFile file _ => (w.connections i).refreshes file = true ∨
        ∀ copy ∈ (w.connections i).files file, ∀ thing ∈ w.cache.things,
          thing.data = copy.fd → w.now < thing.time
    | _ => True

/-- Files open, and gc passes come in time. -/
def Good (op : Op ι Name) (w : Worker ι Name) : Prop :=
  match op with
  | .tick _ => True
  | .gc => w.Unhurried
  | .lookup _ failing => failing = []
  | .respond _ _ _ _ failing _ => failing = []
  | .flush _ failing _ => failing = []

end Worker

/-! ## What is kept between steps -/

namespace Connection

variable {Name : Type}

/-- The buffer has the right file, and its descriptor is open or will be looked up again. -/
def Held (cache : FdCache Name) (conn : Connection Name) : OutBuf Name → Prop
  | .memory => True
  | .unopened _ => False
  | .inFile file message => ∃ copy, conn.files file = some copy ∧ copy.name = message ∧
      (conn.refreshes file = true ∨ ∃ fd, copy.fd = some fd ∧ cache.descriptors fd = some message)

structure Inv (cache : FdCache Name) (conn : Connection Name) : Prop where
  sound : conn.pool.Sound
  copied : ∀ address ∈ conn.pool.used, (conn.files (.pooled address)).isSome = true
  held : ∀ buf ∈ conn.out, conn.Held cache buf
  pooled : ∀ address message, .inFile (.pooled address) message ∈ conn.out →
    address ∈ conn.pool.used
  request : ∀ address message, .inFile (.request address) message ∈ conn.out →
    address < conn.requestFiles

variable {cache cache' : FdCache Name} {conn : Connection Name}

theorem initial_inv (cache : FdCache Name) : (initial : Connection Name).Inv cache :=
  ⟨Recycle.empty_sound, forall_mem_nil _,
    forall_mem_nil _,
    fun _ _ listed => absurd listed not_mem_nil,
    fun _ _ listed => absurd listed not_mem_nil⟩

theorem Held.of_keeps {buf : OutBuf Name} (held : conn.Held cache buf)
    (keeps : cache.Keeps cache') : conn.Held cache' buf := by
  cases buf with
  | memory => exact held
  | unopened message => exact held
  | inFile file message =>
    obtain ⟨copy, found, named, fresh⟩ := held
    refine ⟨copy, found, named, fresh.imp_right fun isOpen => ?_⟩
    obtain ⟨fd, is, isOpen⟩ := isOpen
    exact ⟨fd, is, keeps fd message isOpen⟩

theorem Inv.of_keeps (inv : conn.Inv cache) (keeps : cache.Keeps cache') : conn.Inv cache' :=
  ⟨inv.sound, inv.copied, fun buf listed => (inv.held buf listed).of_keeps keeps, inv.pooled,
    inv.request⟩

/-- A place for a copy has been found that no buffer refers to. -/
structure Reserved (conn conn' : Connection Name) (file : FileAddr) : Prop where
  unused : ∀ message, .inFile file message ∉ conn.out
  out : conn'.out = conn.out
  finalized : conn'.finalized = conn.finalized
  files : conn'.files = conn.files
  sound : conn'.pool.Sound
  grows : ∀ address ∈ conn.pool.used, address ∈ conn'.pool.used
  only : ∀ address ∈ conn'.pool.used, address ∈ conn.pool.used ∨ file = .pooled address
  counts : conn.requestFiles ≤ conn'.requestFiles
  pooled : ∀ address, file = .pooled address → address ∈ conn'.pool.used
  request : ∀ address, file = .request address → address < conn'.requestFiles

theorem Inv.reserveFile (inv : conn.Inv cache) (kind : Kind) :
    conn.Reserved (conn.reserveFile kind).2 (conn.reserveFile kind).1 := by
  by_cases single : kind = .longpoll
  · subst single
    refine ⟨fun message listed => ?_, rfl, rfl, rfl, inv.sound, fun _ inUse => inUse,
      fun _ inUse => .inl inUse, Nat.le_succ _, fun _ is => ?_, fun address is => ?_⟩
    · exact Nat.lt_irrefl _ (inv.request _ message listed)
    · cases is
    · obtain rfl := FileAddr.request.inj is
      exact Nat.lt_succ_self _
  · have reserved : conn.reserveFile kind =
        (.pooled conn.pool.reserve.1, { conn with pool := conn.pool.reserve.2 }) := by
      cases kind with
      | longpoll => exact absurd rfl single
      | _ => rfl
    rw [reserved]
    refine ⟨fun message listed => ?_, rfl, rfl, rfl, inv.sound.reserve, fun address inUse => ?_,
      fun address inUse => ?_, Nat.le_refl _, fun address is => ?_, fun _ is => ?_⟩
    · exact inv.sound.reserve_fresh (inv.pooled _ message listed)
    · exact Recycle.mem_used_reserve.mpr (.inr inUse)
    · rcases Recycle.mem_used_reserve.mp inUse with rfl | old
      · exact .inr rfl
      · exact .inl old
    · obtain rfl := FileAddr.pooled.inj is
      exact Recycle.mem_used_reserve.mpr (.inl rfl)
    · cases is

theorem Reserved.refreshes {conn' : Connection Name} {file other : FileAddr}
    (reserved : conn.Reserved conn' file) (before : conn.refreshes other = true) :
    conn'.refreshes other = true := by
  cases other with
  | request address => cases before
  | pooled address =>
    simp only [Connection.refreshes, Bool.and_eq_true, Bool.not_eq_true', contains_iff_mem]
      at before ⊢
    exact ⟨reserved.finalized.trans before.1, reserved.grows address before.2⟩

theorem Reserved.inv {conn' : Connection Name} {file : FileAddr} {message : Name} {fd : Nat}
    (reserved : conn.Reserved conn' file) (inv : conn.Inv cache)
    (isOpen : cache.descriptors fd = some message) (buffers : Nat) :
    ({ conn' with
        files := update conn'.files file (some ⟨message, some fd⟩)
        out := conn'.out ++ List.replicate buffers (.inFile file message) } :
      Connection Name).Inv cache := by
  refine ⟨reserved.sound, fun address inUse => ?_, fun buf listed => ?_,
    fun address other listed => ?_, fun address other listed => ?_⟩
  · by_cases same : FileAddr.pooled address = file
    · simp [same]
    · rcases reserved.only address inUse with old | new
      · simpa [update_of_ne same, reserved.files] using inv.copied address old
      · exact absurd new.symm same
  · rcases mem_append.mp listed with old | new
    · -- a buffer that was there refers to another copy
      rw [reserved.out] at old
      have held := inv.held buf old
      cases buf with
      | memory => trivial
      | unopened other => exact held
      | inFile other of =>
        obtain ⟨copy, found, named, fresh⟩ := held
        have ne : other ≠ file := fun same => reserved.unused of (same ▸ old)
        refine ⟨copy, ?_, named, fresh.imp_left reserved.refreshes⟩
        simpa [update_of_ne ne, reserved.files] using found
    · obtain rfl := eq_of_mem_replicate new
      exact ⟨⟨message, some fd⟩, update_self .., rfl, .inr ⟨fd, rfl, isOpen⟩⟩
  · rcases mem_append.mp listed with old | new
    · exact reserved.grows address (inv.pooled address other (reserved.out ▸ old))
    · exact reserved.pooled address (OutBuf.inFile.inj (eq_of_mem_replicate new)).1.symm
  · rcases mem_append.mp listed with old | new
    · exact Nat.lt_of_lt_of_le (inv.request address other (reserved.out ▸ old)) reserved.counts
    · exact reserved.request address (OutBuf.inFile.inj (eq_of_mem_replicate new)).1.symm

/-- The copy has a descriptor that is open on its file. -/
def Fresh (cache : FdCache Name) (conn : Connection Name) (file : FileAddr) : Prop :=
  ∃ copy fd, conn.files file = some copy ∧ copy.fd = some fd ∧
    cache.descriptors fd = some copy.name

/-- The descriptors of the copies at `addresses` have been looked up. -/
structure Refreshed (addresses : List Nat) (state state' : FdCache Name × Connection Name) :
    Prop where
  sound : state'.1.Sound
  keeps : state.1.Keeps state'.1
  out : state'.2.out = state.2.out
  pool : state'.2.pool = state.2.pool
  counts : state'.2.requestFiles = state.2.requestFiles
  finalized : state'.2.finalized = state.2.finalized
  names : ∀ file, (state'.2.files file).map NgxFile.name = (state.2.files file).map NgxFile.name
  fresh : ∀ address ∈ addresses, Fresh state'.1 state'.2 (.pooled address)
  others : ∀ file, (∀ address ∈ addresses, file ≠ .pooled address) →
    state'.2.files file = state.2.files file

theorem Refreshed.isOpen {state state' : FdCache Name × Connection Name}
    (refreshed : Refreshed state.2.pool.used state state') (inv : state.2.Inv state.1)
    {file : FileAddr} {message : Name} (listed : .inFile file message ∈ state.2.out) :
    ∃ copy fd, state'.2.files file = some copy ∧ copy.name = message ∧ copy.fd = some fd ∧
      state'.1.descriptors fd = some message := by
  obtain ⟨copy, found, named, held⟩ := inv.held _ listed
  cases file with
  | pooled address =>
    obtain ⟨copy', fd, found', is, isOpen⟩ := refreshed.fresh address (inv.pooled _ _ listed)
    have names := refreshed.names (.pooled address)
    rw [found', found] at names
    have named' : copy'.name = message := (some.inj names).trans named
    exact ⟨copy', fd, found', named', is, named' ▸ isOpen⟩
  | request address =>
    have same := refreshed.others (.request address) fun other _ is => by cases is
    obtain ⟨fd, is, isOpen⟩ := held.resolve_left fun no => by cases no
    exact ⟨copy, fd, same.trans found, named, is, refreshed.keeps fd _ isOpen⟩

theorem Inv.deliver (inv : conn.Inv cache)
    (readable : ∀ buf ∈ conn.out, conn.Readable cache buf) (finalizes : Bool) (sent : Nat) :
    ({ conn.deliver sent with finalized := (conn.deliver sent).finalized || finalizes } :
      Connection Name).Inv cache := by
  have part : ∀ buf ∈ conn.out.drop sent, buf ∈ conn.out := fun buf => mem_of_mem_drop
  have held : ∀ pool, (∀ buf ∈ conn.out.drop sent, ({ conn with
      pool := pool, out := conn.out.drop sent, finalized := conn.finalized || finalizes } :
        Connection Name).Held cache buf) := by
    intro pool buf listed
    have read := readable buf (part buf listed)
    have was := inv.held buf (part buf listed)
    cases buf with
    | memory => trivial
    | unopened message => exact was
    | inFile file message =>
      obtain ⟨copy, fd, found, is, isOpen⟩ := read
      obtain ⟨copy', found', named, -⟩ := was
      obtain rfl := some.inj (found.symm.trans found')
      exact ⟨copy, found, named, .inr ⟨fd, is, isOpen⟩⟩
  unfold Connection.deliver
  dsimp only
  split
  next empty =>
    refine ⟨inv.sound.flush, forall_mem_nil _, held _, ?_, ?_⟩
    · intro address message listed
      rw [empty.1] at listed
      exact absurd listed not_mem_nil
    · intro address message listed
      exact inv.request address message (part _ listed)
  next =>
    exact ⟨inv.sound, inv.copied, held _, fun address message listed =>
      inv.pooled address message (part _ listed), fun address message listed =>
      inv.request address message (part _ listed)⟩

section Building

variable [DecidableEq Name]

/-- Parts are added, and what is on the connection stays as it is. -/
structure Adds (state state' : FdCache Name × Connection Name) : Prop where
  sound : state'.1.Sound
  inv : state'.2.Inv state'.1
  keeps : state.1.Keeps state'.1
  finalized : state'.2.finalized = state.2.finalized

variable (state : FdCache Name × Connection Name)

include state

theorem addPart_adds (sound : state.1.Sound)
    (inv : state.2.Inv state.1) (kind : Kind) (now : Nat) (part : Part Name) :
    Adds state (addPart kind [] now state part) := by
  cases part with
  | memory =>
    refine ⟨sound, ⟨inv.sound, inv.copied, forall_mem_append.mpr
      ⟨inv.held, forall_mem_singleton.mpr trivial⟩, fun address message listed => ?_,
      fun address message listed => ?_⟩, .refl _, rfl⟩
    · refine inv.pooled address message ((mem_append.mp listed).resolve_right fun new => ?_)
      cases mem_singleton.mp new
    · refine inv.request address message ((mem_append.mp listed).resolve_right fun new => ?_)
      cases mem_singleton.mp new
  | message filename buffers =>
    obtain ⟨fd, cache, got, isOpen, sound', keeps⟩ := sound.get now (not_mem_nil (a := filename))
    have reserved := inv.reserveFile kind
    simp only [addPart, openFdIfNeeded, got]
    exact ⟨sound', reserved.inv (inv.of_keeps keeps) isOpen buffers, keeps, reserved.finalized⟩

theorem addParts_adds (sound : state.1.Sound)
    (inv : state.2.Inv state.1) (kind : Kind) (now : Nat) (parts : List (Part Name)) :
    Adds state (parts.foldl (addPart kind [] now) state) := by
  induction parts generalizing state with
  | nil => exact ⟨sound, inv, .refl _, rfl⟩
  | cons part parts ih =>
    have first := addPart_adds state sound inv kind now part
    have rest := ih _ first.sound first.inv
    exact ⟨rest.sound, rest.inv, first.keeps.trans rest.keeps,
      rest.finalized.trans first.finalized⟩

omit state in
theorem refresh_refreshed {addresses : List Nat} {state : FdCache Name × Connection Name}
    (sound : state.1.Sound) (now : Nat)
    (copied : ∀ address ∈ addresses, (state.2.files (.pooled address)).isSome = true) :
    Refreshed addresses state (refresh [] now addresses state) := by
  induction addresses generalizing state with
  | nil =>
    exact ⟨sound, .refl _, rfl, rfl, rfl, rfl, fun _ => rfl,
      forall_mem_nil _, fun _ _ => rfl⟩
  | cons address addresses ih =>
    obtain ⟨cache, conn⟩ := state
    obtain ⟨copy, found⟩ := isSome_iff_exists.mp (copied address mem_cons_self)
    obtain ⟨fd, cache', got, isOpen, sound', keeps⟩ :=
      sound.get now (not_mem_nil (a := copy.name))
    simp only at found
    let files := update conn.files (.pooled address) (some ⟨copy.name, some fd⟩)
    have step : refresh [] now (address :: addresses) (cache, conn) =
        refresh [] now addresses (cache', { conn with files := files }) := by
      simp [refresh, found, got, files]
    have names : ∀ file, (files file).map NgxFile.name = (conn.files file).map NgxFile.name := by
      intro file
      by_cases same : file = .pooled address
      · simp [files, same, found]
      · simp [files, update_of_ne same]
    have after := @ih (cache', { conn with files := files }) sound'
      fun other listed => by
        have was := copied other (mem_cons_of_mem _ listed)
        rw [← isSome_map (f := NgxFile.name), ← names, isSome_map] at was
        exact was
    rw [step]
    refine ⟨after.sound, keeps.trans after.keeps, after.out, after.pool, after.counts,
      after.finalized, fun file => ?_, fun other listed => ?_, fun file other => ?_⟩
    · exact (after.names file).trans (names file)
    · rcases mem_cons.mp listed with rfl | later
      · -- looked up just now, and perhaps once more after that
        by_cases again : other ∈ addresses
        · exact after.fresh other again
        · refine ⟨⟨copy.name, some fd⟩, fd, ?_, rfl, after.keeps fd _ isOpen⟩
          rw [after.others _ fun next listed same => again ?_]
          · simp [files]
          · exact FileAddr.pooled.inj same ▸ listed
      · exact after.fresh other later
    · have ne : file ≠ .pooled address := other address mem_cons_self
      rw [after.others file fun next listed => other next (mem_cons_of_mem _ listed)]
      simp [files, update_of_ne ne]

theorem refreshFiles_readable (sound : state.1.Sound)
    (inv : state.2.Inv state.1) (now : Nat) :
    Adds state (refreshFiles [] now state) ∧
      ∀ buf ∈ (refreshFiles [] now state).2.out,
        (refreshFiles [] now state).2.Readable (refreshFiles [] now state).1 buf := by
  obtain ⟨cache, conn⟩ := state
  cases finalized : conn.finalized with
  | true =>
    -- nothing is looked up, but then no buffer relies on it
    have same : refreshFiles [] now (cache, conn) = (cache, conn) := by
      simp [refreshFiles, finalized]
    rw [same]
    refine ⟨⟨sound, inv, .refl _, rfl⟩, fun buf listed => ?_⟩
    have held := inv.held buf listed
    cases buf with
    | memory => trivial
    | unopened message => exact held
    | inFile file message =>
      obtain ⟨copy, found, named, refreshed | ⟨fd, is, isOpen⟩⟩ := held
      · cases file <;> simp [refreshes, finalized] at refreshed
      · exact ⟨copy, fd, found, is, isOpen⟩
  | false =>
    have is : refreshFiles [] now (cache, conn) = refresh [] now conn.pool.used (cache, conn) := by
      simp [refreshFiles, finalized]
    rw [is]
    have refreshed := @refresh_refreshed _ _ _ (cache, conn) sound now inv.copied
    generalize refresh [] now conn.pool.used (cache, conn) = state' at refreshed
    obtain ⟨cache', conn'⟩ := state'
    have out : conn'.out = conn.out := refreshed.out
    have pool : conn'.pool = conn.pool := refreshed.pool
    have counts : conn'.requestFiles = conn.requestFiles := refreshed.counts
    refine ⟨⟨refreshed.sound, ⟨pool ▸ inv.sound, fun address inUse => ?_, fun buf listed => ?_,
      ?_, ?_⟩, refreshed.keeps, refreshed.finalized⟩, fun buf listed => ?_⟩
    · obtain ⟨copy, fd, found, -⟩ := refreshed.fresh address (pool ▸ inUse)
      exact isSome_iff_exists.mpr ⟨copy, found⟩
    · rw [out] at listed
      cases buf with
      | memory => trivial
      | unopened message => exact inv.held _ listed
      | inFile file message =>
        obtain ⟨copy, fd, found, named, is, isOpen⟩ := refreshed.isOpen inv listed
        exact ⟨copy, found, named, .inr ⟨fd, is, isOpen⟩⟩
    · rw [out, pool]
      exact inv.pooled
    · rw [out, counts]
      exact inv.request
    · rw [out] at listed
      cases buf with
      | memory => trivial
      | unopened message => exact inv.held _ listed
      | inFile file message =>
        obtain ⟨copy, fd, found, -, is, isOpen⟩ := refreshed.isOpen inv listed
        exact ⟨copy, fd, found, is, isOpen⟩

end Building

end Connection

/-! ## Runs -/

namespace Worker

variable {ι Name : Type} {w w' : Worker ι Name} {op : Op ι Name} {i : ι}

structure Inv (w : Worker ι Name) : Prop where
  sound : w.cache.Sound
  connection : ∀ i, (w.connections i).Inv w.cache

theorem Inv.gc (inv : w.Inv) (unhurried : w.Unhurried) :
    ({ w with cache := w.cache.gcTimerHandler w.now } : Worker ι Name).Inv := by
  obtain ⟨sound, kept⟩ := inv.sound.gc w.now
  refine ⟨sound, fun i => ?_⟩
  have conn := inv.connection i
  refine ⟨conn.sound, conn.copied, fun buf listed => ?_, conn.pooled, conn.request⟩
  have held := conn.held buf listed
  have fresh := unhurried i buf listed
  cases buf with
  | memory => trivial
  | unopened message => exact held
  | inFile file message =>
    obtain ⟨copy, found, named, refreshed | ⟨fd, is, isOpen⟩⟩ := held
    · exact ⟨copy, found, named, .inl refreshed⟩
    · refine ⟨copy, found, named, fresh.imp_right fun later => ⟨fd, is, ?_⟩⟩
      exact kept fd message isOpen fun thing cached same =>
        later copy found thing cached (same.trans is.symm)

variable [DecidableEq ι]

theorem Inv.set (inv : w.Inv) {state : FdCache Name × Connection Name}
    (adds : Connection.Adds (w.cache, w.connections i) state) : (w.set i state).Inv := by
  refine ⟨adds.sound, fun j => ?_⟩
  by_cases same : j = i
  · subst same
    simpa [Worker.set] using adds.inv
  · simpa [Worker.set, update_of_ne same] using (inv.connection j).of_keeps adds.keeps

theorem Inv.delivered (inv : w.Inv) (readable : w.Readable i) (finalizes : Bool) (sent : Nat) :
    (w.delivered i finalizes sent).Inv := by
  refine ⟨inv.sound, fun j => ?_⟩
  by_cases same : j = i
  · subst same
    simpa using (inv.connection j).deliver readable finalizes sent
  · simpa [update_of_ne same] using inv.connection j

variable [DecidableEq Name]

/-- Whenever the output filter is called in a good step, everything on the connection can be
    read. -/
theorem Inv.atOutput (inv : w.Inv) (good : Good op w) (called : w.atOutput op = some (i, w')) :
    w'.Inv ∧ w'.Readable i := by
  have set {state : FdCache Name × Connection Name}
      (adds : Connection.Adds (w.cache, w.connections i) state)
      (readable : ∀ buf ∈ state.2.out, state.2.Readable state.1 buf) :
      (w.set i state).Inv ∧ (w.set i state).Readable i := by
    refine ⟨inv.set adds, ?_⟩
    simpa [Worker.Readable, Worker.set] using readable
  cases op with
  | tick seconds => cases called
  | gc => cases called
  | lookup filename failing => cases called
  | respond j kind parts ends failing sent =>
    obtain rfl : failing = [] := good
    obtain ⟨-, is⟩ := ite_none_left_eq_some.mp called
    obtain ⟨rfl, rfl⟩ := Prod.mk.inj (some.inj is)
    have built := Connection.addParts_adds (w.cache, w.connections j) inv.sound (inv.connection j)
      kind w.now parts
    obtain ⟨refreshed, readable⟩ :=
      Connection.refreshFiles_readable _ built.sound built.inv w.now
    exact set ⟨refreshed.sound, refreshed.inv, built.keeps.trans refreshed.keeps,
      refreshed.finalized.trans built.finalized⟩ readable
  | flush j failing sent =>
    obtain rfl : failing = [] := good
    obtain ⟨rfl, rfl⟩ := Prod.mk.inj (some.inj called)
    obtain ⟨refreshed, readable⟩ :=
      Connection.refreshFiles_readable (w.cache, w.connections j) inv.sound (inv.connection j)
        w.now
    exact set refreshed readable

theorem step_inv (op : Op ι Name) (w : Worker ι Name) (inv : w.Inv) (good : Good op w) :
    ∃ w', step op w = some w' ∧ w'.Inv := by
  cases op with
  | tick seconds => exact ⟨_, rfl, inv.sound, inv.connection⟩
  | gc => exact ⟨_, rfl, inv.gc good⟩
  | lookup filename failing =>
    obtain rfl : failing = [] := good
    obtain ⟨fd, cache, got, -, sound, keeps⟩ :=
      inv.sound.get w.now (not_mem_nil (a := filename))
    refine ⟨_, rfl, ?_, fun i => ?_⟩
    · simpa [got] using sound
    · simpa [got] using (inv.connection i).of_keeps keeps
  | respond i kind parts ends failing sent =>
    cases called : w.atOutput (.respond i kind parts ends failing sent) with
    | none => exact ⟨w, by simp [step, called], inv⟩
    | some result =>
      obtain ⟨j, w'⟩ := result
      have same : j = i := by
        obtain ⟨-, is⟩ := ite_none_left_eq_some.mp called
        exact (Prod.mk.inj (some.inj is)).1.symm
      subst same
      obtain ⟨inv', readable⟩ := inv.atOutput good called
      exact ⟨_, by simp only [step, called]; rfl, inv'.delivered readable _ _⟩
  | flush i failing sent =>
    obtain ⟨inv', readable⟩ := inv.atOutput good rfl
    exact ⟨_, rfl, inv'.delivered readable _ _⟩

/-- In a run in which every file opens and no gc pass finds an entry expired whose descriptor is
    in use by a long-poll response, every buffer on a connection can be read whenever the output
    filter is called on it. -/
theorem file_buffers_readable (ops : List (Op ι Name)) (op : Op ι Name)
    (good : Run.Along step Good (ops ++ [op]) initial) :
    ∃ w, run step ops initial = some w ∧
      ∀ i w', w.atOutput op = some (i, w') → w'.Readable i := by
  have initially : (initial : Worker ι Name).Inv :=
    ⟨FdCache.empty_sound, fun _ => Connection.initial_inv _⟩
  obtain ⟨before, last⟩ := along_split good
  obtain ⟨w, reaches, inv⟩ := run_keeps step_inv initially before
  exact ⟨w, reaches, fun i w' called => (inv.atOutput (last w reaches).1 called).2⟩

/-- A chunk waits longer than its descriptor lives. -/
def slowStream : List (Op Unit String) :=
  [.respond () .chunked [.memory, .message "a" 1, .memory] false [] 1, .tick 6, .gc]

theorem file_buffers_readable_slow_stream :
    ∃ w w', run step slowStream initial = some w ∧
      w.atOutput (.flush () [] 2) = some ((), w') ∧
      (w'.connections ()).out = [.inFile (.pooled 0) "a", .memory] ∧ w'.Readable () := by
  have good : Run.Along step Good (slowStream ++ [.flush () [] 2]) initial := by
    refine ⟨rfl, fun w is => ?_⟩
    cases is
    refine ⟨trivial, fun w is => ?_⟩
    cases is
    refine ⟨fun i buf listed => ?_, fun w is => ⟨rfl, fun _ _ => trivial⟩⟩
    have two : buf ∈ [.inFile (.pooled 0) "a", .memory] := listed
    rcases mem_cons.mp two with rfl | last
    · exact .inl rfl
    · obtain rfl := mem_singleton.mp last
      trivial
  obtain ⟨w, reaches, readable⟩ := file_buffers_readable slowStream (.flush () [] 2) good
  exact ⟨w, _, reaches, rfl, some.inj reaches ▸ rfl, readable () _ rfl⟩

/-- A long-poll response waits longer than its descriptor lives. -/
def slowLongpoll : List (Op Unit String) :=
  [.respond () .longpoll [.message "a" 1] false [] 0, .tick 6, .gc]

theorem slow_longpoll_unreadable :
    ∃ w w', run step slowLongpoll initial = some w ∧
      w.atOutput (.flush () [] 1) = some ((), w') ∧ ¬ w'.Readable () := by
  refine ⟨_, _, rfl, rfl, fun readable => ?_⟩
  obtain ⟨copy, fd, found, is, isOpen⟩ :=
    readable (.inFile (.request 0) "a") mem_cons_self
  cases found
  cases is
  cases isOpen

end Worker

end Nchan.Output
