import Nchan.Lib.Outbox
import Nchan.Lib.Recycle
import Nchan.Lib.Run
import Nchan.Output.Responses
import Mathlib.Data.Fintype.Basic

/-! # Output that waits for the client

The connections of a worker and what is written to them.  What a client does not take at once
stays in `r->out`, as references, and is sent at write events.  Until `r->out` is empty the
connection keeps the links and the entries that it has handed out, and the messages are reserved.
That is enough for everything the connection or a message owns.  It is not for the rest: a static
variable is written again by the next response of the kind, on any connection, and the stack by
any call.
-/

namespace Nchan.Output.Pending

open Nchan.Lib Function

variable {ι M : Type}

inductive Region (ι M : Type) where
  | fixed (text : Bytes)
  | entry (i : ι) (address : Nat)
  | message (m : M) (field : Field)
  | scratch (memory : Scratch)
  deriving DecidableEq

/-- Where a buffer is: in a link of a connection's pool, in the memory of a request, which is
    not reused, or on the stack. -/
inductive BufAddr (ι : Type) where
  | link (i : ι) (address : Nat)
  | request (i : ι) (number : Nat)
  | stack
  deriving DecidableEq

/-- A connection with `ctx->bcp`, `ctx->output_str_queue` and `r->out`; what has been written to
    it, and what all its responses were when they were produced. -/
structure Connection (ι : Type) where
  finalized : Bool
  bcp : Recycle
  outputStrQueue : Recycle
  requestBufs : Nat
  out : List (BufAddr ι)
  written : Bytes
  produced : Bytes

def Connection.initial : Connection ι := ⟨false, .empty, .empty, 0, [], [], []⟩

/-- A worker: its memory, its buffers, and its connections.  `reserved` are the entries of every
    connection's `reserved_msg_queue`. -/
structure Worker (ι M : Type) where
  messages : M → Message
  entries : ι × Nat → Bytes
  scratch : Scratch → Bytes
  bufs : BufAddr ι → Slice (Region ι M)
  reserved : List (ι × M)
  connections : ι → Connection ι

/-- What happens next.  `accepts` says how many bytes the socket takes. -/
inductive Op (ι M : Type) where
  | respond (i : ι) (response : Response M) (accepts : Nat)
  | writeEvent (i : ι) (accepts : Nat)
  | finalize (i : ι)
  | store (m : M) (msg : Message)
  | call (buf : Slice (Region ι M)) (text : Bytes)

namespace Worker

def initial (messages : M → Message) : Worker ι M :=
  ⟨messages, fun _ => [], fun _ => [], fun _ => ⟨.fixed [], 0, 0⟩, [], fun _ => .initial⟩

def mem (w : Worker ι M) : Region ι M → Bytes
  | .fixed text => text
  | .entry i address => w.entries (i, address)
  | .message m field => (w.messages m).field field
  | .scratch memory => w.scratch memory

/-- What is still to be written to a connection, as it reads now. -/
def pending (i : ι) (w : Worker ι M) : Bytes := Outbox.reading w.mem w.bufs (w.connections i).out

variable [DecidableEq ι] [DecidableEq M]

def set (i : ι) (conn : Connection ι) (w : Worker ι M) : Worker ι M :=
  { w with connections := update w.connections i conn }

/-! ## Making a response -/

def slicesFrom (region : Region ι M) (pos : Nat) : List Bytes → List (Slice (Region ι M))
  | [] => []
  | text :: rest => ⟨region, pos, text.length⟩ :: slicesFrom region (pos + text.length) rest

/-- `nchan_reuse_queue_push`, and the text is written into the entry. -/
def pushEntry (i : ι) (text : Bytes) (w : Worker ι M) : Worker ι M :=
  let conn := w.connections i
  let (address, queue) := conn.outputStrQueue.reserve
  { w.set i { conn with outputStrQueue := queue } with
    entries := update w.entries (i, address) (overwrite text (w.entries (i, address))) }

def writeScratch (memory : Scratch) (text : Bytes) (w : Worker ι M) : Worker ι M :=
  { w with scratch := update w.scratch memory (overwrite text (w.scratch memory)) }

/-- A buffer for a part.  Links are taken from the pool one at a time here; which one a part gets
    is of no consequence. -/
def newBuf (i : ι) (chain : Chain M) (conn : Connection ι) : BufAddr ι × Connection ι :=
  match chain with
  | .pooled _ _ => (.link i conn.bcp.reserve.1, { conn with bcp := conn.bcp.reserve.2 })
  | .request _ => (.request i conn.requestBufs, { conn with requestBufs := conn.requestBufs + 1 })
  | .stack _ => (.stack, conn)

def appendBuf (i : ι) (b : BufAddr ι) (conn : Connection ι) (s : Slice (Region ι M))
    (w : Worker ι M) : Worker ι M :=
  { w.set i { conn with out := conn.out ++ [b] } with bufs := update w.bufs b s }

def addBuf (i : ι) (chain : Chain M) (w : Worker ι M) (s : Slice (Region ι M)) : Worker ι M :=
  let (b, conn) := newBuf i chain (w.connections i)
  w.appendBuf i b conn s

/-- The bytes of a part are put where they belong, and its buffers refer to them. -/
def addPart (i : ι) (chain : Chain M) (w : Worker ι M) (part : Part M) : Worker ι M :=
  match part with
  | .fixed text => w.addBuf i chain ⟨.fixed text, 0, text.length⟩
  | .queued texts =>
    let address := (w.connections i).outputStrQueue.reserve.1
    (slicesFrom (.entry i address) 0 texts).foldl (addBuf i chain) (w.pushEntry i texts.flatten)
  | .message m field pos len => w.addBuf i chain ⟨.message m field, pos, len⟩
  | .scratch memory text =>
    (w.writeScratch memory text).addBuf i chain ⟨.scratch memory, 0, text.length⟩

def addChain (i : ι) (chain : Chain M) (w : Worker ι M) : Worker ι M :=
  chain.parts.foldl (addPart i chain) w

/-! ## Sending -/

/-- `ngx_http_output_filter`. -/
def outputFilter (i : ι) (accepts : Nat) (w : Worker ι M) : Worker ι M :=
  let conn := w.connections i
  let (out, bufs) := Outbox.send accepts conn.out w.bufs
  { w.set i { conn with out := out, written := conn.written ++ (w.pending i).take accepts } with
    bufs := bufs }

/-- `flush_all_the_reserved_things`. -/
def flushAllTheReservedThings (i : ι) (w : Worker ι M) : Worker ι M :=
  let conn := w.connections i
  { w.set i { conn with
      bcp := conn.bcp.flush, outputStrQueue := conn.outputStrQueue.flushUsed } with
    reserved := w.reserved.filter fun entry => entry.1 ≠ i }

/-- `nchan_output_filter_generic`, where `c->buffered` is set just while `r->out` is not empty. -/
def nchanOutputFilterGeneric (i : ι) (message : Option M) (accepts : Nat) (w : Worker ι M) :
    Worker ι M :=
  let w := w.outputFilter i accepts
  if (w.connections i).out = [] then w.flushAllTheReservedThings i
  else { w with reserved := (message.toList.map fun m => (i, m)) ++ w.reserved }

def record (i : ι) (text : Bytes) (w : Worker ι M) : Worker ι M :=
  let conn := w.connections i
  w.set i { conn with produced := conn.produced ++ text }

def respond (i : ι) (chain : Chain M) (accepts : Nat) (w : Worker ι M) : Worker ι M :=
  ((w.addChain i chain).record i (chain.text w.messages)).nchanOutputFilterGeneric i chain.message
    accepts

/-- One step.  Nothing more is sent to a request that is finalized, and what is left is written
    by nginx, which does not call back. -/
def step (ext : Externals) (op : Op ι M) (w : Worker ι M) : Option (Worker ι M) :=
  match op with
  | .respond i response accepts =>
    if (w.connections i).finalized then some w
    else (response.chain ext w.messages).map fun chain =>
      if chain.parts.isEmpty then w else w.respond i chain accepts
  | .writeEvent i accepts =>
    some (if (w.connections i).finalized then w.outputFilter i accepts
      else w.nchanOutputFilterGeneric i none accepts)
  | .finalize i => some (w.set i { w.connections i with finalized := true })
  | .store m msg =>
    if m ∈ w.reserved.map Prod.snd then none
    else some { w with messages := update w.messages m msg }
  | .call buf text =>
    some { w with
      bufs := update w.bufs .stack buf
      scratch := update w.scratch .stack text }

/-- Nothing that waits refers to the memory. -/
def Unreferred (memory : Scratch) (w : Worker ι M) : Prop :=
  ∀ i, ∀ b ∈ (w.connections i).out, (w.bufs b).region ≠ .scratch memory

/-- A static variable is written only while nothing that waits refers to it, and a response that
    needs the stack is taken by the client at once. -/
def Good (ext : Externals) (op : Op ι M) (w : Worker ι M) : Prop :=
  match op with
  | .respond i response accepts => ∀ chain ∈ response.chain ext w.messages,
      (∀ memory ∈ chain.uses, memory ≠ .stack → w.Unreferred memory) ∧
      (.stack ∈ chain.uses → (w.pending i).length + (chain.text w.messages).length ≤ accepts)
  | _ => True

instance [Fintype ι] (memory : Scratch) (w : Worker ι M) : Decidable (w.Unreferred memory) :=
  inferInstanceAs (Decidable (∀ _, ∀ b ∈ _, _))

instance [Fintype ι] (ext : Externals) (op : Op ι M) (w : Worker ι M) : Decidable (Good ext op w) :=
  match op with
  | .respond .. =>
    inferInstanceAs (Decidable (∀ chain ∈ _, (∀ memory ∈ _, _ → Worker.Unreferred _ _) ∧ (_ → _)))
  | .writeEvent _ _ | .finalize _ | .store _ _ | .call _ _ => .isTrue trivial

end Worker

end Nchan.Output.Pending
