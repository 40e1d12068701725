import Nchan.Lib.Partial
import Mathlib.Algebra.GroupWithZero.Nat
import Mathlib.Data.List.Nodup

/-! # One buffer for a body

`nchan_chain_to_single_buffer` copies the buffers of a request body or of an upstream response
into a new one.  It returns the first buffer instead if that is the only one or is in a file, and
it reads a file from its start and closes it.
-/

namespace Nchan.BodyBuffer

open List Option

abbrev Bytes := List UInt8

/-- `pos` to `last` in memory, or `file_pos` to `file_last` of a file. -/
inductive Buf where
  | memory (data : Bytes)
  | inFile (file filePos fileLast : Nat)
  deriving DecidableEq

namespace Buf

/-- `ngx_buf_size` -/
def size : Buf → Nat
  | memory data => data.length
  | inFile _ filePos fileLast => fileLast - filePos

def file? : Buf → Option Nat
  | memory _ => none
  | inFile file _ _ => some file

def content (files : Nat → Bytes) : Buf → Bytes
  | memory data => data
  | inFile file filePos fileLast => ((files file).drop filePos).take (fileLast - filePos)

def Readable (files : Nat → Bytes) : Buf → Prop
  | memory _ => True
  | inFile file filePos fileLast => filePos ≤ fileLast ∧ fileLast ≤ (files file).length

end Buf

/-! ## The copy -/

/-- The new buffer, with offsets from its `pos`. -/
structure Dest where
  mem : Bytes
  start : Nat := 0
  last : Nat := 0
  closed : List Nat := []

/-- Copies to `start` and moves `start` and `last` to `last`. -/
def Dest.write (d : Dest) (data : Bytes) (last : Nat) : Dest :=
  { d with
    mem := d.mem.take d.start ++ data ++ d.mem.drop (d.start + data.length)
    start := last
    last := last }

def copyPart (files : Nat → Bytes) (contentLength : Nat) (d : Dest) (buf : Buf) : Option Dest :=
  -- all of the content is in this buffer
  let whole := contentLength ≤ buf.size
  let d := if whole then { d with start := 0, last := 0 } else d
  let len := if whole then contentLength else buf.size
  match buf with
  | .memory data => some (d.write (data.take len) (d.start + len))
  | .inFile file _ _ =>
    -- `ngx_read_file` at offset 0; then the file is deleted and its `fd` invalid
    if file ∈ d.closed then none
    else some { d.write ((files file).take len) (d.last + len) with closed := file :: d.closed }

/-- The returned buffer, or `none` if a file cannot be read. -/
def nchanChainToSingleBuffer (files : Nat → Bytes) (first : Buf) (rest : List Buf)
    (contentLength : Nat) : Option Buf :=
  if rest = [] then some first
  else if first.file?.isSome then some first
  else
    ((first :: rest).foldlM (copyPart files contentLength)
      { mem := replicate (contentLength + 1) 0 }).map fun d => .memory (d.mem.take d.last)

/-! ## What is copied -/

def Buf.front (files : Nat → Bytes) : Buf → Bytes
  | memory data => data
  | inFile file filePos fileLast => (files file).take (fileLast - filePos)

/-- `written` is in the new buffer, and zeros behind it. -/
structure Dest.Holds (d : Dest) (contentLength : Nat) (written : Bytes) : Prop where
  mem : d.mem = written ++ replicate (contentLength + 1 - written.length) 0
  start : d.start = written.length
  last : d.last = written.length

variable {files : Nat → Bytes} {buf : Buf} {chain : List Buf} {d : Dest} {contentLength : Nat}
  {written : Bytes}

theorem Buf.Readable.length_front (readable : buf.Readable files) :
    (buf.front files).length = buf.size := by
  cases buf with
  | memory => rfl
  | inFile =>
    obtain ⟨order, short⟩ := readable
    simp only [front, length_take, size]
    omega

theorem Buf.Readable.length_content (readable : buf.Readable files) :
    (buf.content files).length = buf.size := by
  cases buf with
  | memory => rfl
  | inFile =>
    obtain ⟨order, short⟩ := readable
    simp only [content, length_take, length_drop, size]
    omega

section

variable (holds : d.Holds contentLength written)

include holds

theorem Dest.Holds.write (data : Bytes) :
    (d.write data (written.length + data.length)).Holds contentLength (written ++ data) where
  mem := by
    simp only [Dest.write, holds.start, holds.mem, take_left, drop_append, drop_replicate,
      length_append, append_assoc]
    simp [Nat.sub_sub]
  start := by simp [Dest.write]
  last := by simp [Dest.write]

theorem copyPart_holds (readable : buf.Readable files)
    (room : written.length + buf.size ≤ contentLength)
    (opened : ∀ file ∈ buf.file?, file ∉ d.closed) :
    ∃ d', copyPart files contentLength d buf = some d' ∧
      d'.closed = buf.file?.toList ++ d.closed ∧
      d'.Holds contentLength (written ++ buf.front files) := by
  -- a buffer with all of the content has only empty ones before it
  have reset : (if contentLength ≤ buf.size then { d with start := 0, last := 0 } else d) = d := by
    split
    · obtain rfl : written = [] := length_eq_zero_iff.mp (by omega)
      cases d
      simpa using ⟨holds.start.symm, holds.last.symm⟩
    · rfl
  have len : (if contentLength ≤ buf.size then contentLength else buf.size) = buf.size := by
    split <;> omega
  have part := holds.write (buf.front files)
  rw [readable.length_front] at part
  cases buf with
  | memory data =>
    refine ⟨d.write data _, ?_, rfl, part⟩
    simp only [copyPart, reset, len]
    simp [Buf.size, holds.start]
  | inFile file filePos fileLast =>
    refine ⟨{ d.write _ _ with closed := file :: d.closed }, ?_, rfl, part.mem, part.start, part.last⟩
    simp only [copyPart, reset, len, if_neg (opened file rfl), holds.last]
    rfl

/-- The whole chain is copied, unless a file is closed when it is needed again. -/
theorem copy_eq (open_ : d.closed.Nodup)
    (readable : ∀ buf ∈ chain, buf.Readable files)
    (room : written.length + (chain.map Buf.size).sum ≤ contentLength) :
    if (chain.filterMap Buf.file? ++ d.closed).Nodup then
      ∃ d', chain.foldlM (copyPart files contentLength) d = some d' ∧
        d'.Holds contentLength (written ++ chain.flatMap (Buf.front files))
    else chain.foldlM (copyPart files contentLength) d = none := by
  induction chain generalizing d written with
  | nil => simpa [open_] using holds
  | cons buf chain ih =>
    obtain ⟨here, others⟩ := forall_mem_cons.mp readable
    rw [map_cons, sum_cons] at room
    by_cases opened : ∀ file ∈ buf.file?, file ∉ d.closed
    · obtain ⟨d', copied, closed, holds'⟩ := copyPart_holds holds here (by omega) opened
      have same : ((buf :: chain).filterMap Buf.file? ++ d.closed).Perm
          (chain.filterMap Buf.file? ++ d'.closed) := by
        rw [closed]
        cases buf with
        | memory => rfl
        | inFile => exact perm_middle.symm
      have step := ih holds' (by cases buf <;> simp_all [Buf.file?]) others
        (by rw [length_append, here.length_front]; omega)
      have next : (buf :: chain).foldlM (copyPart files contentLength) d =
          chain.foldlM (copyPart files contentLength) d' := by rw [foldlM_cons, copied]; rfl
      simpa [next, same.nodup_iff] using step
    · cases buf with
      | memory => simp [Buf.file?] at opened
      | inFile file filePos fileLast =>
        have closed : file ∈ d.closed := by simpa [Buf.file?] using opened
        rw [if_neg (by simp [Buf.file?, closed]), foldlM_cons]
        have fails : copyPart files contentLength d (.inFile file filePos fileLast) = none := by
          simp only [copyPart]
          split <;> rfl
        rw [fails]
        rfl

end

/-! ## What is returned -/

/-- The bytes of a buffer are also those at the start of its file. -/
def Buf.FromStart (files : Nat → Bytes) (buf : Buf) : Prop := buf.front files = buf.content files

/-- The chains of which the whole body is returned. -/
def Complete (files : Nat → Bytes) (first : Buf) (rest : List Buf) : Prop :=
  if first.file?.isSome then ∀ buf ∈ rest, buf.size = 0
  else rest = [] ∨ (rest.filterMap Buf.file?).Nodup ∧ ∀ buf ∈ rest, buf.FromStart files

theorem flatMap_front_eq_iff (readable : ∀ buf ∈ chain, buf.Readable files) :
    chain.flatMap (Buf.front files) = chain.flatMap (Buf.content files) ↔
      ∀ buf ∈ chain, buf.FromStart files := by
  induction chain with
  | nil => simp
  | cons buf chain ih =>
    obtain ⟨here, others⟩ := forall_mem_cons.mp readable
    rw [flatMap_cons, flatMap_cons, forall_mem_cons, ← ih others]
    have same := here.length_front.trans here.length_content.symm
    exact ⟨fun all => List.append_inj all same, fun both => both.2 ▸ congrArg (· ++ _) both.1⟩

theorem flatMap_content_eq_nil_iff (readable : ∀ buf ∈ chain, buf.Readable files) :
    chain.flatMap (Buf.content files) = [] ↔ ∀ buf ∈ chain, buf.size = 0 := by
  rw [flatMap_eq_nil_iff]
  refine forall₂_congr fun buf listed => ?_
  rw [← (readable buf listed).length_content, length_eq_zero_iff]

/-- For every chain of readable buffers of the given size: a buffer is returned that holds the
    whole body exactly if the chain is `Complete`. -/
theorem single_buffer_complete_iff (files : Nat → Bytes) (first : Buf) (rest : List Buf)
    (contentLength : Nat) (readable : ∀ buf ∈ first :: rest, buf.Readable files)
    (sizes : ((first :: rest).map Buf.size).sum = contentLength) :
    (∃ buf, nchanChainToSingleBuffer files first rest contentLength = some buf ∧
      buf.content files = (first :: rest).flatMap (Buf.content files)) ↔
    Complete files first rest := by
  have alone : first.content files = (first :: rest).flatMap (Buf.content files) ↔
      ∀ buf ∈ rest, buf.size = 0 := by
    rw [flatMap_cons, self_eq_append_right,
      flatMap_content_eq_nil_iff (forall_mem_cons.mp readable).2]
  unfold nchanChainToSingleBuffer Complete
  by_cases single : rest = []
  · simp [single]
  cases first with
  | inFile file filePos fileLast => simpa [Buf.file?] using alone
  | memory data =>
    have start : Dest.Holds { mem := replicate (contentLength + 1) 0 } contentLength [] :=
      ⟨by simp, rfl, rfl⟩
    have copied := copy_eq start nodup_nil readable (by simp [← sizes])
    have all := (flatMap_front_eq_iff readable).trans
      (forall_mem_cons.trans (and_iff_right (show Buf.FromStart files (.memory data) from rfl)))
    rw [if_neg single, if_neg (by simp [Buf.file?]), if_neg (by simp [Buf.file?]),
      or_iff_right single, ← all]
    rw [append_nil, filterMap_cons_none rfl] at copied
    split at copied
    case isTrue distinct =>
      obtain ⟨d, copied, holds⟩ := copied
      rw [nil_append] at holds
      simp only [copied, map_some, holds.mem, holds.last, take_left, distinct, true_and]
      simp [Buf.content]
    case isFalse repeated =>
      simp [copied, repeated]

/-- A body in memory with the rest of it at the start of a file. -/
theorem single_buffer_complete_spilled :
    ∃ buf, nchanChainToSingleBuffer (fun _ => [3, 4, 5]) (.memory [1, 2])
        [.inFile 7 0 2, .memory [6]] 5 = some buf ∧
      buf.content (fun _ => [3, 4, 5]) = [1, 2, 3, 4, 6] :=
  (single_buffer_complete_iff (fun _ => [3, 4, 5]) (.memory [1, 2]) [.inFile 7 0 2, .memory [6]] 5
    (by simp [Buf.Readable]) (by decide)).mpr
    (.inr ⟨by decide, by simp [Buf.FromStart, Buf.front, Buf.content]⟩)

/-- The rest is in a file, but not at its start. -/
theorem single_buffer_wrong_part :
    nchanChainToSingleBuffer (fun _ => [3, 4, 5]) (.memory [1, 2]) [.inFile 7 1 3] 4 =
      some (.memory [1, 2, 3, 4]) ∧
    (Buf.inFile 7 1 3).content (fun _ => [3, 4, 5]) = [4, 5] := by decide

end Nchan.BodyBuffer
