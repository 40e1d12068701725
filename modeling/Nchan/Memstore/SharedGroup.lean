import Mathlib.Algebra.Order.Ring.Int

/-! # The shared group

`nchan_group_t`: the counters of a group in shared memory, with its limits, and what a
channel, a message and a subscriber add to the counters.
-/

namespace Nchan.Memstore

/-! ## Sizes of messages -/

/-- The sizes of the structs that a message in shared memory is made of. -/
structure Sizes where
  msg : Nat
  file : Nat
  str : Nat
  compressedMsg : Nat
  deriving DecidableEq

/-- `ngx_buf_t`: whether the body is in memory and in a file, `ngx_buf_size` of it, and the
    length of the file's name where there is a file. -/
structure Buf where
  inMemory : Bool
  inFile : Bool
  size : Nat
  file : Option Nat
  deriving DecidableEq

/-- `nchan_msg_t`, with strings by their length. -/
structure Message where
  buf : Buf
  contentType : Option Nat
  eventsourceEvent : Option Nat
  compressed : Option Buf
  deriving DecidableEq

/-- `ngx_buf_in_memory_only`. -/
def Buf.inMemoryOnly (buf : Buf) : Bool := buf.inMemory && !buf.inFile

/-- `memstore_buf_memsize`. -/
def memstoreBufMemsize (sizes : Sizes) (buf : Buf) : Nat :=
  match buf.inFile, buf.file with
  -- one more to ensure NUL-terminated filename string
  | true, some name => sizes.file + name + 1
  | _, _ => if buf.inMemoryOnly then buf.size else 0

/-- A string with its `ngx_str_t`. -/
def optionalStr (sizes : Sizes) : Option Nat → Nat
  | none => 0
  | some len => len + sizes.str

/-- `memstore_msg_memsize`. -/
def memstoreMsgMemsize (sizes : Sizes) (m : Message) : Nat :=
  let compressed := match m.compressed with
    | none => 0
    | some buf => sizes.compressedMsg + memstoreBufMemsize sizes buf
  sizes.msg + (memstoreBufMemsize sizes m.buf + optionalStr sizes m.contentType
    + optionalStr sizes m.eventsourceEvent + compressed)

/-- `file_sz` of `memstore_group_add_message_generic`. -/
def msgFilesize (m : Message) : Nat := if m.buf.inMemoryOnly then 0 else m.buf.size

/-! ## Counters -/

inductive Counter where
  | channels | multiplexedChannels | subscribers
  | messages | messagesShmemBytes | messagesFileBytes
  deriving DecidableEq

abbrev Counters := Counter → Int

/-- `nchan_group_limits_t`; 0 is no limit. -/
structure GroupLimits where
  channels : Int
  subscribers : Int
  messages : Int
  messagesShmemBytes : Int
  messagesFileBytes : Int
  deriving DecidableEq

/-- `nchan_group_t`. -/
structure SharedGroup where
  count : Counters
  limit : GroupLimits

/-- What a channel counts for: the ids of several channels are counted apart, and other
    channels only where they are owned. -/
def channelCount (multi selfOwned : Bool) : Counters
  | .channels => if !multi && selfOwned then 1 else 0
  | .multiplexedChannels => if multi then 1 else 0
  | _ => 0

@[simp] def messageCount (memSz fileSz : Nat) : Counters
  | .messages => 1
  | .messagesShmemBytes => memSz
  | .messagesFileBytes => fileSz
  | _ => 0

def subscriberCount : Counters
  | .subscribers => 1
  | _ => 0

/-- `n` times `each` is added to the counters. -/
def addCount (n : Int) (each : Counters) (count : Counters) : Counters :=
  fun k => count k + n * each k

/-- `group_add_channel_internal`. -/
def groupAddChannelInternal (multi selfOwned : Bool) (n : Int) : Counters → Counters :=
  addCount n (channelCount multi selfOwned)

/-- `group_add_message_internal`. -/
def groupAddMessageInternal (memSz fileSz : Nat) (n : Int) : Counters → Counters :=
  addCount n (messageCount memSz fileSz)

/-- `group_add_subscribers_internal`. -/
def groupAddSubscribersInternal (n : Int) : Counters → Counters :=
  addCount n subscriberCount

theorem channelCount_nonneg (multi selfOwned : Bool) (k : Counter) :
    0 ≤ channelCount multi selfOwned k := by
  cases k <;> simp only [channelCount] <;> first | exact le_rfl | (split <;> decide)

theorem messageCount_nonneg (memSz fileSz : Nat) (k : Counter) : 0 ≤ messageCount memSz fileSz k := by
  cases k <;> simp

theorem subscriberCount_nonneg (k : Counter) : 0 ≤ subscriberCount k := by
  cases k <;> simp [subscriberCount]

end Nchan.Memstore
