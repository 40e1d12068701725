import Mathlib.Algebra.Order.BigOperators.Group.List
import Mathlib.Tactic.Ring
import Nchan.Memstore.GroupLimits

/-! # Limits on messages

A publish stores one copy of its message in the buffer of each channel of its id.  Every copy is
counted if its chanhead has a node of the group, while the check before it looks at the message
once, and at its memory once for each channel.
-/

namespace Nchan.Memstore.GroupLimits

open List

/-! ## A publish to several channels -/

/-- A publish to the channels of an id: whether the location buffers messages at all, and for each
    channel whether its chanhead has a `groupnode`, which it gets from the location that made it. -/
structure Publish where
  message : Message
  buffered : Bool
  groupnode : Bool
  groupnodes : List Bool

def Publish.channels (p : Publish) : List Bool := p.groupnode :: p.groupnodes

/-- What the group and the channels are like at a publish: what is found of the id, and for each
    channel the messages that `memstore_chanhead_messages_gc` takes out of its buffer meanwhile,
    which are old or too many. -/
structure Meanwhile where
  found : Lookup
  removed : Nat → List Message

/-- `memstore_group_add_message` and `memstore_group_remove_message`, with the group known. -/
def memstoreGroupAddMessage (sizes : Sizes) (n : Int) (m : Message) : Counters → Counters :=
  groupAddMessageInternal (memstoreMsgMemsize sizes m) (msgFilesize m) n

/-- What publishing to one channel does to the counters: nothing, without a node of the group. -/
def publishToSingleChannelId (sizes : Sizes) (p : Publish) (groupnode : Bool)
    (removed : List Message) (count : Counters) : Counters :=
  if groupnode then
    let count := removed.foldl (fun count m => memstoreGroupAddMessage sizes (-1) m count) count
    if p.buffered then memstoreGroupAddMessage sizes 1 p.message count else count
  else count

/-- `nchan_store_publish_message_generic`, over the channels of the id. -/
def publishMessageGeneric (sizes : Sizes) (p : Publish) (removed : Nat → List Message)
    (count : Counters) : Counters :=
  p.channels.zipIdx.foldl
    (fun count c => publishToSingleChannelId sizes p c.1 (removed c.2) count) count

/-- `nchan_store_publish_message` with group accounting. -/
def publishMessage (sizes : Sizes) (g : SharedGroup) (p : Publish) (m : Meanwhile) :
    Verdict × SharedGroup :=
  match groupPublishAccountingCheck sizes g p.channels.length p.message m.found with
  | .accepted => (.accepted, { g with count := publishMessageGeneric sizes p m.removed g.count })
  | refused => (refused, g)

def stored (sizes : Sizes) (g : SharedGroup) (p : Publish) : Counters :=
  publishMessageGeneric sizes p (fun _ => []) g.count

/-- The counters are within the limits on messages. -/
def Within (g : SharedGroup) : Prop :=
  g.count .messages ≤ g.limit.messages ∧
    g.count .messagesShmemBytes ≤ g.limit.messagesShmemBytes ∧
    g.count .messagesFileBytes ≤ g.limit.messagesFileBytes

/-- All limits on messages are set. -/
structure MessagesLimited (g : SharedGroup) : Prop where
  messages : 0 < g.limit.messages
  memory : 0 < g.limit.messagesShmemBytes
  disk : 0 < g.limit.messagesFileBytes

/-- What the limits are for: an accepted publish keeps the counters within them, and a publish
    is refused for one only if storing it goes over it. -/
structure LimitsBound (sizes : Sizes) (g : SharedGroup) (p : Publish) (m : Meanwhile) : Prop where
  accepted : (publishMessage sizes g p m).1 = .accepted → Within g →
    Within (publishMessage sizes g p m).2
  messages : (publishMessage sizes g p m).1 = .forbidden .messages →
    g.limit.messages < stored sizes g p .messages
  memory : (publishMessage sizes g p m).1 = .forbidden .memory →
    g.limit.messagesShmemBytes < stored sizes g p .messagesShmemBytes
  disk : (publishMessage sizes g p m).1 = .forbidden .disk →
    g.limit.messagesFileBytes < stored sizes g p .messagesFileBytes

/-- The publishes whose effect the check foresees: they store one copy, which is counted, and a
    body that is in memory only is empty. -/
structure Foreseen (p : Publish) : Prop where
  buffered : p.buffered = true
  counted : p.groupnode = true
  single : p.groupnodes = []
  onDisk : p.message.buf.inMemoryOnly = true → p.message.buf.size = 0

/-! ## The counters -/

section

variable (sizes : Sizes) (count : Counters)

def total (ms : List Message) (k : Counter) : Int :=
  (ms.map fun m => messageCount (memstoreMsgMemsize sizes m) (msgFilesize m) k).sum

theorem total_nonneg (ms : List Message) (k : Counter) : 0 ≤ total sizes ms k :=
  sum_nonneg fun _ is => by
    obtain ⟨m, -, rfl⟩ := mem_map.mp is
    exact messageCount_nonneg _ _ k

theorem memstoreGroupAddMessage_apply (n : Int) (m : Message) (k : Counter) :
    memstoreGroupAddMessage sizes n m count k =
      count k + n * messageCount (memstoreMsgMemsize sizes m) (msgFilesize m) k := rfl

theorem remove_messages (ms : List Message) (k : Counter) :
    ms.foldl (fun count m => memstoreGroupAddMessage sizes (-1) m count) count k =
      count k - total sizes ms k := by
  induction ms generalizing count with
  | nil => simp [total]
  | cons m ms ih =>
    rw [foldl_cons, ih]
    simp only [memstoreGroupAddMessage_apply, total, map_cons, sum_cons]
    ring

theorem foldl_stored (p : Publish) (nodes : List Bool) (start : Nat) (k : Counter) :
    (nodes.zipIdx start).foldl
      (fun count c => publishToSingleChannelId sizes p c.1 [] count) count k =
      count k + if p.buffered then nodes.count true *
        messageCount (memstoreMsgMemsize sizes p.message) (msgFilesize p.message) k
      else 0 := by
  induction nodes generalizing count start with
  | nil => simp
  | cons node nodes ih =>
    rw [zipIdx_cons, foldl_cons, ih]
    cases node <;> cases buffered : p.buffered <;> simp [publishToSingleChannelId, buffered,
      -messageCount]
    rw [memstoreGroupAddMessage_apply]
    ring

end

variable {sizes : Sizes} {g : SharedGroup} {p : Publish} {m : Meanwhile}

theorem stored_eq (k : Counter) : stored sizes g p k =
    g.count k + if p.buffered then p.channels.count true *
      messageCount (memstoreMsgMemsize sizes p.message) (msgFilesize p.message) k
    else 0 :=
  foldl_stored sizes g.count p p.channels 0 k

/-! ## The check -/

abbrev RoomForMessage (g : SharedGroup) : Prop := g.count .messages < g.limit.messages

abbrev RoomInMemory (sizes : Sizes) (g : SharedGroup) (p : Publish) : Prop :=
  g.count .messagesShmemBytes + p.channels.length * memstoreMsgMemsize sizes p.message ≤
    g.limit.messagesShmemBytes

abbrev RoomOnDisk (g : SharedGroup) (p : Publish) : Prop :=
  g.count .messagesFileBytes + p.message.buf.size ≤ g.limit.messagesFileBytes

theorem publishMessage_verdict : (publishMessage sizes g p m).1 =
    groupPublishAccountingCheck sizes g p.channels.length p.message m.found := by
  unfold publishMessage
  split <;> simp_all

theorem publishMessage_accepted (accepted : (publishMessage sizes g p m).1 = .accepted) :
    (publishMessage sizes g p m).2 =
      { g with count := publishMessageGeneric sizes p m.removed g.count } := by
  rw [publishMessage_verdict] at accepted
  unfold publishMessage
  rw [accepted]

theorem MessagesLimited.check (limited : MessagesLimited g) : (publishMessage sizes g p m).1 =
    if RoomForMessage g then
      if RoomInMemory sizes g p then
        if RoomOnDisk g p then publishChannelCheck g m.found else .forbidden .disk
      else .forbidden .memory
    else .forbidden .messages := by
  have := limited.messages.ne'
  have := limited.memory.ne'
  have := limited.disk.ne'
  rw [publishMessage_verdict]
  unfold groupPublishAccountingCheck
  grind

/-! ## One copy -/

theorem Foreseen.publishMessageGeneric (foreseen : Foreseen p) (removed : Nat → List Message)
    (count : Counters) (k : Counter) :
    publishMessageGeneric sizes p removed count k = count k - total sizes (removed 0) k +
      messageCount (memstoreMsgMemsize sizes p.message) (msgFilesize p.message) k := by
  simp [GroupLimits.publishMessageGeneric, Publish.channels, foreseen.single, foreseen.counted,
    publishToSingleChannelId, foreseen.buffered, memstoreGroupAddMessage_apply, remove_messages]

theorem Foreseen.stored (foreseen : Foreseen p) (k : Counter) : stored sizes g p k =
    g.count k + messageCount (memstoreMsgMemsize sizes p.message) (msgFilesize p.message) k := by
  rw [GroupLimits.stored, foreseen.publishMessageGeneric]
  simp [total]

theorem Foreseen.filesize (foreseen : Foreseen p) : msgFilesize p.message = p.message.buf.size := by
  unfold msgFilesize
  split
  next inMemory => exact (foreseen.onDisk inMemory).symm
  next => rfl

theorem Foreseen.limitsBound (foreseen : Foreseen p) (limited : MessagesLimited g) :
    LimitsBound sizes g p m := by
  have check := @MessagesLimited.check sizes g p m limited
  have channel {err : LimitReached} := @publishChannelCheck_forbidden g m.found err
  have one : p.channels.length = 1 := by simp [Publish.channels, foreseen.single]
  have memory : RoomInMemory sizes g p ↔ g.count .messagesShmemBytes +
      memstoreMsgMemsize sizes p.message ≤ g.limit.messagesShmemBytes := by
    simp [RoomInMemory, one]
  refine ⟨fun accepted _ => ?_, fun refused => ?_, fun refused => ?_, fun refused => ?_⟩
  · rw [publishMessage_accepted accepted, Within]
    rw [check] at accepted
    have dropped := total_nonneg sizes (m.removed 0)
    have := dropped .messages
    have := dropped .messagesShmemBytes
    have := dropped .messagesFileBytes
    simp only [foreseen.publishMessageGeneric, messageCount, foreseen.filesize]
    grind
  · rw [foreseen.stored, messageCount]
    grind
  · rw [foreseen.stored, messageCount]
    grind
  · rw [foreseen.stored, messageCount, foreseen.filesize]
    grind

/-! ## Other publishes -/

/-- A group with these counters, limits on messages that are one more than `limits`, and no limit
    on channels. -/
def group (messages memory disk : Nat) (limits : Nat × Nat × Nat) : SharedGroup where
  count
    | .messages => messages
    | .messagesShmemBytes => memory
    | .messagesFileBytes => disk
    | _ => 0
  limit := ⟨0, 0, limits.1 + 1, limits.2.1 + 1, limits.2.2 + 1⟩

theorem group_limited (messages memory disk : Nat) (limits : Nat × Nat × Nat) :
    MessagesLimited (group messages memory disk limits) := by
  constructor <;> simp only [group] <;> omega

/-- The channel exists, and nothing is removed from its buffer. -/
def undisturbed : Meanwhile := ⟨⟨true, true⟩, fun _ => []⟩

section

variable (bound : ∀ g m, MessagesLimited g → LimitsBound sizes g p m)

include bound

theorem counted_of_bound : p.buffered = true ∧ 0 < p.channels.count true := by
  have limited := group_limited 1 0 0 (0, 0, 0)
  have refused := (bound _ undisturbed limited).messages <| by
    rw [limited.check]
    exact if_neg (by decide)
  rw [stored_eq] at refused
  cases buffered : p.buffered with
  | false => simp [buffered, group] at refused
  | true => simpa [buffered, group] using refused

theorem count_le_of_bound : p.channels.count true ≤ 1 := by
  obtain ⟨buffered, -⟩ := counted_of_bound bound
  let limits := (0, p.channels.length * memstoreMsgMemsize sizes p.message, p.message.buf.size)
  have limited := group_limited 0 0 0 limits
  have accepted : (publishMessage sizes (group 0 0 0 limits) p undisturbed).1 = .accepted := by
    rw [limited.check]
    simp [group, limits, publishChannelCheck]
  have within : Within (group 0 0 0 limits) :=
    ⟨limited.messages.le, limited.memory.le, limited.disk.le⟩
  have after := ((bound _ undisturbed limited).accepted accepted within).1
  rw [publishMessage_accepted accepted] at after
  have after : stored sizes (group 0 0 0 limits) p .messages ≤ 1 := after
  rw [stored_eq] at after
  simpa [buffered, group] using after

theorem length_le_of_bound (counted : 0 < sizes.msg) : p.channels.length ≤ 1 := by
  obtain ⟨buffered, -⟩ := counted_of_bound bound
  have once := count_le_of_bound bound
  have size : 0 < memstoreMsgMemsize sizes p.message := Nat.add_pos_left counted _
  by_contra several
  have double : 2 * memstoreMsgMemsize sizes p.message ≤
      p.channels.length * memstoreMsgMemsize sizes p.message :=
    Nat.mul_le_mul_right _ (by omega)
  have single : p.channels.count true * memstoreMsgMemsize sizes p.message ≤
      1 * memstoreMsgMemsize sizes p.message := Nat.mul_le_mul_right _ once
  have limited := group_limited 0 1 0 (0, memstoreMsgMemsize sizes p.message, 0)
  have refused := (bound _ undisturbed limited).memory <| by
    rw [limited.check, if_pos (by simp [group]), if_neg]
    simp only [RoomInMemory, group]
    omega
  rw [stored_eq] at refused
  simp only [buffered, if_true, group, messageCount] at refused
  omega

theorem onDisk_of_bound (inMemory : p.message.buf.inMemoryOnly = true) :
    p.message.buf.size = 0 := by
  by_contra some
  let limits := (0, p.channels.length * memstoreMsgMemsize sizes p.message, 0)
  have limited := group_limited 0 0 1 limits
  have refused := (bound _ undisturbed limited).disk <| by
    rw [limited.check, if_pos (by simp [group, limits]), if_pos, if_neg]
    · simp only [RoomOnDisk, group, limits]
      omega
    · simp only [RoomInMemory, group, limits]
      omega
  rw [stored_eq] at refused
  simp [group, limits, msgFilesize, inMemory] at refused

end

/-- A message with a body of `size` bytes in memory. -/
def inMemory (size : Nat) : Message := ⟨⟨true, false, size, none⟩, none, none, none⟩

/-- A body of `size` bytes in a file. -/
def inFile (size : Nat) : Message := ⟨⟨false, true, size, some 20⟩, none, none, none⟩

def unitSizes : Sizes := ⟨1, 0, 0, 0⟩

def threeAllowed : SharedGroup := group 0 0 0 (2, 999, 9)

def filed (size : Nat) : Publish := ⟨inFile size, true, true, []⟩

def evicting (size : Nat) : Meanwhile := ⟨⟨true, true⟩, fun _ => [inFile size]⟩

end Nchan.Memstore.GroupLimits
