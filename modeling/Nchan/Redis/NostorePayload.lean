import Mathlib.Data.Option.Basic
import Nchan.Lib.BigEndian

/-! # Messages that are not stored

If Redis stores nothing, a message is packed by hand into what is published, in the format that the
script uses, and every worker unpacks it.  The lengths of the content type and of the name of an
event have one byte, that of the body has four, but what follows a length is sent as a whole.
-/

namespace Nchan.Redis.Nostore

open Nchan.Lib Option BigEndian

/-! ## MessagePack -/

/-- What `cmp_read_object` tells of an object: numbers with their width, or the size of what
    follows. -/
inductive CmpObject where
  | uint (width n : Nat)
  | sint (width : Nat) (n : Int)
  | str (size : Nat)
  | array (size : Nat)
  | other

/-- What is read but was not sent. -/
structure Memory where
  /-- `compression` on the stack, before anything is written there -/
  stack : Int
  behind : Nat → UInt8

/-- Numbers are read by `ngx_buf_reader`. -/
def readUInt (width : Nat) (buf : List UInt8) : Option (Nat × List UInt8) :=
  if width ≤ buf.length then some (ofBytes (buf.take width), buf.drop width) else none

/-- `fwd_buf_to_str`, which does not look where the payload ends. -/
def fwdBufToStr (mem : Memory) (size : Nat) (buf : List UInt8) : List UInt8 × List UInt8 :=
  (buf.take size ++ (List.range (size - buf.length)).map mem.behind, buf.drop size)

/-- `cmp_read_object`. -/
def readObject : List UInt8 → Option (CmpObject × List UInt8)
  | [] => none
  | marker :: rest =>
    let unsigned (width : Nat) := (readUInt width rest).map fun (n, rest) => (.uint width n, rest)
    let signed (width : Nat) := (readUInt width rest).map fun (n, rest) =>
      (.sint width (Int.bmod n (256 ^ width)), rest)
    let str (width : Nat) := (readUInt width rest).map fun (n, rest) => (.str n, rest)
    let array (width : Nat) := (readUInt width rest).map fun (n, rest) => (.array n, rest)
    let m := marker.toNat
    if m ≤ 0x7F then some (.uint 1 m, rest)
    else if m ≤ 0x8F then some (.other, rest)
    else if m ≤ 0x9F then some (.array (m % 16), rest)
    else if m ≤ 0xBF then some (.str (m % 32), rest)
    else if m ≥ 0xE0 then some (.sint 1 (m - 256), rest)
    else
      match m with
      | 0xCC => unsigned 1 | 0xCD => unsigned 2 | 0xCE => unsigned 4 | 0xCF => unsigned 8
      | 0xD0 => signed 1 | 0xD1 => signed 2 | 0xD2 => signed 4 | 0xD3 => signed 8
      | 0xD9 => str 1 | 0xDA => str 2 | 0xDB => str 4
      | 0xDC => array 2 | 0xDD => array 4
      | _ => some (.other, rest)

/-- `cmp_read_int`, for 32 bits, and `cmp_read_integer`, for 64. -/
def readInt (width : Nat) (buf : List UInt8) : Option (Int × List UInt8) :=
  (readObject buf).bind fun (obj, rest) =>
    match obj with
    | .uint w n => if w ≤ width ∧ n < 256 ^ width / 2 then some (n, rest) else none
    | .sint w n => if w ≤ width then some (n, rest) else none
    | _ => none

/-- `cmp_read_uinteger`. -/
def readUInteger (buf : List UInt8) : Option (Nat × List UInt8) :=
  (readObject buf).bind fun (obj, rest) =>
    match obj with
    | .uint _ n => some (n, rest)
    | .sint _ n => if 0 ≤ n then some (n.toNat, rest) else none
    | _ => none

/-- `cmp_read_str_size`, and the string. -/
def readStr (mem : Memory) (buf : List UInt8) : Option (List UInt8 × List UInt8) :=
  (readObject buf).bind fun (obj, rest) =>
    match obj with
    | .str size => some (fwdBufToStr mem size rest)
    | _ => none

/-- `cmp_read_array`. -/
def readArray (buf : List UInt8) : Option (Nat × List UInt8) :=
  (readObject buf).bind fun (obj, rest) =>
    match obj with
    | .array size => some (size, rest)
    | _ => none

/-! ## Messages -/

/-- What is published of a message.  No content type or event is the same as an empty one. -/
structure Message where
  ttl : Nat
  time : Nat
  body : List UInt8
  contentType : List UInt8
  eventsourceEvent : List UInt8
  /-- `NCHAN_MSG_COMPRESSION_WEBSOCKET_PERMESSAGE_DEFLATE`, or else no compression. -/
  compressed : Bool
  deriving DecidableEq

def length8 (str : List UInt8) : UInt8 := UInt8.ofNat (if str.length > 255 then 255 else str.length)

def Message.strings (msg : Message) : List UInt8 :=
  0xDB :: (toBytes 4 msg.body.length ++ (msg.body ++
    (0xD9 :: length8 msg.contentType :: (msg.contentType ++
      (0xD9 :: length8 msg.eventsourceEvent :: (msg.eventsourceEvent ++
        [if msg.compressed then 1 else 0]))))))

/-- The payload that `redis_publish_message_send` publishes. -/
def Message.payload (msg : Message) : List UInt8 :=
  0x9A :: 0xA3 :: 0x6D :: 0x73 :: 0x67 :: 0xCE :: (toBytes 4 msg.ttl ++
    0xCE :: (toBytes 4 msg.time ++ 0 :: 0 :: 0 :: msg.strings))

/-- The strings and the compression at the end of `cmp_to_msg`.  If the compression cannot be read,
    it is what the stack holds. -/
def cmpToStrings (mem : Memory) (buf : List UInt8) :
    Option (List UInt8 × List UInt8 × List UInt8 × Bool) := do
  let (body, rest) ← readStr mem buf
  let (contentType, rest) ← readStr mem rest
  let (event, rest) ← readStr mem rest
  let compression := ((readInt 4 rest).map (·.1)).getD mem.stack
  return (body, contentType, event, compression > 0)

/-- What `cmp_to_msg` reads, with the tag and the previous id. -/
structure Read where
  msg : Message
  tag : Nat
  prevTime : Nat
  prevTag : Nat
  deriving DecidableEq

/-- `cmp_to_msg`. -/
def cmpToMsg (mem : Memory) (buf : List UInt8) : Option Read := do
  let (ttl, rest) ← readInt 4 buf
  -- an assertion
  guard (0 ≤ ttl)
  let (time, rest) ← readUInteger rest
  let (tag, rest) ← readUInteger rest
  let (prevTime, rest) ← readUInteger rest
  let (prevTag, rest) ← readUInteger rest
  let (body, contentType, event, compressed) ← cmpToStrings mem rest
  return ⟨⟨if ttl = 0 then 1 else ttl.toNat, time, body, contentType, event, compressed⟩,
    tag, prevTime, prevTag⟩

/-- `ngx_str_chop_if_startswith`, which wants something to be left. -/
def chopIfStartswith (str start : List UInt8) : Option (List UInt8) :=
  if start <+: str ∧ start.length < str.length then some (str.drop start.length) else none

/-- `max_msgs+` -/
def maxMsgsStart : List UInt8 := [0x6D, 0x61, 0x78, 0x5F, 0x6D, 0x73, 0x67, 0x73, 0x2B]

/-- `ch+` -/
def chStart : List UInt8 := [0x63, 0x68, 0x2B]

/-- The message that `redis_subscriber_callback` finds in what it receives for a channel that is
    there. -/
def subscriberCallback (mem : Memory) (buf : List UInt8) : Option Read := do
  let (size, rest) ← readArray buf
  guard (size ≠ 0)
  let (type, rest) ← readStr mem rest
  let (changed, type, rest) ← match chopIfStartswith type maxMsgsStart with
    | some type => (readInt 8 rest).map fun (_, rest) => (1, type, rest)
    | none => some (0, type, rest)
  let (type, rest) ← match chopIfStartswith type chStart with
    | some type => (readStr mem rest).map fun (_, rest) => (type, rest)
    | none => some (type, rest)
  -- `msg`
  guard (type = [0x6D, 0x73, 0x67])
  guard (size ≥ 9 + changed)
  cmpToMsg mem rest

/-! ## Reading what has been written -/

theorem readUInt_toBytes (width n : Nat) (rest : List UInt8) :
    readUInt width (toBytes width n ++ rest) = some (n % 256 ^ width, rest) := by
  have length := length_toBytes width n
  rw [readUInt, if_pos (by simp), List.take_left' length, List.drop_left' length]
  simp [ofBytes_toBytes_mod]

variable {mem : Memory}

theorem fwdBufToStr_append (str rest : List UInt8) :
    fwdBufToStr mem str.length (str ++ rest) = (str, rest) := by
  simp [fwdBufToStr]

theorem fwdBufToStr_length {size : Nat} {buf str rest : List UInt8}
    (reads : fwdBufToStr mem size buf = (str, rest)) : str.length = size := by
  cases reads
  simp only [List.length_append, List.length_take, List.length_map, List.length_range]
  omega

theorem readStr_str32 (n : Nat) (rest : List UInt8) :
    readStr mem (0xDB :: (toBytes 4 n ++ rest)) = some (fwdBufToStr mem (n % 2 ^ 32) rest) := by
  have reads : readObject (0xDB :: (toBytes 4 n ++ rest)) =
      (readUInt 4 (toBytes 4 n ++ rest)).map fun (n, rest) => (.str n, rest) := rfl
  rw [readStr, reads, readUInt_toBytes]
  rfl

theorem readStr_str8 (str rest : List UInt8) :
    readStr mem (0xD9 :: length8 str :: rest) =
      some (fwdBufToStr mem (min str.length 255) rest) := by
  have size : ofBytes [length8 str] = min str.length 255 := by
    simp only [ofBytes, length8, List.foldl_cons, List.foldl_nil, UInt8.toNat_ofNat']
    split <;> omega
  have reads : readObject (0xD9 :: length8 str :: rest) =
      some (.str (ofBytes [length8 str]), rest) := rfl
  rw [readStr, reads, size]
  rfl

section

variable {n : Nat} (small : n < 2 ^ 31) (rest : List UInt8)
include small

theorem readObject_u32 :
    readObject (0xCE :: (toBytes 4 n ++ rest)) = some (.uint 4 n, rest) := by
  have reads : readObject (0xCE :: (toBytes 4 n ++ rest)) =
      (readUInt 4 (toBytes 4 n ++ rest)).map fun (n, rest) => (.uint 4 n, rest) := rfl
  rw [reads, readUInt_toBytes, Nat.mod_eq_of_lt (by omega)]
  rfl

theorem readInt_u32 : readInt 4 (0xCE :: (toBytes 4 n ++ rest)) = some ((n : Int), rest) := by
  rw [readInt, readObject_u32 small]
  exact if_pos ⟨by decide, by omega⟩

theorem readUInteger_u32 : readUInteger (0xCE :: (toBytes 4 n ++ rest)) = some (n, rest) := by
  rw [readUInteger, readObject_u32 small]
  rfl

end

variable {msg : Message}

theorem cmpToStrings_iff (msg : Message) :
    cmpToStrings mem msg.strings =
        some (msg.body, msg.contentType, msg.eventsourceEvent, msg.compressed) ↔
      msg.body.length < 2 ^ 32 ∧ msg.contentType.length ≤ 255 ∧
        msg.eventsourceEvent.length ≤ 255 := by
  unfold cmpToStrings Message.strings
  rw [readStr_str32]
  constructor
  · intro reads
    -- what has been read is as long as its length says
    obtain ⟨⟨body, rest⟩, readsBody, reads⟩ := bind_eq_some_iff.mp reads
    obtain ⟨⟨contentType, rest'⟩, readsType, reads⟩ := bind_eq_some_iff.mp reads
    obtain ⟨⟨event, rest''⟩, readsEvent, reads⟩ := bind_eq_some_iff.mp reads
    simp only [pure, some.injEq, Prod.mk.injEq] at reads
    obtain ⟨rfl, rfl, rfl, -⟩ := reads
    have body := fwdBufToStr_length (some.inj readsBody)
    have small : msg.body.length < 2 ^ 32 := by omega
    rw [Nat.mod_eq_of_lt small, fwdBufToStr_append] at readsBody
    cases readsBody
    rw [readStr_str8] at readsType
    have type := fwdBufToStr_length (some.inj readsType)
    rw [← type, fwdBufToStr_append] at readsType
    cases readsType
    rw [readStr_str8] at readsEvent
    have event := fwdBufToStr_length (some.inj readsEvent)
    omega
  · rintro ⟨small, type, event⟩
    simp only [Nat.mod_eq_of_lt small, fwdBufToStr_append, readStr_str8, Nat.min_eq_left type,
      Nat.min_eq_left event, bind_eq_bind, bind_some]
    cases msg.compressed <;> rfl

theorem subscriberCallback_payload (ttl : msg.ttl < 2 ^ 31) (time : msg.time < 2 ^ 31) :
    subscriberCallback mem msg.payload = (cmpToStrings mem msg.strings).map
      fun (body, contentType, event, compressed) =>
        ⟨⟨if msg.ttl = 0 then 1 else msg.ttl, msg.time, body, contentType, event, compressed⟩,
          0, 0, 0⟩ := by
  have type (rest : List UInt8) :
      readStr mem (0xA3 :: 0x6D :: 0x73 :: 0x67 :: rest) = some ([0x6D, 0x73, 0x67], rest) :=
    congrArg some (fwdBufToStr_append [0x6D, 0x73, 0x67] rest)
  have zero (rest : List UInt8) : readUInteger (0 :: rest) = some (0, rest) := rfl
  have reads : subscriberCallback mem msg.payload =
      cmpToMsg mem (0xCE :: (toBytes 4 msg.ttl ++
        0xCE :: (toBytes 4 msg.time ++ 0 :: 0 :: 0 :: msg.strings))) := by
    have array (rest : List UInt8) : readArray (0x9A :: rest) = some (10, rest) := rfl
    simp [subscriberCallback, Message.payload, array, type, chopIfStartswith, maxMsgsStart, chStart]
  rw [reads, cmpToMsg, readInt_u32 ttl]
  simp only [bind_eq_bind, bind_some, readUInteger_u32 time, zero]
  cases cmpToStrings mem msg.strings with
  | none => rfl
  | some strings => simp

/-- What has been published is received unchanged just if the lengths fit into their bytes and the
    message has some time left. -/
theorem nostore_message_arrives_iff (mem : Memory) (ttl : msg.ttl < 2 ^ 31)
    (time : msg.time < 2 ^ 31) :
    (∃ read, subscriberCallback mem msg.payload = some read ∧ read.msg = msg) ↔
      msg.body.length < 2 ^ 32 ∧ msg.contentType.length ≤ 255 ∧
        msg.eventsourceEvent.length ≤ 255 ∧ 0 < msg.ttl := by
  rw [subscriberCallback_payload ttl time]
  have strings := @cmpToStrings_iff mem msg
  constructor
  · rintro ⟨read, reads, same⟩
    obtain ⟨⟨body, contentType, event, compressed⟩, inner, rfl⟩ := map_eq_some_iff.mp reads
    have positive : 0 < msg.ttl := by
      have kept : (if msg.ttl = 0 then 1 else msg.ttl) = msg.ttl := congrArg Message.ttl same
      split at kept <;> omega
    have same' : (body, contentType, event, compressed) =
        (msg.body, msg.contentType, msg.eventsourceEvent, msg.compressed) := by rw [← same]
    obtain ⟨small, type, event⟩ := strings.mp (same' ▸ inner)
    exact ⟨small, type, event, positive⟩
  · rintro ⟨body, type, event, positive⟩
    rw [strings.mpr ⟨body, type, event⟩]
    exact ⟨_, rfl, by simp [Nat.ne_of_gt positive]⟩

def zeroed : Memory := ⟨0, fun _ => 0⟩

def greeting : Message where
  ttl := 60
  time := 1500000000
  body := [0x68, 0x69]
  contentType := [0x74]
  eventsourceEvent := []
  compressed := true

theorem nostore_message_arrives_greeting :
    (∃ read, subscriberCallback zeroed greeting.payload = some read ∧ read.msg = greeting) ↔
      greeting.body.length < 2 ^ 32 ∧ greeting.contentType.length ≤ 255 ∧
        greeting.eventsourceEvent.length ≤ 255 ∧ 0 < greeting.ttl :=
  nostore_message_arrives_iff zeroed (by decide) (by decide)

/-- A content type of 256 bytes makes the message unreadable. -/
theorem long_content_type_lost :
    (subscriberCallback zeroed
      { greeting with contentType := List.replicate 256 0x74 }.payload).isNone := by
  decide +kernel

end Nchan.Redis.Nostore
