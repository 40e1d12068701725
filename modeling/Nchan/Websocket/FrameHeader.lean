import Nchan.Lib.ByteOrder
import Nchan.Output.Responses
import Nchan.Websocket.Frames

/-! # The headers of frames, written and read

`websocket_frame_header` copies the length from integers of various widths, turned into network
byte order where it has more than one byte.  `websocket_reading` copies it back.  The machine is
little-endian.
-/

namespace Nchan.Websocket

open Nchan.Lib Nchan.Lib.ByteOrder Option BigEndian
open Nchan.Output.Pending (websocketFrameHeader)

/-- `flip_uint64_if_little_endian`, where it flips. -/
def flipUint64 (value : Nat) : Nat :=
  let highPart := hton 4 (value >>> 32)
  let lowPart := hton 4 (value % 2 ^ 32)
  lowPart <<< 32 ||| highPart

/-- `nchan_htonll`. -/
def nchanHtonll (value : Nat) : Nat := flipUint64 value

/-- `nchan_ntohll`. -/
def nchanNtohll (value : Nat) : Nat := flipUint64 value

/-- What `websocket_frame_header` writes.  `len` and `len_net` are integers of eight bytes. -/
def writeFrameHeader (opcode : UInt8) (len : Nat) : List UInt8 :=
  opcode ::
    if len ≤ 125 then (inMemory 8 len).take 1
    else if len < 1 <<< 16 then 126 :: (inMemory 8 (hton 2 len)).take 2
    else 127 :: (inMemory 8 (nchanHtonll len)).take 8

/-- The fields of `ws_frame_t` that the header sets. -/
structure FrameHead where
  fin : Bool
  rsv1 : Bool
  rsv2 : Bool
  rsv3 : Bool
  opcode : Nat
  mask : Bool
  payloadLen : Nat
  deriving DecidableEq

def FrameHead.ofFirst (byte0 : UInt8) (mask : Bool) (payloadLen : Nat) : FrameHead where
  fin := (byte0.toNat >>> 7) &&& 1 = 1
  rsv1 := (byte0.toNat >>> 6) &&& 1 = 1
  rsv2 := (byte0.toNat >>> 5) &&& 1 = 1
  rsv3 := (byte0.toNat >>> 4) &&& 1 = 1
  opcode := byte0.toNat &&& 0xf
  mask := mask
  payloadLen := payloadLen

/-- A step that receives `len` bytes into a new buffer; without them the function returns. -/
def receive (len : Nat) (avail : List UInt8) : Option (List UInt8 × List UInt8) :=
  let received := wsRecv [] len avail
  if received.rc = .ok then some (received.got, received.avail) else none

/-- `WEBSOCKET_READ_START_STEP`. -/
def startStep (avail : List UInt8) : Option (FrameHead × List UInt8) :=
  (receive 2 avail).map fun (header, avail) =>
    let byte1 := (header.getD 1 0).toNat
    (.ofFirst (header.getD 0 0) ((byte1 >>> 7) &&& 1 = 1) (byte1 &&& 0x7f), avail)

/-- `WEBSOCKET_READ_GET_REAL_SIZE_STEP`. -/
def getRealSizeStep (head : FrameHead) (avail : List UInt8) : Option (FrameHead × List UInt8) :=
  if head.payloadLen = 126 then
    (receive 2 avail).map fun (header, avail) =>
      ({ head with payloadLen := hton 2 (fromMemory header) }, avail)
  else if head.payloadLen = 127 then
    (receive 8 avail).map fun (header, avail) =>
      ({ head with payloadLen := nchanNtohll (fromMemory header) }, avail)
  else some (head, avail)

/-- `WEBSOCKET_READ_GET_MASK_KEY_STEP`, without the key. -/
def getMaskKeyStep (head : FrameHead) (avail : List UInt8) : Option (FrameHead × List UInt8) :=
  if head.mask then (receive 4 avail).map fun (_, avail) => (head, avail) else some (head, avail)

/-- The steps of `websocket_reading` up to the payload, with what is left to read. -/
def readFrameHeader (avail : List UInt8) : Option (FrameHead × List UInt8) := do
  let (head, avail) ← startStep avail
  let (head, avail) ← getRealSizeStep head avail
  getMaskKeyStep head avail

/-! ## Byte order -/

theorem flipUint64_eq (value : Nat) :
    flipUint64 value = hton 4 (value % 2 ^ 32) * 256 ^ 4 + hton 4 (value >>> 32) := by
  have fits : hton 4 (value >>> 32) < 2 ^ 32 := hton_lt 4 _
  rw [flipUint64, ← Nat.shiftLeft_add_eq_or_of_lt fits, Nat.shiftLeft_eq]
  rfl

theorem inMemory_flipUint64 (value : Nat) :
    inMemory 8 (flipUint64 value) = toBytes 8 value := by
  have low : toBytes 4 (value % 2 ^ 32) = toBytes 4 value :=
    toBytes_mod 4 value
  have parts : toBytes 8 value =
      toBytes 4 (value / 2 ^ 32) ++ toBytes 4 value :=
    toBytes_append 4 4 value
  have joined : inMemory 8 (hton 4 (value % 2 ^ 32) * 256 ^ 4 + hton 4 (value >>> 32)) =
      inMemory 4 (hton 4 (value >>> 32)) ++ inMemory 4 (hton 4 (value % 2 ^ 32)) :=
    inMemory_double (hton_lt 4 _)
  rw [flipUint64_eq, joined, inMemory_hton, inMemory_hton, low, Nat.shiftRight_eq_div_pow, parts]

theorem flipUint64_lt (value : Nat) : flipUint64 value < 256 ^ 8 := by
  have high := hton_lt 4 (value % 2 ^ 32)
  have low := hton_lt 4 (value >>> 32)
  rw [flipUint64_eq]
  omega

theorem flipUint64_fromMemory {bytes : List UInt8} (length : bytes.length = 8) :
    flipUint64 (fromMemory bytes) = ofBytes bytes := by
  have inside := inMemory_flipUint64 (fromMemory bytes)
  have back : toBytes 8 (fromMemory bytes) = bytes.reverse := by
    exact congrArg List.reverse (inMemory_fromMemory length)
  rw [← fromMemory_inMemory (flipUint64_lt _), inside, back, fromMemory, List.reverse_reverse]

theorem writeFrameHeader_eq (opcode : UInt8) (len : Nat) :
    writeFrameHeader opcode len = websocketFrameHeader opcode len := by
  have wide (n : Nat) : (inMemory 8 n).take 8 = inMemory 8 n := List.take_of_length_le (by simp)
  unfold writeFrameHeader websocketFrameHeader nchanHtonll
  rw [take_inMemory (by decide), take_inMemory (by decide), wide, inMemory_hton,
    inMemory_flipUint64]
  rfl

/-! ## Writing -/

/-- The form that `websocket_frame_header` takes for a length. -/
def Size.shortest (len : Nat) : Size :=
  if len ≤ 125 then .short else if len < 2 ^ 16 then .medium else .long

variable {len : Nat}

theorem Size.shortest_limit (bound : len < 2 ^ 63) : len < (shortest len).limit := by
  unfold shortest
  split
  · exact Nat.lt_succ_of_le ‹_›
  · split
    · assumption
    · exact Nat.lt_trans bound (by decide)

theorem Size.shortest_width (other : Size) (holds : len < other.limit) :
    (shortest len).width ≤ other.width := by
  cases other with
  | short =>
    have small : len < 126 := holds
    rw [shortest, if_pos (by omega)]
  | medium =>
    have two : len < 2 ^ 16 := holds
    rw [shortest, if_pos two]
    split <;> decide
  | long => cases shortest len <;> decide

theorem writeFrameHeader_shortest (first : UInt8) (len : Nat) :
    writeFrameHeader first len =
      first :: UInt8.ofNat ((Size.shortest len).code len) ::
        toBytes (Size.shortest len).width len := by
  rw [writeFrameHeader_eq, websocketFrameHeader, Size.shortest]
  split
  · rfl
  · split <;> rfl

/-! ## Reading -/

theorem receive_append {item : List UInt8} (length : item.length = len) (some : 0 < len)
    (rest : List UInt8) : receive len (item ++ rest) = .some (item, rest) := by
  have enough : len ≤ ([] : List UInt8).length + (item ++ rest).length := by
    simp only [List.length_append, List.length_nil]
    omega
  subst length
  simp [receive, wsRecv_enough some enough]

theorem startStep_code (first : UInt8) {code : Nat} (small : code < 128) (rest : List UInt8) :
    startStep (first :: UInt8.ofNat code :: rest) = some (.ofFirst first false code, rest) := by
  have byte : (UInt8.ofNat code).toNat = code := by
    rw [UInt8.toNat_ofNat']
    omega
  have unmasked : (code >>> 7) &&& 1 = 0 := by
    rw [Nat.shiftRight_eq_div_pow, Nat.and_one_is_mod]
    omega
  have lower : code &&& 0x7f = code := by
    rw [show 0x7f = 2 ^ 7 - 1 from rfl, Nat.and_two_pow_sub_one_eq_mod]
    omega
  have length : [first, UInt8.ofNat code].length = 2 := rfl
  have two : receive 2 (first :: UInt8.ofNat code :: rest) =
      some ([first, UInt8.ofNat code], rest) := receive_append length Nat.two_pos rest
  have mask : decide ((code >>> 7) &&& 1 = 1) = false := by
    rw [unmasked]
    rfl
  rw [startStep, two, map_some]
  simp only [List.getD_cons_succ, List.getD_cons_zero, byte, mask, lower]

variable {size : Size}

theorem getRealSizeStep_size (holds : len < size.limit) (first : UInt8) (rest : List UInt8) :
    getRealSizeStep (.ofFirst first false (size.code len)) (toBytes size.width len ++ rest) =
      some (.ofFirst first false len, rest) := by
  have length (width : Nat) : (toBytes width len).length = width :=
    length_toBytes _ _
  cases size with
  | short =>
    have small : len < 126 := holds
    have medium : ¬ len = 126 := by omega
    have long : ¬ len = 127 := by omega
    exact (if_neg medium).trans (if_neg long)
  | medium =>
    have value : ofBytes (toBytes 2 len) = len := ofBytes_toBytes holds
    have received := receive_append (length 2) (by decide) rest
    simp [getRealSizeStep, FrameHead.ofFirst, Size.code, Size.width, received,
      hton_fromMemory (length 2), value]
  | long =>
    have value : ofBytes (toBytes 8 len) = len := ofBytes_toBytes holds
    have received := receive_append (length 8) (by decide) rest
    simp [getRealSizeStep, FrameHead.ofFirst, Size.code, Size.width, received, nchanNtohll,
      flipUint64_fromMemory (length 8), value]

theorem Size.code_lt (holds : len < size.limit) : size.code len < 128 := by
  cases size with
  | short => exact Nat.lt_trans holds (by decide)
  | medium => exact (by decide : 126 < 128)
  | long => exact (by decide : 127 < 128)

theorem readFrameHeader_size (holds : len < size.limit) (first : UInt8) (rest : List UInt8) :
    readFrameHeader (first :: UInt8.ofNat (size.code len) ::
        (toBytes size.width len ++ rest)) = some (.ofFirst first false len, rest) := by
  rw [readFrameHeader, startStep_code first (Size.code_lt holds)]
  simp only [bind_eq_bind, bind_some, getRealSizeStep_size holds]
  rfl

/-! ## The same steps in the loop -/

structure WsFrame.Agrees (frame : WsFrame) (head : FrameHead) : Prop where
  opcode : frame.opcode = head.opcode
  rsv1 : frame.rsv1 = head.rsv1
  mask : frame.mask = head.mask
  payloadLen : frame.payloadLen = head.payloadLen

section Loop

variable {σ : Type} (cfg : Config σ) {conn : Conn σ} {head : FrameHead} {avail rest : List UInt8}

theorem readHeader_of_receive {header : List UInt8} {next : WsFrame → List UInt8 → WsFrame}
    (received : receive len avail = some (header, rest)) :
    readHeader conn [] len avail next =
      .next ⟨next { conn.frame with header := header } header, conn.sub⟩ rest := by
  obtain ⟨ok, is⟩ := ite_none_right_eq_some.mp received
  cases is
  rw [readHeader, if_pos ok]

theorem bit_eq (n k : Nat) : (n >>> k) &&& 1 = n / 2 ^ k % 2 := by
  rw [Nat.shiftRight_eq_div_pow, Nat.and_one_is_mod]

/-- A turn of the loop reads the same part of the header as a step. -/
def Turns (conn : Conn σ) (avail : List UInt8) (next : Step) (read : FrameHead × List UInt8) :
    Prop :=
  ∃ c, turn cfg conn [] avail = .next c read.2 ∧ c.sub = conn.sub ∧ c.frame.step = next ∧
    c.frame.Agrees read.1

theorem startStep_turn (step : conn.frame.step = .start) :
    Gives (startStep avail) (Turns cfg conn avail .getRealSize) := by
  refine .map fun _ received =>
    ⟨_, (turn_start step).trans (readHeader_of_receive received), rfl, rfl, ?_, ?_, ?_, ?_⟩
  · exact (Nat.and_two_pow_sub_one_eq_mod _ 4).symm
  · exact congrArg (fun n => decide (n = 1)) (bit_eq _ 6).symm
  · exact congrArg (fun n => decide (n = 1)) (bit_eq _ 7).symm
  · exact (Nat.and_two_pow_sub_one_eq_mod _ 7).symm

theorem receive_length {header : List UInt8} (some : 0 < len)
    (received : receive len avail = .some (header, rest)) : header.length = len := by
  obtain ⟨ok, is⟩ := ite_none_right_eq_some.mp received
  rcases Nat.lt_or_ge avail.length len with short | enough
  · rw [wsRecv_short (by simpa using short)] at ok
    cases ok
  · rw [wsRecv_enough some (by simpa using enough)] at is
    cases is
    simpa using enough

theorem getRealSizeStep_turn (step : conn.frame.step = .getRealSize)
    (agrees : conn.frame.Agrees head) :
    Gives (getRealSizeStep head avail) (Turns cfg conn avail .getMaskKey) := by
  refine .ite (fun medium => .map fun _ received => ?_) fun medium =>
    .ite (fun long => .map fun _ received => ?_) fun long => .of_some ?_
  · exact ⟨_, (turn_size_medium step (agrees.payloadLen.trans medium)).trans
      (readHeader_of_receive received), rfl, rfl, agrees.opcode, agrees.rsv1, agrees.mask,
      (hton_fromMemory (receive_length Nat.two_pos received)).symm⟩
  · exact ⟨_, (turn_size_long step (agrees.payloadLen.trans long)).trans
      (readHeader_of_receive received), rfl, rfl, agrees.opcode, agrees.rsv1, agrees.mask,
      (flipUint64_fromMemory (receive_length (by decide) received)).symm⟩
  · exact ⟨_, turn_size_short step (agrees.payloadLen ▸ medium) (agrees.payloadLen ▸ long), rfl, rfl,
      agrees.opcode, agrees.rsv1, agrees.mask, agrees.payloadLen⟩

theorem getMaskKeyStep_turn (step : conn.frame.step = .getMaskKey)
    (agrees : conn.frame.Agrees head) :
    Gives (getMaskKeyStep head avail) (Turns cfg conn avail .getPayload) := by
  refine .ite (fun masked => .map fun _ received => ?_) fun unmasked => .of_some ?_
  · exact ⟨_, (turn_key_masked step (agrees.mask.trans masked)).trans
      (readHeader_of_receive received), rfl, rfl, agrees.opcode, agrees.rsv1, agrees.mask,
      agrees.payloadLen⟩
  · exact ⟨_, turn_key_unmasked step (agrees.mask.trans (Bool.not_eq_true _ ▸ unmasked)), rfl, rfl,
      agrees.opcode, agrees.rsv1, agrees.mask, agrees.payloadLen⟩

theorem readFrameHeader_goes (start : conn.AtStart) :
    Gives (readFrameHeader avail) fun read => ∃ c, Goes cfg conn avail c read.2 ∧ c.sub = conn.sub ∧
      c.frame.step = .getPayload ∧ c.frame.Agrees read.1 := by
  refine (startStep_turn cfg start.step).seq ?_
  rintro _ ⟨c₁, turn₁, sub₁, step₁, agrees₁⟩
  refine (getRealSizeStep_turn cfg step₁ agrees₁).seq ?_
  rintro _ ⟨c₂, turn₂, sub₂, step₂, agrees₂⟩
  refine (getMaskKeyStep_turn cfg step₂ agrees₂).mono ?_
  rintro _ ⟨c₃, turn₃, sub₃, step₃, agrees₃⟩
  exact ⟨c₃, .step turn₁ (.step turn₂ (.step turn₃ (.refl _ _))), by rw [sub₃, sub₂, sub₁], step₃,
    agrees₃⟩

end Loop

/-- For every length and first byte the header has the shortest form there is, and is read back
    with nothing left of it, by the steps with all its fields and so by the loop. -/
theorem frame_header_round_trip (first : UInt8) (len : Nat) (bound : len < 2 ^ 63)
    (rest : List UInt8) :
    (∃ size : Size, len < size.limit ∧
      writeFrameHeader first len =
        first :: UInt8.ofNat (size.code len) :: toBytes size.width len ∧
      ∀ other : Size, len < other.limit → size.width ≤ other.width) ∧
    readFrameHeader (writeFrameHeader first len ++ rest) = some (.ofFirst first false len, rest) ∧
    ∀ {σ : Type} (cfg : Config σ) (conn : Conn σ), conn.AtStart →
      ∃ c, Goes cfg conn (writeFrameHeader first len ++ rest) c rest ∧ c.sub = conn.sub ∧
        c.frame.step = .getPayload ∧ c.frame.Agrees (.ofFirst first false len) := by
  have holds := Size.shortest_limit bound
  have written := writeFrameHeader_shortest first len
  have reads : readFrameHeader (writeFrameHeader first len ++ rest) =
      some (.ofFirst first false len, rest) := by
    rw [written]
    exact readFrameHeader_size holds first rest
  exact ⟨⟨Size.shortest len, holds, written, Size.shortest_width⟩, reads,
    fun cfg conn start => readFrameHeader_goes cfg start _ reads⟩

/-- The longest payload of the middle form, under the first byte of a compressed text frame. -/
theorem frame_header_round_trip_medium :
    (65535 : Nat) < 2 ^ 63 ∧ writeFrameHeader 0xC1 65535 = [0xC1, 126, 255, 255] ∧
      readFrameHeader (writeFrameHeader 0xC1 65535 ++ [7]) =
        some (⟨true, true, false, false, 1, false, 65535⟩, [7]) :=
  ⟨by decide, by decide, (frame_header_round_trip 0xC1 65535 (by decide) [7]).2.1⟩

end Nchan.Websocket
