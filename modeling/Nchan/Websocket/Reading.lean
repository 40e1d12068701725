import Nchan.Lib.BigEndian

/-! # Reading WebSocket frames

`websocket_reading` is entered whenever bytes have arrived.  It keeps what it knows
about the frame being read in `fsub->frame`, so that it can leave in the middle of a
frame and go on at the next event.  Only the local buffer is rebuilt at every entry:
from `frame->header` and `frame->last`, or from `frame->payload` and `frame->last`.

The library calls it makes are parameters: `ngx_palloc`, `ngx_utf8_decode` and zlib's
inflation.  The connection has no error, and `recv` takes what is there.
-/

namespace Nchan.Websocket

open Nchan.Lib

/-- `WEBSOCKET_READ_*_STEP`. -/
inductive Step where
  | start | getRealSize | getMaskKey | getPayload
  deriving DecidableEq

/-- `ws_frame_t`.  `header` and `payload` hold the bytes that were written to that memory
    for the item being read; `last` is `frame->last` as an offset into it.  `none` is
    the null pointer. -/
structure WsFrame where
  step : Step
  opcode : Nat
  rsv1 : Bool
  mask : Bool
  maskKey : List UInt8
  payloadLen : Nat
  header : List UInt8
  payload : Option (List UInt8)
  last : Option Nat
  deriving DecidableEq

/-- A zeroed `ws_frame_t`. -/
def WsFrame.zero : WsFrame := ⟨.start, 0, false, false, [], 0, [], none, none⟩

abbrev opcodeText : Nat := 1
abbrev opcodeBinary : Nat := 2
abbrev opcodeClose : Nat := 8
abbrev opcodePing : Nat := 9
abbrev opcodePong : Nat := 10

inductive Action where
  | pong (payload : List UInt8)
  | close (code : Nat) (reason : List UInt8)
  | closeInvalidFrame
  | heartbeat (reply : List UInt8)
  | publish (message : List UInt8) (binary : Bool)
  deriving DecidableEq

/-- The location's settings, and the functions of other libraries.  `inflate` may carry
    a state from message to message; `utf8Decode` answers the bytes behind a character
    or `none` if it is not valid; `palloc` answers whether a size can be allocated, which
    no size beyond `ssize_t` can, so that a payload that is read has a length `ws_recv` takes. -/
structure Config (σ : Type) where
  pubWebsocket : Bool
  websocketHeartbeat : Option (List UInt8 × List UInt8)
  deflateEnabled : Bool
  inflate : σ → List UInt8 → Option (σ × List UInt8)
  utf8Decode : List UInt8 → Option (List UInt8)
  msgpool : Bool
  palloc : Nat → Bool
  pallocFits : ∀ size, palloc size = true → size < 2 ^ 63

/-- The rest of `full_subscriber_t`: what was done so far, and the closing handshake. -/
structure Subscriber (σ : Type) where
  actions : List Action
  awaitingPong : Bool
  receivedCloseFrame : Bool
  sentCloseFrame : Bool
  finalized : Bool
  inflater : σ
  deriving DecidableEq

structure Conn (σ : Type) where
  frame : WsFrame
  sub : Subscriber σ
  deriving DecidableEq

variable {σ : Type}

/-! ## Sending -/

def Subscriber.emit (action : Action) (s : Subscriber σ) : Subscriber σ :=
  { s with actions := s.actions ++ [action] }

/-- `websocket_reading_finalize`. -/
def websocketReadingFinalize (s : Subscriber σ) : Subscriber σ := { s with finalized := true }

/-- `websocket_send_close_frame`. -/
def websocketSendCloseFrame (code : Nat) (reason : List UInt8) (s : Subscriber σ) : Subscriber σ :=
  if s.sentCloseFrame then { s with finalized := true }
  else { s.emit (.close code reason) with sentCloseFrame := true }

/-- `websocket_send_close_frame_cstr`: `ngx_string(err)` takes the size of the pointer
    for the length of the text, so seven bytes of it are sent. -/
def websocketSendCloseFrameCstr (code : Nat) (reason : String) (s : Subscriber σ) : Subscriber σ :=
  websocketSendCloseFrame code (reason.toUTF8.toList.take 7) s

/-! ## Whole frames -/

/-- `websocket_unmask_frame`.  The vector variant uses the same key byte at every index, as
    its vectors begin at multiples of four. -/
def websocketUnmaskFrame (maskKey payload : List UInt8) : List UInt8 :=
  payload.mapIdx fun i b => b ^^^ maskKey.getD (i % 4) 0

def WsFrame.unmasked (frame : WsFrame) (payload : List UInt8) : List UInt8 :=
  if frame.mask then websocketUnmaskFrame frame.maskKey payload else payload

/-- What a ping, pong or close frame with its payload read makes the server do. -/
def controlFrame (opcode : Nat) (payload : List UInt8) (s : Subscriber σ) : Subscriber σ :=
  if opcode = opcodePing then s.emit (.pong payload)
  else if opcode = opcodePong then { s with awaitingPong := false }
  else
    let s := { s with receivedCloseFrame := true }
    let code := if payload.length ≥ 2 then BigEndian.ofBytes (payload.take 2) else 0
    let reason := if payload.length ≥ 2 then payload.drop 2 else []
    let s := if s.sentCloseFrame then s else websocketSendCloseFrame code reason s
    websocketReadingFinalize s

/-- `is_utf8`, with the length of the message as fuel. -/
def isUtf8 (utf8Decode : List UInt8 → Option (List UInt8)) : Nat → List UInt8 → Bool
  | _, [] => true
  | 0, _ :: _ => false
  | fuel + 1, c :: rest =>
    if c < 0x80 then isUtf8 utf8Decode fuel rest
    else
      match utf8Decode (c :: rest) with
      | none => false
      | some rest => isUtf8 utf8Decode fuel rest

/-- `websocket_heartbeat`: the reply, if the message is the one to answer. -/
def websocketHeartbeat (cfg : Config σ) (message : List UInt8) : Option (List UInt8) :=
  match cfg.websocketHeartbeat with
  | none => none
  | some (expected, reply) => if message = expected then some reply else none

/-- `sizeof(ngx_buf_t)`. -/
abbrev sizeofBuf : Nat := 80

/-- What a text or binary frame with its payload read makes the server do. -/
def dataFrame (cfg : Config σ) (opcode : Nat) (rsv1 : Bool) (payload : List UInt8)
    (s : Subscriber σ) : Subscriber σ :=
  if !cfg.palloc sizeofBuf then websocketReadingFinalize (websocketSendCloseFrame 1011 [] s)
  else
    let inflated :=
      if cfg.deflateEnabled && rsv1 then cfg.inflate s.inflater payload else some (s.inflater, payload)
    match inflated with
    | none =>
      websocketReadingFinalize (websocketSendCloseFrameCstr 1007 "Invalid permessage-deflate data" s)
    | some (inflater, message) =>
      let s := { s with inflater := inflater }
      if opcode = opcodeText && !isUtf8 cfg.utf8Decode message.length message then
        websocketReadingFinalize
          (websocketSendCloseFrameCstr 1007 "Invalid text frame (not UTF8)." s)
      else
        match websocketHeartbeat cfg message with
        | some reply => s.emit (.heartbeat reply)
        | none => s.emit (.publish message (opcode = opcodeBinary))

/-! ## Bytes -/

inductive Rc where
  | ok | again | done
  deriving DecidableEq

/-- The return code, the buffer from `start` to `last`, and what is left to receive. -/
structure Received where
  rc : Rc
  got : List UInt8
  avail : List UInt8

/-- `ws_recv`: try to have `len` bytes in the buffer that holds `got`. -/
def wsRecv (got : List UInt8) (len : Nat) (avail : List UInt8) : Received :=
  if avail = [] then ⟨.again, got, []⟩
  else
    let n := min (len - got.length) avail.length
    if n = 0 then ⟨.done, got, avail⟩
    else
      let got := got ++ avail.take n
      ⟨if got.length < len then .again else .ok, got, avail.drop n⟩

/-- The bytes between `start` and `last` after `set_buffer`. -/
def setBuffer (start : List UInt8) (last : Option Nat) : List UInt8 := start.take (last.getD 0)

/-- A turn of the `for(;;)` loop goes on with the rest of the bytes, or returns. -/
inductive Turn (σ : Type) where
  | next (conn : Conn σ) (avail : List UInt8)
  | ret (conn : Conn σ)

/-- `exit:`, where only `NGX_AGAIN` remembers how far the buffer was filled. -/
def exitReading (received : Received) (frame : WsFrame) (s : Subscriber σ) : Turn σ :=
  .ret ⟨if received.rc = .again then { frame with last := some received.got.length } else frame, s⟩

/-- `return websocket_reading_finalize(r)`; the frame is not looked at again. -/
def finish (s : Subscriber σ) : Turn σ := .ret ⟨.zero, websocketReadingFinalize s⟩

/-- The end of a frame, with `goto retry` unless the frame ended the connection. -/
def nextFrame (frame : WsFrame) (s : Subscriber σ) (avail : List UInt8) : Turn σ :=
  if s.finalized then finish s
  else .next ⟨{ frame with step := .start, last := none, payload := none }, s⟩ avail

/-! ## The steps -/

/-- A step that fills `frame->header` with `len` bytes and then goes on to `next`. -/
def readHeader (conn : Conn σ) (buf : List UInt8) (len : Nat) (avail : List UInt8)
    (next : WsFrame → List UInt8 → WsFrame) : Turn σ :=
  let received := wsRecv buf len avail
  let frame := { conn.frame with header := received.got }
  if received.rc = .ok then .next ⟨next frame received.got, conn.sub⟩ received.avail
  else exitReading received frame conn.sub

def WsFrame.setStart (frame : WsFrame) (header : List UInt8) : WsFrame :=
  let byte0 := (header.getD 0 0).toNat
  let byte1 := (header.getD 1 0).toNat
  { frame with
    rsv1 := byte0 / 64 % 2 = 1, opcode := byte0 % 16
    mask := byte1 / 128 % 2 = 1, payloadLen := byte1 % 128
    step := .getRealSize }

def WsFrame.setRealSize (frame : WsFrame) (header : List UInt8) : WsFrame :=
  { frame with payloadLen := BigEndian.ofBytes header, step := .getMaskKey }

def WsFrame.setMaskKey (frame : WsFrame) (header : List UInt8) : WsFrame :=
  { frame with maskKey := header, step := .getPayload }

def isControl (opcode : Nat) : Bool :=
  opcode = opcodePing || opcode = opcodePong || opcode = opcodeClose

def isData (opcode : Nat) : Bool := opcode = opcodeText || opcode = opcodeBinary

/-- The payload of a ping, pong or close frame goes to an array on the stack, which is a
    new one, filled from its start, whenever the step is entered. -/
def readControl (frame : WsFrame) (s : Subscriber σ) (avail : List UInt8) : Turn σ :=
  if frame.payloadLen = 0 then
    nextFrame frame (controlFrame frame.opcode [] s) avail
  else if frame.payloadLen < 1024 then
    let received := wsRecv (setBuffer [] (some 0)) frame.payloadLen avail
    let frame := { frame with payload := some received.got, last := some 0 }
    if received.rc = .ok then
      nextFrame frame (controlFrame frame.opcode (frame.unmasked received.got) s) received.avail
    else exitReading received frame s
  else finish (websocketSendCloseFrame 1009 [] s)

/-- The payload of a text or binary frame goes to the memory of `frame->payload`. -/
def readData (cfg : Config σ) (frame : WsFrame) (payload : List UInt8) (s : Subscriber σ)
    (avail : List UInt8) : Turn σ :=
  if frame.payloadLen = 0 then
    nextFrame frame (dataFrame cfg frame.opcode frame.rsv1 [] s) avail
  else
    let received := wsRecv (setBuffer payload frame.last) frame.payloadLen avail
    let frame := { frame with payload := some received.got }
    if received.rc = .ok then
      let message := frame.unmasked received.got
      nextFrame frame (dataFrame cfg frame.opcode frame.rsv1 message s) received.avail
    else exitReading received frame s

/-- `ws_get_msgpool` and `ngx_palloc` of the payload. -/
def Config.allocates (cfg : Config σ) (payloadLen : Nat) : Bool :=
  cfg.msgpool && cfg.palloc (if payloadLen = 0 then 1 else payloadLen)

/-- `WEBSOCKET_READ_GET_PAYLOAD_STEP`. -/
def readPayload (cfg : Config σ) (conn : Conn σ) (avail : List UInt8) : Turn σ :=
  let frame := conn.frame
  let s := conn.sub
  if isControl frame.opcode then readControl frame s avail
  else if isData frame.opcode then
    if !cfg.pubWebsocket then
      finish (websocketSendCloseFrameCstr 1008 "Publishing not allowed." s)
    else
      match frame.payload with
      | some payload => readData cfg frame payload s avail
      | none =>
        if cfg.allocates frame.payloadLen then
          readData cfg { frame with payload := some [], last := some 0 } [] s avail
        else finish (websocketSendCloseFrame 1011 [] s)
  else finish (s.emit .closeInvalidFrame)

/-- One turn of the loop, with the buffer `buf` over `frame->header`. -/
def turn (cfg : Config σ) (conn : Conn σ) (buf avail : List UInt8) : Turn σ :=
  match conn.frame.step with
  | .start => readHeader conn buf 2 avail WsFrame.setStart
  | .getRealSize =>
    if conn.frame.payloadLen = 126 then readHeader conn buf 2 avail WsFrame.setRealSize
    else if conn.frame.payloadLen = 127 then readHeader conn buf 8 avail WsFrame.setRealSize
    else .next ⟨{ conn.frame with step := .getMaskKey }, conn.sub⟩ avail
  | .getMaskKey =>
    if conn.frame.mask then readHeader conn buf 4 avail WsFrame.setMaskKey
    else .next ⟨{ conn.frame with step := .getPayload }, conn.sub⟩ avail
  | .getPayload => readPayload cfg conn avail

/-- The loop.  `set_buffer(&buf, frame->header, NULL, 8)` after a step, and the entry at
    `retry` with `frame->last = NULL`, both start the buffer anew. -/
def readLoop (cfg : Config σ) : Nat → Conn σ → List UInt8 → List UInt8 → Option (Conn σ)
  | 0, _, _, _ => none
  | fuel + 1, conn, buf, avail =>
    match turn cfg conn buf avail with
    | .next conn avail => readLoop cfg fuel conn [] avail
    | .ret conn => some conn

/-- The buffer over the header at the entry of the function. -/
def Conn.entry (conn : Conn σ) : List UInt8 := setBuffer conn.frame.header conn.frame.last

/-- `websocket_reading` when `avail` can be received before `NGX_AGAIN`.  A finalized
    request gets no more events. -/
def websocketReading (cfg : Config σ) (conn : Conn σ) (avail : List UInt8) : Option (Conn σ) :=
  if conn.sub.finalized then some conn
  else readLoop cfg (4 * avail.length + 5) conn conn.entry avail

/-- One `websocket_reading` for each chunk. -/
def readChunks (cfg : Config σ) : List (List UInt8) → Conn σ → Option (Conn σ)
  | [], conn => some conn
  | chunk :: chunks, conn => (websocketReading cfg conn chunk).bind (readChunks cfg chunks)

end Nchan.Websocket
