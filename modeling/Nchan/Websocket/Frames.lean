import Nchan.Websocket.Resume

/-! # The frames of a client

A frame as a client may send it, and what the server does with it: `ClientFrame.serve`.
`frames_read` says that `websocket_reading` does just that with the bytes of the frames,
and where it stands after any part of them.
-/

namespace Nchan.Websocket

open Nchan.Lib List

/-- How the length of the payload is sent: in the second byte, or in the bytes after it. -/
inductive Size where
  | short | medium | long

def Size.width : Size → Nat
  | .short => 0
  | .medium => 2
  | .long => 8

def Size.limit : Size → Nat
  | .short => 126
  | .medium => 256 ^ 2
  | .long => 256 ^ 8

def Size.code : Size → Nat → Nat
  | .short, len => len
  | .medium, _ => 126
  | .long, _ => 127

/-- A complete frame with the payload as it is sent, under its mask. -/
structure ClientFrame where
  byte0 : UInt8
  size : Size
  maskKey : Option (List UInt8)
  payload : List UInt8
  keyLength : ∀ key ∈ maskKey, key.length = 4
  fits : payload.length < size.limit

namespace ClientFrame

variable (f : ClientFrame)

def opcode : Nat := f.byte0.toNat % 16

def rsv1 : Bool := f.byte0.toNat / 64 % 2 = 1

def byte1 : UInt8 :=
  UInt8.ofNat ((if f.maskKey.isSome then 128 else 0) + f.size.code f.payload.length)

def start : List UInt8 := [f.byte0, f.byte1]

def realSize : List UInt8 := BigEndian.toBytes f.size.width f.payload.length

def header : List UInt8 := f.start ++ (f.realSize ++ f.maskKey.getD [])

def bytes : List UInt8 := f.header ++ f.payload

def message : List UInt8 :=
  match f.maskKey with
  | some key => websocketUnmaskFrame key f.payload
  | none => f.payload

variable {σ : Type}

def serve (cfg : Config σ) (s : Subscriber σ) : Subscriber σ :=
  if s.finalized then s
  else if isControl f.opcode then
    if f.payload.length < 1024 then controlFrame f.opcode f.message s
    else websocketReadingFinalize (websocketSendCloseFrame 1009 [] s)
  else if isData f.opcode then
    if !cfg.pubWebsocket then
      websocketReadingFinalize (websocketSendCloseFrameCstr 1008 "Publishing not allowed." s)
    else if cfg.allocates f.payload.length then dataFrame cfg f.opcode f.rsv1 f.message s
    else websocketReadingFinalize (websocketSendCloseFrame 1011 [] s)
  else websocketReadingFinalize (s.emit .closeInvalidFrame)

theorem code_lt : f.size.code f.payload.length < 128 := by
  have fits := f.fits
  cases size : f.size <;> simp only [Size.code, size, Size.limit] at fits ⊢ <;> omega

theorem byte1_toNat :
    f.byte1.toNat = (if f.maskKey.isSome then 128 else 0) + f.size.code f.payload.length := by
  have := f.code_lt
  rw [byte1, UInt8.toNat_ofNat']
  split <;> omega

theorem byte1_mask : decide (f.byte1.toNat / 128 % 2 = 1) = f.maskKey.isSome := by
  have := f.code_lt
  rw [byte1_toNat]
  cases f.maskKey.isSome <;> simp <;> omega

theorem byte1_size : f.byte1.toNat % 128 = f.size.code f.payload.length := by
  have := f.code_lt
  rw [byte1_toNat]
  split <;> omega

end ClientFrame

def serveAll {σ : Type} (cfg : Config σ) (frames : List ClientFrame) (s : Subscriber σ) :
    Subscriber σ :=
  frames.foldl (fun s f => f.serve cfg s) s

/-! ## Turns over a part of the stream -/

variable {σ : Type} {cfg : Config σ}

inductive Goes (cfg : Config σ) : Conn σ → List UInt8 → Conn σ → List UInt8 → Prop
  | refl (c : Conn σ) (avail : List UInt8) : Goes cfg c avail c avail
  | step {c c₁ c₂ : Conn σ} {avail rest₁ rest₂ : List UInt8}
      (taken : turn cfg c [] avail = .next c₁ rest₁) (after : Goes cfg c₁ rest₁ c₂ rest₂) :
      Goes cfg c avail c₂ rest₂

variable {c conn : Conn σ} {avail part tail : List UInt8}

theorem Goes.trans {c₁ c₂ : Conn σ} {rest₁ rest₂ : List UInt8} (first : Goes cfg c avail c₁ rest₁)
    (second : Goes cfg c₁ rest₁ c₂ rest₂) : Goes cfg c avail c₂ rest₂ := by
  induction first with
  | refl => exact second
  | step taken _ ih => exact .step taken (ih second)

/-- The loop returns `r`. -/
def Returns (cfg : Config σ) (conn : Conn σ) (avail : List UInt8) (r : Conn σ) : Prop :=
  ∃ fuel, readLoop cfg fuel conn [] avail = some r

theorem Returns.of_ret {r : Conn σ} (taken : turn cfg c [] avail = .ret r) :
    Returns cfg c avail r :=
  ⟨1, by simp [readLoop, taken]⟩

theorem Goes.returns {c' r : Conn σ} {rest : List UInt8} (goes : Goes cfg c avail c' rest)
    (returns : Returns cfg c' rest r) : Returns cfg c avail r := by
  induction goes with
  | refl => exact returns
  | step taken _ ih =>
    obtain ⟨fuel, eq⟩ := ih returns
    exact ⟨fuel + 1, by simp [readLoop, taken, eq]⟩

theorem cut_item {item : List UInt8} (cut : part <+: item ++ tail) :
    part.length < item.length ∨ ∃ rest, part = item ++ rest ∧ rest <+: tail := by
  rcases Nat.lt_or_ge part.length item.length with short | enough
  · exact .inl short
  · obtain ⟨rest, rfl⟩ := prefix_of_prefix_length_le (prefix_append item tail) cut enough
    exact .inr ⟨rest, rfl, (prefix_append_right_inj item).mp cut⟩

/-- A part of the stream ends inside `item`, before any payload, or the turns go on behind
    it in a state with `post`. -/
def Passes (cfg : Config σ) (conn : Conn σ) (part item tail : List UInt8) (post : Conn σ → Prop) :
    Prop :=
  (part.length < item.length ∧ ∃ c, Returns cfg conn part c ∧ c.frame.step ≠ .getPayload ∧
    c.sub = conn.sub) ∨
  ∃ rest c, part = item ++ rest ∧ rest <+: tail ∧ Goes cfg conn part c rest ∧
    c.sub = conn.sub ∧ post c

theorem Passes.append {item₁ item₂ : List UInt8} {post₁ post₂ : Conn σ → Prop}
    (first : Passes cfg conn part item₁ (item₂ ++ tail) post₁)
    (second : ∀ c rest, post₁ c → rest <+: item₂ ++ tail → Passes cfg c rest item₂ tail post₂) :
    Passes cfg conn part (item₁ ++ item₂) tail post₂ := by
  rcases first with ⟨short, stopped⟩ | ⟨rest, c, rfl, cut, goes, sub, post⟩
  · exact .inl ⟨by rw [length_append]; omega, stopped⟩
  · rcases second c rest post cut with
      ⟨short, r, returns, step, sub'⟩ | ⟨rest', c', rfl, cut', goes', sub', post'⟩
    · exact .inl ⟨by simpa using short, r, goes.returns returns, step, sub'.trans sub⟩
    · exact .inr ⟨rest', c', (append_assoc ..).symm, cut', goes.trans goes', sub'.trans sub,
        post'⟩

theorem Passes.item {item : List UInt8} {len : Nat} {next : WsFrame → List UInt8 → WsFrame}
    {post : Conn σ → Prop}
    (reads : ∀ avail, turn cfg conn [] avail = readHeader conn [] len avail next)
    (length : item.length = len) (some : 0 < len) (before : conn.frame.step ≠ .getPayload)
    (after : post ⟨next { conn.frame with header := item } item, conn.sub⟩)
    (cut : part <+: item ++ tail) : Passes cfg conn part item tail post := by
  rcases cut_item cut with short | ⟨rest, rfl, cut'⟩
  · have taken := (reads part).trans (readHeader_short (by simp; omega))
    exact .inl ⟨short, _, .of_ret taken, before, rfl⟩
  · have taken := (reads (item ++ rest)).trans
      (readHeader_enough (by simpa using some) (by simp; omega))
    simp only [nil_append, length_nil, Nat.sub_zero, ← length, List.take_left',
      List.drop_left'] at taken
    exact .inr ⟨rest, _, rfl, cut', .step taken (.refl _ _), rfl, after⟩

theorem Passes.skip {post : Conn σ → Prop} (skips : turn cfg conn [] part = .next c part)
    (sub : c.sub = conn.sub) (after : post c) (cut : part <+: tail) :
    Passes cfg conn part [] tail post :=
  .inr ⟨part, c, rfl, cut, .step skips (.refl _ _), sub, after⟩

/-! ## The header of a frame -/

structure Conn.AtStart (conn : Conn σ) : Prop where
  step : conn.frame.step = .start
  last : conn.frame.last = none
  payload : conn.frame.payload = none
  opened : conn.sub.finalized = false

/-- The first bytes of `f` were read. -/
structure Started (f : ClientFrame) (conn : Conn σ) : Prop where
  opcode : conn.frame.opcode = f.opcode
  rsv1 : conn.frame.rsv1 = f.rsv1
  mask : conn.frame.mask = f.maskKey.isSome
  payload : conn.frame.payload = none

/-- The header of `f` was read. -/
structure Headed (f : ClientFrame) (conn : Conn σ) : Prop extends Started f conn where
  step : conn.frame.step = .getPayload
  payloadLen : conn.frame.payloadLen = f.payload.length
  maskKey : ∀ key ∈ f.maskKey, conn.frame.maskKey = key

variable {f : ClientFrame}

theorem start_read (start : conn.AtStart) (cut : part <+: f.start ++ tail) :
    Passes cfg conn part f.start tail fun c => Started f c ∧ c.frame.step = .getRealSize ∧
      c.frame.payloadLen = f.size.code f.payload.length :=
  .item (fun _ => turn_start start.step) rfl (by decide) (by simp [start.step])
    ⟨⟨rfl, rfl, f.byte1_mask, start.payload⟩, rfl, f.byte1_size⟩ cut

theorem size_read (started : Started f conn) (step : conn.frame.step = .getRealSize)
    (code : conn.frame.payloadLen = f.size.code f.payload.length)
    (cut : part <+: f.realSize ++ tail) :
    Passes cfg conn part f.realSize tail fun c => Started f c ∧ c.frame.step = .getMaskKey ∧
      c.frame.payloadLen = f.payload.length := by
  have before : conn.frame.step ≠ .getPayload := by simp [step]
  have fits := f.fits
  unfold ClientFrame.realSize at cut ⊢
  cases size : f.size with
  | short =>
    rw [size] at fits code cut
    have small : f.payload.length < 126 := fits
    have exact : conn.frame.payloadLen = f.payload.length := code
    exact .skip (turn_size_short step (by omega) (by omega)) rfl
      ⟨⟨started.opcode, started.rsv1, started.mask, started.payload⟩, rfl, exact⟩ cut
  | medium =>
    rw [size] at fits code cut
    exact .item (fun _ => turn_size_medium step code) (BigEndian.length_toBytes _ _) (by decide) before
      ⟨⟨started.opcode, started.rsv1, started.mask, started.payload⟩, rfl,
        BigEndian.ofBytes_toBytes fits⟩ cut
  | long =>
    rw [size] at fits code cut
    exact .item (fun _ => turn_size_long step code) (BigEndian.length_toBytes _ _) (by decide) before
      ⟨⟨started.opcode, started.rsv1, started.mask, started.payload⟩, rfl,
        BigEndian.ofBytes_toBytes fits⟩ cut

theorem key_read (started : Started f conn) (step : conn.frame.step = .getMaskKey)
    (payloadLen : conn.frame.payloadLen = f.payload.length)
    (cut : part <+: f.maskKey.getD [] ++ tail) :
    Passes cfg conn part (f.maskKey.getD []) tail (Headed f) := by
  have mask := started.mask
  cases its : f.maskKey with
  | none =>
    rw [its] at mask cut
    exact .skip (turn_key_unmasked step mask) rfl
      ⟨⟨started.opcode, started.rsv1, started.mask, started.payload⟩, rfl, payloadLen,
        by simp [its]⟩ cut
  | some key =>
    rw [its] at mask cut
    exact .item (fun _ => turn_key_masked step mask) (f.keyLength key its) (by decide)
      (by simp [step])
      ⟨⟨started.opcode, started.rsv1, started.mask, started.payload⟩, rfl, payloadLen,
        by simp [its, WsFrame.setMaskKey]⟩ cut

theorem header_read (start : conn.AtStart) (cut : part <+: f.header ++ tail) :
    Passes cfg conn part f.header tail (Headed f) := by
  rw [ClientFrame.header, append_assoc] at cut
  refine (start_read start cut).append fun c rest ⟨started, step, code⟩ cut => ?_
  rw [append_assoc] at cut
  exact (size_read started step code cut).append fun c rest ⟨started, step, payloadLen⟩ cut =>
    key_read started step payloadLen cut

/-! ## A whole frame -/

theorem Headed.unmasked (headed : Headed f conn) : conn.frame.unmasked f.payload = f.message := by
  rw [WsFrame.unmasked, headed.mask, ClientFrame.message]
  cases its : f.maskKey with
  | none => rfl
  | some key => simp [headed.maskKey key its]

/-- What can be said after a part of the stream that begins with `f`: it ends inside `f`,
    or `f` ended the connection, or the turns go on behind `f`. -/
inductive FrameRead (cfg : Config σ) (f : ClientFrame) (conn : Conn σ) (s : Subscriber σ)
    (part item tail : List UInt8) (offset : Nat) : Prop
  | stops (c : Conn σ) (returns : Returns cfg conn part c) (short : part.length < item.length)
      (loses : c.Loses → isControl f.opcode = true ∧ f.payload.length < 1024 ∧ offset < part.length)
  | finalizes (c : Conn σ) (returns : Returns cfg conn part c) (kept : ¬ c.Loses)
      (sub : c.sub = f.serve cfg s) (finalized : (f.serve cfg s).finalized = true)
  | passes (rest : List UInt8) (c : Conn σ) (split : part = item ++ rest) (cut : rest <+: tail)
      (goes : Goes cfg conn part c rest) (start : c.AtStart) (sub : c.sub = f.serve cfg s)

variable {s : Subscriber σ}

section Payload

variable {f : ClientFrame} {conn : Conn σ} {part rest tail : List UInt8} {offset : Nat}

theorem FrameRead.of_finish {item : List UInt8} (taken : turn cfg conn [] part = finish s)
    (serve : f.serve cfg conn.sub = websocketReadingFinalize s) :
    FrameRead cfg f conn conn.sub part item tail offset :=
  .finalizes _ (.of_ret taken) (fun loses => nomatch loses.1) serve.symm (by rw [serve]; rfl)

theorem FrameRead.of_nextFrame {frame : WsFrame} {item : List UInt8}
    (taken : turn cfg conn [] part = nextFrame frame s rest) (split : part = item ++ rest)
    (cut : rest <+: tail) (serve : f.serve cfg conn.sub = s) :
    FrameRead cfg f conn conn.sub part item tail offset := by
  cases opened : s.finalized with
  | true =>
    rw [nextFrame, if_pos opened] at taken
    refine .of_finish taken (serve.trans ?_)
    simp [websocketReadingFinalize, ← opened]
  | false =>
    rw [nextFrame, if_neg (by simp [opened])] at taken
    exact .passes rest _ split cut (.step taken (.refl _ _)) ⟨rfl, rfl, rfl, opened⟩ serve.symm

theorem unmasked_nil (frame : WsFrame) : frame.unmasked [] = [] := by
  simp [WsFrame.unmasked, websocketUnmaskFrame]

variable (opened : conn.sub.finalized = false)

include opened

theorem control_read (headed : Headed f conn)
    (control : isControl f.opcode = true) (cut : part <+: f.payload ++ tail) :
    FrameRead cfg f conn conn.sub part f.payload tail 0 := by
  have reads : ∀ avail, turn cfg conn [] avail = readControl conn.frame conn.sub avail := by
    simp [turn_payload headed.step, readPayload, headed.opcode, control]
  have length := headed.payloadLen
  by_cases small : f.payload.length < 1024
  · have serve : f.serve cfg conn.sub = controlFrame f.opcode f.message conn.sub := by
      simp [ClientFrame.serve, opened, control, small]
    rw [← headed.unmasked, ← headed.opcode] at serve
    by_cases none : f.payload = []
    · have taken := reads part
      rw [readControl, if_pos (by rw [length, none]; rfl)] at taken
      rw [none, unmasked_nil] at serve
      exact .of_nextFrame taken (by simp [none]) (by simpa [none] using cut) serve
    have some : conn.frame.payloadLen ≠ 0 := by simpa [length] using none
    rcases cut_item cut with short | ⟨rest, rfl, cut'⟩
    · have taken := (reads part).trans
        (readControl_short _ some (by omega) (by omega))
      refine .stops _ (.of_ret taken) short fun loses => ⟨control, small, ?_⟩
      have := loses.2.2.2
      simpa [length_pos_iff] using this
    · have taken := (reads (f.payload ++ rest)).trans
        (readControl_enough _ some (by omega) (by simp; omega))
      simp only [length, List.take_left', List.drop_left'] at taken
      exact .of_nextFrame taken rfl cut' serve
  · have taken := reads part
    rw [readControl, if_neg (by omega), if_neg (by omega)] at taken
    refine .of_finish taken ?_
    simp [ClientFrame.serve, opened, control, small]

theorem data_read (headed : Headed f conn)
    (control : isControl f.opcode = false) (data : isData f.opcode = true)
    (cut : part <+: f.payload ++ tail) :
    FrameRead cfg f conn conn.sub part f.payload tail 0 := by
  have length := headed.payloadLen
  have step : ∀ avail, turn cfg conn [] avail = readPayload cfg conn avail :=
    fun _ => turn_payload headed.step
  cases allowed : cfg.pubWebsocket with
  | false =>
    refine .of_finish (s := websocketSendCloseFrameCstr 1008 "Publishing not allowed." conn.sub) ?_ ?_
    · simp [step, readPayload, headed.opcode, control, data, allowed]
    · simp [ClientFrame.serve, opened, control, data, allowed]
  | true =>
    cases allocated : cfg.allocates f.payload.length with
    | false =>
      refine .of_finish (s := websocketSendCloseFrame 1011 [] conn.sub) ?_ ?_
      · simp [step, readPayload, headed.opcode, control, data, allowed, headed.payload, length,
          allocated]
      · simp [ClientFrame.serve, opened, control, data, allowed, allocated]
    | true =>
      let frame : WsFrame := { conn.frame with payload := some [], last := some 0 }
      have reads : ∀ avail, turn cfg conn [] avail = readData cfg frame [] conn.sub avail := by
        simp [step, readPayload, headed.opcode, control, data, allowed, headed.payload, length,
          allocated, frame]
      have serve : f.serve cfg conn.sub = dataFrame cfg f.opcode f.rsv1 f.message conn.sub := by
        simp [ClientFrame.serve, opened, control, data, allowed, allocated]
      rw [← headed.unmasked, ← headed.opcode, ← headed.rsv1] at serve
      by_cases none : f.payload = []
      · have taken := reads part
        rw [readData, if_pos (show frame.payloadLen = 0 by simp [frame, length, none])] at taken
        rw [none, unmasked_nil] at serve
        exact .of_nextFrame taken (by simp [none]) (by simpa [none] using cut) serve
      have some : 0 < f.payload.length := length_pos_iff.mpr none
      rcases cut_item cut with short | ⟨rest, rfl, cut'⟩
      · have taken := (reads part).trans
          (readData_short _ rfl (show _ < conn.frame.payloadLen by simp [length, setBuffer, short]))
        refine .stops _ (.of_ret taken) short fun loses => ?_
        have isControl := loses.2.1
        simp [frame, headed.opcode, control] at isControl
      · have taken := (reads (f.payload ++ rest)).trans
          (readData_enough _ rfl (show _ < conn.frame.payloadLen by simpa [length,
            setBuffer] using some)
            (show conn.frame.payloadLen ≤ _ by simp [length, setBuffer]))
        simp only [frame, setBuffer, length, take_nil, nil_append, length_nil,
          Nat.sub_zero, List.take_left', List.drop_left'] at taken
        exact .of_nextFrame taken rfl cut' serve

theorem payload_read (headed : Headed f conn)
    (cut : part <+: f.payload ++ tail) :
    FrameRead cfg f conn conn.sub part f.payload tail 0 := by
  cases control : isControl f.opcode with
  | true => exact control_read opened headed control cut
  | false =>
    cases data : isData f.opcode with
    | true => exact data_read opened headed control data cut
    | false =>
      refine .of_finish (s := conn.sub.emit .closeInvalidFrame) ?_ ?_
      · simp [turn_payload headed.step, readPayload, headed.opcode, control, data]
      · simp [ClientFrame.serve, opened, control, data]

end Payload

theorem frame_read (start : conn.AtStart) (cut : part <+: f.bytes ++ tail) :
    FrameRead cfg f conn conn.sub part f.bytes tail f.header.length := by
  rw [ClientFrame.bytes, append_assoc] at cut
  have long : f.bytes.length = f.header.length + f.payload.length := length_append
  have passes : Passes cfg conn part f.header (f.payload ++ tail) (Headed f) := header_read start cut
  rcases passes with ⟨short, c, returns, step, _⟩ | ⟨rest, c, rfl, cut', goes, sub, headed⟩
  · exact .stops c returns (by omega) fun loses => absurd loses.1 step
  · have opened : c.sub.finalized = false := by rw [sub, start.opened]
    have read : FrameRead cfg f c c.sub rest f.payload tail 0 := payload_read opened headed cut'
    rw [sub] at read
    cases read with
    | stops r returns short loses =>
      refine .stops r (goes.returns returns) (by simp; omega) fun lost => ?_
      obtain ⟨control, small, some⟩ := loses lost
      exact ⟨control, small, by simp; omega⟩
    | finalizes r returns kept served finalized =>
      exact .finalizes r (goes.returns returns) kept served finalized
    | passes rest' r split cut'' goes' start' served =>
      exact .passes rest' r (by rw [split, ClientFrame.bytes, append_assoc]) cut''
        (goes.trans goes') start' served

/-! ## All frames -/

theorem serveAll_finalized (finalized : s.finalized = true) (frames : List ClientFrame) :
    serveAll cfg frames s = s := by
  induction frames with
  | nil => rfl
  | cons f frames ih =>
    have unchanged : f.serve cfg s = s := by simp [ClientFrame.serve, finalized]
    rw [serveAll, foldl_cons, unchanged]
    exact ih

def stream (frames : List ClientFrame) : List UInt8 := frames.flatMap ClientFrame.bytes

/-- A stream cut after `pos` bytes is cut inside the payload of a control frame that the
    server reads. -/
def CutsControl (cfg : Config σ) (s : Subscriber σ) (frames : List ClientFrame) (pos : Nat) : Prop :=
  ∃ before f after, frames = before ++ f :: after ∧ (serveAll cfg before s).finalized = false ∧
    isControl f.opcode = true ∧ f.payload.length < 1024 ∧
    (stream before).length + f.header.length < pos ∧
    pos < (stream before).length + f.bytes.length

/-- Where the reader stands after a part of the stream, and that the whole stream is served. -/
theorem frames_read {frames : List ClientFrame} (start : conn.AtStart)
    (cut : part <+: stream frames) :
    ∃ c, Returns cfg conn part c ∧ (c.Loses → CutsControl cfg conn.sub frames part.length) ∧
      (part = stream frames → c.sub = serveAll cfg frames conn.sub) := by
  induction frames generalizing conn part with
  | nil =>
    obtain rfl : part = [] := by simpa [stream] using cut
    have taken : turn cfg conn [] [] = _ :=
      (turn_start start.step).trans (readHeader_short (by decide))
    refine ⟨_, .of_ret taken, fun loses => ?_, fun _ => rfl⟩
    have step := loses.1
    simp [start.step] at step
  | cons f frames ih =>
    have bytes : stream (f :: frames) = f.bytes ++ stream frames := by simp [stream]
    rw [bytes] at cut ⊢
    have read : FrameRead cfg f conn conn.sub part f.bytes (stream frames) f.header.length :=
      frame_read start cut
    cases read with
    | stops c returns short loses =>
      refine ⟨c, returns, fun lost => ?_, ?_⟩
      · obtain ⟨control, small, inside⟩ := loses lost
        exact ⟨[], f, frames, rfl, start.opened, control, small, by simpa [stream] using inside,
          by simpa [stream] using short⟩
      · rintro rfl
        rw [length_append] at short
        omega
    | finalizes c returns kept served finalized =>
      refine ⟨c, returns, fun lost => absurd lost kept, fun _ => ?_⟩
      rw [serveAll, foldl_cons, served]
      exact (serveAll_finalized finalized frames).symm
    | passes rest c split cut' goes start' served =>
      obtain ⟨r, returns, loses, whole⟩ := ih start' cut'
      refine ⟨r, goes.returns returns, fun lost => ?_, fun all => ?_⟩
      · obtain ⟨before, g, after, eq, opened, control, small, low, high⟩ := loses lost
        have length : (stream (f :: before)).length = f.bytes.length + (stream before).length := by
          simp [stream]
        refine ⟨f :: before, g, after, by rw [eq]; rfl, ?_, control, small, ?_, ?_⟩
        · rw [serveAll, foldl_cons, ← served]
          exact opened
        · rw [split, length, length_append]
          omega
        · rw [split, length, length_append]
          omega
      · have rest_eq : rest = stream frames := append_cancel_left (split.symm.trans all)
        rw [whole rest_eq, served]
        rfl

end Nchan.Websocket
