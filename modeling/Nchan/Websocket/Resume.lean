import Nchan.Websocket.Reading

/-! # Leaving and entering `websocket_reading`

What one turn of the loop does when the bytes run out, and that entering the function
again with more bytes goes on as if they had been there: `reads_append`.  The exception
is `Conn.Loses`, a control frame of which some payload bytes were read.
-/

namespace Nchan.Websocket

open List

variable {σ : Type} {cfg : Config σ}

/-! ## Receiving -/

variable {avail buf got : List UInt8} {fuel fuel' len : Nat}

section

variable (short : got.length + avail.length < len)

include short

theorem wsRecv_short :
    wsRecv got len avail = ⟨.again, got ++ avail, []⟩ := by
  unfold wsRecv
  split
  case isTrue none => rw [none, append_nil]
  case isFalse some =>
    have : 0 < avail.length := length_pos_iff.mpr some
    have all : min (len - got.length) avail.length = avail.length := by omega
    have more : ¬ avail.length = 0 := by omega
    simp [all, more, short]

omit short in
theorem wsRecv_enough (room : got.length < len) (enough : len ≤ got.length + avail.length) :
    wsRecv got len avail =
      ⟨.ok, got ++ avail.take (len - got.length), avail.drop (len - got.length)⟩ := by
  have some : avail ≠ [] := by
    rintro rfl
    simp at enough
    omega
  have part : min (len - got.length) avail.length = len - got.length := by omega
  have more : ¬ len - got.length = 0 := by omega
  have full : ¬ got.length + (len - got.length) < len := by omega
  simp [wsRecv, some, part, more, full]

theorem take_across (more : List UInt8) :
    got ++ (avail ++ more).take (len - got.length) =
      got ++ avail ++ more.take (len - (got ++ avail).length) := by
  rw [take_append, take_of_length_le (by omega), append_assoc, length_append,
    Nat.sub_sub]

theorem drop_across (more : List UInt8) :
    (avail ++ more).drop (len - got.length) = more.drop (len - (got ++ avail).length) := by
  rw [drop_append, drop_of_length_le (by omega), nil_append, length_append,
    Nat.sub_sub]

end

theorem setBuffer_length (bytes : List UInt8) : setBuffer bytes (some bytes.length) = bytes :=
  take_length

section Header

variable {conn : Conn σ} {buf avail : List UInt8} {len : Nat}
  {next : WsFrame → List UInt8 → WsFrame}

theorem readHeader_short (short : buf.length + avail.length < len) :
    readHeader conn buf len avail next =
      .ret ⟨{ conn.frame with header := buf ++ avail, last := some (buf ++ avail).length },
        conn.sub⟩ := by
  simp [readHeader, wsRecv_short short, exitReading]

theorem readHeader_enough (room : buf.length < len) (enough : len ≤ buf.length + avail.length) :
    readHeader conn buf len avail next =
      .next ⟨next { conn.frame with header := buf ++ avail.take (len - buf.length) }
        (buf ++ avail.take (len - buf.length)), conn.sub⟩ (avail.drop (len - buf.length)) := by
  simp [readHeader, wsRecv_enough room enough]

end Header

/-! ## The states between turns -/

/-- The item being read is not complete yet. -/
structure Ready (conn : Conn σ) (buf : List UInt8) : Prop where
  opened : conn.sub.finalized = false
  fresh : conn.frame.step ≠ .getPayload → conn.frame.payload = none
  start : conn.frame.step = .start → buf.length < 2
  size : conn.frame.step = .getRealSize → (conn.frame.payloadLen = 126 → buf.length < 2) ∧
    (conn.frame.payloadLen = 127 → buf.length < 8)
  key : conn.frame.step = .getMaskKey → conn.frame.mask = true → buf.length < 4
  payload : conn.frame.step = .getPayload → isControl conn.frame.opcode = false →
    ∀ p, conn.frame.payload = some p → (setBuffer p conn.frame.last).length < conn.frame.payloadLen

variable {conn r : Conn σ}

theorem Ready.empty (opened : conn.sub.finalized = false) (fresh : conn.frame.payload = none) :
    Ready conn [] := by
  constructor <;> simp [opened, fresh]

/-- Bytes of the payload were read to an array that is gone. -/
def Conn.Loses (conn : Conn σ) : Prop :=
  conn.frame.step = .getPayload ∧ isControl conn.frame.opcode = true ∧
    conn.frame.last ≠ none ∧ conn.frame.last ≠ some 0

/-- Two turns with the same result, but for a `frame->last` that is not used any more. -/
inductive Turn.Same : Turn σ → Turn σ → Prop
  | refl (t : Turn σ) : Turn.Same t t
  | next {f : WsFrame} {s : Subscriber σ} {avail : List UInt8} (fresh : f.payload = none)
      (last : Option Nat) : Turn.Same (.next ⟨{ f with last := last }, s⟩ avail) (.next ⟨f, s⟩ avail)

/-- An update of the frame that has nothing to do with its memory. -/
structure Keeps (next : WsFrame → List UInt8 → WsFrame) : Prop where
  last : ∀ f header last, next { f with last := last } header = { next f header with last := last }
  payload : ∀ f header, (next f header).payload = f.payload

theorem Turn.Same.header {next : WsFrame → List UInt8 → WsFrame} (keeps : Keeps next) {f : WsFrame}
    (fresh : f.payload = none) (got : List UInt8) (last : Option Nat) (s : Subscriber σ)
    (avail : List UInt8) :
    Turn.Same (.next ⟨next { f with header := got, last := last } got, s⟩ avail)
      (.next ⟨next { f with header := got } got, s⟩ avail) := by
  have stale := keeps.last { f with header := got } got last
  have same : Turn.Same (.next ⟨{ next { f with header := got } got with last := last }, s⟩ avail)
      (.next ⟨next { f with header := got } got, s⟩ avail) :=
    .next ((keeps.payload { f with header := got } got).trans fresh) last
  rw [← stale] at same
  exact same

def weight (conn : Conn σ) (avail : List UInt8) : Nat :=
  4 * avail.length +
    match conn.frame.step with
    | .start => 1
    | .getRealSize => 4
    | .getMaskKey => 3
    | .getPayload => 2

inductive TurnSpec (cfg : Config σ) (conn : Conn σ) (buf avail : List UInt8) : Turn σ → Prop
  | goesOn (c : Conn σ) (rest : List UInt8) (opened : c.sub.finalized = false)
      (fresh : c.frame.payload = none) (less : weight c rest < weight conn avail)
      (append : ∀ more, turn cfg conn buf (avail ++ more) = .next c (rest ++ more)) :
      TurnSpec cfg conn buf avail (.next c rest)
  | finishes (c : Conn σ) (finalized : c.sub.finalized = true)
      (append : ∀ more, turn cfg conn buf (avail ++ more) = .ret c) :
      TurnSpec cfg conn buf avail (.ret c)
  | suspends (c : Conn σ) (ready : Ready c c.entry)
      (resume : ¬ c.Loses → ∀ more,
        Turn.Same (turn cfg c c.entry more) (turn cfg conn buf (avail ++ more))) :
      TurnSpec cfg conn buf avail (.ret c)

/-! ## One turn -/

/-- The frame with the header memory and `frame->last` replaced. -/
def Conn.filled (conn : Conn σ) (header : List UInt8) (last : Option Nat) : Conn σ :=
  ⟨{ conn.frame with header := header, last := last }, conn.sub⟩

@[simp] theorem Conn.filled_self (conn : Conn σ) :
    conn.filled conn.frame.header conn.frame.last = conn := rfl

theorem Conn.entry_filled (conn : Conn σ) (header : List UInt8) :
    (conn.filled header (some header.length)).entry = header :=
  setBuffer_length header

theorem header_spec {next : WsFrame → List UInt8 → WsFrame}
    (reads : ∀ header last buf avail, turn cfg (conn.filled header last) buf avail =
      readHeader (conn.filled header last) buf len avail next)
    (room : buf.length < len) (opened : conn.sub.finalized = false)
    (fresh : conn.frame.payload = none)
    (again : ∀ header last (buf : List UInt8), buf.length < len → Ready (conn.filled header last) buf)
    (keeps : Keeps next)
    (fewer : ∀ f header, weight ⟨next f header, conn.sub⟩ [] < weight conn [] + 4) :
    TurnSpec cfg conn buf avail (turn cfg conn buf avail) := by
  have here := reads conn.frame.header conn.frame.last
  simp only [Conn.filled_self] at here
  rcases Nat.lt_or_ge (buf.length + avail.length) len with short | enough
  · -- the bytes run out: the same header bytes are there at the next entry
    rw [here, readHeader_short short]
    have entry : (conn.filled (buf ++ avail) (some (buf ++ avail).length)).entry = buf ++ avail :=
      conn.entry_filled _
    refine .suspends (conn.filled (buf ++ avail) (some (buf ++ avail).length)) ?_ ?_
    · rw [entry]
      exact again _ _ _ (by simpa using short)
    · intro _ more
      rw [entry, reads, here]
      rcases Nat.lt_or_ge (buf.length + avail.length + more.length) len with short' | enough'
      · rw [readHeader_short (by simpa using short'),
          readHeader_short (by simpa [Nat.add_assoc] using short'), append_assoc]
        exact .refl _
      · rw [readHeader_enough (by simpa using short) (by simpa using enough'),
          readHeader_enough room (by simpa [Nat.add_assoc] using enough')]
        rw [take_across short, drop_across short]
        exact .header keeps fresh _ _ _ _
  · rw [here, readHeader_enough room enough]
    refine .goesOn _ _ opened ?_ ?_ ?_
    · exact (keeps.payload _ _).trans fresh
    · have := fewer { conn.frame with header := buf ++ avail.take (len - buf.length) }
        (buf ++ avail.take (len - buf.length))
      simp only [weight, length_nil, length_drop] at this ⊢
      omega
    · intro more
      have taken : (avail ++ more).take (len - buf.length) = avail.take (len - buf.length) :=
        take_append_of_le_length (by omega)
      have left : (avail ++ more).drop (len - buf.length) = avail.drop (len - buf.length) ++ more :=
        drop_append_of_le_length (by omega)
      rw [here, readHeader_enough room (by simp; omega), taken, left]

theorem skip_spec {c : Conn σ} (skips : ∀ avail, turn cfg conn buf avail = .next c avail)
    (opened : c.sub.finalized = false) (fresh : c.frame.payload = none)
    (less : weight c avail < weight conn avail) :
    TurnSpec cfg conn buf avail (turn cfg conn buf avail) := by
  rw [skips]
  exact .goesOn _ _ opened fresh less fun more => skips _

theorem finish_spec {s : Subscriber σ} (finishes : ∀ avail, turn cfg conn buf avail = finish s) :
    TurnSpec cfg conn buf avail (turn cfg conn buf avail) := by
  rw [finishes]
  exact .finishes _ rfl fun more => finishes _

variable {frame : WsFrame}

theorem nextFrame_spec {s : Subscriber σ} (step : conn.frame.step = .getPayload) (rest : List UInt8)
    (fewer : rest.length ≤ avail.length)
    (ends : ∀ more, turn cfg conn buf (avail ++ more) = nextFrame frame s (rest ++ more)) :
    TurnSpec cfg conn buf avail (turn cfg conn buf avail) := by
  have here := ends []
  rw [append_nil, append_nil] at here
  rw [here]
  cases opened : s.finalized with
  | true =>
    simp only [nextFrame, opened, if_true] at ends ⊢
    exact .finishes _ rfl ends
  | false =>
    simp only [nextFrame, opened] at ends ⊢
    refine .goesOn _ _ opened rfl ?_ ends
    simp only [weight, step]
    omega

/-! ## The payload of a control frame -/

theorem readControl_overwrites (frame : WsFrame) (payload : Option (List UInt8))
    (last : Option Nat) (s : Subscriber σ) (avail : List UInt8) :
    readControl { frame with payload := payload, last := last } s avail = readControl frame s avail :=
  rfl

theorem readControl_short (s : Subscriber σ) (some : frame.payloadLen ≠ 0)
    (small : frame.payloadLen < 1024) (short : avail.length < frame.payloadLen) :
    readControl frame s avail =
      .ret ⟨{ frame with payload := .some avail, last := .some avail.length }, s⟩ := by
  simp [readControl, some, small, setBuffer, exitReading,
    wsRecv_short (show ([] : List UInt8).length + _ < _ by simpa using short)]

theorem readControl_enough (s : Subscriber σ) (some : frame.payloadLen ≠ 0)
    (small : frame.payloadLen < 1024) (enough : frame.payloadLen ≤ avail.length) :
    readControl frame s avail =
      nextFrame frame
        (controlFrame frame.opcode (frame.unmasked (avail.take frame.payloadLen)) s)
        (avail.drop frame.payloadLen) := by
  have room : ([] : List UInt8).length < frame.payloadLen := Nat.pos_of_ne_zero some
  simp [readControl, some, small, setBuffer, wsRecv_enough room (by simpa using enough)]
  rfl

theorem control_spec (step : conn.frame.step = .getPayload)
    (control : isControl conn.frame.opcode = true) (opened : conn.sub.finalized = false) :
    TurnSpec cfg conn buf avail (turn cfg conn buf avail) := by
  have reads : ∀ buf avail, turn cfg conn buf avail = readControl conn.frame conn.sub avail := by
    simp [turn, step, readPayload, control]
  by_cases none : conn.frame.payloadLen = 0
  · exact nextFrame_spec step avail le_rfl fun more => by rw [reads, readControl, if_pos none]
  by_cases small : conn.frame.payloadLen < 1024
  · rcases Nat.lt_or_ge avail.length conn.frame.payloadLen with short | enough
    · rw [reads, readControl_short _ none small short]
      refine .suspends _ ⟨opened, fun h => absurd step h, ?_, ?_, ?_, ?_⟩ ?_
      case refine_5 =>
        -- nothing is lost only if nothing was there
        intro kept more
        have nothing : avail = [] := by
          by_contra some
          refine kept ⟨step, control, nofun, ?_⟩
          simpa using some
        subst nothing
        rw [nil_append, reads, ← readControl_overwrites _ (some []) (some 0)]
        simp only [turn, step, readPayload, control, if_true]
        exact .refl _
      all_goals simp [step, control]
    · have ends : ∀ more, turn cfg conn buf (avail ++ more) = nextFrame conn.frame
          (controlFrame conn.frame.opcode
            (conn.frame.unmasked (avail.take conn.frame.payloadLen)) conn.sub)
          (avail.drop conn.frame.payloadLen ++ more) := by
        intro more
        rw [reads, readControl_enough _ none small (by simp; omega),
          take_append_of_le_length enough, drop_append_of_le_length enough]
      exact nextFrame_spec step _ (by simp) ends
  · exact finish_spec fun avail => by rw [reads, readControl, if_neg none, if_neg small]

/-! ## The payload of a data frame -/

section Data

variable {frame : WsFrame} {payload got avail : List UInt8}

theorem readData_short (s : Subscriber σ) (held : setBuffer payload frame.last = got)
    (short : got.length + avail.length < frame.payloadLen) :
    readData cfg frame payload s avail =
      .ret ⟨{ frame with payload := some (got ++ avail), last := some (got ++ avail).length }, s⟩ := by
  have some : frame.payloadLen ≠ 0 := by omega
  simp [readData, some, held, wsRecv_short short, exitReading]

theorem readData_enough (s : Subscriber σ) (held : setBuffer payload frame.last = got)
    (room : got.length < frame.payloadLen) (enough : frame.payloadLen ≤ got.length + avail.length) :
    readData cfg frame payload s avail =
      nextFrame frame (dataFrame cfg frame.opcode frame.rsv1
          (frame.unmasked (got ++ avail.take (frame.payloadLen - got.length))) s)
        (avail.drop (frame.payloadLen - got.length)) := by
  have some : frame.payloadLen ≠ 0 := by omega
  simp [readData, some, held, wsRecv_enough room enough]
  rfl

end Data

/-- A data frame goes on in `frame` with the memory of `payload`: its own, or a new one. -/
theorem data_spec {payload : List UInt8} (stays : conn.frame.step = .getPayload)
    (step : frame.step = .getPayload) (control : isControl frame.opcode = false)
    (data : isData frame.opcode = true) (allowed : cfg.pubWebsocket = true)
    (opened : conn.sub.finalized = false)
    (reads : ∀ avail, turn cfg conn buf avail = readData cfg frame payload conn.sub avail)
    (held : setBuffer payload frame.last = got)
    (room : frame.payloadLen ≠ 0 → got.length < frame.payloadLen) :
    TurnSpec cfg conn buf avail (turn cfg conn buf avail) := by
  by_cases none : frame.payloadLen = 0
  · exact nextFrame_spec stays avail le_rfl fun more => by rw [reads, readData, if_pos none]
  replace room := room none
  rcases Nat.lt_or_ge (got.length + avail.length) frame.payloadLen with short | enough
  · rw [reads, readData_short _ held short]
    -- the bytes of the payload are found again from `frame->payload` and `frame->last`
    have entry := setBuffer_length (got ++ avail)
    have filled : (got ++ avail).length < frame.payloadLen := by simpa using short
    refine .suspends _ ⟨opened, fun h => absurd step h, ?_, ?_, ?_, ?_⟩ ?_
    case refine_4 =>
      intro _ _ p its
      obtain rfl : got ++ avail = p := by simpa using its
      rw [entry]
      exact filled
    case refine_5 =>
      intro _ more
      let suspended : WsFrame :=
        { frame with payload := some (got ++ avail), last := some (got ++ avail).length }
      have again : ∀ buf, turn cfg ⟨suspended, conn.sub⟩ buf more =
          readData cfg suspended (got ++ avail) conn.sub more := by
        simp [suspended, turn, step, readPayload, control, data, allowed]
      have sum : (avail ++ more).length = avail.length + more.length := length_append
      have part : (got ++ avail).length = got.length + avail.length := length_append
      rw [again, reads]
      rcases Nat.lt_or_ge (got.length + avail.length + more.length) frame.payloadLen
        with short' | enough'
      · rw [readData_short _ entry (by rw [part]; exact short'),
          readData_short _ held (by omega), append_assoc]
        exact .refl _
      · have later : readData cfg suspended (got ++ avail) conn.sub more = _ :=
          readData_enough _ entry filled (by rw [part]; exact enough')
        have atOnce : readData cfg frame payload conn.sub (avail ++ more) = _ :=
          readData_enough _ held room (by omega)
        rw [later, atOnce, take_across short, drop_across short]
        exact .refl _
    all_goals simp [step]
  · have ends : ∀ more, turn cfg conn buf (avail ++ more) = nextFrame frame
        (dataFrame cfg frame.opcode frame.rsv1
          (frame.unmasked (got ++ avail.take (frame.payloadLen - got.length))) conn.sub)
        (avail.drop (frame.payloadLen - got.length) ++ more) := by
      intro more
      rw [reads, readData_enough _ held room (by simp; omega),
        take_append_of_le_length (by omega), drop_append_of_le_length (by omega)]
    exact nextFrame_spec stays _ (by simp) ends

/-! ## Any turn -/

theorem payload_spec (step : conn.frame.step = .getPayload) (ready : Ready conn buf) :
    TurnSpec cfg conn buf avail (turn cfg conn buf avail) := by
  cases control : isControl conn.frame.opcode with
  | true => exact control_spec step control ready.opened
  | false =>
    cases data : isData conn.frame.opcode with
    | false => exact finish_spec fun _ => by simp [turn, step, readPayload, control, data]; rfl
    | true =>
      cases allowed : cfg.pubWebsocket with
      | false =>
        exact finish_spec fun _ => by simp [turn, step, readPayload, control, data, allowed]; rfl
      | true =>
        cases memory : conn.frame.payload with
        | some payload =>
          refine data_spec step step control data allowed ready.opened (fun _ => ?_) rfl fun _ =>
            ready.payload step control payload memory
          simp [turn, step, readPayload, control, data, allowed, memory]
        | none =>
          cases allocated : cfg.allocates conn.frame.payloadLen with
          | false =>
            exact finish_spec fun _ => by
              simp [turn, step, readPayload, control, data, allowed, memory, allocated]; rfl
          | true =>
            let frame : WsFrame := { conn.frame with payload := some [], last := some 0 }
            have reads : ∀ avail, turn cfg conn buf avail =
                readData cfg frame [] conn.sub avail := by
              simp [frame, turn, step, readPayload, control, data, allowed, memory, allocated]
            have stays : frame.step = .getPayload := step
            exact data_spec step stays control data allowed ready.opened reads rfl Nat.pos_of_ne_zero

section Steps

variable {conn : Conn σ} {buf avail : List UInt8}

theorem turn_start (step : conn.frame.step = .start) :
    turn cfg conn buf avail = readHeader conn buf 2 avail WsFrame.setStart := by
  simp [turn, step]

section

variable (step : conn.frame.step = .getRealSize)

include step

theorem turn_size_medium
    (medium : conn.frame.payloadLen = 126) :
    turn cfg conn buf avail = readHeader conn buf 2 avail WsFrame.setRealSize := by
  simp [turn, step, medium]

theorem turn_size_long
    (long : conn.frame.payloadLen = 127) :
    turn cfg conn buf avail = readHeader conn buf 8 avail WsFrame.setRealSize := by
  simp [turn, step, long]

theorem turn_size_short
    (medium : conn.frame.payloadLen ≠ 126) (long : conn.frame.payloadLen ≠ 127) :
    turn cfg conn buf avail = .next ⟨{ conn.frame with step := .getMaskKey }, conn.sub⟩ avail := by
  simp [turn, step, medium, long]

end

theorem turn_key_masked (step : conn.frame.step = .getMaskKey) (mask : conn.frame.mask = true) :
    turn cfg conn buf avail = readHeader conn buf 4 avail WsFrame.setMaskKey := by
  simp [turn, step, mask]

theorem turn_key_unmasked (step : conn.frame.step = .getMaskKey) (mask : conn.frame.mask = false) :
    turn cfg conn buf avail = .next ⟨{ conn.frame with step := .getPayload }, conn.sub⟩ avail := by
  simp [turn, step, mask]

theorem turn_payload (step : conn.frame.step = .getPayload) :
    turn cfg conn buf avail = readPayload cfg conn avail := by
  simp [turn, step]

end Steps

theorem turn_spec (ready : Ready conn buf) (avail : List UInt8) :
    TurnSpec cfg conn buf avail (turn cfg conn buf avail) := by
  have opened := ready.opened
  cases step : conn.frame.step with
  | start =>
    have fresh := ready.fresh (by simp [step])
    refine header_spec (fun _ _ _ _ => turn_start step) (ready.start step) opened fresh
      (fun _ _ _ room => ?_) ⟨fun _ _ _ => rfl, fun _ _ => rfl⟩ (fun _ _ => ?_)
    · constructor <;> simp [Conn.filled, step, opened, fresh, room]
    · simp [weight, step, WsFrame.setStart]
  | getRealSize =>
    have fresh := ready.fresh (by simp [step])
    by_cases medium : conn.frame.payloadLen = 126
    · refine header_spec (fun _ _ _ _ => turn_size_medium step medium) ((ready.size step).1 medium)
        opened fresh (fun _ _ _ room => ?_) ⟨fun _ _ _ => rfl, fun _ _ => rfl⟩ (fun _ _ => ?_)
      · constructor <;> simp [Conn.filled, step, opened, fresh, room, medium]
      · simp [weight, WsFrame.setRealSize]
    by_cases long : conn.frame.payloadLen = 127
    · refine header_spec (fun _ _ _ _ => turn_size_long step long) ((ready.size step).2 long)
        opened fresh (fun _ _ _ room => ?_) ⟨fun _ _ _ => rfl, fun _ _ => rfl⟩ (fun _ _ => ?_)
      · constructor <;> simp [Conn.filled, step, opened, fresh, room, long]
      · simp [weight, WsFrame.setRealSize]
    · exact skip_spec (fun _ => turn_size_short step medium long) opened fresh
        (by simp [weight, step])
  | getMaskKey =>
    have fresh := ready.fresh (by simp [step])
    cases mask : conn.frame.mask with
    | true =>
      refine header_spec (fun _ _ _ _ => turn_key_masked step mask) (ready.key step mask)
        opened fresh (fun _ _ _ room => ?_) ⟨fun _ _ _ => rfl, fun _ _ => rfl⟩ (fun _ _ => ?_)
      · constructor <;> simp [Conn.filled, step, opened, fresh, room]
      · simp [weight, WsFrame.setMaskKey]
    | false =>
      exact skip_spec (fun _ => turn_key_unmasked step mask) opened fresh (by simp [weight, step])
  | getPayload => exact payload_spec step ready

/-! ## The loop -/

theorem turn_same (fresh : frame.payload = none) (last : Option Nat) (s : Subscriber σ)
    (avail : List UInt8) :
    Turn.Same (turn cfg ⟨{ frame with last := last }, s⟩ [] avail) (turn cfg ⟨frame, s⟩ [] avail) := by
  have header : ∀ {len : Nat} {next : WsFrame → List UInt8 → WsFrame}, Keeps next → 0 < len →
      Turn.Same (readHeader ⟨{ frame with last := last }, s⟩ [] len avail next)
        (readHeader ⟨frame, s⟩ [] len avail next) := by
    intro len next keeps room
    rcases Nat.lt_or_ge (([] : List UInt8).length + avail.length) len with short | enough
    · rw [readHeader_short short, readHeader_short short]
      exact .refl _
    · rw [readHeader_enough room enough, readHeader_enough room enough]
      exact .header keeps fresh _ _ _ _
  obtain step | step | step | step : frame.step = .start ∨ frame.step = .getRealSize ∨
      frame.step = .getMaskKey ∨ frame.step = .getPayload := by
    cases frame.step <;> simp
  · rw [turn_start (by exact step), turn_start (by exact step)]
    exact header ⟨fun _ _ _ => rfl, fun _ _ => rfl⟩ (by decide)
  · by_cases medium : frame.payloadLen = 126
    · rw [turn_size_medium (by exact step) medium, turn_size_medium (by exact step) medium]
      exact header ⟨fun _ _ _ => rfl, fun _ _ => rfl⟩ (by decide)
    by_cases long : frame.payloadLen = 127
    · rw [turn_size_long (by exact step) long, turn_size_long (by exact step) long]
      exact header ⟨fun _ _ _ => rfl, fun _ _ => rfl⟩ (by decide)
    · rw [turn_size_short (by exact step) medium long, turn_size_short (by exact step) medium long]
      exact .next (f := { frame with step := .getMaskKey }) fresh last
  · rcases Bool.eq_false_or_eq_true frame.mask with mask | mask
    · rw [turn_key_masked (by exact step) mask, turn_key_masked (by exact step) mask]
      exact header ⟨fun _ _ _ => rfl, fun _ _ => rfl⟩ (by decide)
    · rw [turn_key_unmasked (by exact step) mask, turn_key_unmasked (by exact step) mask]
      exact .next (f := { frame with step := .getPayload }) fresh last
  · have overwrites : readPayload cfg ⟨{ frame with last := last }, s⟩ avail =
        readPayload cfg ⟨frame, s⟩ avail := by
      obtain ⟨_, _, _, _, _, _, _, payload, _⟩ := frame
      obtain rfl : payload = none := fresh
      rfl
    rw [turn_payload (by exact step), turn_payload (by exact step), overwrites]
    exact .refl _

theorem readLoop_same {conn' : Conn σ} {buf' avail' : List UInt8}
    (same : Turn.Same (turn cfg conn buf avail) (turn cfg conn' buf' avail')) (fuel : Nat) :
    readLoop cfg fuel conn buf avail = readLoop cfg fuel conn' buf' avail' := by
  induction fuel generalizing conn conn' buf buf' avail avail' with
  | zero => rfl
  | succ fuel ih =>
    simp only [readLoop]
    generalize turn cfg conn buf avail = t at same
    generalize turn cfg conn' buf' avail' = t' at same
    cases same with
    | refl => rfl
    | next fresh last => exact ih (turn_same fresh last _ _)

theorem readLoop_mono (returns : readLoop cfg fuel conn buf avail = some r) (le : fuel ≤ fuel') :
    readLoop cfg fuel' conn buf avail = some r := by
  induction fuel generalizing fuel' conn buf avail with
  | zero => simp [readLoop] at returns
  | succ fuel ih =>
    obtain ⟨fuel', rfl⟩ : ∃ k, fuel' = k + 1 := ⟨fuel' - 1, by omega⟩
    simp only [readLoop] at returns ⊢
    cases taken : turn cfg conn buf avail with
    | ret c => simpa [taken] using returns
    | next c rest =>
      rw [taken] at returns
      exact ih returns (by omega)

/-- Between events: the request is finalized, or an item of the frame is incomplete. -/
def Conn.Waits (conn : Conn σ) : Prop := conn.sub.finalized = true ∨ Ready conn conn.entry

theorem readLoop_enough (ready : Ready conn buf) (enough : weight conn avail < fuel) :
    ∃ r, readLoop cfg fuel conn buf avail = some r ∧ r.Waits := by
  induction fuel generalizing conn buf avail with
  | zero => omega
  | succ fuel ih =>
    simp only [readLoop]
    have spec : TurnSpec cfg conn buf avail (turn cfg conn buf avail) := turn_spec ready avail
    generalize turn cfg conn buf avail = t at spec
    cases spec with
    | goesOn c rest opened fresh less _ => exact ih (.empty opened fresh) (by omega)
    | finishes c finalized _ => exact ⟨c, rfl, .inl finalized⟩
    | suspends c again _ => exact ⟨c, rfl, .inr again⟩

/-- What is read of `avail ++ more` when the loop leaves at `mid` for lack of `more`. -/
theorem readLoop_append {mid : Conn σ} {more : List UInt8} (ready : Ready conn buf)
    (first : readLoop cfg fuel conn buf avail = some mid) (kept : ¬ mid.Loses)
    (second : if mid.sub.finalized then r = mid
      else readLoop cfg fuel' mid mid.entry more = some r) :
    readLoop cfg (fuel + fuel') conn buf (avail ++ more) = some r := by
  induction fuel generalizing conn buf avail with
  | zero => simp [readLoop] at first
  | succ fuel ih =>
    have spec : TurnSpec cfg conn buf avail (turn cfg conn buf avail) := turn_spec ready avail
    simp only [readLoop] at first
    generalize turn cfg conn buf avail = t at spec first
    cases spec with
    | goesOn c rest opened fresh less append =>
      rw [Nat.succ_add, readLoop, append]
      exact ih (.empty opened fresh) first
    | finishes c finalized append =>
      obtain rfl : c = mid := by simpa using first
      rw [if_pos finalized] at second
      rw [Nat.succ_add, readLoop, append, second]
    | suspends c again resume =>
      obtain rfl : c = mid := by simpa using first
      rw [if_neg (by simp [again.opened])] at second
      rw [← readLoop_same (resume kept more)]
      exact readLoop_mono second (by omega)

/-! ## Events -/

theorem weight_le (conn : Conn σ) (avail : List UInt8) : weight conn avail < 4 * avail.length + 5 := by
  unfold weight
  split <;> omega

theorem websocketReading_returns (waits : conn.Waits) (avail : List UInt8) :
    ∃ r, websocketReading cfg conn avail = some r ∧ r.Waits := by
  unfold websocketReading
  split
  case isTrue finalized => exact ⟨conn, rfl, .inl finalized⟩
  case isFalse opened =>
    have ready := waits.resolve_left opened
    exact readLoop_enough ready (weight_le conn avail)

theorem readLoop_unique {r' : Conn σ} (returns : readLoop cfg fuel conn buf avail = some r)
    (returns' : readLoop cfg fuel' conn buf avail = some r') : r = r' := by
  have big := readLoop_mono returns (Nat.le_max_left fuel fuel')
  have big' := readLoop_mono returns' (Nat.le_max_right fuel fuel')
  exact Option.some.inj (big.symm.trans big')

theorem websocketReading_eq (ready : Ready conn conn.entry)
    (returns : readLoop cfg fuel conn conn.entry avail = some r) :
    websocketReading cfg conn avail = some r := by
  obtain ⟨r', returns', _⟩ : ∃ r, readLoop cfg _ conn conn.entry avail = some r ∧ r.Waits :=
    readLoop_enough ready (weight_le conn avail)
  obtain rfl := readLoop_unique returns returns'
  simp [websocketReading, ready.opened, returns']

/-- Reading in two events is reading in one, unless the first left some payload of a
    control frame behind. -/
theorem websocketReading_append {mid : Conn σ} (waits : conn.Waits)
    (first : websocketReading cfg conn avail = some mid) (kept : ¬ mid.Loses) (more : List UInt8) :
    websocketReading cfg conn (avail ++ more) = websocketReading cfg mid more := by
  rcases waits with finalized | ready
  · obtain rfl : conn = mid := by simpa [websocketReading, finalized] using first
    simp [websocketReading, finalized]
  · obtain ⟨mid', returns, midWaits⟩ : ∃ r, websocketReading cfg conn avail = some r ∧ r.Waits :=
      websocketReading_returns (.inr ready) avail
    obtain rfl : mid' = mid := by simpa [returns] using first
    obtain ⟨r, second, _⟩ : ∃ r, websocketReading cfg mid' more = some r ∧ r.Waits :=
      websocketReading_returns midWaits more
    rw [second]
    have left : readLoop cfg (4 * avail.length + 5) conn conn.entry avail = some mid' := by
      simpa [websocketReading, ready.opened] using first
    have goesOn : if mid'.sub.finalized then r = mid'
        else readLoop cfg (4 * more.length + 5) mid' mid'.entry more = some r := by
      split
      case isTrue finalized => simpa [websocketReading, finalized] using second.symm
      case isFalse opened => simpa [websocketReading, opened] using second
    exact websocketReading_eq ready (readLoop_append ready left kept goesOn)

theorem readChunks_flatten (waits : conn.Waits) (chunk : List UInt8) (chunks : List (List UInt8))
    (kept : ∀ before after mid, chunk :: chunks = before ++ after → after ≠ [] →
      websocketReading cfg conn before.flatten = some mid → ¬ mid.Loses) :
    readChunks cfg (chunk :: chunks) conn = websocketReading cfg conn (chunk :: chunks).flatten := by
  induction chunks generalizing conn chunk with
  | nil =>
    obtain ⟨mid, returns, _⟩ : ∃ r, websocketReading cfg conn chunk = some r ∧ r.Waits :=
      websocketReading_returns waits chunk
    simp [readChunks]
  | cons next chunks ih =>
    obtain ⟨mid, returns, midWaits⟩ : ∃ r, websocketReading cfg conn chunk = some r ∧ r.Waits :=
      websocketReading_returns waits chunk
    have keptHere : ¬ mid.Loses := kept [chunk] _ mid rfl (by simp) (by simpa using returns)
    have append := websocketReading_append waits returns keptHere
    rw [readChunks, returns, flatten_cons, append]
    refine ih midWaits next fun before after mid' split some returns' => ?_
    refine kept (chunk :: before) after mid' (by rw [split]; rfl) some ?_
    rw [flatten_cons, append]
    exact returns'

end Nchan.Websocket
