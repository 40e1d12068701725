import Nchan.Output.Responses

/-! # The announced length of a frame

`websocket_msg_frame_chain` adds up the length of the payload while it links the buffers, and puts
the sum into the header of the frame.  In the meta subprotocol a compressed message has its id and
content type in blocks of their own before it.  They are put together in 512 bytes, and deflated
into 512 more by zlib, of which only `Deflates` is known.
-/

namespace Nchan.Output.Pending

open Nchan.Lib List Option

/-- The size of `ws_meta_header`. -/
abbrev metaHeaderLen : Nat := 512

/-- `sz` in `websocket_msg_frame_chain`. -/
def websocketMsgSize (ext : Externals) (metaSubprotocol compressed : Bool) (id : MsgId)
    (msg : Message) : Option Nat :=
  let sz := (msg.field (if compressed then .compressed else .body)).length
  if metaSubprotocol then
    (recyclableMsgidStr id).map fun msgid =>
      if compressed then sz + (ext.deflate (websocketMetaText msg msgid)).length
      else
        let sz := sz + (bytes "id: ").length
        let sz := sz + msgid.length
        let sz :=
          match msg.contentType with
          | some contentType => sz + (bytes "\ncontent-type: ").length + contentType.length
          | none => sz
        sz + (bytes "\n\n").length
  else some sz

/-- `frame_opcode`. -/
def frameOpcode (compressed : Bool) (msg : Message) : UInt8 :=
  let binary := msg.contentType = some (bytes "application/octet-stream")
  lastFrameByte (if binary then 2 else 1) compressed

/-- `websocket_msg_frame_chain`, with the length as it is added up. -/
def websocketMsgFrame {M : Type} (ext : Externals) (metaSubprotocol enabled : Bool) (id : MsgId)
    (m : M) (msg : Message) : Option (Chain M) := do
  let compressed := enabled && msg.compressed.isSome
  let sz ← websocketMsgSize ext metaSubprotocol compressed id msg
  let chain ← websocketMsgParts ext metaSubprotocol compressed id m msg
  some (.pooled (websocketFrameHeaderChain (frameOpcode compressed msg) sz chain) (some m))

/-! ## The payload -/

/-- The lines before the body in the meta subprotocol. -/
def metaLines (msg : Message) (msgid : Bytes) : Bytes :=
  bytes "id: " ++ msgid ++ bytes "\n" ++
    (match msg.contentType with
      | some contentType => bytes "content-type: " ++ contentType ++ bytes "\n"
      | none => []) ++ bytes "\n"

def payload (ext : Externals) (metaSubprotocol compressed : Bool) (msgid : Bytes) (msg : Message) :
    Bytes :=
  match metaSubprotocol, compressed with
  | true, true => ext.deflate ((metaLines msg msgid).take metaHeaderLen) ++ msg.field .compressed
  | true, false => metaLines msg msgid ++ msg.body
  | false, true => msg.field .compressed
  | false, false => msg.body

variable {M : Type} {messages : M → Message} {m : M} {msg : Message} {id : MsgId} {msgid : Bytes}

theorem typeLine : bytes "\ncontent-type: " = bytes "\n" ++ bytes "content-type: " := rfl

theorem newlines : bytes "\n\n" = bytes "\n" ++ bytes "\n" := rfl

theorem websocketMetaText_eq (msg : Message) (msgid : Bytes) :
    websocketMetaText msg msgid = (metaLines msg msgid).take metaHeaderLen := by
  unfold websocketMetaText metaLines
  cases msg.contentType with
  | none => simp [newlines]
  | some contentType => simp [typeLine, newlines]

theorem wholeField_text (stored : messages m = msg) (field : Field) :
    (wholeField m msg field).text messages = msg.field field := by
  subst stored
  exact take_length

theorem websocketMetaHeader_text (stored : messages m = msg) (msgid : Bytes) :
    (websocketMetaHeader m msg msgid).flatMap (Part.text messages) = metaLines msg msgid := by
  have field := wholeField_text stored .contentType
  unfold websocketMetaHeader metaLines
  cases is : msg.contentType with
  | none => simp [newlines]
  | some contentType =>
    rw [Message.field, is, getD_some] at field
    simp [field, typeLine, newlines]

section

variable (is : recyclableMsgidStr id = some msgid)

include is

theorem websocketMsgParts_text (ext : Externals) (metaSubprotocol compressed : Bool)
    (stored : messages m = msg) :
    ∃ parts, websocketMsgParts ext metaSubprotocol compressed id m msg = some parts ∧
      parts.flatMap (Part.text messages) = payload ext metaSubprotocol compressed msgid msg := by
  have body := wholeField_text stored .body
  have deflated := wholeField_text stored .compressed
  cases metaSubprotocol <;> cases compressed
  · exact ⟨_, rfl, (flatMap_singleton ..).trans body⟩
  · exact ⟨_, rfl, (flatMap_singleton ..).trans deflated⟩
  · have ifBody : (if msg.body.length > 0 then [wholeField m msg .body] else []).flatMap
        (Part.text messages) = msg.body := by
      split
      · exact (flatMap_singleton ..).trans body
      · rename_i empty
        exact (eq_nil_of_length_eq_zero (by omega)).symm
    refine ⟨websocketMetaHeader m msg msgid ++
      if msg.body.length > 0 then [wholeField m msg .body] else [], ?_, ?_⟩
    · rw [websocketMsgParts, if_pos rfl, is]
      rfl
    · rw [flatMap_append, websocketMetaHeader_text stored, ifBody]
      rfl
  · refine ⟨[.scratch .metaHeader (ext.deflate (websocketMetaText msg msgid)),
      wholeField m msg .compressed], ?_, ?_⟩
    · rw [websocketMsgParts, if_pos rfl, is]
      rfl
    · rw [flatMap_cons, flatMap_singleton, deflated, websocketMetaText_eq]
      rfl

theorem websocketMsgSize_eq (ext : Externals) (metaSubprotocol compressed : Bool) (msg : Message) :
    websocketMsgSize ext metaSubprotocol compressed id msg =
      some (payload ext metaSubprotocol compressed msgid msg).length := by
  have line : (bytes "\ncontent-type: ").length = (bytes "content-type: ").length + 1 := rfl
  have newline : (bytes "\n").length = 1 := rfl
  have newlines : (bytes "\n\n").length = 2 := rfl
  cases metaSubprotocol <;> cases compressed
  · rfl
  · rfl
  · rw [websocketMsgSize, if_pos rfl, is, map_some, if_neg Bool.false_ne_true, payload,
      metaLines, if_neg Bool.false_ne_true, Message.field]
    congr 1
    cases msg.contentType with
    | none =>
      simp only [length_append, length_nil, newline, newlines]
      omega
    | some contentType =>
      simp only [length_append, newline, newlines, line]
      omega
  · rw [websocketMsgSize, if_pos rfl, is, map_some, if_pos rfl, if_pos rfl, payload,
      length_append, websocketMetaText_eq, Nat.add_comm]

/-- What is sent is a header that announces a length, and as many bytes. -/
structure Framed (messages : M → Message) (chain : Chain M) (opcode : UInt8) (len : Nat)
    (payload : Bytes) : Prop where
  text : chain.text messages = websocketFrameHeader opcode len ++ payload
  length : payload.length = len

omit is in
theorem Framed.of_header (opcode : UInt8) {parts : List (Part M)} {message : Option M} {len : Nat}
    (length : (parts.flatMap (Part.text messages)).length = len) :
    Framed messages (.pooled (websocketFrameHeaderChain opcode len parts) message) opcode len
      (parts.flatMap (Part.text messages)) := by
  refine ⟨?_, length⟩
  rw [Chain.text, Chain.parts, websocketFrameHeaderChain, flatMap_cons, Part.text_queued,
    flatten_singleton]
  split
  · rename_i none
    rw [eq_nil_of_length_eq_zero (length.trans none)]
    rfl
  · rfl

theorem websocketMsgFrame_framed (ext : Externals) (metaSubprotocol enabled : Bool)
    (stored : messages m = msg) {compressed : Bool}
    (isCompressed : compressed = (enabled && msg.compressed.isSome)) :
    ∃ chain, websocketMsgFrame ext metaSubprotocol enabled id m msg = some chain ∧
      Framed messages chain (frameOpcode compressed msg)
        (payload ext metaSubprotocol compressed msgid msg).length
        (payload ext metaSubprotocol compressed msgid msg) := by
  subst isCompressed
  have size := websocketMsgSize_eq is ext metaSubprotocol (enabled && msg.compressed.isSome) msg
  obtain ⟨parts, found, text⟩ := websocketMsgParts_text is ext metaSubprotocol
    (enabled && msg.compressed.isSome) stored
  refine ⟨.pooled (websocketFrameHeaderChain (frameOpcode (enabled && msg.compressed.isSome) msg)
    (payload ext metaSubprotocol (enabled && msg.compressed.isSome) msgid msg).length parts)
    (some m), ?_, ?_⟩
  · rw [websocketMsgFrame, size, found]
    rfl
  · rw [← text]
    exact Framed.of_header _ rfl

/-- Adding up the length gives the frame of the other results about output. -/
theorem websocketMsgFrame_eq (ext : Externals) (metaSubprotocol enabled : Bool) (m : M)
    (msg : Message) : websocketMsgFrame ext metaSubprotocol enabled id m msg =
      websocketMsgFrameChain ext metaSubprotocol enabled id m msg := by
  have size := websocketMsgSize_eq is ext metaSubprotocol (enabled && msg.compressed.isSome) msg
  obtain ⟨parts, found, text⟩ := @websocketMsgParts_text M (fun _ => msg) m msg id msgid is ext
    metaSubprotocol (enabled && msg.compressed.isSome) rfl
  simp only [websocketMsgFrame, websocketMsgFrameChain, size, found, frameOpcode, ← text]
  rfl

end

theorem websocketCloseFrameChain_framed (code : Nat) (reason : Bytes) {place : Bytes → Part M}
    (placed : ∀ text, (place text).text messages = text) :
    ∃ payload, Framed messages (websocketCloseFrameChain code reason place) (opcodeByte 8)
      (if code = 0 then 0 else (reason.take 123).length + 2) payload := by
  unfold websocketCloseFrameChain
  split
  · exact ⟨_, Framed.of_header _ rfl⟩
  · refine ⟨_, Framed.of_header _ ?_⟩
    have two (code : Nat) : (BigEndian.toBytes 2 code).length = 2 := BigEndian.length_toBytes 2 code
    have fits : ((if (reason.take 123).length > 0 then [place (reason.take 123)] else []).flatMap
        (Part.text messages)).length = (reason.take 123).length := by
      split
      · rw [flatMap_singleton, placed]
      · rename_i none
        rw [flatMap_nil, length_nil]
        omega
    rw [flatMap_cons, length_append, fits, Part.text, two, Nat.add_comm]

/-! ## What the client reads -/

/-- What is asked of the deflater and the client.  `whole` are the texts that the deflater has room
    for: the client reads them, and then what follows them.  Of others it does not get all, and
    never more than there was. -/
structure Deflates (ext : Externals) (inflate : Bytes → Option Bytes) (whole : Bytes → Prop) :
    Prop where
  complete : ∀ text rest out, whole text → inflate rest = some out →
    inflate (ext.deflate text ++ rest) = some (text ++ out)
  cut : ∀ text rest out, ¬ whole text → inflate rest = some out →
    inflate (ext.deflate text ++ rest) ≠ some (text ++ out)
  most : ∀ text rest out read, inflate rest = some out →
    inflate (ext.deflate text ++ rest) = some (read ++ out) → read.length ≤ text.length

def Decodes (inflate : Bytes → Option Bytes) (compressed : Bool) (payload text : Bytes) : Prop :=
  if compressed then inflate payload = some text else payload = text

section

variable {ext : Externals} {inflate : Bytes → Option Bytes} {whole : Bytes → Prop}
  (deflates : Deflates ext inflate whole)

include deflates

theorem payload_decodes (compressed : Bool) (msgid : Bytes) (msg : Message)
    (inflates : compressed = true → inflate (msg.field .compressed) = some msg.body) :
    Decodes inflate compressed (payload ext true compressed msgid msg)
        (metaLines msg msgid ++ msg.body) ↔
      (compressed = true →
        (metaLines msg msgid).length ≤ metaHeaderLen ∧ whole (metaLines msg msgid)) := by
  cases compressed with
  | false => exact iff_of_true rfl (by simp)
  | true =>
    have inflates := inflates rfl
    simp only [Decodes, if_true, payload, forall_const]
    constructor
    · intro decodes
      have most := deflates.most _ _ _ _ inflates decodes
      have fits : (metaLines msg msgid).length ≤ metaHeaderLen := by
        rw [length_take] at most
        omega
      rw [take_of_length_le fits] at decodes
      exact ⟨fits, not_not.mp fun cut => deflates.cut _ _ _ cut inflates decodes⟩
    · rintro ⟨fits, whole⟩
      rw [take_of_length_le fits]
      exact deflates.complete _ _ _ whole inflates

end

theorem recyclableMsgidStr_eq (rep : id.Representable) (printed : msgidText id = some msgid) :
    recyclableMsgidStr id = some msgid := by
  have short : msgid.length ≤ msgidBufLen := by
    unfold msgidText at printed
    split at printed
    · have time := rep.length_decimal_time
      cases printed
      rw [ascii, length_map]
      exact Nat.le_trans time (by decide)
    · obtain ⟨text, is, rfl⟩ := map_eq_some_iff.mp printed
      rw [ascii, length_map]
      exact Nat.le_trans (rep.length_msgidToStr_le _ is) (by decide)
  rw [recyclableMsgidStr, printed, map_some, take_of_length_le short]

def compressedText : Message where
  body := bytes "hello"
  inFile := false
  contentType := some (bytes "text/plain")
  eventsourceEvent := none
  compressed := some (bytes "hello")

def onlyMessage : Unit → Message := fun _ => compressedText

def verbatim : Externals := ⟨fun _ => [], fun text => text⟩

theorem verbatim_deflates : Deflates verbatim some fun _ => True where
  complete text rest out _ is := by
    cases is
    rfl
  cut text rest out cut _ := absurd trivial cut
  most text rest out read is reads := by
    cases is
    rw [← append_cancel_right (some.inj reads)]
    exact Nat.le_refl _

def idOf255 : MsgId := ⟨1500000000, fun _ => 0, fun _ => 0, 0, 255⟩

end Nchan.Output.Pending
