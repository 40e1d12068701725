import Nchan.Lib.BigEndian
import Nchan.MsgIdText
import Mathlib.Data.List.Nodup

/-! # What is given to the output filter

A response is a chain of buffers, and nothing is copied on the way to the socket.  So what matters
about a buffer is where its bytes are.  Constants, the configuration and the request's own memory
stay as they are.  Short texts are written into entries of a queue that the connection reuses.
The bodies of messages are shared by all their subscribers.  But some texts are in static
variables of the function that writes them, or on its stack.
-/

namespace Nchan.Output.Pending

open Nchan.Lib List

abbrev Bytes := List UInt8

def ascii (text : Text) : Bytes := text.map fun c => UInt8.ofNat c.toNat

def bytes (text : String) : Bytes := ascii text.toList

theorem not_mem_ascii {text : Text} (printed : MsgId.Printed text) {b : UInt8}
    (low : b.toNat < 44) : b ∉ ascii text := by
  intro on
  obtain ⟨c, inside, rfl⟩ := mem_map.mp on
  have bound := printed c inside
  rw [UInt8.toNat_ofNat'] at low
  omega

/-- Memory that belongs to nobody: `channel_info_buf_str`, `code_net`, `ws_meta_header_deflated`,
    and the stack. -/
inductive Scratch where
  | channelInfo | closeCode | metaHeader | stack
  deriving DecidableEq

/-- The memory of a message that buffers refer to. -/
inductive Field where
  | body | contentType | eventsourceEvent | compressed
  deriving DecidableEq

/-- A message, and whether its body is in a file.  Only `permessage-deflate` counts as
    compressed. -/
structure Message where
  body : Bytes
  inFile : Bool
  contentType : Option Bytes
  eventsourceEvent : Option Bytes
  compressed : Option Bytes
  deriving DecidableEq

def Message.field (msg : Message) : Field → Bytes
  | .body => msg.body
  | .contentType => msg.contentType.getD []
  | .eventsourceEvent => msg.eventsourceEvent.getD []
  | .compressed => msg.compressed.getD []

/-- A part of a response by where its bytes are; one buffer, or for an entry of the queue one for
    each text in it. -/
inductive Part (M : Type) where
  | fixed (text : Bytes)
  | queued (texts : List Bytes)
  | message (m : M) (field : Field) (pos len : Nat)
  | scratch (memory : Scratch) (text : Bytes)

variable {M : Type}

def Part.text (messages : M → Message) : Part M → Bytes
  | .fixed text => text
  | .queued texts => texts.flatten
  | .message m field pos len => (((messages m).field field).drop pos).take len
  | .scratch _ text => text

@[simp] theorem Part.text_fixed (messages : M → Message) (text : Bytes) :
    (Part.fixed text).text messages = text := rfl

@[simp] theorem Part.text_queued (messages : M → Message) (texts : List Bytes) :
    (Part.queued texts).text messages = texts.flatten := rfl

def Part.uses : Part M → List Scratch
  | .scratch memory _ => [memory]
  | _ => []

/-- The buffers are links of the connection's pool; or there is one, of the request's or on the
    stack.  A message is named if `nchan_output_msg_filter` is called. -/
inductive Chain (M : Type) where
  | pooled (parts : List (Part M)) (message : Option M)
  | request (part : Part M)
  | stack (part : Part M)

def Chain.parts : Chain M → List (Part M)
  | .pooled parts _ => parts
  | .request part => [part]
  | .stack part => [part]

def Chain.message : Chain M → Option M
  | .pooled _ message => message
  | _ => none

def Chain.uses : Chain M → List Scratch
  | .stack part => .stack :: part.uses
  | chain => chain.parts.flatMap Part.uses

def Chain.text (messages : M → Message) (chain : Chain M) : Bytes :=
  chain.parts.flatMap (Part.text messages)

/-- `ngx_http_time`, and `nchan_common_simple_deflate_raw_block`. -/
structure Externals where
  httpTime : Int → Bytes
  deflate : Bytes → Bytes

/-- `msgid_to_str`.  With no tags the end of their list falls on the colon. -/
def msgidText (id : MsgId) : Option Bytes :=
  if id.tagcount = 0 then some (ascii (decimal id.time)) else id.msgidToStr.map ascii

/-- `MSGID_BUF_LEN`. -/
abbrev msgidBufLen : Nat := 10 * 255

/-- `nchan_subscriber_set_recyclable_msgid_str`. -/
def recyclableMsgidStr (id : MsgId) : Option Bytes := (msgidText id).map (·.take msgidBufLen)

def wholeField (m : M) (msg : Message) (field : Field) : Part M :=
  .message m field 0 (msg.field field).length

def statusIgnored (code : Nat) (line : Option Bytes) : Bool :=
  code = 204 || code = 304 && line.isNone

/-! ## EventSource -/

def esHello : Chain M := .pooled [.fixed (bytes ": hi\n\n")] none

/-- The position and length of every line with its newline, and of what follows the last one. -/
def dataLines (pos len : Nat) : Bytes → List (Nat × Nat)
  | [] => [(pos, len)]
  | c :: rest =>
    if c = 10 then (pos, len + 1) :: dataLines (pos + (len + 1)) 0 rest
    else dataLines pos (len + 1) rest

def isSpace (c : UInt8) : Bool := c = 32 || (9 ≤ c && c ≤ 13)

/-- The same in a file.  `fscanf` skips a line, and then all the white space that follows. -/
def fileLinesFrom (pos len : Nat) (atSpace : Bool) : Bytes → List (Nat × Nat)
  | [] => [(pos, len)]
  | c :: rest =>
    if atSpace && !isSpace c then (pos, len) :: fileLinesFrom (pos + len) 1 false rest
    else fileLinesFrom pos (len + 1) (atSpace || c = 10) rest

/-- It skips nothing if the file begins with a newline, and the loop does not end. -/
def fileLines (text : Bytes) : Option (List (Nat × Nat)) :=
  if text.head? = some 10 then none else some (fileLinesFrom 0 0 false text)

/-- The loops of `es_respond_message` over the lines of the body. -/
def esLines (msg : Message) : Option (List (Nat × Nat)) :=
  if msg.inFile then fileLines msg.body else some (dataLines 0 0 msg.body)

/-- `create_dataline_bufchain`. -/
def createDatalineBufchain (m : M) (line : Nat × Nat) : List (Part M) :=
  .fixed (bytes "data: ") :: if line.2 = 0 then [] else [.message m .body line.1 line.2]

/-- `prepend_es_response_line`. -/
def prependEsResponseLine (label : String) (value : Part M) (chain : List (Part M)) :
    List (Part M) :=
  [.fixed (bytes label), value, .fixed (bytes "\n")] ++ chain

/-- `es_respond_message`; `event` is `cf->eventsource_event`. -/
def esRespondMessage (event : Bytes) (id : MsgId) (m : M) (msg : Message) : Option (Chain M) := do
  let lines ← esLines msg
  let msgid ← recyclableMsgidStr id
  let chain := lines.flatMap (createDatalineBufchain m) ++ [.fixed (bytes "\n\n")]
  let chain := prependEsResponseLine "id: " (.queued [msgid]) chain
  let chain :=
    if event.length > 0 then prependEsResponseLine "event: " (.fixed event) chain
    else if msg.eventsourceEvent.isSome then
      prependEsResponseLine "event: " (wholeField m msg .eventsourceEvent) chain
    else chain
  some (.pooled chain (some m))

/-- `es_respond_status`: the buffer and its text are on the stack. -/
def esRespondStatus (code : Nat) (line : Option Bytes) : Chain M :=
  if statusIgnored code line then .pooled [] none
  else
    let text := bytes ":" ++ ascii (decimal code) ++ bytes ": " ++ line.getD [] ++ bytes "\n\n"
    .stack (.scratch .stack (text.take 256))

/-- `ping_ev_handler`. -/
def esPing (comment event data : Bytes) : Chain M :=
  let line (label : String) (value : Bytes) : List (Part M) :=
    if value.length > 0 then [.fixed (bytes label), .fixed value, .fixed (bytes "\n")] else []
  let lines := line ":" comment ++ line "event: " event ++ line "data: " data
  .pooled (lines ++ [.fixed (bytes (if lines = [] then ":\n\n" else "\n"))]) none

/-! ## Chunked, multipart and raw streams -/

/-- `chunked_respond_message`.  An empty message is skipped. -/
def chunkedRespondMessage (m : M) (msg : Message) : Chain M :=
  if msg.body.length = 0 then .pooled [] none
  else
    let size := (ascii (Nat.toDigits 16 msg.body.length) ++ bytes "\r\n").take 15
    .pooled [.queued [size], wholeField m msg .body, .fixed (bytes "\r\n")] (some m)

/-- `chunked_respond_status`: the buffer is on the stack. -/
def chunkedRespondStatus (code : Nat) (line : Option Bytes) : Chain M :=
  if statusIgnored code line then .pooled [] none else .stack (.fixed (bytes "0\r\n\r\n"))

/-- The first boundary, without the line break before it. -/
def multipartHello (boundary : Bytes) : Chain M := .pooled [.fixed (boundary.drop 2)] none

/-- The size of `headerbuf_t.charbuf`. -/
abbrev headerbufLen : Nat := 58 + 10 * 4

/-- The headers in front of a message; `etagOnly` is `cf->msg_in_etag_only`. -/
def multipartHeaders (ext : Externals) (etagOnly : Bool) (id : MsgId) : Option Bytes :=
  if etagOnly then
    (msgidText id).map fun etag => (bytes "\r\nEtag: " ++ etag ++ bytes "\r\n").take headerbufLen
  else
    id.msgtagToStr.map fun tag =>
      bytes "\r\nLast-Modified: " ++ ext.httpTime id.time ++ bytes "\r\nEtag: " ++ ascii tag ++
        bytes "\r\n"

/-- `multipart_respond_message`.  Headers that do not fit into their entry are written over
    whatever comes behind it. -/
def multipartRespondMessage (ext : Externals) (boundary : Bytes) (etagOnly : Bool) (id : MsgId)
    (m : M) (msg : Message) : Option (Chain M) := do
  let headers ← multipartHeaders ext etagOnly id
  let texts :=
    match msg.contentType with
    | some contentType =>
      [headers, (bytes "Content-Type: " ++ contentType ++ bytes "\r\n\r\n").take 255]
    | none => [headers ++ bytes "\r\n"]
  let body := if msg.body.length > 0 then [wholeField m msg .body] else []
  if texts.flatten.length > headerbufLen then none
  else some (.pooled (.queued texts :: body ++ [.fixed boundary]) (some m))

/-- `multipart_respond_status`. -/
def multipartRespondStatus (code : Nat) (line : Option Bytes) : Chain M :=
  .pooled (if statusIgnored code line then [] else [.fixed (bytes "--\r\n")]) none

/-- `rawstream_respond_message`. -/
def rawstreamRespondMessage (separator : Bytes) (m : M) (msg : Message) : Chain M :=
  let body := if msg.body.length > 0 then [wholeField m msg .body] else []
  let separator := if separator.length > 0 then [.fixed separator] else []
  .pooled (body ++ separator) (some m)

/-! ## WebSocket -/

def lastFrameByte (opcode : UInt8) (rsv1 : Bool) : UInt8 := opcode ||| if rsv1 then 0xC0 else 0x80

/-- `websocket_frame_header`. -/
def websocketFrameHeader (opcode : UInt8) (len : Nat) : Bytes :=
  opcode ::
    if len ≤ 125 then [UInt8.ofNat len]
    else if len < 2 ^ 16 then 126 :: BigEndian.toBytes 2 len
    else 127 :: BigEndian.toBytes 8 len

/-- `websocket_frame_header_chain`. -/
def websocketFrameHeaderChain (opcode : UInt8) (len : Nat) (chain : List (Part M)) :
    List (Part M) :=
  .queued [websocketFrameHeader opcode len] :: if len = 0 then [] else chain

def opcodeByte (opcode : UInt8) : UInt8 := lastFrameByte opcode false

/-- The parts in front of the message in the meta subprotocol. -/
def websocketMetaHeader (m : M) (msg : Message) (msgid : Bytes) : List (Part M) :=
  .fixed (bytes "id: ") :: .queued [msgid] ::
    (if msg.contentType.isSome then
      [.fixed (bytes "\ncontent-type: "), wholeField m msg .contentType] else []) ++
    [.fixed (bytes "\n\n")]

def websocketMetaText (msg : Message) (msgid : Bytes) : Bytes :=
  (bytes "id: " ++ msgid ++
    (match msg.contentType with
      | some contentType => bytes "\ncontent-type: " ++ contentType
      | none => []) ++ bytes "\n\n").take 512

/-- The buffers of a message without the header of its frame. -/
def websocketMsgParts (ext : Externals) (metaSubprotocol compressed : Bool) (id : MsgId) (m : M)
    (msg : Message) : Option (List (Part M)) :=
  let body := wholeField m msg (if compressed then .compressed else .body)
  if metaSubprotocol then
    (recyclableMsgidStr id).map fun msgid =>
      if compressed then
        [.scratch .metaHeader (ext.deflate (websocketMetaText msg msgid)), body]
      else
        websocketMetaHeader m msg msgid ++ if msg.body.length > 0 then [body] else []
  else some [body]

/-- `websocket_msg_frame_chain`; `enabled` is `deflate.enabled`. -/
def websocketMsgFrameChain (ext : Externals) (metaSubprotocol enabled : Bool) (id : MsgId) (m : M)
    (msg : Message) : Option (Chain M) := do
  let compressed := enabled && msg.compressed.isSome
  let binary := msg.contentType = some (bytes "application/octet-stream")
  let opcode := lastFrameByte (if binary then 2 else 1) compressed
  let chain ← websocketMsgParts ext metaSubprotocol compressed id m msg
  let len := (chain.flatMap (Part.text fun _ => msg)).length
  some (.pooled (websocketFrameHeaderChain opcode len chain) (some m))

/-- `websocket_close_frame_chain`, with the reason in memory of the given kind. -/
def websocketCloseFrameChain (code : Nat) (reason : Bytes) (place : Bytes → Part M) : Chain M :=
  if code = 0 then .pooled (websocketFrameHeaderChain (opcodeByte 8) 0 []) none
  else
    let code := if code < 1000 || code = 1005 || code = 1006 || 5000 ≤ code then 1000 else code
    let reason := reason.take 123
    let chain := .scratch .closeCode (BigEndian.toBytes 2 code) ::
      if reason.length > 0 then [place reason] else []
    .pooled (websocketFrameHeaderChain (opcodeByte 8) (reason.length + 2) chain) none

/-- `websocket_respond_status`.  For most statuses the reason is put together on the stack. -/
def websocketRespondStatus (code : Nat) (line : Option Bytes) : Option (Chain M) :=
  if statusIgnored code line then some (.pooled [] none)
  else if code = 410 then
    some (websocketCloseFrameChain 1001 (line.getD (bytes "410 Channel Deleted")) .fixed)
  else if code = 403 then
    some (websocketCloseFrameChain 1008 (line.getD (bytes "403 Forbidden")) .fixed)
  else if code = 500 then
    some (websocketCloseFrameChain 1011 (line.getD (bytes "500 Internal Server Error")) .fixed)
  else if code = 507 then
    some (websocketCloseFrameChain 1011 (line.getD (bytes "507 Insufficient Storage")) .fixed)
  else if 400 ≤ code ∧ code < 600 ∨ code = 304 then
    let reason := ascii (decimal code) ++ bytes " " ++ line.getD []
    if reason.length > 50 then none
    else some (websocketCloseFrameChain (if 500 ≤ code then 1011 else 1000) reason
      (.scratch .stack))
  else none

/-- The answer to a close frame.  The payload was read into an array on the stack. -/
def websocketAnswerClose (payload : Bytes) : Chain M :=
  if payload.length ≥ 2 then
    websocketCloseFrameChain (BigEndian.ofBytes (payload.take 2)) (payload.drop 2) (.scratch .stack)
  else websocketCloseFrameChain 0 [] .fixed

/-- `websocket_send_frame` with one buffer. -/
def websocketSendFrame (opcode : UInt8) (place : Bytes → Part M) (text : Bytes) : Chain M :=
  .pooled (websocketFrameHeaderChain (opcodeByte opcode) text.length [place text]) none

/-! ## Channel information -/

inductive InfoType where
  | plain | json | yaml | xml
  deriving DecidableEq

/-- The arguments of `nchan_channel_info_buf`, with the type that the `Accept` header asks for. -/
structure ChannelInfo where
  accept : InfoType
  messages : Nat
  subscribers : Nat
  lastSeen : Int
  now : Int
  lastMsgid : Option MsgId

/-- What `nchan_channel_info_buf` writes into `channel_info_buf_str`. -/
def nchanChannelInfoBuf (info : ChannelInfo) : Option Bytes := do
  let id ← msgidText (info.lastMsgid.getD ⟨0, fun _ => 0, fun _ => 0, 0, 0⟩)
  let messages := ascii (decimal info.messages)
  let requested := ascii (decimal (if info.lastSeen = 0 then -1 else info.now - info.lastSeen))
  let subscribers := ascii (decimal info.subscribers)
  let text :=
    match info.accept with
    | .plain =>
      bytes "queued messages: " ++ messages ++ bytes "\r\nlast requested: " ++ requested ++
        bytes " sec. ago\r\nactive subscribers: " ++ subscribers ++
        bytes "\r\nlast message id: " ++ id
    | .json =>
      bytes "\x7b\"messages\": " ++ messages ++ bytes ", \"requested\": " ++ requested ++
        bytes ", \"subscribers\": " ++ subscribers ++ bytes ", \"last_message_id\": \"" ++ id ++
        bytes "\" \x7d"
    | .yaml =>
      bytes "---\r\nmessages: " ++ messages ++ bytes "\r\nrequested: " ++ requested ++
        bytes "\r\nsubscribers: " ++ subscribers ++ bytes "\r\nlast_message_id: \"" ++ id ++
        bytes "\"\r\n\r\n"
    | .xml =>
      bytes "<?xml version=\"1.0\" encoding=\"UTF-8\" ?>\r\n<channel>\r\n  <messages>" ++
        messages ++
        bytes "</messages>\r\n  <requested>" ++ requested ++
        bytes "</requested>\r\n  <subscribers>" ++ subscribers ++
        bytes "</subscribers>\r\n  <last_message_id>" ++ id ++
        bytes "</last_message_id>\r\n</channel>"
  some (text.take 512)

/-! ## All of them -/

inductive Response (M : Type) where
  | esHello
  | esMessage (event : Bytes) (id : MsgId) (m : M)
  | esStatus (code : Nat) (line : Option Bytes)
  | esPing (comment event data : Bytes)
  | chunkedMessage (m : M)
  | chunkedStatus (code : Nat) (line : Option Bytes)
  | multipartHello (boundary : Bytes)
  | multipartMessage (boundary : Bytes) (etagOnly : Bool) (id : MsgId) (m : M)
  | multipartStatus (code : Nat) (line : Option Bytes)
  | rawMessage (separator : Bytes) (m : M)
  | websocketMessage (metaSubprotocol deflate : Bool) (id : MsgId) (m : M)
  | websocketStatus (code : Nat) (line : Option Bytes)
  | websocketClose (code : Nat) (reason : Bytes)
  | websocketAnswerClose (payload : Bytes)
  | websocketPing
  | websocketPong (payload : Bytes)
  | websocketHeartbeat (out : Bytes)
  | websocketPublished (info : ChannelInfo)
  | channelInfo (info : ChannelInfo)

/-- The chain of a response.  An assert that fails and memory that is not the response's being
    written over are `none`. -/
def Response.chain (ext : Externals) (messages : M → Message) : Response M → Option (Chain M)
  | .esHello => some Pending.esHello
  | .esMessage event id m => esRespondMessage event id m (messages m)
  | .esStatus code line => some (esRespondStatus code line)
  | .esPing comment event data => some (Pending.esPing comment event data)
  | .chunkedMessage m => some (chunkedRespondMessage m (messages m))
  | .chunkedStatus code line => some (chunkedRespondStatus code line)
  | .multipartHello boundary => some (Pending.multipartHello boundary)
  | .multipartMessage boundary etagOnly id m =>
    multipartRespondMessage ext boundary etagOnly id m (messages m)
  | .multipartStatus code line => some (multipartRespondStatus code line)
  | .rawMessage separator m => some (rawstreamRespondMessage separator m (messages m))
  | .websocketMessage metaSubprotocol deflate id m =>
    websocketMsgFrameChain ext metaSubprotocol deflate id m (messages m)
  | .websocketStatus code line => websocketRespondStatus code line
  | .websocketClose code reason => some (websocketCloseFrameChain code reason .fixed)
  | .websocketAnswerClose payload => some (Pending.websocketAnswerClose payload)
  | .websocketPing => some (websocketSendFrame 9 .fixed [])
  | .websocketPong payload => some (websocketSendFrame 10 (.scratch .stack) payload)
  | .websocketHeartbeat out => some (websocketSendFrame 1 .fixed out)
  | .websocketPublished info =>
    (nchanChannelInfoBuf info).map (websocketSendFrame 1 (.scratch .channelInfo))
  | .channelInfo info =>
    (nchanChannelInfoBuf info).map fun text => .request (.scratch .channelInfo text)

/-! ## What holds of every chain -/

/-- A part refers to no message but the one that is reserved. -/
def Part.Own (messages : M → Message) (message : Option M) : Part M → Prop
  | .message m field pos len => message = some m ∧ pos + len ≤ ((messages m).field field).length
  | _ => True

def Part.Plain (messages : M → Message) (message : Option M) (part : Part M) : Prop :=
  part.Own messages message ∧ part.uses = []

/-- No memory is used twice in a response, and there is one buffer if it is on the stack. -/
structure Chain.Sound (messages : M → Message) (chain : Chain M) : Prop where
  distinct : (chain.parts.flatMap Part.uses).Nodup
  own : ∀ part ∈ chain.parts, part.Own messages chain.message
  single : ∀ texts, chain ≠ .stack (.queued texts)

variable {messages : M → Message} {message : Option M} {m : M} {parts : List (Part M)}

theorem Chain.Sound.of_plain (plain : ∀ part ∈ parts, part.Plain messages message) :
    (pooled parts message).Sound messages := by
  have unused : parts.flatMap Part.uses = [] :=
    flatMap_eq_nil_iff.mpr fun part listed => (plain part listed).2
  exact ⟨unused ▸ nodup_nil, fun part listed => (plain part listed).1,
    fun _ same => by cases same⟩

theorem Part.fixed_plain (text : Bytes) : (fixed text).Plain messages message := ⟨trivial, rfl⟩

theorem Part.queued_plain (texts : List Bytes) : (queued texts).Plain messages message :=
  ⟨trivial, rfl⟩

theorem wholeField_plain (field : Field) :
    (wholeField m (messages m) field).Plain messages (some m) :=
  ⟨⟨rfl, Nat.le_of_eq (Nat.zero_add _)⟩, rfl⟩

variable {line : Nat × Nat}

theorem dataLines_within {text : Bytes} {pos len : Nat} (listed : line ∈ dataLines pos len text) :
    line.1 + line.2 ≤ pos + len + text.length := by
  induction text generalizing pos len with
  | nil =>
    obtain rfl := mem_singleton.mp listed
    exact Nat.le_refl _
  | cons c rest ih =>
    rw [dataLines] at listed
    rw [length_cons]
    split at listed
    · rcases mem_cons.mp listed with rfl | later
      · dsimp only
        omega
      · have := ih later
        omega
    · have := ih listed
      omega

theorem fileLinesFrom_within {text : Bytes} {pos len : Nat} {atSpace : Bool}
    (listed : line ∈ fileLinesFrom pos len atSpace text) :
    line.1 + line.2 ≤ pos + len + text.length := by
  induction text generalizing pos len atSpace with
  | nil =>
    obtain rfl := mem_singleton.mp listed
    exact Nat.le_refl _
  | cons c rest ih =>
    rw [fileLinesFrom] at listed
    rw [length_cons]
    split at listed
    · rcases mem_cons.mp listed with rfl | later
      · dsimp only
        omega
      · have := ih later
        omega
    · have := ih listed
      omega

theorem createDatalineBufchain_plain (within : line.1 + line.2 ≤ (messages m).body.length) :
    ∀ part ∈ createDatalineBufchain m line, part.Plain messages (some m) := by
  rw [createDatalineBufchain, forall_mem_cons]
  refine ⟨Part.fixed_plain _, ?_⟩
  split
  · exact forall_mem_nil _
  · exact forall_mem_singleton.mpr ⟨⟨rfl, within⟩, rfl⟩

theorem prependEsResponseLine_plain (label : String) {value : Part M}
    (ofValue : value.Plain messages message)
    (ofParts : ∀ part ∈ parts, part.Plain messages message) :
    ∀ part ∈ prependEsResponseLine label value parts, part.Plain messages message := by
  simp only [prependEsResponseLine, cons_append, nil_append, forall_mem_cons]
  exact ⟨Part.fixed_plain _, ofValue, Part.fixed_plain _, ofParts⟩

theorem esLines_within (msg : Message) : Gives (esLines msg) fun lines =>
    ∀ line ∈ lines, line.1 + line.2 ≤ msg.body.length := by
  unfold esLines
  split
  · exact .assert fun _ => .of_some fun _ listed => by simpa using fileLinesFrom_within listed
  · exact .of_some fun _ listed => by simpa using dataLines_within listed

variable {id : MsgId}

theorem esRespondMessage_sound (event : Bytes) :
    Gives (esRespondMessage event id m (messages m)) (·.Sound messages) := by
  refine (esLines_within _).seq fun lines within => .bind fun msgid _ => .of_some ?_
  have data : ∀ part ∈ lines.flatMap (createDatalineBufchain m) ++ [.fixed (bytes "\n\n")],
      part.Plain messages (some m) := by
    refine forall_mem_append.mpr
      ⟨fun part listed => ?_, forall_mem_singleton.mpr (Part.fixed_plain _)⟩
    obtain ⟨line, ofLine, listed⟩ := mem_flatMap.mp listed
    exact createDatalineBufchain_plain (within line ofLine) part listed
  have withId := prependEsResponseLine_plain "id: " (Part.queued_plain [msgid]) data
  refine .of_plain ?_
  split
  · exact prependEsResponseLine_plain _ (Part.fixed_plain event) withId
  · split
    · exact prependEsResponseLine_plain _ (wholeField_plain _) withId
    · exact withId

theorem esPing_sound (comment event data : Bytes) :
    (esPing comment event data).Sound messages := by
  have line (label : String) (value : Bytes) : ∀ part ∈
      (if value.length > 0 then [.fixed (bytes label), .fixed value, .fixed (bytes "\n")] else [] :
        List (Part M)), part.Plain messages none := by
    split
    · simp only [forall_mem_cons]
      exact ⟨Part.fixed_plain _, Part.fixed_plain _, Part.fixed_plain _, forall_mem_nil _⟩
    · exact forall_mem_nil _
  refine .of_plain (forall_mem_append.mpr
    ⟨?_, forall_mem_singleton.mpr (Part.fixed_plain _)⟩)
  exact forall_mem_append.mpr ⟨forall_mem_append.mpr ⟨line _ _, line _ _⟩, line _ _⟩

theorem ifBody_plain : ∀ part ∈ (if (messages m).body.length > 0 then
    [wholeField m (messages m) .body] else []), part.Plain messages (some m) := by
  split
  · exact forall_mem_singleton.mpr (wholeField_plain _)
  · exact forall_mem_nil _

theorem chunkedRespondMessage_sound :
    (chunkedRespondMessage m (messages m)).Sound messages := by
  unfold chunkedRespondMessage
  split
  · exact .of_plain (forall_mem_nil _)
  · refine .of_plain ?_
    simp only [forall_mem_cons]
    exact ⟨Part.queued_plain _, wholeField_plain _, Part.fixed_plain _, forall_mem_nil _⟩

variable {ext : Externals}

theorem multipartRespondMessage_sound (boundary : Bytes) (etagOnly : Bool) :
    Gives (multipartRespondMessage ext boundary etagOnly id m (messages m)) (·.Sound messages) :=
  .bind fun _ _ => .assert fun _ => .of_some (.of_plain (forall_mem_append.mpr
    ⟨forall_mem_cons.mpr ⟨Part.queued_plain _, ifBody_plain⟩,
      forall_mem_singleton.mpr (Part.fixed_plain _)⟩))

theorem rawstreamRespondMessage_sound (separator : Bytes) :
    (rawstreamRespondMessage separator m (messages m)).Sound messages := by
  refine .of_plain (forall_mem_append.mpr ⟨ifBody_plain, ?_⟩)
  split
  · exact forall_mem_singleton.mpr (Part.fixed_plain _)
  · exact forall_mem_nil _

theorem websocketFrameHeaderChain_sound (opcode : UInt8) (len : Nat)
    (distinct : (parts.flatMap Part.uses).Nodup) (own : ∀ part ∈ parts, part.Own messages message) :
    (Chain.pooled (websocketFrameHeaderChain opcode len parts) message).Sound messages := by
  refine ⟨?_, forall_mem_cons.mpr ⟨trivial, ?_⟩, fun _ same => by cases same⟩
  · change (List.flatMap Part.uses (if len = 0 then [] else parts)).Nodup
    split
    · exact nodup_nil
    · exact distinct
  · split
    · exact forall_mem_nil _
    · exact own

theorem websocketMetaHeader_plain (msgid : Bytes) :
    ∀ part ∈ websocketMetaHeader m (messages m) msgid, part.Plain messages (some m) := by
  refine forall_mem_cons.mpr ⟨Part.fixed_plain _, forall_mem_cons.mpr
    ⟨Part.queued_plain _, forall_mem_append.mpr
      ⟨?_, forall_mem_singleton.mpr (Part.fixed_plain _)⟩⟩⟩
  split
  · exact forall_mem_cons.mpr
      ⟨Part.fixed_plain _, forall_mem_singleton.mpr (wholeField_plain _)⟩
  · exact forall_mem_nil _

theorem websocketMsgParts_sound (metaSubprotocol compressed : Bool) :
    Gives (websocketMsgParts ext metaSubprotocol compressed id m (messages m)) fun parts =>
      (parts.flatMap Part.uses).Nodup ∧ ∀ part ∈ parts, part.Own messages (some m) := by
  have of_plain {parts : List (Part M)} (plain : ∀ part ∈ parts, part.Plain messages (some m)) :=
    And.intro (Chain.Sound.of_plain plain).distinct (Chain.Sound.of_plain plain).own
  cases metaSubprotocol with
  | false => exact .of_some (of_plain (forall_mem_singleton.mpr (wholeField_plain _)))
  | true =>
    refine .map fun msgid _ => ?_
    cases compressed with
    | false =>
      exact of_plain (forall_mem_append.mpr ⟨websocketMetaHeader_plain _, ifBody_plain⟩)
    | true =>
      exact ⟨nodup_singleton _, forall_mem_cons.mpr
        ⟨trivial, forall_mem_singleton.mpr (wholeField_plain _).1⟩⟩

theorem websocketMsgFrameChain_sound (metaSubprotocol enabled : Bool) :
    Gives (websocketMsgFrameChain ext metaSubprotocol enabled id m (messages m))
      (·.Sound messages) :=
  (websocketMsgParts_sound _ _).seq fun _ both =>
    .of_some (websocketFrameHeaderChain_sound _ _ both.1 both.2)

theorem websocketCloseFrameChain_sound (code : Nat) (reason : Bytes) {place : Bytes → Part M}
    (placed : ∀ text, place text = .fixed text ∨ place text = .scratch .stack text) :
    (websocketCloseFrameChain code reason place).Sound messages := by
  unfold websocketCloseFrameChain
  split
  · exact websocketFrameHeaderChain_sound _ _ nodup_nil (forall_mem_nil _)
  · refine websocketFrameHeaderChain_sound _ _ ?_ (forall_mem_cons.mpr ⟨trivial, ?_⟩)
    · change (Scratch.closeCode :: List.flatMap Part.uses
        (if (reason.take 123).length > 0 then [place (reason.take 123)] else [])).Nodup
      split
      · rcases placed (reason.take 123) with is | is
        · rw [is]
          exact nodup_singleton _
        · have two : [Scratch.closeCode, Scratch.stack].Nodup := by decide
          rw [is]
          exact two
      · exact nodup_singleton _
    · split
      · refine forall_mem_singleton.mpr ?_
        rcases placed (reason.take 123) with is | is <;> rw [is] <;> trivial
      · exact forall_mem_nil _

theorem websocketRespondStatus_sound (code : Nat) (line : Option Bytes) :
    Gives (websocketRespondStatus code line : Option (Chain M)) (·.Sound messages) := by
  have fixed (code : Nat) (reason : Bytes) :
      Gives (some (websocketCloseFrameChain code reason .fixed : Chain M)) (·.Sound messages) :=
    .of_some (websocketCloseFrameChain_sound _ _ fun _ => .inl rfl)
  refine .ite (fun _ => .of_some (.of_plain (forall_mem_nil _))) fun _ => ?_
  refine .ite (fun _ => fixed _ _) fun _ => .ite (fun _ => fixed _ _) fun _ => ?_
  refine .ite (fun _ => fixed _ _) fun _ => .ite (fun _ => fixed _ _) fun _ => ?_
  exact .guard fun _ => .assert fun _ =>
    .of_some (websocketCloseFrameChain_sound _ _ fun _ => .inr rfl)

theorem websocketAnswerClose_sound (payload : Bytes) :
    (websocketAnswerClose payload : Chain M).Sound messages := by
  unfold websocketAnswerClose
  split
  · exact websocketCloseFrameChain_sound _ _ fun _ => .inr rfl
  · exact websocketCloseFrameChain_sound _ _ fun _ => .inl rfl

theorem websocketSendFrame_sound (opcode : UInt8) {place : Bytes → Part M} {text : Bytes}
    (one : (place text).uses.Nodup) (own : (place text).Own messages none) :
    (websocketSendFrame opcode place text).Sound messages := by
  refine websocketFrameHeaderChain_sound _ _ ?_ (forall_mem_singleton.mpr own)
  rw [flatMap_singleton]
  exact one

theorem constant_sound (ignored : Bool) (text : Bytes) :
    (Chain.pooled (if ignored then [] else [.fixed text]) none : Chain M).Sound messages := by
  refine .of_plain ?_
  split
  · exact forall_mem_nil _
  · exact forall_mem_singleton.mpr (Part.fixed_plain _)

theorem onStack_sound {ignored : Bool} {part : Part M} (one : part.uses.Nodup)
    (own : part.Own messages none) (plain : ∀ texts, part ≠ .queued texts) :
    (if ignored then .pooled [] none else .stack part : Chain M).Sound messages := by
  split
  · exact .of_plain (forall_mem_nil _)
  · refine ⟨?_, forall_mem_singleton.mpr own, fun texts same => ?_⟩
    · rw [Chain.parts, flatMap_singleton]
      exact one
    · exact plain texts (Chain.stack.inj same)

theorem Response.chain_sound (response : Response M) :
    Gives (response.chain ext messages) (·.Sound messages) := by
  cases response with
  | esHello => exact .of_some (constant_sound false _)
  | esMessage event id m => exact esRespondMessage_sound event
  | esStatus code line => exact .of_some (onStack_sound (nodup_singleton _) trivial fun _ => by simp)
  | esPing comment event data => exact .of_some (esPing_sound ..)
  | chunkedMessage m => exact .of_some chunkedRespondMessage_sound
  | chunkedStatus code line => exact .of_some (onStack_sound nodup_nil trivial fun _ => by simp)
  | multipartHello boundary => exact .of_some (constant_sound false _)
  | multipartMessage boundary etagOnly id m => exact multipartRespondMessage_sound _ _
  | multipartStatus code line => exact .of_some (constant_sound ..)
  | rawMessage separator m => exact .of_some (rawstreamRespondMessage_sound _)
  | websocketMessage metaSubprotocol deflate id m => exact websocketMsgFrameChain_sound _ _
  | websocketStatus code line => exact websocketRespondStatus_sound _ _
  | websocketClose code reason =>
    exact .of_some (websocketCloseFrameChain_sound _ _ fun _ => .inl rfl)
  | websocketAnswerClose payload => exact .of_some (websocketAnswerClose_sound _)
  | websocketPing => exact .of_some (websocketSendFrame_sound _ nodup_nil trivial)
  | websocketPong payload => exact .of_some (websocketSendFrame_sound _ (nodup_singleton _) trivial)
  | websocketHeartbeat out => exact .of_some (websocketSendFrame_sound _ nodup_nil trivial)
  | websocketPublished info =>
    exact .map fun _ _ => websocketSendFrame_sound _ (nodup_singleton _) trivial
  | channelInfo info =>
    exact .map fun _ _ =>
      ⟨nodup_singleton _, forall_mem_singleton.mpr trivial, fun _ same => by cases same⟩

end Nchan.Output.Pending
