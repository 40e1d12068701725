import Nchan.Lib.HeaderLines
import Nchan.Output.FrameLength

/-! # The headers of a part

Each message of a `multipart/mixed` response has its id and content type before it, in one entry of
the queue.  The entry has 98 bytes, which is enough for a few tags and a short content type, but
nothing ever looks at the length.
-/

namespace Nchan.Output.Pending

open Nchan.Lib List HeaderLines
open HeaderLines (OneLine)

/-! ## What is written -/

/-- What `multipart_respond_message` writes into a `headerbuf_t`, one text for each buffer. -/
def headerTexts (ext : Externals) (etagOnly : Bool) (id : MsgId) (contentType : Option Bytes) :
    Option (List Bytes) :=
  (multipartHeaders ext etagOnly id).map fun headers =>
    match contentType with
    | some contentType =>
      [headers, (bytes "Content-Type: " ++ contentType ++ bytes "\r\n\r\n").take 255]
    | none => [headers ++ bytes "\r\n"]

variable {M : Type} {messages : M → Message} {m : M} {ext : Externals} {etagOnly : Bool}
  {id : MsgId} {contentType : Option Bytes} {n : Nat}

theorem multipartRespondMessage_eq {msg : Message} {texts : List Bytes}
    (made : headerTexts ext etagOnly id msg.contentType = some texts)
    (fits : texts.flatten.length ≤ headerbufLen) (m : M) (boundary : Bytes) :
    multipartRespondMessage ext boundary etagOnly id m msg =
      let body := if msg.body.length > 0 then [wholeField m msg .body] else []
      some (.pooled (.queued texts :: body ++ [.fixed boundary]) (some m)) := by
  obtain ⟨headers, written, rfl⟩ := Option.map_eq_some_iff.mp made
  rw [multipartRespondMessage, written]
  generalize msg.contentType = contentType at fits ⊢
  cases contentType <;> exact if_neg (Nat.not_lt.mpr fits)

theorem pooled_text (texts : List Bytes) (boundary : Bytes) :
    let body := if (messages m).body.length > 0 then [wholeField m (messages m) .body] else []
    (Chain.pooled (.queued texts :: body ++ [.fixed boundary]) (some m)).text messages =
      texts.flatten ++ ((messages m).body ++ boundary) := by
  have text := wholeField_text (rfl : messages m = messages m) .body
  rw [Message.field] at text
  simp only [Chain.text, Chain.parts]
  split
  · simp [text]
  · rename_i none
    simp [length_eq_zero_iff.mp (Nat.eq_zero_of_not_pos none)]

/-- The lines about the content type, and the empty line. -/
def typeLines : Option Bytes → Bytes
  | some contentType => bytes "Content-Type: " ++ contentType ++ bytes "\r\n\r\n"
  | none => bytes "\r\n"

/-- The lines about the id, for a text of its tags and one with the time. -/
def idLines (date tag msgid : Bytes) (etagOnly : Bool) : Bytes :=
  if etagOnly then bytes "\r\nEtag: " ++ msgid ++ bytes "\r\n"
  else bytes "\r\nLast-Modified: " ++ date ++ bytes "\r\nEtag: " ++ tag ++ bytes "\r\n"

variable {tag msgid : Text}

theorem multipartHeaders_eq (tagged : id.tagcount ≠ 0) (isTag : id.msgtagToStr = some tag)
    (isId : id.msgidToStr = some msgid) :
    multipartHeaders ext etagOnly id =
      let lines := idLines (ext.httpTime id.time) (ascii tag) (ascii msgid) etagOnly
      some (if etagOnly then lines.take headerbufLen else lines) := by
  cases etagOnly with
  | true =>
    have printed : msgidText id = some (ascii msgid) := by
      rw [msgidText, if_neg tagged, isId, Option.map_some]
    rw [multipartHeaders, if_pos rfl, printed]
    rfl
  | false =>
    rw [multipartHeaders, isTag]
    rfl

theorem length_idLines (date : Bytes) :
    (idLines date (ascii tag) (ascii msgid) etagOnly).length =
      if etagOnly then 10 + msgid.length else 27 + date.length + tag.length := by
  cases etagOnly
  · simp [idLines, ascii, bytes]; omega
  · simp [idLines, ascii, bytes]; omega

theorem length_typeLines :
    (typeLines contentType).length =
      match contentType with
      | some contentType => 18 + contentType.length
      | none => 2 := by
  cases contentType
  · rfl
  · simp [typeLines, ascii, bytes]; omega

theorem cut_fits {front back cut : Bytes} {size limit : Nat} (filled : 0 < back.length)
    (isCut : cut = front ∨ cut = front.take size) (larger : size < limit) :
    ((cut ++ back.take limit).length ≤ size ↔ front.length + back.length ≤ size) ∧
      (front.length + back.length ≤ size → cut ++ back.take limit = front ++ back) := by
  have whole (fits : front.length + back.length ≤ size) :
      cut ++ back.take limit = front ++ back := by
    rw [take_of_length_le (by omega)]
    obtain rfl | rfl := isCut
    · rfl
    · rw [take_of_length_le (by omega)]
  refine ⟨⟨fun fits => ?_, fun fits => ?_⟩, whole⟩
  · rw [length_append, length_take] at fits
    obtain rfl | rfl := isCut
    · omega
    · rw [length_take] at fits
      omega
  · rw [whole fits, length_append]
    exact fits

theorem headerTexts_spec (complete : id.Complete n) (isTag : id.msgtagToStr = some tag)
    (isId : id.msgidToStr = some msgid) (contentType : Option Bytes) :
    ∃ texts, headerTexts ext etagOnly id contentType = some texts ∧
      let lines := idLines (ext.httpTime id.time) (ascii tag) (ascii msgid) etagOnly
      (texts.flatten.length ≤ headerbufLen ↔
        lines.length + (typeLines contentType).length ≤ headerbufLen) ∧
      (lines.length + (typeLines contentType).length ≤ headerbufLen →
        texts.flatten = lines ++ typeLines contentType) := by
  have tagged : id.tagcount ≠ 0 := by
    have least := complete.least
    have counts := complete.counts
    omega
  have written {cut : Bytes} (headers : multipartHeaders ext etagOnly id = some cut) :
      ∃ texts, headerTexts ext etagOnly id contentType = some texts ∧
        texts.flatten = cut ++ (typeLines contentType).take 255 := by
    rw [headerTexts, headers]
    cases contentType with
    | none => exact ⟨_, rfl, by simp; rfl⟩
    | some contentType => exact ⟨_, rfl, by simp; rfl⟩
  obtain ⟨texts, made, text⟩ := written (multipartHeaders_eq tagged isTag isId)
  refine ⟨texts, made, ?_⟩
  rw [text]
  refine cut_fits ?_ ?_ (by decide)
  · rw [length_typeLines]
    split <;> omega
  · cases etagOnly
    · exact .inl rfl
    · exact .inr rfl

/-! ## What is read -/

def chars (text : Bytes) : Text := text.map fun b => Char.ofNat b.toNat

theorem chars_ascii {text : Text} (printed : MsgId.Printed text) : chars (ascii text) = text := by
  rw [chars, ascii, map_map]
  refine (map_congr_left fun c on => ?_).trans (map_id text)
  have low := (printed c on).2
  rw [Function.comp_apply, UInt8.toNat_ofNat', Nat.mod_eq_of_lt (by omega), Char.ofNat_toNat, id]

def partLines (date tag msgid : Bytes) (etagOnly : Bool) (contentType : Option Bytes) :
    List HeaderLines.Line :=
  (if etagOnly then [bytes "Etag: " ++ msgid]
    else [bytes "Last-Modified: " ++ date, bytes "Etag: " ++ tag]) ++
  (contentType.map (bytes "Content-Type: " ++ ·)).toList

theorem idLines_typeLines (date tag msgid rest : Bytes) :
    idLines date tag msgid etagOnly ++ typeLines contentType ++ rest =
      bytes "\r\n" ++ ((partLines date tag msgid etagOnly contentType).flatMap (· ++ [13, 10]) ++
        13 :: 10 :: rest) := by
  cases etagOnly <;> cases contentType <;> simp [idLines, typeLines, partLines, bytes, ascii]

theorem value_contentType (date tag msgid : Bytes) :
    value (bytes "Content-Type: ") (partLines date tag msgid etagOnly contentType) =
      contentType := by
  have dated : (bytes "Last-Modified: " ++ date).dropPrefix? (bytes "Content-Type: ") = none := rfl
  have tagged (etag : Bytes) :
      (bytes "Etag: " ++ etag).dropPrefix? (bytes "Content-Type: ") = none := rfl
  cases etagOnly <;> cases contentType <;>
    simp [partLines, value_cons_other, dated, tagged]

theorem value_lastModified (date tag msgid : Bytes) :
    value (bytes "Last-Modified: ") (partLines date tag msgid etagOnly contentType) =
      if etagOnly then none else some date := by
  have tagged (etag : Bytes) :
      (bytes "Etag: " ++ etag).dropPrefix? (bytes "Last-Modified: ") = none := rfl
  have typed (contentType : Bytes) :
      (bytes "Content-Type: " ++ contentType).dropPrefix? (bytes "Last-Modified: ") = none := rfl
  cases etagOnly <;> cases contentType <;>
    simp [partLines, value_cons_other, tagged, typed]

theorem value_etag (date tag msgid : Bytes) :
    value (bytes "Etag: ") (partLines date tag msgid etagOnly contentType) =
      some (if etagOnly then msgid else tag) := by
  have dated : (bytes "Last-Modified: " ++ date).dropPrefix? (bytes "Etag: ") = none := rfl
  cases etagOnly <;> simp [partLines, value_cons_other, dated]

/-- What a client sends back when it has read the headers; `parseTime` is
    `ngx_http_parse_time`. -/
def partRequest (parseTime : Bytes → Option Int) (lines : List HeaderLines.Line) : IdRequest where
  ifModifiedSince := (value (bytes "Last-Modified: ") lines).bind parseTime
  ifNoneMatch := (value (bytes "Etag: ") lines).map chars

/-- All that is written fits, and what is sent is read as the id of the message, its content type
    and its body. -/
def PartDecodes (ext : Externals) (parseTime : Bytes → Option Int) (boundary : Bytes)
    (etagOnly : Bool) (n : Nat) (id : MsgId) (messages : M → Message) (m : M) : Prop :=
  (∃ texts, headerTexts ext etagOnly id (messages m).contentType = some texts ∧
    texts.flatten.length ≤ headerbufLen) ∧
  ∃ chain part lines id',
    multipartRespondMessage ext boundary etagOnly id m (messages m) = some chain ∧
    chain.text messages = bytes "\r\n" ++ part ∧
    read [] part = some (lines, (messages m).body ++ boundary) ∧
    value (bytes "Content-Type: ") lines = (messages m).contentType ∧
    IdRequest.getMsgId { msgInEtagOnly := etagOnly } n .oldest (partRequest parseTime lines) =
      some id' ∧
    id'.time = id.time ∧ id'.tagcount = n ∧ id'.tagactive = id.tagactive ∧
    ∀ i < n, id'.tags i = id.tags i

theorem getMsgId_partLines (complete : id.Complete n) (time : 1 ≤ id.time)
    (representable : id.time < 2 ^ 63) (isTag : id.msgtagToStr = some tag)
    (isId : id.msgidToStr = some msgid) {date : Bytes} {parseTime : Bytes → Option Int}
    (dated : parseTime date = some id.time) (etagOnly : Bool) (contentType : Option Bytes) :
    ∃ id', IdRequest.getMsgId { msgInEtagOnly := etagOnly } n .oldest (partRequest parseTime
        (partLines date (ascii tag) (ascii msgid) etagOnly contentType)) = some id' ∧
      id'.time = id.time ∧ id'.tagcount = n ∧ id'.tagactive = id.tagactive ∧
      ∀ i < n, id'.tags i = id.tags i := by
  unfold partRequest
  rw [value_lastModified, value_etag]
  cases etagOnly with
  | false =>
    obtain ⟨tag', isTag', -, reads⟩ := complete.parseMsgTag
    obtain rfl := Option.some.inj (isTag.symm.trans isTag')
    obtain ⟨id', parsed, same⟩ := reads { MsgId.oldest with time := id.time }
    have positive : ¬id.time ≤ 0 := by omega
    refine ⟨id', ?_, same⟩
    have text := chars_ascii (MsgId.printed_msgtagToStr _ isTag)
    simp [IdRequest.getMsgId, dated, positive, text, parsed]
  | true =>
    obtain ⟨msgid', isId', -, reads⟩ := complete.parseCompoundMsgid (by omega) representable
    obtain rfl := Option.some.inj (isId.symm.trans isId')
    obtain ⟨id', parsed, same⟩ := reads .oldest
    refine ⟨id', ?_, same⟩
    have text := chars_ascii (MsgId.printed_msgidToStr _ isId)
    simp [IdRequest.getMsgId, text, parsed]

theorem oneLine_partLines (etagOnly : Bool) {date : Bytes} (dateLine : OneLine date)
    (isTag : id.msgtagToStr = some tag) (isId : id.msgidToStr = some msgid)
    (typeLine : ∀ text ∈ contentType, OneLine text) :
    ∀ line ∈ partLines date (ascii tag) (ascii msgid) etagOnly contentType,
      line ≠ [] ∧ OneLine line := by
  have labelled {label text : Bytes} (filled : label ≠ []) (plain : 13 ∉ label)
      (one : OneLine text) : label ++ text ≠ [] ∧ OneLine (label ++ text) :=
    ⟨append_ne_nil_of_left_ne_nil filled text, .append plain one⟩
  have etag {text : Text} (printed : MsgId.Printed text) :
      bytes "Etag: " ++ ascii text ≠ [] ∧ OneLine (bytes "Etag: " ++ ascii text) :=
    labelled (by decide) (by decide) (.of_not_mem (not_mem_ascii printed (by decide)))
  refine forall_mem_append.mpr ⟨?_, ?_⟩
  · split
    · exact forall_mem_singleton.mpr (etag (MsgId.printed_msgidToStr _ isId))
    · exact forall_mem_cons.mpr ⟨labelled (by decide) (by decide) dateLine,
        forall_mem_singleton.mpr (etag (MsgId.printed_msgtagToStr _ isTag))⟩
  · intro line listed
    obtain ⟨text, isType, rfl⟩ := Option.map_eq_some_iff.mp (Option.mem_toList.mp listed)
    exact labelled (by decide) (by decide) (typeLine text isType)

/-- What the headers of a part take. -/
def partHeaderLen (date : Bytes) (etagOnly : Bool) (n : Nat) (id : MsgId)
    (contentType : Option Bytes) : Nat :=
  (if etagOnly then 11 + MsgId.digitCount id.time.toNat + MsgId.tagListWidth n id.tags
    else 27 + date.length + MsgId.tagListWidth n id.tags) +
  match contentType with
  | some contentType => 18 + contentType.length
  | none => 2

/-- The headers are right if and only if there is room for them and the content type is on one
    line. -/
theorem part_decodes_iff (ext : Externals) (parseTime : Bytes → Option Int) (boundary : Bytes)
    (etagOnly : Bool) (n : Nat) (id : MsgId) (messages : M → Message) (m : M)
    (complete : id.Complete n) (time : 1 ≤ id.time) (representable : id.time < 2 ^ 63)
    (dateLine : OneLine (ext.httpTime id.time))
    (dated : parseTime (ext.httpTime id.time) = some id.time) :
    PartDecodes ext parseTime boundary etagOnly n id messages m ↔
      partHeaderLen (ext.httpTime id.time) etagOnly n id (messages m).contentType ≤ headerbufLen ∧
        ∀ text ∈ (messages m).contentType, OneLine text := by
  obtain ⟨tag, isTag, tagWidth, -⟩ := complete.parseMsgTag
  obtain ⟨msgid, isId, idWidth, -⟩ := complete.parseCompoundMsgid (by omega) representable
  obtain ⟨texts, made, fits, whole⟩ := headerTexts_spec complete isTag isId (messages m).contentType
  have len : (idLines (ext.httpTime id.time) (ascii tag) (ascii msgid) etagOnly).length +
      (typeLines (messages m).contentType).length =
        partHeaderLen (ext.httpTime id.time) etagOnly n id (messages m).contentType := by
    unfold partHeaderLen
    rw [length_idLines, length_typeLines, tagWidth, idWidth]
    split <;> omega
  rw [len] at fits whole
  constructor
  · rintro ⟨⟨texts', made', short⟩, chain, part, lines, id', -, -, read, typed, -⟩
    obtain rfl := Option.some.inj (made.symm.trans made')
    have all := oneLine_of_read read (by decide)
    exact ⟨fits.mp short, fun text isType => oneLine_value all (typed.trans isType)⟩
  · rintro ⟨room, typeLine⟩
    obtain ⟨id', reads, same⟩ := getMsgId_partLines complete time representable isTag isId dated
      etagOnly (messages m).contentType
    have read := read_lines (oneLine_partLines etagOnly dateLine isTag isId typeLine)
      ((messages m).body ++ boundary)
    have sent := multipartRespondMessage_eq made (fits.mpr room) m boundary
    refine ⟨⟨texts, made, fits.mpr room⟩, _, _, _, id', sent, ?_, read, value_contentType ..,
      reads, same⟩
    rw [pooled_text, whole room, idLines_typeLines]

def dateOnly : Externals := ⟨fun _ => bytes "Fri, 14 Jul 2017 02:40:00 GMT", fun text => text⟩

def typedMessage (contentType : String) : Unit → Message := fun _ =>
  { body := bytes "hello", inFile := false, contentType := some (bytes contentType),
    eventsourceEvent := none, compressed := none }

theorem part_decodes_iff_plain_text :
    PartDecodes dateOnly (fun _ => some 1500000000) (bytes "\r\n--x") false 1
      (.ofStamp ⟨1500000000, 3⟩) (typedMessage "text/plain") () := by
  have complete : (MsgId.ofStamp ⟨1500000000, 3⟩).Complete 1 :=
    ⟨by decide, by decide, rfl, by decide, by decide, by decide⟩
  have one : ∀ text ∈ (typedMessage "text/plain" ()).contentType, OneLine text := by
    rintro text is
    cases is
    decide
  exact (part_decodes_iff dateOnly (fun _ => some 1500000000) (bytes "\r\n--x") false 1 _
    (typedMessage "text/plain") () complete (by decide) (by decide) (by decide) rfl).mpr
    ⟨by decide, one⟩

/-- With the content type of binary data one byte is written behind the buffer, even for a single
    tag with a single digit. -/
theorem octet_stream_overflows :
    (headerTexts dateOnly false (.ofStamp ⟨1500000000, 3⟩)
      (typedMessage "application/octet-stream" ()).contentType).map (·.flatten.length) =
        some (headerbufLen + 1) ∧
    ¬PartDecodes dateOnly (fun _ => some 1500000000) (bytes "\r\n--x") false 1
      (.ofStamp ⟨1500000000, 3⟩) (typedMessage "application/octet-stream") () := by
  refine ⟨rfl, ?_⟩
  rintro ⟨⟨texts, made, fits⟩, -⟩
  cases made
  exact absurd fits (by decide)

end Nchan.Output.Pending
