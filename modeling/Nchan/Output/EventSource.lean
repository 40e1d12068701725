import Nchan.Lib.EventStream
import Nchan.Output.FrameLength

/-! # Messages as events

An EventSource subscriber gets each line of a message behind `data: `.  What a client makes of that
is the message again, if the body is in memory.  In a file the lines are found by `fscanf`, which
takes white space at the beginning of a line for the end of the one before.
-/

namespace Nchan.Output.Pending

open Nchan.Lib List EventStream Option

/-! ## The text of an event -/

/-- `event: ` and the name, if there is one: that of the location, or else the message's. -/
def eventName (event : Bytes) (msg : Message) : Option Bytes :=
  if event.length > 0 then some event else msg.eventsourceEvent

def eventHead (event : Bytes) (msg : Message) (msgid : Bytes) : Bytes :=
  (match eventName event msg with
    | some name => bytes "event: " ++ name ++ bytes "\n"
    | none => []) ++ (bytes "id: " ++ msgid ++ bytes "\n")

/-- Pieces of the body behind their prefixes. -/
def dataText (body : Bytes) (lines : List (Nat × Nat)) : Bytes :=
  lines.flatMap fun line => bytes "data: " ++ (body.drop line.1).take line.2

variable {M : Type} {messages : M → Message} {m : M} {msg : Message} {id : MsgId} {msgid : Bytes}

theorem createDatalineBufchain_text (stored : messages m = msg) (line : Nat × Nat) :
    (createDatalineBufchain m line).flatMap (Part.text messages) =
      bytes "data: " ++ (msg.body.drop line.1).take line.2 := by
  subst stored
  rw [createDatalineBufchain, flatMap_cons, Part.text_fixed]
  split
  · rename_i none
    rw [none, take_zero]
    rfl
  · rw [flatMap_singleton]
    rfl

theorem prependEsResponseLine_text (label : String) (value : Part M) (chain : List (Part M)) :
    (prependEsResponseLine label value chain).flatMap (Part.text messages) =
      bytes label ++ value.text messages ++ bytes "\n" ++ chain.flatMap (Part.text messages) := by
  simp [prependEsResponseLine]

theorem esRespondMessage_text (event : Bytes) (stored : messages m = msg)
    (is : recyclableMsgidStr id = some msgid) {lines : List (Nat × Nat)}
    (found : esLines msg = some lines) :
    ∃ chain, esRespondMessage event id m msg = some chain ∧
      chain.text messages =
        eventHead event msg msgid ++ (dataText msg.body lines ++ bytes "\n\n") := by
  have data : (lines.flatMap (createDatalineBufchain m)).flatMap (Part.text messages) =
      dataText msg.body lines := by
    rw [flatMap_assoc]
    exact flatMap_congr fun line _ => createDatalineBufchain_text stored line
  have name := wholeField_text stored .eventsourceEvent
  refine ⟨_, by rw [esRespondMessage, found, is]; rfl, ?_⟩
  rw [Chain.text, Chain.parts, eventHead, eventName]
  split
  · simp [prependEsResponseLine_text, data]
  · cases isName : msg.eventsourceEvent with
    | none => simp [prependEsResponseLine_text, data]
    | some value =>
      rw [Message.field, isName, getD_some] at name
      simp [prependEsResponseLine_text, data, name]

/-- The body behind the first prefix, as the loop in memory gives it. -/
def inserted : Bytes → Bytes
  | [] => []
  | c :: rest => if c = 10 then c :: (bytes "data: " ++ inserted rest) else c :: inserted rest

theorem dataText_dataLines (front line rest : Bytes) :
    dataText (front ++ line ++ rest) (dataLines front.length line.length rest) =
      bytes "data: " ++ line ++ inserted rest := by
  induction rest generalizing front line with
  | nil => simp [dataLines, dataText, inserted]
  | cons c rest ih =>
    rw [dataLines, inserted]
    split
    · have next := ih (front ++ (line ++ [c])) []
      have here : ((front ++ (line ++ c :: rest)).drop front.length).take (line.length + 1) =
          line ++ [c] := by
        rw [drop_left, take_append]
        simp
      simp only [dataText, flatMap_cons, append_assoc, here] at next ⊢
      simp at next
      simp [next]
    · have next := ih front (line ++ [c])
      simpa using next

/-! ## What a client makes of it -/

open EventStream (Reader Unbroken)

theorem read_empty (r : Reader) (data : Bytes) :
    Reader.read [] { r with data := data ++ [10] } =
      ({ r with event := [], data := [] }, some ⟨r.event, data, r.lastEventId⟩) := by
  simp [Reader.read]

theorem events_inserted {rest : Bytes} (noReturn : 13 ∉ rest) (r : Reader) (line : Bytes) :
    r.events (lines (bytes "data: " ++ line) false (inserted rest ++ bytes "\n\n")) =
      [⟨r.event, r.data ++ line ++ rest, r.lastEventId⟩] := by
  have prefixed : Unbroken (bytes "data: ") := by decide
  induction rest generalizing r line with
  | nil =>
    have two : lines (bytes "data: " ++ line) false (bytes "\n\n") =
      [bytes "data: " ++ line, []] := rfl
    rw [inserted, nil_append, two, Reader.events, Reader.events, Reader.events]
    have data : r.read (bytes "data: " ++ line) = _ := Reader.read_data line r
    rw [data, read_empty]
    simp
  | cons c rest ih =>
    rw [mem_cons, not_or] at noReturn
    rw [inserted]
    split
    · rename_i newline
      have data : r.read (bytes "data: " ++ line) = _ := Reader.read_data line r
      rw [newline, cons_append, lines_feed, append_assoc,
        lines_append prefixed, nil_append, Reader.events, data]
      have next := ih noReturn.2 { r with data := r.data ++ line ++ [10] } []
      exact (nil_append _).trans (next.trans (by simp))
    · rename_i inLine
      have next := ih noReturn.2 r (line ++ [c])
      rw [cons_append, lines, if_neg inLine, if_neg (Ne.symm noReturn.1),
        append_assoc, next]
      simp

theorem decode_data {body : Bytes} (noReturn : 13 ∉ body) (r : Reader) :
    decode r (bytes "data: " ++ inserted body ++ bytes "\n\n") =
      [⟨r.event, r.data ++ body, r.lastEventId⟩] := by
  have prefixed : Unbroken (bytes "data: ") := by decide
  have all := events_inserted noReturn r []
  rw [append_nil, append_nil] at all
  rw [decode, append_assoc, lines_append prefixed, nil_append,
    all]

theorem msgidText_plain (printed : msgidText id = some msgid) : Unbroken msgid ∧ 0 ∉ msgid := by
  have text : ∃ text, MsgId.Printed text ∧ msgid = ascii text := by
    unfold msgidText at printed
    split at printed
    · exact ⟨_, MsgId.printed_decimal _, (some.inj printed).symm⟩
    · obtain ⟨text, is, rfl⟩ := map_eq_some_iff.mp printed
      exact ⟨text, MsgId.printed_msgidToStr _ is, rfl⟩
  obtain ⟨text, all, rfl⟩ := text
  exact ⟨⟨not_mem_ascii all (by decide), not_mem_ascii all (by decide)⟩,
    not_mem_ascii all (by decide)⟩

theorem decode_head (event : Bytes)
    (name : ∀ name ∈ eventName event msg, Unbroken name) (line : Unbroken msgid) (plain : 0 ∉ msgid)
    (lastEventId rest : Bytes) :
    decode ⟨[], [], lastEventId⟩ (eventHead event msg msgid ++ rest) =
      decode ⟨(eventName event msg).getD [], [], msgid⟩ rest := by
  have idLine (r : Reader) : decode r (bytes "id: " ++ msgid ++ 10 :: rest) =
      decode { r with lastEventId := msgid } rest := by
    have read : r.read (bytes "id: " ++ msgid) = _ := Reader.read_id plain r
    rw [decode_line (.append (by decide) line), read]
    rfl
  have newline : bytes "\n" = [10] := rfl
  unfold eventHead
  cases is : eventName event msg with
  | none =>
    have whole := idLine ⟨[], [], lastEventId⟩
    simpa [newline] using whole
  | some value =>
    have unbroken : Unbroken (bytes "event: " ++ value) := .append (by decide) (name value is)
    have read (r : Reader) : r.read (bytes "event: " ++ value) = _ := Reader.read_event value r
    have whole := decode_line unbroken ⟨[], [], lastEventId⟩
      (bytes "id: " ++ msgid ++ 10 :: rest)
    rw [read, idLine] at whole
    simpa [newline] using whole

/-- Whatever its lines are, a body in memory without carriage returns is one event, with its name
    and the id of the message. -/
theorem event_source_decodes (event : Bytes) (messages : M → Message) (m : M) (id : MsgId)
    (rep : id.Representable) (msgid : Bytes) (printed : msgidText id = some msgid)
    (inMemory : (messages m).inFile = false) (noReturn : 13 ∉ (messages m).body)
    (name : ∀ name ∈ eventName event (messages m), Unbroken name) :
    ∃ chain, esRespondMessage event id m (messages m) = some chain ∧
      ∀ lastEventId, decode ⟨[], [], lastEventId⟩ (chain.text messages) =
        [⟨(eventName event (messages m)).getD [], (messages m).body, msgid⟩] := by
  have found : esLines (messages m) = some (dataLines 0 0 (messages m).body) :=
    if_neg (by rw [inMemory]; decide)
  obtain ⟨chain, made, text⟩ :=
    esRespondMessage_text event rfl (recyclableMsgidStr_eq rep printed) found
  obtain ⟨line, plain⟩ := msgidText_plain printed
  refine ⟨chain, made, fun lastEventId => ?_⟩
  have data : dataText (messages m).body (dataLines 0 0 (messages m).body) =
      bytes "data: " ++ inserted (messages m).body := dataText_dataLines [] [] (messages m).body
  rw [text, data, decode_head event name line plain, decode_data noReturn, nil_append]

/-- Empty lines before, inside and behind. -/
def manyLines : Message where
  body := bytes "\n\n a:\n\n"
  inFile := false
  contentType := none
  eventsourceEvent := some (bytes "news")
  compressed := none

theorem event_source_decodes_many_lines :
    ∃ chain, esRespondMessage [] (.ofStamp ⟨1500000000, 3⟩) () manyLines = some chain ∧
      decode {} (chain.text fun _ => manyLines) =
        [⟨bytes "news", bytes "\n\n a:\n\n", bytes "1500000000:3"⟩] := by
  have rep : (MsgId.ofStamp ⟨1500000000, 3⟩).Representable :=
    ⟨by decide, by decide, fun _ => (by decide : (-2 ^ 15 : Int) ≤ 3 ∧ (3 : Int) < 2 ^ 15)⟩
  have name : ∀ name ∈ eventName [] manyLines, Unbroken name := by
    rintro name is
    cases is
    decide
  obtain ⟨chain, made, decodes⟩ := event_source_decodes [] (fun _ => manyLines) ()
    (.ofStamp ⟨1500000000, 3⟩) rep (bytes "1500000000:3") rfl rfl (by decide) name
  exact ⟨chain, made, decodes []⟩

/-! ## From a file -/

/-- The body behind the first prefix, as the loop over a file gives it. -/
def insertedInFile (atSpace : Bool) : Bytes → Bytes
  | [] => []
  | c :: rest =>
    if atSpace && !isSpace c then bytes "data: " ++ c :: insertedInFile false rest
    else c :: insertedInFile (atSpace || c = 10) rest

theorem dataText_fileLinesFrom (front line rest : Bytes) (atSpace : Bool) :
    dataText (front ++ line ++ rest) (fileLinesFrom front.length line.length atSpace rest) =
      bytes "data: " ++ line ++ insertedInFile atSpace rest := by
  induction rest generalizing front line atSpace with
  | nil => simp [fileLinesFrom, dataText, insertedInFile]
  | cons c rest ih =>
    rw [fileLinesFrom, insertedInFile]
    split
    · have next := ih (front ++ line) [c] false
      simp only [dataText, flatMap_cons, append_assoc, drop_left, take_left]
        at next ⊢
      simpa using next
    · have next := ih front (line ++ [c]) (atSpace || c = 10)
      simpa using next

/-- No newline is followed by white space, or the last byte. -/
def breaksBeforeText : Bytes → Bool
  | [] => true
  | c :: rest => (c ≠ 10 || rest.head?.any fun d => !isSpace d) && breaksBeforeText rest

theorem inserted_eq_insertedInFile (body : Bytes) :
    inserted body = insertedInFile false body ↔ breaksBeforeText body = true := by
  induction body with
  | nil => exact iff_of_true rfl rfl
  | cons c rest ih =>
    by_cases newline : c = 10
    · subst newline
      -- both go on with `rest`, one behind a prefix and one behind white space
      have memory : inserted (10 :: rest) = 10 :: (bytes "data: " ++ inserted rest) := rfl
      have file : insertedInFile false (10 :: rest) = 10 :: insertedInFile true rest := rfl
      rw [memory, file, List.cons.injEq, breaksBeforeText]
      cases rest with
      | nil => exact iff_of_false (by decide) (by decide)
      | cons d rest =>
        cases space : isSpace d with
        | true =>
          have differ :
              bytes "data: " ++ inserted (d :: rest) ≠ insertedInFile true (d :: rest) := by
            rw [insertedInFile, space]
            intro same
            obtain rfl : 100 = d := (List.cons.inj same).1
            exact absurd space (by decide)
          simp [differ, space]
        | false =>
          have file : insertedInFile true (d :: rest) =
              bytes "data: " ++ insertedInFile false (d :: rest) := by
            have inLine : d ≠ 10 := by
              rintro rfl
              exact absurd space (by decide)
            simp [insertedInFile, space, inLine]
          rw [file, append_cancel_left_eq, ih]
          simp [space]
    · simp [inserted, insertedInFile, breaksBeforeText, newline, ih]

/-- A message with its body in a file, and the same in memory. -/
def Message.storedIn (msg : Message) (inFile : Bool) : Message :=
  { msg with inFile := inFile }

/-- The event is made from the file too, with the same bytes. -/
def SameEvent (event : Bytes) (id : MsgId) (msg : Message) : Prop :=
  ∃ fromFile fromMemory,
    esRespondMessage event id true (msg.storedIn true) = some fromFile ∧
    esRespondMessage event id false (msg.storedIn false) = some fromMemory ∧
    fromFile.text msg.storedIn = fromMemory.text msg.storedIn

/-- A body that begins with a newline is read forever.  Any other must have no white space behind a
    newline, and no newline at its end. -/
theorem event_same_from_file (event : Bytes) (msg : Message) (id : MsgId) (msgid : Bytes)
    (printed : msgidText id = some msgid) :
    SameEvent event id msg ↔ msg.body.head? ≠ some 10 ∧ breaksBeforeText msg.body = true := by
  have is : recyclableMsgidStr id = some (msgid.take msgidBufLen) := by
    rw [recyclableMsgidStr, printed, map_some]
  have atFalse : msg.storedIn false = msg.storedIn false := rfl
  obtain ⟨fromMemory, made, memory⟩ := esRespondMessage_text event atFalse is rfl
  have memoryData : dataText msg.body (dataLines 0 0 msg.body) =
      bytes "data: " ++ inserted msg.body := dataText_dataLines [] [] msg.body
  by_cases newline : msg.body.head? = some 10
  · have endless : esRespondMessage event id true (msg.storedIn true) = none := by
      have none : esLines (msg.storedIn true) = none := if_pos newline
      rw [esRespondMessage, none, bind_eq_bind, bind_none]
    refine iff_of_false ?_ (fun starts => starts.1 newline)
    rintro ⟨fromFile, _, found, _⟩
    cases endless.symm.trans found
  · have lines : esLines (msg.storedIn true) = some (fileLinesFrom 0 0 false msg.body) :=
      if_neg newline
    have atTrue : msg.storedIn true = msg.storedIn true := rfl
    obtain ⟨fromFile, makes, file⟩ := esRespondMessage_text event atTrue is lines
    have fileData : dataText msg.body (fileLinesFrom 0 0 false msg.body) =
        bytes "data: " ++ insertedInFile false msg.body :=
      dataText_fileLinesFrom [] [] msg.body false
    have same : SameEvent event id msg ↔
        fromFile.text msg.storedIn = fromMemory.text msg.storedIn := by
      constructor
      · rintro ⟨fromFile', fromMemory', makes', made', same⟩
        obtain rfl := some.inj (makes.symm.trans makes')
        obtain rfl := some.inj (made.symm.trans made')
        exact same
      · exact fun same => ⟨fromFile, fromMemory, makes, made, same⟩
    have texts : dataText msg.body (fileLinesFrom 0 0 false msg.body) =
        dataText msg.body (dataLines 0 0 msg.body) ↔
          inserted msg.body = insertedInFile false msg.body := by
      rw [fileData, memoryData, append_cancel_left_eq, eq_comm]
    have heads : eventHead event (msg.storedIn true) = eventHead event (msg.storedIn false) := rfl
    rw [same, file, memory, heads, append_cancel_left_eq, append_cancel_right_eq]
    exact texts.trans ((inserted_eq_insertedInFile msg.body).trans (and_iff_right newline).symm)

/-- Two lines of text, and a space in them. -/
theorem event_same_from_file_two_lines :
    SameEvent [] (.ofStamp ⟨1500000000, 3⟩) { manyLines with body := bytes "a b\nc" } :=
  (event_same_from_file _ _ _ (bytes "1500000000:3") rfl).mpr (by decide)

/-- A newline at the end makes no empty line, and one at the beginning no event at all. -/
theorem event_from_file_differs :
    ¬SameEvent [] (.ofStamp ⟨1500000000, 3⟩) { manyLines with body := bytes "a\n" } ∧
      esRespondMessage [] (.ofStamp ⟨1500000000, 3⟩) () (manyLines.storedIn true) = none := by
  refine ⟨?_, rfl⟩
  rintro ⟨fromFile, fromMemory, makes, made, same⟩
  cases makes
  cases made
  exact absurd same (by decide)

end Nchan.Output.Pending
