import Nchan.Websocket.Frames

/-! # How the stream is split does not matter, but inside a control frame's payload -/

namespace Nchan.Websocket

variable {σ : Type} {cfg : Config σ}

theorem Conn.AtStart.entry_eq {conn : Conn σ} (start : conn.AtStart) : conn.entry = [] := by
  simp [Conn.entry, setBuffer, start.last]

theorem Conn.AtStart.ready {conn : Conn σ} (start : conn.AtStart) : Ready conn conn.entry := by
  rw [start.entry_eq]
  exact .empty start.opened start.payload

theorem reading_part {conn : Conn σ} {part : List UInt8} (frames : List ClientFrame)
    (start : conn.AtStart) (cut : part <+: stream frames) :
    ∃ c, websocketReading cfg conn part = some c ∧
      (c.Loses → CutsControl cfg conn.sub frames part.length) ∧
      (part = stream frames → c.sub = serveAll cfg frames conn.sub) := by
  obtain ⟨c, ⟨fuel, returns⟩, loses, whole⟩ : ∃ c, Returns cfg conn part c ∧ _ ∧ _ :=
    frames_read start cut
  rw [← start.entry_eq] at returns
  exact ⟨c, websocketReading_eq start.ready returns, loses, whole⟩

/-- Chunks that are cut nowhere inside the payload of a control frame are served frame by
    frame, just as the stream that is there at once. -/
theorem reading_chunks_eq_whole (cfg : Config σ) (conn : Conn σ) (start : conn.AtStart)
    (frames : List ClientFrame) (chunks : List (List UInt8))
    (complete : chunks.flatten = stream frames)
    (whole : ∀ before after, chunks = before ++ after →
      ¬ CutsControl cfg conn.sub frames before.flatten.length) :
    (readChunks cfg chunks conn).map Conn.sub = some (serveAll cfg frames conn.sub) ∧
      (websocketReading cfg conn chunks.flatten).map Conn.sub =
        some (serveAll cfg frames conn.sub) := by
  have atOnce : (websocketReading cfg conn chunks.flatten).map Conn.sub =
      some (serveAll cfg frames conn.sub) := by
    obtain ⟨c, returns, _, served⟩ : ∃ c, websocketReading cfg conn chunks.flatten = some c ∧ _ ∧ _ :=
      reading_part frames start (complete ▸ List.prefix_refl _)
    rw [returns, Option.map_some, served complete]
  refine ⟨?_, atOnce⟩
  cases chunks with
  | nil =>
    -- no event at all: nothing was sent, and an event would find nothing
    have idle : (websocketReading cfg conn []).map Conn.sub = some conn.sub := by
      obtain ⟨c, returns, _, served⟩ : ∃ c, websocketReading cfg conn [] = some c ∧ _ ∧ _ :=
        reading_part [] start (List.prefix_refl _)
      rw [returns, Option.map_some, served rfl]
      rfl
    rw [← atOnce]
    exact idle.symm
  | cons chunk chunks =>
    rw [readChunks_flatten (.inr start.ready) chunk chunks]
    · exact atOnce
    · intro before after mid split _ returns loses
      have cut : before.flatten <+: stream frames := by
        rw [← complete, split, List.flatten_append]
        exact List.prefix_append _ _
      obtain ⟨c, returns', cuts, _⟩ : ∃ c, websocketReading cfg conn before.flatten = some c ∧ _ ∧ _ :=
        reading_part frames start cut
      obtain rfl : c = mid := by simpa [returns'] using returns
      exact whole before after split (cuts loses)

/-! ## A ping in two chunks -/

def publisherConfig : Config Unit where
  pubWebsocket := true
  websocketHeartbeat := none
  deflateEnabled := false
  inflate := fun _ _ => none
  utf8Decode := fun _ => none
  msgpool := true
  palloc := fun size => size < 2 ^ 63
  pallocFits := by simp

def newConn : Conn Unit := ⟨.zero, ⟨[], false, false, false, false, ()⟩⟩

/-- A ping with the payload `hi` under the mask 1, 2, 3, 4. -/
def pingFrame : ClientFrame where
  byte0 := 0x89
  size := .short
  maskKey := some [1, 2, 3, 4]
  payload := [105, 107]
  keyLength := by simp
  fits := by decide

theorem reading_chunks_eq_whole_ping :
    (readChunks publisherConfig [pingFrame.bytes.take 3, pingFrame.bytes.drop 3] newConn).map Conn.sub =
      some (serveAll publisherConfig [pingFrame] newConn.sub) := by
  refine (reading_chunks_eq_whole publisherConfig newConn ⟨rfl, rfl, rfl, rfl⟩ [pingFrame]
    [pingFrame.bytes.take 3, pingFrame.bytes.drop 3] rfl ?_).1
  rintro before after split ⟨pre, f, post, only, -, -, -, low, high⟩
  -- the payload begins after six bytes, and the chunks end after three and after eight
  obtain ⟨rfl, rfl, rfl⟩ : pre = [] ∧ f = pingFrame ∧ post = [] := by
    cases pre with
    | nil => simpa using only.symm
    | cons g pre => simp at only
  have low : 6 < before.flatten.length := low
  have high : before.flatten.length < 8 := high
  have three : (pingFrame.bytes.take 3).length = 3 := rfl
  have five : (pingFrame.bytes.drop 3).length = 5 := rfl
  match before, split with
  | [], _ => simp at low
  | [a], split =>
    obtain ⟨rfl, -⟩ : pingFrame.bytes.take 3 = a ∧ _ := by simpa using split
    simp [three] at low
  | [a, b], split =>
    obtain ⟨rfl, rfl, -⟩ : pingFrame.bytes.take 3 = a ∧ pingFrame.bytes.drop 3 = b ∧ _ := by
      simpa using split
    simp only [List.flatten_cons, List.flatten_nil, List.length_append, three, five] at high
    simp at high
  | a :: b :: c :: before, split => simp at split

/-- Cut between the two bytes of its payload, the ping is not answered: the first byte went
    to an array that was gone when the second came, and the reader waits for another. -/
theorem ping_cut_in_payload_unanswered :
    (websocketReading publisherConfig newConn (stream [pingFrame])).map (·.sub.actions) =
        some [.pong [104, 105]] ∧
      [pingFrame.bytes.take 7, pingFrame.bytes.drop 7].flatten = stream [pingFrame] ∧
      (readChunks publisherConfig [pingFrame.bytes.take 7, pingFrame.bytes.drop 7] newConn).map
        (·.sub.actions) = some [] := by
  decide

end Nchan.Websocket
