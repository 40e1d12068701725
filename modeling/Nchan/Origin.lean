/-! # Allowed origins

The `Origin` header of a request is compared with each of the origins in the configuration, which
are separated by spaces.
-/

namespace Nchan.Origin

open List

abbrev Bytes := List UInt8

/-- `nchan_scan_split_by_chr`, with `max_len` up to the end of the text: what is before `chr`, and
    where to go on. -/
def scanSplitByChr (chr : UInt8) (text : Bytes) : Bytes × Bytes :=
  match text.idxOf? chr with
  | some shortest => (text.take shortest, text.drop (shortest + 1))
  | none => (text, [])

variable {chr : UInt8} {text : Bytes}

theorem scanSplitByChr_cases (chr : UInt8) (text : Bytes) :
    chr ∉ text ∧ scanSplitByChr chr text = (text, []) ∨
      ∃ front rest, text = front ++ chr :: rest ∧ chr ∉ front ∧
        scanSplitByChr chr text = (front, rest) := by
  unfold scanSplitByChr
  cases at_ : text.idxOf? chr with
  | none => exact .inl ⟨idxOf?_eq_none_iff.mp at_, rfl⟩
  | some i =>
    obtain ⟨inside, here, before⟩ := findIdx?_eq_some_iff_getElem.mp at_
    refine .inr ⟨text.take i, text.drop (i + 1), ?_, fun early => ?_, rfl⟩
    · rw [← eq_of_beq here, getElem_cons_drop, take_append_drop]
    · obtain ⟨j, lt, is⟩ := mem_iff_getElem.mp early
      rw [length_take] at lt
      simpa [← is] using before j (by omega)

theorem length_scanSplitByChr (more : text ≠ []) :
    (scanSplitByChr chr text).2.length < text.length := by
  rcases scanSplitByChr_cases chr text with ⟨-, is⟩ | ⟨front, rest, rfl, -, is⟩
  · simpa [is] using length_pos_iff.mpr more
  · simp [is]
    omega

/-- The loop of `nchan_match_origin_header`. -/
def matchPieces (originHeader text : Bytes) : Bool :=
  if text = [] then false
  else
    let split := scanSplitByChr 32 text
    if split.1 = [42] then true
    else if split.1 = originHeader then true
    else matchPieces originHeader split.2
termination_by text.length
decreasing_by exact length_scanSplitByChr ‹_›

/-- `nchan_match_origin_header`.  Without a configuration or a header everything matches. -/
def matchOriginHeader : Option Bytes → Option Bytes → Bool
  | some allowOrigin, some originHeader => matchPieces originHeader allowOrigin
  | _, _ => true

/-- The pieces of a text are the first one and the pieces of what is left, but for empty ones. -/
theorem mem_splitOn_iff (text : Bytes) {piece : Bytes} (nonempty : piece ≠ []) :
    piece ∈ text.splitOn chr ↔
      (scanSplitByChr chr text).1 = piece ∨ piece ∈ (scanSplitByChr chr text).2.splitOn chr := by
  rcases scanSplitByChr_cases chr text with ⟨absent, is⟩ | ⟨front, rest, rfl, absent, is⟩
  · simp [is, splitOn_eq_singleton absent, nonempty, eq_comm]
  · simp [is, splitOn_append_cons_self_of_not_mem absent, eq_comm]

/-- A header is accepted if and only if it is one of the pieces between the spaces, or one of them
    is an asterisk. -/
theorem origin_matches_iff (allowOrigin originHeader : Bytes) (given : originHeader ≠ []) :
    matchOriginHeader (some allowOrigin) (some originHeader) = true ↔
      [42] ∈ allowOrigin.splitOn 32 ∨ originHeader ∈ allowOrigin.splitOn 32 := by
  change matchPieces originHeader allowOrigin = true ↔ _
  -- the loop takes one piece after the other
  fun_induction matchPieces originHeader allowOrigin with
  | case1 => simp [given]
  | case2 text more split all =>
    exact iff_of_true rfl (.inl ((mem_splitOn_iff text (cons_ne_nil 42 [])).mpr (.inl all)))
  | case3 text more split _ is =>
    exact iff_of_true rfl (.inr ((mem_splitOn_iff text given).mpr (.inl is)))
  | case4 text more split notAll differs ih =>
    rw [ih, mem_splitOn_iff text given, mem_splitOn_iff text (cons_ne_nil 42 []),
      or_iff_right notAll, or_iff_right differs]

/-- The second of two origins. -/
theorem origin_matches_second :
    matchOriginHeader (some [97, 32, 98]) (some [98]) = true :=
  (origin_matches_iff [97, 32, 98] [98] (by decide)).mpr (.inr (by decide))

end Nchan.Origin
