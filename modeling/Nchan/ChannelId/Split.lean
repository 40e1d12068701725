import Mathlib.Data.List.Forall2
import Mathlib.Data.List.Infix

/-! # Channel ids from a list

With `nchan_channel_id_split_delimiter` one value names several channels.  `nchan_strsplit` cuts
them off one by one.  It looks for the delimiter only as long as something is left behind it, and it
gives nothing back when less is left than a delimiter would take.
-/

namespace Nchan.ChannelId

open List Nat Option

abbrev Bytes := List UInt8

/-- `ngx_strncmp(text, delim, n) == 0`; a NUL ends both. -/
def strncmpEq : Nat → Bytes → Bytes → Bool
  | 0, _, _ => true
  | n + 1, a :: text, b :: delim => a = b && (a = 0 || strncmpEq n text delim)
  | _ + 1, _, _ => false

def starts (delim text : Bytes) : Bool := strncmpEq delim.length text delim

/-- The loop of `nchan_strsplit`: what is before the delimiter, and behind it. -/
def scan (delim seen : Bytes) : Bytes → Bytes × Bytes
  | [] => (seen, [])
  | c :: rest =>
    if (c :: rest).length ≤ delim.length then (seen ++ c :: rest, [])
    else if starts delim (c :: rest) then (seen, (c :: rest).drop delim.length)
    else scan delim (seen ++ [c]) rest

/-- `nchan_strsplit`. -/
def strsplit (delim rest : Bytes) : Option (Bytes × Bytes) :=
  if rest.length < delim.length then none else some (scan delim [] rest)

/-- The loop around it, which may take `fuel` turns. -/
def pieces (delim : Bytes) : Nat → Bytes → Option (List Bytes)
  | 0, _ => none
  | fuel + 1, rest =>
    match strsplit delim rest with
    | none => some []
    | some (piece, rest) => (pieces delim fuel rest).map (piece :: ·)

/-- `NCHAN_MULTITAG_MAX`. -/
abbrev multitagMax : Nat := 255

def addPieces (ids : List Bytes) : List Bytes → Option (List Bytes)
  | [] => some ids
  | piece :: rest => if ids.length ≥ multitagMax then none else addPieces (ids ++ [piece]) rest

/-- The first loop of `nchan_process_multi_channel_id` over the values of `nchan_channel_id`.  A
    request that is declined is `none`. -/
def collectIds (maxChannelIdLength : Nat) (delim : Bytes) (ids : List Bytes) :
    List Bytes → Option (List Bytes)
  | [] => some ids
  | value :: rest =>
    if ids.length < multitagMax then
      -- `validate_id`
      if value.length > maxChannelIdLength then none
      else if delim.length > 0 then
        ((pieces delim (value.length + 1) value).bind (addPieces ids)).bind fun ids =>
          collectIds maxChannelIdLength delim ids rest
      else collectIds maxChannelIdLength delim (ids ++ [value]) rest
    else some ids

variable {delim text : Bytes}

/-! ## One piece -/

theorem strncmpEq_append (delim rest : Bytes) : strncmpEq delim.length (delim ++ rest) delim := by
  induction delim with
  | nil => rfl
  | cons c delim ih => simp [strncmpEq, ih]

theorem scan_cases (delim seen rest : Bytes) :
    (∃ front back, rest = front ++ back ∧ delim.length < back.length ∧ starts delim back ∧
      (∀ i < front.length, ¬starts delim (rest.drop i)) ∧
      scan delim seen rest = (seen ++ front, back.drop delim.length)) ∨
    ((∀ i, i + delim.length < rest.length → ¬starts delim (rest.drop i)) ∧
      scan delim seen rest = (seen ++ rest, [])) := by
  induction rest generalizing seen with
  | nil =>
    exact .inr ⟨fun i none => absurd none (not_lt_zero _), by rw [scan, append_nil]⟩
  | cons c rest ih =>
    rw [scan]
    split
    · rename_i short
      exact .inr ⟨fun i none => by omega, rfl⟩
    · rename_i long
      split
      · rename_i found
        exact .inl ⟨[], c :: rest, rfl, not_le.mp long, found,
          fun i none => absurd none (not_lt_zero i), by rw [append_nil]⟩
      · rename_i absent
        obtain ⟨front, back, rfl, left, found, first, is⟩ | ⟨none, is⟩ := ih (seen ++ [c])
        · refine .inl ⟨c :: front, back, rfl, left, found, fun i before => ?_, ?_⟩
          · cases i with
            | zero => exact absent
            | succ i => exact first i (lt_of_succ_lt_succ before)
          · rw [is, append_assoc]
            rfl
        · refine .inr ⟨fun i before => ?_, ?_⟩
          · cases i with
            | zero => exact absent
            | succ i =>
              rw [length_cons] at before
              exact none i (by omega)
          · rw [is, append_assoc]
            rfl

theorem scan_found {front rest : Bytes}
    (first : ∀ i < front.length, ¬starts delim ((front ++ (delim ++ rest)).drop i))
    (filled : rest ≠ []) : scan delim [] (front ++ (delim ++ rest)) = (front, rest) := by
  have here : starts delim ((front ++ (delim ++ rest)).drop front.length) := by
    rw [drop_left]
    exact strncmpEq_append delim rest
  have left : 0 < rest.length := length_pos_iff.mpr filled
  obtain ⟨front', back, same, -, found, first', is⟩ | ⟨none, -⟩ :=
    scan_cases delim [] (front ++ (delim ++ rest))
  · have len : front'.length = front.length := by
      apply le_antisymm
      · exact not_lt.mp fun later => first' _ later here
      · refine not_lt.mp fun earlier => first _ earlier ?_
        rwa [same, drop_left]
    obtain ⟨rfl, rfl⟩ := append_inj same len.symm
    rw [is, nil_append, drop_left]
  · refine absurd here (none _ ?_)
    simp only [length_append]
    omega

section

variable (nonempty : delim ≠ [])

include nonempty

theorem scan_shorter (seen : Bytes) {rest : Bytes}
    (long : delim.length ≤ rest.length) : (scan delim seen rest).2.length < rest.length := by
  have size : 0 < delim.length := length_pos_iff.mpr nonempty
  obtain ⟨front, back, rfl, left, -, -, is⟩ | ⟨-, is⟩ := scan_cases delim seen rest
  · rw [is, length_drop, length_append]
    omega
  · rw [is]
    exact lt_of_lt_of_le size long

/-! ## All the pieces -/

omit nonempty in
theorem pieces_succ (delim : Bytes) (fuel : Nat) (rest : Bytes) :
    pieces delim (fuel + 1) rest =
      if rest.length < delim.length then some []
      else (pieces delim fuel (scan delim [] rest).2).map ((scan delim [] rest).1 :: ·) := by
  rw [pieces, strsplit]
  by_cases short : rest.length < delim.length
  · rw [if_pos short, if_pos short]
  · rw [if_neg short, if_neg short]

theorem pieces_nil {fuel : Nat} (left : 0 < fuel) :
    pieces delim fuel [] = some [] := by
  obtain ⟨fuel, rfl⟩ := exists_eq_add_one.mpr left
  rw [pieces_succ]
  exact if_pos (length_pos_iff.mpr nonempty)

theorem pieces_total (text : Bytes) :
    ∃ ids, ∀ fuel > text.length, pieces delim fuel text = some ids := by
  induction len : text.length using Nat.strong_induction_on generalizing text with
  | _ n ih =>
    subst len
    by_cases short : text.length < delim.length
    · refine ⟨[], fun fuel enough => ?_⟩
      obtain ⟨fuel, rfl⟩ := exists_eq_add_one.mpr (zero_lt_of_lt enough)
      rw [pieces_succ, if_pos short]
    · have shorter := scan_shorter nonempty [] (not_lt.mp short)
      obtain ⟨ids, others⟩ := ih _ shorter _ rfl
      refine ⟨(scan delim [] text).1 :: ids, fun fuel enough => ?_⟩
      obtain ⟨fuel, rfl⟩ := exists_eq_add_one.mpr (zero_lt_of_lt enough)
      rw [pieces_succ, if_neg short, others fuel (by omega), map_some]

/-- Ids that are joined to a text: up to each delimiter, the first that is found; none in an id; and
    no less in the last one than a delimiter takes. -/
inductive Listing (delim : Bytes) : Bytes → List Bytes → Prop where
  | nothing : Listing delim [] []
  | last {id : Bytes} (long : delim.length ≤ id.length) (free : ¬delim <:+: id)
      (none : ∀ i, i + delim.length < id.length → ¬starts delim (id.drop i)) :
      Listing delim id [id]
  | more {id rest : Bytes} {ids : List Bytes} (free : ¬delim <:+: id)
      (first : ∀ i < id.length, ¬starts delim ((id ++ (delim ++ rest)).drop i))
      (filled : rest ≠ []) (others : Listing delim rest ids) :
      Listing delim (id ++ (delim ++ rest)) (id :: ids)

theorem Listing.pieces {ids : List Bytes}
    (listing : Listing delim text ids) :
    ∀ fuel > text.length, pieces delim fuel text = some ids := by
  have size : 0 < delim.length := length_pos_iff.mpr nonempty
  induction listing with
  | nothing => exact fun fuel enough => pieces_nil nonempty enough
  | @last id long free none =>
    intro fuel enough
    obtain ⟨fuel, rfl⟩ := exists_eq_add_one.mpr (zero_lt_of_lt enough)
    have whole : scan delim [] id = (id, []) := by
      obtain ⟨front, back, rfl, left, found, -, -⟩ | ⟨-, is⟩ := scan_cases delim [] id
      · refine absurd ?_ (none front.length ?_)
        · rwa [drop_left]
        · rw [length_append]
          omega
      · exact is
    rw [pieces_succ, if_neg (not_lt.mpr long), whole, pieces_nil nonempty (by omega),
      map_some]
  | @more id rest ids free first filled others ih =>
    intro fuel enough
    obtain ⟨fuel, rfl⟩ := exists_eq_add_one.mpr (zero_lt_of_lt enough)
    simp only [length_append] at enough
    have long : ¬(id ++ (delim ++ rest)).length < delim.length := by
      simp only [length_append]
      omega
    rw [pieces_succ, if_neg long, scan_found first filled, ih fuel (by omega), map_some]

/-- The ids are those of the text, up to one delimiter at the end. -/
def Joined (delim text : Bytes) (ids : List Bytes) : Prop :=
  (text = delim.intercalate ids ∨ text = delim.intercalate ids ++ delim) ∧
    ∀ id ∈ ids, ¬delim <:+: id

omit nonempty in
theorem Listing.joined {ids : List Bytes} (listing : Listing delim text ids) :
    Joined delim text ids := by
  have nonempty {rest : Bytes} {ids : List Bytes} (listing : Listing delim rest ids)
      (filled : rest ≠ []) : ids ≠ [] := by
    rintro rfl
    cases listing
    exact filled rfl
  have whole : text = delim.intercalate ids := by
    induction listing with
    | nothing => rfl
    | last => exact intercalate_singleton.symm
    | @more id rest ids free first filled others ih =>
      rw [intercalate_cons_of_ne_nil (nonempty others filled), ← ih, append_assoc]
  refine ⟨.inl whole, ?_⟩
  clear whole
  induction listing with
  | nothing => exact forall_mem_nil _
  | last long free none => exact forall_mem_singleton.mpr free
  | more free first filled others ih => exact forall_mem_cons.mpr ⟨free, ih⟩

theorem Joined.listing {fuel : Nat} {ids : List Bytes}
    (split : pieces delim fuel text = some ids) (joined : Joined delim text ids) :
    Listing delim text ids := by
  induction fuel generalizing text ids with
  | zero => cases split
  | succ fuel ih =>
    obtain ⟨whole, free⟩ := joined
    rw [pieces_succ] at split
    by_cases short : text.length < delim.length
    · rw [if_pos short] at split
      cases split
      obtain rfl | rfl := whole
      · exact .nothing
      · exact absurd short (lt_irrefl _)
    · rw [if_neg short] at split
      obtain ⟨others, behind, rfl⟩ := map_eq_some_iff.mp split
      obtain ⟨front, back, rfl, left, -, first, is⟩ | ⟨none, is⟩ := scan_cases delim [] text
      · simp only [is, nil_append] at behind whole free ⊢
        obtain ⟨freeFront, free⟩ := forall_mem_cons.mp free
        have more : others ≠ [] := by
          rintro rfl
          rw [intercalate_singleton] at whole
          obtain whole | whole := whole
          · have len := congrArg List.length whole
            rw [length_append] at len
            omega
          · obtain rfl := append_cancel_left whole
            exact lt_irrefl _ left
        rw [intercalate_cons_of_ne_nil more, append_assoc, append_assoc,
          append_assoc, append_cancel_left_eq, append_cancel_left_eq] at whole
        have begins : back = delim ++ back.drop delim.length := by
          obtain whole | whole := whole
          · rw [whole, drop_left]
          · rw [whole, drop_left]
        have rest : Joined delim (back.drop delim.length) others := by
          refine ⟨?_, free⟩
          rw [begins, append_cancel_left_eq, append_cancel_left_eq] at whole
          exact whole
        have filled : back.drop delim.length ≠ [] := by
          rw [ne_eq, drop_eq_nil_iff]
          omega
        rw [begins] at first ⊢
        exact .more freeFront first filled (ih behind rest)
      · simp only [is, nil_append] at behind free ⊢
        have nothing : others = [] := by
          cases fuel with
          | zero => cases behind
          | succ fuel =>
            rw [pieces_nil nonempty fuel.succ_pos] at behind
            exact (some.inj behind).symm
        subst nothing
        exact .last (not_lt.mp short) (free text mem_cons_self) none

end

/-! ## The ids of a request -/

theorem addPieces_eq {ids : List Bytes} (room : ids.length ≤ multitagMax) (pieces : List Bytes) :
    addPieces ids pieces =
      if ids.length + pieces.length ≤ multitagMax then some (ids ++ pieces) else none := by
  induction pieces generalizing ids with
  | nil => rw [addPieces, length_nil, Nat.add_zero, if_pos room, append_nil]
  | cons piece pieces ih =>
    rw [addPieces]
    by_cases full : ids.length ≥ multitagMax
    · rw [if_pos full, if_neg]
      rw [length_cons]
      omega
    · have left : (ids ++ [piece]).length ≤ multitagMax := by
        rw [length_append]
        exact not_le.mp full
      rw [if_neg full, ih left]
      simp [Nat.add_assoc, Nat.add_comm 1]

variable {values : List Bytes} {lists : List (List Bytes)}

theorem eq_nil_of_listings (listings : List.Forall₂ (Listing delim) values lists)
    (nothing : lists.flatten = []) : ∀ value ∈ values, value = [] := by
  induction listings with
  | nil => exact forall_mem_nil _
  | cons listing others ih =>
    rw [flatten_cons, append_eq_nil_iff] at nothing
    obtain ⟨rfl, rest⟩ := nothing
    cases listing
    exact forall_mem_cons.mpr ⟨rfl, ih rest⟩

/-- Everything that is listed is there if and only if nothing is too long or too much. -/
theorem collectIds_eq_iff (max : Nat) (nonempty : delim ≠ [])
    (listings : List.Forall₂ (Listing delim) values lists) {ids : List Bytes}
    (room : ids.length ≤ multitagMax) :
    collectIds max delim ids values = some (ids ++ lists.flatten) ↔
      (∀ value ∈ values, value.length ≤ max) ∧
        ids.length + lists.flatten.length ≤ multitagMax := by
  induction listings generalizing ids with
  | nil => simpa [collectIds] using room
  | @cons value list values lists listing others ih =>
    rw [collectIds]
    by_cases left : ids.length < multitagMax
    · rw [if_pos left]
      by_cases short : value.length ≤ max
      · have split := listing.pieces nonempty (value.length + 1) (lt_succ_self _)
        rw [if_neg (not_lt.mpr short), if_pos (length_pos_iff.mpr nonempty), split,
          bind_some, addPieces_eq room]
        by_cases fits : ids.length + list.length ≤ multitagMax
        · have fits' : (ids ++ list).length ≤ multitagMax := by
            rw [length_append]
            exact fits
          have more := ih fits'
          rw [if_pos fits, bind_some, flatten_cons, ← append_assoc, more]
          simp [short, Nat.add_assoc]
        · rw [if_neg fits]
          refine iff_of_false (by simp) (fun all => fits ?_)
          have total := all.2
          rw [flatten_cons, length_append] at total
          omega
      · rw [if_pos (not_le.mp short)]
        exact iff_of_false (by simp) fun all => short (all.1 value mem_cons_self)
    -- the values that are left are not looked at
    · rw [if_neg left]
      constructor
      · intro same
        have nothing := append_cancel_left
          ((append_nil ids).trans (some.inj same))
        refine ⟨fun value listed => ?_, ?_⟩
        · rw [eq_nil_of_listings (.cons listing others) nothing.symm value listed]
          exact zero_le max
        · rw [← nothing]
          exact room
      · rintro ⟨-, total⟩
        have nothing : (list :: lists).flatten = [] :=
          eq_nil_of_length_eq_zero (by omega)
        rw [nothing, append_nil]

/-- The pieces of a text are the ids in it. -/
def Splits (delim text : Bytes) : Prop :=
  ∃ ids, (∀ fuel > text.length, pieces delim fuel text = some ids) ∧ Joined delim text ids

/-- The loop always ends.  The ids in a text are found if and only if it is a listing, and then they
    are used if there are not too many. -/
theorem split_exact (delim : Bytes) (nonempty : delim ≠ []) :
    (∀ text, ∃ ids, ∀ fuel > text.length, pieces delim fuel text = some ids) ∧
    (∀ text, Splits delim text ↔ ∃ ids, Listing delim text ids) ∧
    ∀ max values lists, List.Forall₂ (Listing delim) values lists →
      (collectIds max delim [] values = some lists.flatten ↔
        (∀ value ∈ values, value.length ≤ max) ∧ lists.flatten.length ≤ multitagMax) := by
  refine ⟨pieces_total nonempty, fun text => ⟨?_, ?_⟩, fun max values lists listings => ?_⟩
  · rintro ⟨ids, split, joined⟩
    exact ⟨ids, joined.listing nonempty (split _ (lt_succ_self _))⟩
  · rintro ⟨ids, listing⟩
    exact ⟨ids, listing.pieces nonempty, listing.joined⟩
  · have none : ([] : List Bytes).length ≤ multitagMax := zero_le _
    have all := collectIds_eq_iff max nonempty listings none
    simpa using all

/-- `a,b` -/
theorem split_exact_two :
    Splits [44] [97, 44, 98] ∧
      collectIds 1024 [44] [] [[97, 44, 98]] = some [[97], [98]] := by
  have last : Listing [44] [98] [[98]] :=
    .last (by decide) (by decide) fun i before => absurd before (by simp)
  have free : ¬[44] <:+: [(97 : UInt8)] := by decide
  have first : ∀ i < [(97 : UInt8)].length,
      ¬starts [44] (([97] ++ ([44] ++ [98]) : Bytes).drop i) := by decide
  have listing : Listing [44] [97, 44, 98] [[97], [98]] := .more free first (by decide) last
  obtain ⟨-, split, collect⟩ := split_exact [44] (by decide)
  exact ⟨(split _).mpr ⟨_, listing⟩,
    (collect 1024 _ [[[97], [98]]] (.cons listing .nil)).mpr (by decide)⟩

/-- The comma at the end of `a,` becomes part of an id, and the second id of `a--b` is lost. -/
theorem tail_not_split :
    (pieces [44] 3 [97, 44] = some [[97, 44]] ∧ ¬Splits [44] [97, 44]) ∧
      pieces [45, 45] 5 [97, 45, 45, 98] = some [[97]] ∧ ¬Splits [45, 45] [97, 45, 45, 98] := by
  refine ⟨⟨rfl, ?_⟩, rfl, ?_⟩
  · rintro ⟨ids, split, -, free⟩
    obtain rfl := some.inj (split 3 (by decide))
    exact free [97, 44] mem_cons_self (by decide)
  · rintro ⟨ids, split, whole, -⟩
    obtain rfl := some.inj (split 5 (by decide))
    exact absurd whole (by decide)

end Nchan.ChannelId
