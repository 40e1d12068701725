import Nchan.Lib.Partial
import Nchan.MultiMsgId
import Mathlib.Algebra.Order.BigOperators.Group.List
import Mathlib.Algebra.Order.Ring.Nat
import Mathlib.Data.List.GetD

/-! # Ids as text

A subscriber is told the id of a message as text, and reads it back from the request with which
it reconnects.  The text is the time and a list of tags in which the active one stands in
brackets and `-` is short for -1; or the list alone, if the time is sent as `Last-Modified`.
What is read back is the id that was written, as far as it is used.
-/

namespace Nchan

open Lib List Option

abbrev Text := List Char

/-- What `sprintf` writes for `%i`. -/
def decimal (k : Int) : Text :=
  if k < 0 then '-' :: Nat.toDigits 10 k.natAbs else Nat.toDigits 10 k.toNat

/-- `NCHAN_MULTITAG_MAX`. -/
abbrev multitagMax : Nat := 255

variable {n : Nat}

namespace MsgId

/-! ## Writing -/

/-- One tag and its comma.  A failed assert is `none`. -/
def tagToStr (id : MsgId) (i : Nat) : Option Text :=
  if id.tags i < -2 then none
  else if id.tags i ≠ -1 then
    some (if id.tagactive ≠ i then decimal (id.tags i) ++ [',']
      else '[' :: decimal (id.tags i) ++ [']', ','])
  -- shorthand
  else if id.tagactive = i then none
  else some ['-', ',']

/-- `msgtag_to_strptr`. -/
def msgtagToStr (id : MsgId) : Option Text :=
  if id.tagcount = 1 then some (decimal (id.tags 0))
  else ((range id.tagcount).mapM id.tagToStr).map fun tags => tags.flatten.dropLast

/-- `msgid_to_str`. -/
def msgidToStr (id : MsgId) : Option Text :=
  id.msgtagToStr.map fun tags => decimal id.time ++ ':' :: tags

/-! ## Reading -/

/-- The variables of the loop in `nchan_parse_msg_tag`. -/
structure TagParser where
  tags : List Int := []
  sign : Int := 1
  val : Int := 0
  braceOpenTotal : Nat := 0
  braceCloseTotal : Nat := 0
  tagactive : Option Nat := none

namespace TagParser

/-- The tag that ends here, stored into an `int16_t`. -/
def next (p : TagParser) : TagParser :=
  { p with
    tags := p.tags ++ [if p.val = 0 ∧ p.sign = -1 then -1 else (p.val * p.sign).bmod (2 ^ 16)]
    sign := 1
    val := 0 }

def read (c : Char) (p : TagParser) : Option TagParser :=
  if c = '-' then some { p with sign := -1 }
  else if c.isDigit then
    some { p with val := (10 * p.val + (c.toNat - '0'.toNat : Nat)).bmod (2 ^ 16) }
  else if c = '[' then
    if p.braceOpenTotal + 1 > 1 then none
    else some { p with braceOpenTotal := p.braceOpenTotal + 1, tagactive := some p.tags.length }
  else if c = ']' then
    if p.braceCloseTotal + 1 > 1 ∨ p.braceOpenTotal ≠ p.braceCloseTotal + 1 then none
    else some { p with braceCloseTotal := p.braceCloseTotal + 1 }
  else if c = ',' then some p.next
  -- any other character is skipped
  else some p

def run : Text → TagParser → Option TagParser
  | [], p => some (if p.tags.length < multitagMax then p.next else p)
  | c :: rest, p =>
    if p.tags.length < multitagMax then (p.read c).bind (run rest) else some p

end TagParser

/-- `nchan_parse_msg_tag`, for a text or none.  What is left in the array behind the tags is of no
    use. -/
def parseMsgTag (text : Option Text) (expectedTagCount : Nat) (mid : MsgId) : Option MsgId :=
  (match text with
    | none => some ({} : TagParser)
    | some text => TagParser.run text {}).bind fun p =>
      let tags := p.tags ++ List.replicate (expectedTagCount - p.tags.length) (-1)
      (match p.tagactive with
        | some active => some active
        -- a single tag is active by default, one of several has to be marked
        | none => if p.tags.length = 1 then some 0 else none).map fun active =>
          { mid with tagactive := active, tagcount := tags.length }.setTags tags.length
            fun i => tags.getD i 0

/-- `ngx_atoi`. -/
def ngxAtoi (text : Text) : Option Nat :=
  if text ≠ [] ∧ text.all Char.isDigit ∧ Nat.ofDigitChars 10 text 0 < 2 ^ 63 then
    some (Nat.ofDigitChars 10 text 0)
  else none

theorem ngxAtoi_toDigits (representable : n < 2 ^ 63) : ngxAtoi (Nat.toDigits 10 n) = some n := by
  have digits : ∀ c ∈ Nat.toDigits 10 n, c.isDigit := fun c on =>
    Nat.isDigit_of_mem_toDigits (by decide) (by decide) on
  have value : Nat.ofDigitChars 10 (Nat.toDigits 10 n) 0 = n := Nat.ofDigitChars_ten_toDigits
  rw [ngxAtoi, value, if_pos ⟨Nat.toDigits_ne_nil, by simpa using digits, representable⟩]

inductive Parsed where
  | ok (id : MsgId)
  | error
  | declined

/-- `nchan_parse_compound_msgid`. -/
def parseCompoundMsgid (id : MsgId) (str : Text) (expectedTagCount : Nat) : Parsed :=
  match str.dropWhile (· ≠ ':') with
  | [] => .declined
  | _ :: tags =>
    match ngxAtoi (str.takeWhile (· ≠ ':')) with
    | none => .error
    | some time =>
      match parseMsgTag (some tags) expectedTagCount { id with time := time } with
      | some id => .ok id
      | none => .error

end MsgId

structure IdConf where
  msgInEtagOnly : Bool := false
  /-- `subscriber_first_message` -/
  subscriberFirstMessage : Int := 1

/-- What a request says about the last message.  Texts that have no escapes are left as they are
    by `nchan_urldecode_str`. -/
structure IdRequest where
  ifModifiedSince : Option Int := none
  ifNoneMatch : Option Text := none
  /-- The values of `nchan_subscriber_last_message_id`: the `Last-Event-ID` header and the
      `last_event_id` argument. -/
  lastMessageId : List Text := []

namespace IdRequest

open MsgId

/-- `set_default_id`. -/
def setDefaultId (cf : IdConf) : MsgId :=
  if cf.subscriberFirstMessage = 1 then .oldest
  else if cf.subscriberFirstMessage = 0 then .ofStamp ⟨newestMsgidTime, 0⟩
  else .ofStamp ⟨nthMsgidTime, cf.subscriberFirstMessage⟩

/-- The buffer for one of the values of `last_message_id`. -/
abbrev lastMessageIdMax : Nat := 128

/-- The loop over the values of `last_message_id`. -/
def alternative (count : Nat) (id : MsgId) : List Text → Parsed
  | [] => .declined
  | str :: rest =>
    -- `ngx_http_complex_value_noalloc` fails for what does not fit
    if str.length > lastMessageIdMax ∨ str = [] then alternative count id rest
    else
      match parseCompoundMsgid id str count with
      | .declined => alternative count id rest
      | parsed => parsed

/-- `nchan_subscriber_get_msg_id`, for `count` channels.  The id before is that of the last
    request. -/
def getMsgId (cf : IdConf) (count : Nat) (id : MsgId) (r : IdRequest) : Option MsgId :=
  let parsed :=
    match cf.msgInEtagOnly, r.ifModifiedSince with
    | false, some time =>
      if time ≤ 0 then Parsed.declined
      else
        match parseMsgTag r.ifNoneMatch count { id with time := time } with
        | some id => .ok id
        | none => .error
    | _, _ =>
      match r.ifNoneMatch with
      | some etag => parseCompoundMsgid id etag count
      | none => alternative count id r.lastMessageId
  match parsed with
  | .ok id => some id
  | .error => none
  | .declined => some (setDefaultId cf)

end IdRequest

/-! ## Reading what was written -/

namespace MsgId

/-- An id of a message in `count` channels, as it is written. -/
structure Written (count : Nat) (id : MsgId) : Prop where
  several : 2 ≤ count
  room : count ≤ multitagMax
  counts : id.tagcount = count
  bounded : ∀ i < count, -1 ≤ id.tags i ∧ id.tags i ≤ 32767
  active : id.tagactive < count
  set : 0 ≤ id.tags id.tagactive

def digitCount (k : Nat) : Nat := (Nat.toDigits 10 k).length

def tagWidth (tag : Int) : Nat := if tag = -1 then 1 else digitCount tag.toNat

/-- How much the tags of `count` channels take, with commas between them and two brackets. -/
def tagsWidth (count : Nat) (tags : Nat → Int) : Nat :=
  ((range count).map fun i => tagWidth (tags i) + 1).sum + 1

variable {count : Nat} {id : MsgId}

def piece (id : MsgId) (i : Nat) : Text :=
  if id.tags i = -1 then ['-']
  else if id.tagactive ≠ i then Nat.toDigits 10 (id.tags i).toNat
  else '[' :: Nat.toDigits 10 (id.tags i).toNat ++ [']']

theorem decimal_of_nonneg {k : Int} (nonneg : 0 ≤ k) : decimal k = Nat.toDigits 10 k.toNat :=
  if_neg (Int.not_lt.mpr nonneg)

variable {i k : Nat}

theorem Written.tagToStr_eq (written : id.Written count) (inRange : i < count) :
    id.tagToStr i = some (id.piece i ++ [',']) := by
  have bound := written.bounded i inRange
  have set := written.set
  unfold tagToStr piece
  rw [if_neg (by omega)]
  by_cases unset : id.tags i = -1
  · rw [if_neg (by simp [unset]), if_neg (by rintro rfl; omega), if_pos unset]
    rfl
  · rw [if_pos unset, if_neg unset, decimal_of_nonneg (by omega)]
    split <;> simp

def commaed (id : MsgId) (k : Nat) : Text := (range k).flatMap fun i => id.piece i ++ [',']

theorem commaed_succ (id : MsgId) (k : Nat) :
    id.commaed (k + 1) = id.commaed k ++ id.piece k ++ [','] := by
  simp [commaed, range_succ]

theorem Written.tagsToStr_eq (written : id.Written count) (inRange : k ≤ count) :
    (range k).mapM id.tagToStr =
      some ((range k).map fun i => id.piece i ++ [',']) := by
  induction k with
  | zero => rfl
  | succ k ih =>
    simp [range_succ, ih (by omega), written.tagToStr_eq inRange]

theorem Written.msgtagToStr_eq {last : Nat} (written : id.Written (last + 1)) :
    id.msgtagToStr = some (id.commaed last ++ id.piece last) := by
  have several := written.several
  have joined : ((range (last + 1)).map fun i => id.piece i ++ [',']).flatten =
      id.commaed (last + 1) := rfl
  unfold msgtagToStr
  rw [if_neg (by rw [written.counts]; omega), written.counts, written.tagsToStr_eq (Nat.le_refl _),
    map_some, joined, commaed_succ, dropLast_concat]

theorem length_piece (set : 0 ≤ id.tags id.tagactive) (i : Nat) :
    (id.piece i).length = tagWidth (id.tags i) + if i = id.tagactive then 2 else 0 := by
  unfold piece tagWidth digitCount
  by_cases active : i = id.tagactive
  · subst active
    have isSet : id.tags id.tagactive ≠ -1 := by omega
    simp [isSet]
  · split <;> simp [Ne.symm active]

theorem length_commaed (set : 0 ≤ id.tags id.tagactive) (k : Nat) :
    (id.commaed k).length = ((range k).map fun i => tagWidth (id.tags i) + 1).sum +
      if id.tagactive < k then 2 else 0 := by
  induction k with
  | zero => simp [commaed]
  | succ k ih =>
    have last := length_piece set k
    rw [commaed_succ, length_append, length_append, ih, last, range_succ]
    simp only [map_append, sum_append, map_cons, map_nil, sum_cons,
      sum_nil, length_singleton]
    split <;> split <;> split <;> omega

theorem Written.length_msgtagToStr (written : id.Written count) :
    ∃ text, id.msgtagToStr = some text ∧ text.length = tagsWidth count id.tags := by
  obtain ⟨last, rfl⟩ := Nat.exists_eq_add_one.mpr (Nat.lt_of_lt_of_le Nat.zero_lt_two written.several)
  have whole := length_commaed written.set (last + 1)
  rw [commaed_succ, if_pos written.active] at whole
  refine ⟨_, written.msgtagToStr_eq, ?_⟩
  unfold tagsWidth
  simp only [length_append, length_singleton] at whole ⊢
  omega

/-! ### The loop -/

namespace TagParser

variable {p : TagParser}

theorem run_cons {c : Char} {rest : Text} {q : TagParser} (room : p.tags.length < multitagMax)
    (read : p.read c = some q) : run (c :: rest) p = run rest q := by
  rw [run, if_pos room, read, bind_some]

theorem le_ofDigitChars (digits : Text) (init : Nat) : init ≤ Nat.ofDigitChars 10 digits init := by
  induction digits generalizing init with
  | nil => exact Nat.le_refl init
  | cons c digits ih =>
    rw [Nat.ofDigitChars_cons]
    exact Nat.le_trans (by omega) (ih _)

theorem read_digit {c : Char} (isDigit : c.isDigit) {val : Nat} (start : p.val = val)
    (small : 10 * val + (c.toNat - '0'.toNat) ≤ 32767) :
    p.read c = some { p with val := (10 * val + (c.toNat - '0'.toNat) : Nat) } := by
  have sign : c ≠ '-' := by
    rintro rfl
    cases isDigit
  have fits : (10 * (val : Int) + (c.toNat - '0'.toNat : Nat)).bmod (2 ^ 16) =
      (10 * val + (c.toNat - '0'.toNat) : Nat) := by
    rw [Int.bmod_eq_of_le (by omega) (by omega)]
    rfl
  rw [read, if_neg sign, if_pos isDigit, start, fits]

theorem run_digits {digits : Text} (all : ∀ c ∈ digits, c.isDigit) (rest : Text)
    (room : p.tags.length < multitagMax) {val : Nat} (start : p.val = val)
    (small : Nat.ofDigitChars 10 digits val ≤ 32767) :
    run (digits ++ rest) p = run rest { p with val := Nat.ofDigitChars 10 digits val } := by
  induction digits generalizing p val with
  | nil => simp [← start]
  | cons c digits ih =>
    have within := Nat.le_trans (le_ofDigitChars digits _) small
    rw [cons_append, run_cons room (read_digit (all c mem_cons_self) start within)]
    exact ih (p := { p with val := (10 * val + (c.toNat - '0'.toNat) : Nat) })
      (fun d on => all d (mem_cons_of_mem c on)) room rfl small

theorem run_number (small : k ≤ 32767) (rest : Text) (room : p.tags.length < multitagMax)
    (start : p.val = 0) : run (Nat.toDigits 10 k ++ rest) p = run rest { p with val := k } := by
  have value : Nat.ofDigitChars 10 (Nat.toDigits 10 k) 0 = k := Nat.ofDigitChars_ten_toDigits
  have zero : p.val = (0 : Nat) := start
  rw [run_digits (fun c on => Nat.isDigit_of_mem_toDigits (by decide) (by decide) on) rest room
    zero (value.trans_le small), value]

/-- The loop after `k` tags of an id. -/
def after (id : MsgId) (k : Nat) : TagParser where
  tags := (range k).map id.tags
  braceOpenTotal := if id.tagactive < k then 1 else 0
  braceCloseTotal := if id.tagactive < k then 1 else 0
  tagactive := if id.tagactive < k then some id.tagactive else none

/-- The loop after the bracket before the tag `k`. -/
def opening (id : MsgId) (k : Nat) : TagParser :=
  { after id k with braceOpenTotal := 1, tagactive := some k }

theorem run_piece (written : id.Written count) (inRange : k < count) (rest : Text) :
    ∃ p, run (id.piece k ++ rest) (after id k) = run rest p ∧ p.next = after id (k + 1) ∧
      p.tags = (after id k).tags := by
  have bound := written.bounded k inRange
  have room : (after id k).tags.length < multitagMax := by
    have := written.room
    simp only [after, length_map, length_range]
    omega
  have tags : (range (k + 1)).map id.tags = (range k).map id.tags ++ [id.tags k] := by
    rw [range_succ, map_append]
    rfl
  unfold piece
  split
  · -- `-` alone
    rename_i unset
    have other : id.tagactive ≠ k := by
      have := written.set
      rintro rfl
      omega
    have same : id.tagactive < k + 1 ↔ id.tagactive < k := by omega
    refine ⟨{ after id k with sign := -1 }, run_cons room rfl, ?_, rfl⟩
    simp [next, after, tags, unset, same]
  · rename_i isSet
    obtain ⟨val, is⟩ := Int.eq_ofNat_of_zero_le (show 0 ≤ id.tags k by omega)
    have toNat : (id.tags k).toNat = val := by omega
    have small : val ≤ 32767 := by omega
    have fits : (val : Int).bmod 65536 = val := Int.bmod_eq_of_le (by omega) (by omega)
    rw [toNat]
    split
    · rename_i other
      have same : id.tagactive < k + 1 ↔ id.tagactive < k := by omega
      refine ⟨_, run_number small rest room rfl, ?_, rfl⟩
      simp [next, after, tags, same, is, fits]
    · -- the active one, in its brackets
      rename_i active
      have active : id.tagactive = k := not_not.mp active
      refine ⟨{ after id (k + 1) with tags := (after id k).tags, val := val }, ?_, ?_, rfl⟩
      · have opened : (after id k).read '[' = some (opening id k) := by
          simp [read, after, opening, active]
        have closed : { opening id k with val := (val : Int) }.read ']' =
            some { after id (k + 1) with tags := (after id k).tags, val := val } := by
          simp [read, after, opening, active]
        rw [append_assoc, cons_append, run_cons room opened,
          run_number (p := opening id k) small _ room rfl]
        exact run_cons (p := { opening id k with val := (val : Int) }) room closed
      · simp [next, after, tags, is, fits]

theorem run_commaed (written : id.Written count) (inRange : k ≤ count) (rest : Text) :
    run (id.commaed k ++ rest) (after id 0) = run rest (after id k) := by
  induction k generalizing rest with
  | zero => rfl
  | succ k ih =>
    obtain ⟨p, piece, next, tags⟩ := run_piece written inRange (',' :: rest)
    have room : p.tags.length < multitagMax := by
      have := written.room
      simp only [tags, after, length_map, length_range]
      omega
    have comma : p.read ',' = some (after id (k + 1)) := by simp [read, next]
    rw [commaed_succ, append_assoc, append_assoc, ih (by omega), singleton_append,
      piece, run_cons room comma]

theorem run_msgtag {last : Nat} (written : id.Written (last + 1)) :
    run (id.commaed last ++ id.piece last) {} = some (after id (last + 1)) := by
  obtain ⟨p, piece, next, tags⟩ := run_piece written (Nat.lt_succ_self last) []
  have room : p.tags.length < multitagMax := by
    have := written.room
    simp only [tags, after, length_map, length_range]
    omega
  rw [append_nil] at piece
  have begun := run_commaed written (Nat.le_succ last) (id.piece last)
  rw [piece, run, if_pos room, next] at begun
  simpa [after] using begun

end TagParser

theorem Written.parseMsgTag (written : id.Written count) :
    ∃ text, id.msgtagToStr = some text ∧ text.length = tagsWidth count id.tags ∧
      ∀ mid : MsgId, ∃ id', MsgId.parseMsgTag (some text) count mid = some id' ∧
        id'.time = mid.time ∧ id'.tagcount = count ∧ id'.tagactive = id.tagactive ∧
        ∀ i < count, id'.tags i = id.tags i := by
  obtain ⟨text, isText, width⟩ := written.length_msgtagToStr
  refine ⟨text, isText, width, fun mid => ?_⟩
  obtain ⟨last, rfl⟩ := Nat.exists_eq_add_one.mpr (Nat.lt_of_lt_of_le Nat.zero_lt_two written.several)
  obtain rfl := some.inj (isText.symm.trans written.msgtagToStr_eq)
  have tags : (TagParser.after id (last + 1)).tags = (range (last + 1)).map id.tags := rfl
  have active : (TagParser.after id (last + 1)).tagactive = some id.tagactive :=
    if_pos written.active
  have read := tags_setTags { mid with tagactive := id.tagactive, tagcount := last + 1 }
    fun i => ((range (last + 1)).map id.tags).getD i 0
  refine ⟨{ mid with tagactive := id.tagactive, tagcount := last + 1 }.setTags (last + 1)
    fun i => ((range (last + 1)).map id.tags).getD i 0, ?_, by simp, by simp, by simp,
    fun i inRange => ?_⟩
  · simp [MsgId.parseMsgTag, TagParser.run_msgtag written, active, tags]
  · rw [read]
    simp [inRange]

theorem parseMsgTag_number {tag : Nat} (small : tag ≤ 32767) (mid : MsgId) :
    MsgId.parseMsgTag (some (Nat.toDigits 10 tag)) 1 mid =
      some (({ mid with tagactive := 0, tagcount := 1 }).setTags 1
        fun i => [(tag : Int)].getD i 0) := by
  have fits : (tag : Int).bmod 65536 = tag := Int.bmod_eq_of_le (by omega) (by omega)
  have loop : TagParser.run (Nat.toDigits 10 tag) {} = some { tags := [(tag : Int)] } := by
    have digits := TagParser.run_number small [] (p := {}) (by decide) rfl
    rw [append_nil] at digits
    rw [digits]
    simp [TagParser.run, TagParser.next, fits]
  simp [MsgId.parseMsgTag, loop]

theorem parseCompoundMsgid_digits {time : Nat} (representable : time < 2 ^ 63) (mid : MsgId)
    (tags : Text) (count : Nat) {id' : MsgId}
    (parsed : MsgId.parseMsgTag (some tags) count { mid with time := time } = some id') :
    MsgId.parseCompoundMsgid mid (Nat.toDigits 10 time ++ ':' :: tags) count = .ok id' := by
  have digits : ∀ c ∈ Nat.toDigits 10 time, c.isDigit := fun c on =>
    Nat.isDigit_of_mem_toDigits (by decide) (by decide) on
  have noColon : ∀ c ∈ Nat.toDigits 10 time, c ≠ ':' := by
    rintro c on rfl
    cases digits _ on
  have rest : (Nat.toDigits 10 time ++ ':' :: tags).dropWhile (· ≠ ':') = ':' :: tags := by
    rw [dropWhile_append_of_pos (by simpa using noColon)]
    rfl
  have front : (Nat.toDigits 10 time ++ ':' :: tags).takeWhile (· ≠ ':') =
      Nat.toDigits 10 time := by
    rw [takeWhile_append_of_pos (by simpa using noColon)]
    simp
  simp only [MsgId.parseCompoundMsgid, rest, front, ngxAtoi_toDigits representable, parsed]

/-- An id of a message in `n` channels, or in one. -/
structure Complete (n : Nat) (id : MsgId) : Prop where
  least : 1 ≤ n
  room : n ≤ multitagMax
  counts : id.tagcount = n
  bounded : ∀ i < n, -1 ≤ id.tags i ∧ id.tags i ≤ 32767
  active : id.tagactive < n
  set : id.tags id.tagactive ≠ -1

/-- How much the list of tags takes; a single one has no brackets. -/
def tagListWidth (n : Nat) (tags : Nat → Int) : Nat :=
  if n = 1 then digitCount (tags 0).toNat else tagsWidth n tags

theorem Complete.parseMsgTag (complete : id.Complete n) :
    ∃ text, id.msgtagToStr = some text ∧ text.length = tagListWidth n id.tags ∧
      ∀ mid : MsgId, ∃ id', MsgId.parseMsgTag (some text) n mid = some id' ∧
        id'.time = mid.time ∧ id'.tagcount = n ∧ id'.tagactive = id.tagactive ∧
        ∀ i < n, id'.tags i = id.tags i := by
  obtain ⟨least, room, counts, bounded, active, set⟩ := complete
  have isSet : 0 ≤ id.tags id.tagactive := by
    have bound := bounded _ active
    omega
  unfold tagListWidth
  by_cases single : n = 1
  · subst single
    have first : id.tagactive = 0 := by omega
    rw [first] at isSet
    have small : (id.tags 0).toNat ≤ 32767 := by
      have bound := bounded 0 Nat.one_pos
      omega
    refine ⟨Nat.toDigits 10 (id.tags 0).toNat, ?_, rfl, fun mid =>
      ⟨_, parseMsgTag_number small mid, ?_, ?_, ?_, ?_⟩⟩
    · rw [msgtagToStr, if_pos counts, decimal_of_nonneg isSet]
    · rw [time_setTags]
    · rw [tagcount_setTags]
    · rw [tagactive_setTags, first]
    · intro i inRange
      obtain rfl : i = 0 := by omega
      have read := tags_setTags { mid with tagactive := 0, tagcount := 1 }
        fun i => [((id.tags 0).toNat : Int)].getD i 0
      exact (congrFun read 0).trans (Int.toNat_of_nonneg isSet)
  · rw [if_neg single]
    have written : id.Written n := ⟨by omega, room, counts, bounded, active, isSet⟩
    exact written.parseMsgTag

theorem Complete.parseCompoundMsgid (complete : id.Complete n) (positive : 0 ≤ id.time)
    (representable : id.time < 2 ^ 63) :
    ∃ text, id.msgidToStr = some text ∧
      text.length = digitCount id.time.toNat + 1 + tagListWidth n id.tags ∧
      ∀ mid : MsgId, ∃ id', MsgId.parseCompoundMsgid mid text n = .ok id' ∧
        id'.time = id.time ∧ id'.tagcount = n ∧ id'.tagactive = id.tagactive ∧
        ∀ i < n, id'.tags i = id.tags i := by
  obtain ⟨tags, isTags, width, reads⟩ := complete.parseMsgTag
  refine ⟨Nat.toDigits 10 id.time.toNat ++ ':' :: tags, ?_, ?_, fun mid => ?_⟩
  · rw [msgidToStr, isTags, map_some, decimal_of_nonneg positive]
  · simp only [length_append, length_cons, width, digitCount]
    omega
  · obtain ⟨id', parsed, time, same⟩ := reads { mid with time := id.time.toNat }
    refine ⟨id', parseCompoundMsgid_digits (by omega) mid tags n parsed, ?_, same⟩
    rw [time]
    exact Int.toNat_of_nonneg positive

theorem Written.parseCompoundMsgid (written : id.Written count) (positive : 0 ≤ id.time)
    (representable : id.time < 2 ^ 63) :
    ∃ text, id.msgidToStr = some text ∧
      text.length = digitCount id.time.toNat + 1 + tagsWidth count id.tags ∧
      ∀ mid : MsgId, ∃ id', MsgId.parseCompoundMsgid mid text count = .ok id' ∧
        id'.time = id.time ∧ id'.tagcount = count ∧ id'.tagactive = id.tagactive ∧
        ∀ i < count, id'.tags i = id.tags i := by
  obtain ⟨several, room, counts, bounded, active, set⟩ := written
  have complete : id.Complete count := ⟨by omega, room, counts, bounded, active, by omega⟩
  have width : tagListWidth count id.tags = tagsWidth count id.tags := if_neg (by omega)
  rw [← width]
  exact complete.parseCompoundMsgid positive representable

/-- What `msgid_to_str` writes is read back by `nchan_parse_compound_msgid`, for one tag as for
    several.  The time is a `time_t`. -/
theorem msgid_text_round_trip (id mid : MsgId) (n : Nat) (time : 1 ≤ id.time)
    (representable : id.time < 2 ^ 63) (least : 1 ≤ n) (room : n ≤ multitagMax)
    (counts : id.tagcount = n) (bounded : ∀ i < n, -1 ≤ id.tags i ∧ id.tags i ≤ 32767)
    (active : id.tagactive < n) (set : id.tags id.tagactive ≠ -1) :
    ∃ text id', id.msgidToStr = some text ∧ mid.parseCompoundMsgid text n = .ok id' ∧
      id'.time = id.time ∧ id'.tagcount = n ∧ id'.tagactive = id.tagactive ∧
      ∀ i < n, id'.tags i = id.tags i := by
  have complete : id.Complete n := ⟨least, room, counts, bounded, active, set⟩
  obtain ⟨text, isText, -, reads⟩ := complete.parseCompoundMsgid (by omega) representable
  obtain ⟨id', parsed, same⟩ := reads mid
  exact ⟨text, id', isText, parsed, same⟩

/-- Three channels, of which the second has had no message. -/
theorem msgid_text_round_trip_three :
    ∃ text id', (MsgId.mk 1500000000 (fun i => if i = 1 then -1 else 7) (fun _ => 0) 2 3).msgidToStr =
        some text ∧ oldest.parseCompoundMsgid text 3 = .ok id' ∧ id'.tagactive = 2 := by
  obtain ⟨text, id', isText, parsed, _, _, active, _⟩ := msgid_text_round_trip
    ⟨1500000000, fun i => if i = 1 then -1 else 7, fun _ => 0, 2, 3⟩ oldest 3 (by decide) (by decide)
    (by decide) (by decide) rfl (by decide) (by decide) (by decide)
  exact ⟨text, id', isText, parsed, active⟩

/-! ## How long the text can be -/

/-- An id as its C types can hold it. -/
structure Representable (id : MsgId) : Prop where
  time : -2 ^ 63 ≤ id.time ∧ id.time < 2 ^ 63
  count : id.tagcount ≤ multitagMax
  tags : ∀ i, -2 ^ 15 ≤ id.tags i ∧ id.tags i < 2 ^ 15

theorem length_decimal_le {k : Int} {width : Nat} (some : 0 < width)
    (small : k.natAbs < 10 ^ width) : (decimal k).length ≤ width + 1 := by
  unfold decimal
  split
  · rw [length_cons]
    exact Nat.succ_le_succ ((Nat.length_toDigits_le_iff (by decide) some).mpr small)
  · have value : k.toNat = k.natAbs := by omega
    rw [value]
    exact Nat.le_succ_of_le ((Nat.length_toDigits_le_iff (by decide) some).mpr small)

variable {text : Text}

section

variable (rep : id.Representable)

include rep

theorem Representable.length_tagToStr (i : Nat) :
    Gives (id.tagToStr i) (·.length ≤ 9) := by
  have tag := rep.tags i
  have digits : (decimal (id.tags i)).length ≤ 6 := length_decimal_le (by decide) (by omega)
  refine .assert fun _ => .ite (fun _ => .of_some ?_) fun _ => .assert fun _ => .of_some (by decide)
  split <;> simp <;> omega

theorem Representable.length_msgtagToStr_le :
    Gives id.msgtagToStr (·.length ≤ 9 * multitagMax) := by
  have count := rep.count
  refine .ite (fun _ => .of_some ?_) fun _ => .map fun tags found => ?_
  · have tag := rep.tags 0
    have digits : (decimal (id.tags 0)).length ≤ 6 := length_decimal_le (by decide) (by omega)
    omega
  · obtain ⟨listed, short⟩ := Gives.mapM rep.length_tagToStr _ tags found
    have whole := sum_le_card_nsmul (tags.map length) 9 (by simpa using short)
    rw [length_map, listed, length_range, ← length_flatten, nsmul_eq_mul, Nat.cast_id] at whole
    rw [length_dropLast]
    omega

theorem Representable.length_decimal_time :
    (decimal id.time).length ≤ 20 := by
  have time := rep.time
  exact length_decimal_le (by decide) (by omega)

theorem Representable.length_msgidToStr_le :
    Gives id.msgidToStr (·.length ≤ 21 + 9 * multitagMax) := by
  refine .map fun tags found => ?_
  have width := rep.length_msgtagToStr_le tags found
  have time := rep.length_decimal_time
  rw [length_append, length_cons]
  omega

end

/-! ## Which characters there are -/

/-- Digits, `,`, `-`, `:`, `[` and `]` are all from here. -/
def Printed (text : Text) : Prop := ∀ c ∈ text, 44 ≤ c.toNat ∧ c.toNat < 128

theorem Printed.append {front back : Text} (first : Printed front) (second : Printed back) :
    Printed (front ++ back) :=
  forall_mem_append.mpr ⟨first, second⟩

theorem printed_toDigits (k : Nat) : Printed (Nat.toDigits 10 k) := by
  intro c on
  have digit := Nat.isDigit_of_mem_toDigits (by decide) (by decide) on
  simp only [Char.isDigit, Bool.and_eq_true, decide_eq_true_eq] at digit
  have low : '0'.toNat ≤ c.toNat := digit.1
  have high : c.toNat ≤ '9'.toNat := digit.2
  exact ⟨Nat.le_trans (by decide) low, Nat.lt_of_le_of_lt high (by decide)⟩

theorem printed_decimal (k : Int) : Printed (decimal k) := by
  unfold decimal
  split
  · exact forall_mem_cons.mpr ⟨by decide, printed_toDigits _⟩
  · exact printed_toDigits _

theorem printed_tagToStr (i : Nat) : Gives (id.tagToStr i) Printed := by
  have number := printed_decimal (id.tags i)
  refine .assert fun _ => .ite (fun _ => .of_some ?_) fun _ => .assert fun _ =>
    .of_some (by simp [Printed])
  split
  · exact number.append (by simp [Printed])
  · exact forall_mem_cons.mpr ⟨by decide, number.append (by simp [Printed])⟩

theorem printed_msgtagToStr : Gives id.msgtagToStr Printed := by
  refine .ite (fun _ => .of_some (printed_decimal _)) fun _ => .map fun tags found c on => ?_
  obtain ⟨text, listed, on⟩ := mem_flatten.mp ((dropLast_sublist _).subset on)
  exact (Gives.mapM printed_tagToStr _ tags found).2 text listed c on

theorem printed_msgidToStr : Gives id.msgidToStr Printed :=
  .map fun tags found => (printed_decimal _).append
    (forall_mem_cons.mpr ⟨by decide, printed_msgtagToStr tags found⟩)

end MsgId

end Nchan
