import Nchan.MsgIdText

/-! # Ids from clients

The id in a request need not be one that was written for a response.  The loop over the tags skips
what it does not know and computes in 16 bits, and it is `nchan_msgid_tagcount_match` alone that
looks at the result before it is used.  What the loop makes of a text can be said tag by tag; with
that the texts are found that are accepted and cannot be printed again.
-/

namespace Nchan

open List Option

variable {tags : List Text} {active n : Nat}

namespace MsgId

/-! ## The loop, for any text -/

def brackets (text : Text) : Text := text.filter fun c => c = '[' || c = ']'

def Bracketed (text : Text) : Prop := brackets text <+: ['[', ']']

instance (text : Text) : Decidable (Bracketed text) := inferInstanceAs (Decidable (_ <+: _))

theorem brackets_concat (text : Text) (c : Char) :
    brackets (text ++ [c]) = brackets text ++ if c = '[' ∨ c = ']' then [c] else [] := by
  rw [brackets, filter_append, brackets]
  split <;> simp_all

theorem bracketed_iff {text : Text} :
    Bracketed text ↔ brackets text = [] ∨ brackets text = ['['] ∨ brackets text = ['[', ']'] := by
  rw [Bracketed, prefix_cons_iff]
  simp only [prefix_cons_iff, prefix_nil]
  grind

theorem Bracketed.of_append {front back : Text} (whole : Bracketed (front ++ back)) :
    Bracketed front := by
  rw [Bracketed, brackets, filter_append] at whole
  exact (prefix_append ..).trans whole

def digitsOf (tag : Text) : Nat := Nat.ofDigitChars 10 (tag.filter Char.isDigit) 0

def tagOf (sign val : Int) : Int :=
  if val = 0 ∧ sign = -1 then -1 else (val * sign).bmod (2 ^ 16)

def stored (tag : Text) : Int :=
  tagOf (if '-' ∈ tag then -1 else 1) ((digitsOf tag : Int).bmod (2 ^ 16))

def marked (tags : List Text) : Option Nat := tags.findIdx? fun tag => '[' ∈ tag

theorem marked_nil (tags : List Text) : marked (tags ++ [[]]) = marked tags := by
  rw [marked, findIdx?_append]
  exact or_none

namespace TagParser

/-- The loop behind some tags, in one of which `tag` was read. -/
def reached (tags : List Text) (tag : Text) : TagParser where
  tags := tags.map stored
  sign := if '-' ∈ tag then -1 else 1
  val := (digitsOf tag : Int).bmod (2 ^ 16)
  braceOpenTotal := (brackets (tags.flatten ++ tag)).count '['
  braceCloseTotal := (brackets (tags.flatten ++ tag)).count ']'
  tagactive := marked (tags ++ [tag])

variable {tags : List Text} {tag : Text} {c : Char}

theorem next_eq (p : TagParser) :
    p.next = { p with tags := p.tags ++ [tagOf p.sign p.val], sign := 1, val := 0 } := rfl

theorem reached_next : (reached tags tag).next = reached (tags ++ [tag]) [] := by
  have text : (tags ++ [tag]).flatten ++ [] = tags.flatten ++ tag := by simp
  have last : (tags ++ [tag]).map stored = tags.map stored ++ [stored tag] := map_append
  have none : digitsOf [] = 0 := rfl
  rw [next_eq, reached, reached, text, marked_nil, last, none, if_neg not_mem_nil,
    Int.natCast_zero, Int.zero_bmod, stored]

theorem digitsOf_concat (digit : c.isDigit) :
    (digitsOf (tag ++ [c]) : Int).bmod (2 ^ 16) =
      (10 * (digitsOf tag : Int).bmod (2 ^ 16) + (c.toNat - '0'.toNat : Nat)).bmod (2 ^ 16) := by
  have value : digitsOf (tag ++ [c]) = 10 * digitsOf tag + (c.toNat - '0'.toNat) := by
    simp [digitsOf, digit, Nat.ofDigitChars]
  rw [value, ← Int.bmod_add_bmod, Int.mul_bmod_bmod, Int.bmod_add_bmod]
  rfl

theorem marked_opening (none : brackets (tags.flatten ++ tag) = []) :
    marked (tags ++ [tag ++ ['[']]) = some tags.length := by
  have absent : ∀ t ∈ tags, '[' ∉ t := by
    intro t listed inside
    have found : '[' ∈ brackets (tags.flatten ++ tag) :=
      mem_filter.mpr ⟨mem_append_left _ (mem_flatten_of_mem listed inside), rfl⟩
    rw [none] at found
    cases found
  have before : tags.findIdx? (fun tag => decide ('[' ∈ tag)) = Option.none := by
    simpa using absent
  rw [marked, findIdx?_append, before]
  simp

theorem marked_concat (other : c ≠ '[') :
    marked (tags ++ [tag ++ [c]]) = marked (tags ++ [tag]) := by
  simp [marked, Ne.symm other]

theorem digitsOf_concat_other (other : ¬c.isDigit) : digitsOf (tag ++ [c]) = digitsOf tag := by
  simp [digitsOf, other]

theorem dash_mem_concat (other : c ≠ '-') : ('-' ∈ tag ++ [c]) = ('-' ∈ tag) := by
  simp [Ne.symm other]

theorem brackets_bracket (bracket : c = '[' ∨ c = ']') :
    brackets (tags.flatten ++ (tag ++ [c])) = brackets (tags.flatten ++ tag) ++ [c] := by
  rw [← append_assoc, brackets_concat, if_pos bracket]

theorem bracketed_concat {bs : Text} (bracket : c = '[' ∨ c = ']')
    (is : brackets (tags.flatten ++ tag) = bs) :
    Bracketed (tags.flatten ++ (tag ++ [c])) ↔ bs ++ [c] <+: ['[', ']'] := by
  rw [Bracketed, brackets_bracket bracket, is]

theorem read_opening (allowed : Bracketed (tags.flatten ++ tag)) :
    (reached tags tag).read '[' =
      if Bracketed (tags.flatten ++ (tag ++ ['['])) then some (reached tags (tag ++ ['[']))
      else none := by
  have total : (reached tags tag).braceOpenTotal =
      (brackets (tags.flatten ++ tag)).count '[' := rfl
  rw [read, if_neg (by decide), if_neg (by decide), if_pos rfl, total]
  rcases bracketed_iff.mp allowed with is | is | is <;>
    simp only [bracketed_concat (.inl rfl) is]
  · rw [is, if_neg (by decide), if_pos (by decide), reached, reached, brackets_bracket (.inl rfl), is,
      marked_opening is, digitsOf_concat_other (by decide)]
    simp
  -- there was one before
  · rw [is, if_pos (by decide), if_neg (by decide)]
  · rw [is, if_pos (by decide), if_neg (by decide)]

theorem read_closing (allowed : Bracketed (tags.flatten ++ tag)) :
    (reached tags tag).read ']' =
      if Bracketed (tags.flatten ++ (tag ++ [']'])) then some (reached tags (tag ++ [']']))
      else none := by
  have opened : (reached tags tag).braceOpenTotal =
      (brackets (tags.flatten ++ tag)).count '[' := rfl
  have closed : (reached tags tag).braceCloseTotal =
      (brackets (tags.flatten ++ tag)).count ']' := rfl
  rw [read, if_neg (by decide), if_neg (by decide), if_neg (by decide), if_pos rfl, opened, closed]
  rcases bracketed_iff.mp allowed with is | is | is <;>
    simp only [bracketed_concat (.inr rfl) is]
  · rw [is, if_pos (by decide), if_neg (by decide)]
  · rw [is, if_neg (by decide), if_pos (by decide), reached, reached, brackets_bracket (.inr rfl), is,
      marked_concat (by decide), digitsOf_concat_other (by decide)]
    simp
  · rw [is, if_pos (by decide), if_neg (by decide)]

theorem read_other (opening : c ≠ '[') (closing : c ≠ ']') (inside : c ≠ ',')
    (allowed : Bracketed (tags.flatten ++ tag)) :
    Bracketed (tags.flatten ++ (tag ++ [c])) ∧
      (reached tags tag).read c = some (reached tags (tag ++ [c])) := by
  have text : brackets (tags.flatten ++ (tag ++ [c])) = brackets (tags.flatten ++ tag) := by
    rw [← append_assoc, brackets_concat, if_neg (not_or.mpr ⟨opening, closing⟩),
      append_nil]
  refine ⟨by rw [Bracketed, text]; exact allowed, ?_⟩
  have active : marked (tags ++ [tag ++ [c]]) = marked (tags ++ [tag]) := marked_concat opening
  rw [read]
  by_cases dash : c = '-'
  · subst dash
    rw [if_pos rfl, reached, reached, text, active, digitsOf_concat_other (by decide)]
    simp
  · rw [if_neg dash]
    by_cases digit : c.isDigit
    · rw [if_pos digit]
      simp only [reached, text, active, dash_mem_concat dash, digitsOf_concat digit]
    · rw [if_neg digit, if_neg opening, if_neg closing, if_neg inside]
      simp [reached, text, active, dash_mem_concat dash, digitsOf_concat_other digit]

def listed (tags : List Text) (tag text : Text) : List Text :=
  (tags ++ (text.splitOn ',').modifyHead (tag ++ ·)).take multitagMax

theorem listed_nil (room : tags.length < multitagMax) : listed tags tag [] = tags ++ [tag] := by
  rw [listed, splitOn_nil, modifyHead_cons, append_nil, take_of_length_le]
  rw [length_append]
  exact room

theorem listed_comma (rest : Text) :
    listed tags tag (',' :: rest) = listed (tags ++ [tag]) [] rest := by
  have same : (rest.splitOn ',').modifyHead ([] ++ ·) = rest.splitOn ',' := by
    cases rest.splitOn ',' <;> rfl
  rw [listed, listed, same]
  simp [splitOn_cons_eq_if_modifyHead]

theorem listed_cons (inside : c ≠ ',') (rest : Text) :
    listed tags tag (c :: rest) = listed tags (tag ++ [c]) rest := by
  rw [listed, listed]
  simp [splitOn_cons_eq_if_modifyHead, inside, Function.comp_def]

theorem listed_full (full : tags.length = multitagMax) (text : Text) :
    listed tags [] text = tags := by
  rw [listed, ← full, take_left]

theorem listed_begins (room : tags.length < multitagMax) (text : Text) :
    ∃ more, (listed tags tag text).flatten = tags.flatten ++ tag ++ more := by
  obtain ⟨first, others, is⟩ := exists_cons_of_ne_nil (splitOn_ne_nil ',' text)
  obtain ⟨left, more⟩ := Nat.exists_eq_add_of_lt room
  refine ⟨first ++ (others.take left).flatten, ?_⟩
  rw [listed, is, modifyHead_cons, take_append, take_of_length_le room.le, more,
    Nat.add_assoc, Nat.add_sub_cancel_left, take_succ_cons]
  simp

theorem run_full {p : TagParser} (full : ¬p.tags.length < multitagMax) (text : Text) :
    run text p = some p := by
  cases text <;> rw [run, if_neg full]

/-- The whole loop: what is read depends on the brackets, and is made tag by tag. -/
theorem run_reached (text : Text) (room : tags.length < multitagMax)
    (allowed : Bracketed (tags.flatten ++ tag)) :
    run text (reached tags tag) =
      if Bracketed (listed tags tag text).flatten then some (reached (listed tags tag text) [])
      else none := by
  have len (tags : List Text) (tag : Text) : (reached tags tag).tags.length = tags.length :=
    length_map _
  induction text generalizing tags tag with
  | nil =>
    have same : (tags ++ [tag]).flatten = tags.flatten ++ tag := by simp
    rw [listed_nil room, same, if_pos allowed, run, len, if_pos room, reached_next]
  | cons c rest ih =>
    rw [run, len, if_pos room]
    by_cases comma : c = ','
    · subst comma
      have ended : (reached tags tag).read ',' = some (reached (tags ++ [tag]) []) :=
        congrArg some reached_next
      have same : (tags ++ [tag]).flatten ++ [] = tags.flatten ++ tag := by simp
      rw [ended, bind_some, listed_comma]
      by_cases left : (tags ++ [tag]).length < multitagMax
      · exact ih left (same.symm ▸ allowed)
      · have full : (tags ++ [tag]).length = multitagMax :=
          Nat.le_antisymm (by rw [length_append]; exact room) (Nat.not_lt.mp left)
        rw [run_full (by rwa [len]), listed_full full, ← append_nil (tags ++ [tag]).flatten,
          same, if_pos allowed]
    · rw [listed_cons comma]
      have read : (reached tags tag).read c =
          if Bracketed (tags.flatten ++ (tag ++ [c])) then some (reached tags (tag ++ [c]))
          else none := by
        by_cases opening : c = '['
        · exact opening ▸ read_opening allowed
        by_cases closing : c = ']'
        · exact closing ▸ read_closing allowed
        obtain ⟨still, read⟩ := read_other opening closing comma allowed
        rw [if_pos still, read]
      rw [read]
      by_cases valid : Bracketed (tags.flatten ++ (tag ++ [c]))
      · rw [if_pos valid, bind_some, ih room valid]
      · have invalid : ¬Bracketed (listed tags (tag ++ [c]) rest).flatten := by
          obtain ⟨more, begins⟩ := listed_begins room rest
          rw [begins]
          exact fun whole => valid whole.of_append
        rw [if_neg valid, if_neg invalid, bind_none]

end TagParser

def tagTexts (text : Text) : List Text := (text.splitOn ',').take multitagMax

def activeTag (tags : List Text) : Option Nat :=
  match marked tags with
  | some active => some active
  | none => if tags.length = 1 then some 0 else none

theorem activeTag_lt (is : activeTag tags = some active) : active < tags.length := by
  unfold activeTag at is
  split at is
  · rename_i found
    cases is
    exact (findIdx?_eq_some_iff_findIdx_eq.mp found).1
  · obtain ⟨single, is⟩ := ite_none_right_eq_some.mp is
    cases is
    exact single.ge

/-- Tags, and -1 for what is missing of `n`. -/
def filled (n : Nat) (tags : List Text) : List Int :=
  tags.map stored ++ replicate (n - tags.length) (-1)

def made (n : Nat) (mid : MsgId) (tags : List Text) (active : Nat) : MsgId :=
  { mid with tagactive := active, tagcount := (filled n tags).length }.setTags
    (filled n tags).length fun i => (filled n tags).getD i 0

section Made

variable (n : Nat) (mid : MsgId) (tags : List Text) (active : Nat)

@[simp] theorem time_made : (made n mid tags active).time = mid.time := time_setTags ..

@[simp] theorem tagactive_made : (made n mid tags active).tagactive = active := tagactive_setTags ..

@[simp] theorem tagcount_made : (made n mid tags active).tagcount = max tags.length n := by
  have len : (filled n tags).length = max tags.length n := by
    rw [filled, length_append, length_map, length_replicate]
    omega
  rw [made, tagcount_setTags, len]

theorem tags_made (i : Nat) : (made n mid tags active).tags i = (filled n tags).getD i 0 :=
  congrFun (tags_setTags { mid with tagactive := active, tagcount := (filled n tags).length } _) i

variable {n tags} {i : Nat}

theorem tags_made_of_lt (read : i < tags.length) :
    (made n mid tags active).tags i = stored tags[i] := by
  rw [tags_made, filled, getD_eq_getElem?_getD,
    List.getElem?_append_left (by rwa [length_map]), List.getElem?_map,
    List.getElem?_eq_getElem read, map_some, getD_some]

theorem tags_made_of_le (missing : tags.length ≤ i) (inRange : i < n) :
    (made n mid tags active).tags i = -1 := by
  rw [tags_made, filled, getD_eq_getElem?_getD,
    List.getElem?_append_right (by rwa [length_map]), length_map,
    List.getElem?_replicate_of_lt (by omega), getD_some]

end Made

theorem parseMsgTag_some (text : Text) (n : Nat) (mid : MsgId) :
    parseMsgTag (some text) n mid =
      if Bracketed (tagTexts text).flatten then
        (activeTag (tagTexts text)).map (made n mid (tagTexts text))
      else none := by
  have start : TagParser.reached [] [] = {} := by
    have none : digitsOf [] = 0 := rfl
    rfl
  have texts : TagParser.listed [] [] text = tagTexts text := by
    have same : (text.splitOn ',').modifyHead ([] ++ ·) = text.splitOn ',' := by
      cases text.splitOn ',' <;> rfl
    rw [TagParser.listed, same, nil_append, tagTexts]
  have none : Bracketed (([] : List Text).flatten ++ []) := by decide
  have room : ([] : List Text).length < multitagMax := by decide
  have loop := TagParser.run_reached text room none
  rw [start, texts] at loop
  have active : (TagParser.reached (tagTexts text) []).tagactive = marked (tagTexts text) :=
    marked_nil _
  have tags : (TagParser.reached (tagTexts text) []).tags = (tagTexts text).map stored := rfl
  simp only [parseMsgTag, loop]
  split
  · simp only [bind_some, active, tags, length_map, activeTag]
    cases marked (tagTexts text) <;> rfl
  · rfl

end MsgId

/-! ## What a request says -/

/-- The id in a request: its time and the text of its tags, or none, or none that can be read. -/
inductive Given where
  | nothing
  | invalid
  | written (time : Int) (text : Option Text)

namespace Given

open MsgId

def compound (str : Text) : Given :=
  match str.dropWhile (· ≠ ':') with
  | [] => .nothing
  | _ :: tags =>
    match ngxAtoi (str.takeWhile (· ≠ ':')) with
    | none => .invalid
    | some time => .written time (some tags)

def first : List Text → Given
  | [] => .nothing
  | str :: rest =>
    if str.length > IdRequest.lastMessageIdMax ∨ str = [] then first rest
    else
      match compound str with
      | .nothing => first rest
      | found => found

/-- In the headers, or else in the values of `last_message_id`. -/
def ofRequest (cf : IdConf) (r : IdRequest) : Given :=
  match cf.msgInEtagOnly, r.ifModifiedSince with
  | false, some time => if time ≤ 0 then .nothing else .written time r.ifNoneMatch
  | _, _ =>
    match r.ifNoneMatch with
    | some etag => compound etag
    | none => first r.lastMessageId

def parsed (count : Nat) (id : MsgId) : Given → Parsed
  | .nothing => .declined
  | .invalid => .error
  | .written time text =>
    match parseMsgTag text count { id with time := time } with
    | some id => .ok id
    | none => .error

theorem parsed_compound (count : Nat) (id : MsgId) (str : Text) :
    parseCompoundMsgid id str count = (compound str).parsed count id := by
  unfold parseCompoundMsgid compound
  cases str.dropWhile (· ≠ ':') with
  | nil => rfl
  | cons c tags => cases ngxAtoi (str.takeWhile (· ≠ ':')) <;> rfl

theorem parsed_first (count : Nat) (id : MsgId) (strs : List Text) :
    IdRequest.alternative count id strs = (first strs).parsed count id := by
  induction strs with
  | nil => rfl
  | cons str rest ih =>
    rw [IdRequest.alternative, first]
    split
    · exact ih
    · rw [parsed_compound, ih]
      cases compound str with
      | nothing => rfl
      | invalid => rfl
      | written time text =>
        rw [parsed]
        cases parseMsgTag text count { id with time := time } <;> rfl

def answer (cf : IdConf) : Parsed → Option MsgId
  | .ok id => some id
  | .error => none
  | .declined => some (IdRequest.setDefaultId cf)

theorem getMsgId_eq (cf : IdConf) (count : Nat) (id : MsgId) (r : IdRequest) :
    r.getMsgId cf count id = answer cf ((ofRequest cf r).parsed count id) := by
  have inText : (match r.ifNoneMatch with
      | some etag => parseCompoundMsgid id etag count
      | none => IdRequest.alternative count id r.lastMessageId) =
      (match r.ifNoneMatch with
      | some etag => compound etag
      | none => first r.lastMessageId).parsed count id := by
    cases r.ifNoneMatch with
    | none => exact parsed_first ..
    | some etag => exact parsed_compound ..
  refine congrArg (answer cf) ?_
  unfold ofRequest
  cases cf.msgInEtagOnly with
  | true => exact inText
  | false =>
    cases r.ifModifiedSince with
    | none => exact inText
    | some time =>
      by_cases early : time ≤ 0
      · simp only [early, if_true]
        rfl
      · simp only [early, if_false]
        rfl

end Given

variable {id : MsgId}

namespace MsgId

/-! ## What is accepted -/

/-- `NCHAN_OLDEST_MSGID_TIME`, `NCHAN_NEWEST_MSGID_TIME` and `NCHAN_NTH_MSGID_TIME`. -/
def Reserved (time : Int) : Prop :=
  time = oldestMsgidTime ∨ time = newestMsgidTime ∨ time = nthMsgidTime

instance (time : Int) : Decidable (Reserved time) := inferInstanceAs (Decidable (_ ∨ _))

/-- `nchan_msgid_tagcount_match`. -/
def tagcountMatch (id : MsgId) (count : Nat) : Bool :=
  if Reserved id.time then id.tagcount = 1 ∧ id.tagactive = 0
  else id.tagcount = count ∧ id.tagactive < count

/-- What a client means by a tag. -/
def denoted (tag : Text) : Int :=
  if tag.any Char.isDigit then (if '-' ∈ tag then -1 else 1) * digitsOf tag
  else if '-' ∈ tag then -1
  else 0

/-- A tag that can be told, and is not minus zero. -/
def Clean (tag : Text) : Prop :=
  (-1 ≤ denoted tag ∧ denoted tag ≤ 32767) ∧ ¬('-' ∈ tag ∧ tag.any Char.isDigit ∧ digitsOf tag = 0)

theorem digitsOf_eq_zero {tag : Text} (none : tag.any Char.isDigit = false) :
    digitsOf tag = 0 := by
  have nothing : tag.filter Char.isDigit = [] := by
    simpa using none
  rw [digitsOf, nothing]
  rfl

theorem tagOf_one (val : Int) : tagOf 1 (val.bmod (2 ^ 16)) = val.bmod (2 ^ 16) := by
  rw [tagOf, if_neg (fun both => absurd both.2 (by decide)), Int.mul_one, Int.bmod_bmod]

theorem stored_eq_denoted {tag : Text} :
    (stored tag = denoted tag ∧ -1 ≤ stored tag ∧ stored tag ≤ 32767) ↔ Clean tag := by
  unfold stored Clean denoted
  by_cases negative : '-' ∈ tag
  · simp only [negative, if_true]
    cases digits : tag.any Char.isDigit with
    | false =>
      rw [digitsOf_eq_zero digits]
      simp [tagOf]
    -- a number behind a minus sign is never smaller than -1, and zero is taken for no number
    | true =>
      constructor
      · rintro ⟨same, low, high⟩
        have some : digitsOf tag ≠ 0 := by
          intro zero
          rw [zero] at same
          simp [tagOf] at same
        rw [same] at low
        exact ⟨⟨low, by simp only [if_true]; omega⟩, fun zero => some zero.2.2⟩
      · rintro ⟨⟨low, high⟩, some⟩
        have one : digitsOf tag = 1 := by
          simp only [if_true, true_and] at low some
          omega
        rw [one]
        simp [tagOf]
  · simp only [negative, if_false, tagOf_one]
    have value : (if tag.any Char.isDigit then 1 * (digitsOf tag : Int) else 0) = digitsOf tag := by
      split
      · exact Int.one_mul _
      · rename_i none
        rw [digitsOf_eq_zero (Bool.eq_false_of_not_eq_true none)]
        rfl
    rw [value]
    constructor
    · rintro ⟨same, low, high⟩
      exact ⟨by omega, by simp⟩
    · rintro ⟨⟨low, high⟩, -⟩
      rw [Int.bmod_eq_of_le (by omega) (by omega)]
      exact ⟨rfl, low, high⟩

theorem isSome_mapM {α β : Type} {f : α → Option β} {l : List α} (all : ∀ a ∈ l, (f a).isSome) :
    (l.mapM f).isSome := by
  induction l with
  | nil => rfl
  | cons a l ih =>
    obtain ⟨first, others⟩ := forall_mem_cons.mp all
    obtain ⟨b, is⟩ := isSome_iff_exists.mp first
    obtain ⟨rest, are⟩ := isSome_iff_exists.mp (ih others)
    rw [mapM_cons, is, are]
    rfl

theorem msgtagToStr_isSome (bounded : ∀ i < id.tagcount, -1 ≤ id.tags i)
    (active : id.tags id.tagactive ≠ -1) : id.msgtagToStr.isSome := by
  have tag : ∀ i ∈ range id.tagcount, (id.tagToStr i).isSome := by
    intro i listed
    have bound := bounded i (mem_range.mp listed)
    unfold tagToStr
    rw [if_neg (by omega)]
    split
    · rfl
    · rename_i unset
      rw [if_neg (by rintro rfl; exact unset active)]
      rfl
  unfold msgtagToStr
  split
  · rfl
  · rw [isSome_map]
    exact isSome_mapM tag

/-- An id that can be told to a client again. -/
structure Tellable (id : MsgId) : Prop where
  bounded : ∀ i < id.tagcount, -1 ≤ id.tags i ∧ id.tags i ≤ 32767
  active : id.tags id.tagactive ≠ -1
  tag : id.msgtagToStr.isSome
  whole : id.msgidToStr.isSome

theorem Tellable.of_bounded (bounded : ∀ i < id.tagcount, -1 ≤ id.tags i ∧ id.tags i ≤ 32767)
    (active : id.tags id.tagactive ≠ -1) : id.Tellable := by
  have tag := msgtagToStr_isSome (fun i inRange => (bounded i inRange).1) active
  exact ⟨bounded, active, tag, by rw [msgidToStr, isSome_map]; exact tag⟩

theorem tellable_ofStamp (stamp : Stamp) :
    (ofStamp stamp).Tellable ↔ 0 ≤ stamp.tag ∧ stamp.tag ≤ 32767 := by
  have single (i : Nat) : (ofStamp stamp).tags i = stamp.tag := rfl
  constructor
  · rintro ⟨bounded, active, -, -⟩
    have bound := bounded 0 Nat.one_pos
    rw [single] at bound active
    omega
  · rintro ⟨low, high⟩
    refine .of_bounded (fun i _ => ?_) ?_
    · rw [single]
      omega
    · rw [single]
      omega

theorem tellable_made_iff {mid : MsgId} (inRange : active < tags.length) :
    ((made n mid tags active).Tellable ∧
      ∀ i tag, tags[i]? = some tag → (made n mid tags active).tags i = denoted tag) ↔
      (∀ tag ∈ tags, Clean tag) ∧ denoted tags[active] ≠ -1 := by
  have position {i : Nat} (read : i < tags.length) :
      (made n mid tags active).tags i = stored tags[i] := tags_made_of_lt mid active read
  constructor
  · rintro ⟨tellable, values⟩
    constructor
    · intro tag listed
      obtain ⟨i, read, rfl⟩ := getElem_of_mem listed
      have value := values i tags[i] (List.getElem?_eq_getElem read)
      have bound := tellable.bounded i (by rw [tagcount_made]; omega)
      rw [position read] at value bound
      exact stored_eq_denoted.mp ⟨value, bound⟩
    · have value := values active tags[active] (List.getElem?_eq_getElem inRange)
      have isSet := tellable.active
      rw [tagactive_made] at isSet
      rwa [← value]
  · rintro ⟨clean, isSet⟩
    have value {i : Nat} (read : i < tags.length) :=
      stored_eq_denoted.mpr (clean tags[i] (getElem_mem read))
    refine ⟨.of_bounded (fun i counted => ?_) ?_, fun i tag listed => ?_⟩
    · rw [tagcount_made] at counted
      by_cases read : i < tags.length
      · rw [position read]
        exact (value read).2
      · rw [tags_made_of_le mid active (Nat.not_lt.mp read) (by omega)]
        decide
    · rwa [tagactive_made, position inRange, (value inRange).1]
    · obtain ⟨read, rfl⟩ := List.getElem?_eq_some_iff.mp listed
      rw [position read, (value read).1]

/-- Brackets and a number of tags with which an id is used for `n` channels. -/
def Accepted (n : Nat) (time : Int) (tags : List Text) (active : Nat) : Prop :=
  Bracketed tags.flatten ∧ activeTag tags = some active ∧
    if Reserved time then tags.length = 1 ∧ n ≤ 1 else tags.length ≤ n

theorem tagcountMatch_made {mid : MsgId} (inRange : active < tags.length) :
    (made n mid tags active).tagcountMatch n ↔
      if Reserved mid.time then tags.length = 1 ∧ n ≤ 1 else tags.length ≤ n := by
  unfold tagcountMatch
  rw [time_made, tagcount_made, tagactive_made]
  split
  · rw [decide_eq_true_iff]
    omega
  · rw [decide_eq_true_iff]
    omega

end MsgId

namespace IdRequest

open MsgId

/-- An id that is accepted can be told again, and has the tags that the client wrote.  A time
    without tags is an id too: nothing was read in that second. -/
def AcceptedIds (cf : IdConf) (n : Nat) (id : MsgId) (r : IdRequest) : Prop :=
  (∀ id', r.getMsgId cf n id = some id' → id'.tagcountMatch n →
    id'.Tellable ∧ ∀ time text, Given.ofRequest cf r = .written time (some text) →
      ∀ i tag, (tagTexts text)[i]? = some tag → id'.tags i = denoted tag) ∧
  ∀ time, Given.ofRequest cf r = .written time none →
    ∃ id', r.getMsgId cf n id = some id' ∧ id'.time = time ∧ id'.tagcount = n ∧
      ∀ i < n, id'.tags i = -1

/-- The requests for which that is so. -/
def Harmless (cf : IdConf) (n : Nat) (r : IdRequest) : Prop :=
  match Given.ofRequest cf r with
  | .nothing => 0 ≤ cf.subscriberFirstMessage ∧ cf.subscriberFirstMessage ≤ 32767
  | .invalid => True
  | .written _ none => False
  | .written time (some text) =>
    ∀ active, Accepted n time (tagTexts text) active →
      (∀ tag ∈ tagTexts text, Clean tag) ∧
      ∀ tag, (tagTexts text)[active]? = some tag → denoted tag ≠ -1

theorem tellable_setDefaultId (cf : IdConf) :
    (setDefaultId cf).Tellable ↔
      0 ≤ cf.subscriberFirstMessage ∧ cf.subscriberFirstMessage ≤ 32767 := by
  unfold setDefaultId
  split
  · rename_i first
    rw [first]
    exact (tellable_ofStamp _).trans (iff_of_true (by decide) (by decide))
  · split
    · rename_i newest
      rw [newest]
      exact (tellable_ofStamp _).trans (iff_of_true (by decide) (by decide))
    · exact tellable_ofStamp _

theorem tagcountMatch_setDefaultId (cf : IdConf) (n : Nat) :
    (setDefaultId cf).tagcountMatch n = true := by
  unfold setDefaultId
  split
  · rfl
  · split <;> rfl

theorem acceptedIds_written {cf : IdConf} {r : IdRequest} {time : Int} {text : Text}
    (given : Given.ofRequest cf r = .written time (some text)) :
    AcceptedIds cf n id r ↔
      ∀ active, Accepted n time (tagTexts text) active →
        (∀ tag ∈ tagTexts text, Clean tag) ∧
        ∀ tag, (tagTexts text)[active]? = some tag → denoted tag ≠ -1 := by
  have parsed : r.getMsgId cf n id = parseMsgTag (some text) n { id with time := time } := by
    rw [Given.getMsgId_eq, given, Given.parsed]
    cases parseMsgTag (some text) n { id with time := time } <;> rfl
  rw [parseMsgTag_some] at parsed
  have set {active : Nat} (inRange : active < (tagTexts text).length) :
      denoted (tagTexts text)[active] ≠ -1 ↔
        ∀ tag, (tagTexts text)[active]? = some tag → denoted tag ≠ -1 := by
    simp [List.getElem?_eq_getElem inRange]
  constructor
  · rintro ⟨safe, -⟩ active ⟨bracketed, isActive, counts⟩
    have inRange := activeTag_lt isActive
    rw [if_pos bracketed, isActive, map_some] at parsed
    obtain ⟨tellable, values⟩ := safe _ parsed ((tagcountMatch_made inRange).mpr counts)
    rw [← set inRange]
    exact (tellable_made_iff inRange).mp ⟨tellable, values time text given⟩
  · intro clean
    refine ⟨fun id' returned counts => ?_, fun _ other => ?_⟩
    · rw [parsed] at returned
      obtain ⟨bracketed, returned⟩ := ite_none_right_eq_some.mp returned
      obtain ⟨active, isActive, rfl⟩ := map_eq_some_iff.mp returned
      have inRange := activeTag_lt isActive
      have safe := clean active ⟨bracketed, isActive, (tagcountMatch_made inRange).mp counts⟩
      rw [← set inRange] at safe
      obtain ⟨tellable, values⟩ := (tellable_made_iff inRange).mpr safe
      refine ⟨tellable, fun time' text' given' => ?_⟩
      obtain ⟨rfl, same⟩ := Given.written.inj (given.symm.trans given')
      cases same
      exact values
    · cases given.symm.trans other

/-- A time alone is never accepted. -/
theorem accepted_ids_iff (cf : IdConf) (n : Nat) (id : MsgId) (r : IdRequest) :
    AcceptedIds cf n id r ↔ Harmless cf n r := by
  have is := Given.getMsgId_eq cf n id r
  unfold Harmless
  cases given : Given.ofRequest cf r with
  | nothing =>
    have default : r.getMsgId cf n id = some (setDefaultId cf) := by rw [is, given]; rfl
    rw [← tellable_setDefaultId cf]
    constructor
    · rintro ⟨safe, -⟩
      exact (safe _ default (tagcountMatch_setDefaultId cf n)).1
    · intro tellable
      refine ⟨fun id' returned _ => ⟨?_, fun _ _ other => ?_⟩, fun _ other => ?_⟩
      · obtain rfl := some.inj (default.symm.trans returned)
        exact tellable
      · cases given.symm.trans other
      · cases given.symm.trans other
  | invalid =>
    have none : r.getMsgId cf n id = none := by rw [is, given]; rfl
    refine iff_of_true ⟨fun id' returned => ?_, fun _ other => ?_⟩ trivial
    · cases none.symm.trans returned
    · cases given.symm.trans other
  | written time text =>
    cases text with
    | none =>
      have none : r.getMsgId cf n id = none := by rw [is, given]; rfl
      refine iff_of_false ?_ (fun never => never)
      rintro ⟨-, timeOnly⟩
      obtain ⟨id', returned, -⟩ := timeOnly time given
      cases none.symm.trans returned
    | some text => exact acceptedIds_written given

/-- An active tag of -1 is accepted, and then an assert fails when it is told again.  A large number
    is another one in 16 bits.  And nothing is accepted without tags. -/
theorem ids_not_told_again :
    ((getMsgId {} 2 .oldest { ifNoneMatch := some "1500000000:[-],3".toList }).map fun id =>
      (id.tagcountMatch 2, id.msgidToStr)) = some (true, none) ∧
    ((getMsgId {} 1 .oldest { ifNoneMatch := some "1500000000:70000".toList }).map fun id =>
      (id.tagcountMatch 1, id.tags 0)) = some (true, 4464) ∧
    (getMsgId {} 1 .oldest { ifModifiedSince := some 1500000000 }).isNone := by
  decide +kernel

end IdRequest

end Nchan
