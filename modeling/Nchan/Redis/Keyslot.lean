import Mathlib.Data.List.TakeWhile
import Nchan.Lib.Crc
import Nchan.Lib.Cut

/-! # The keys of a channel and their slots

A Redis cluster places a key by the check sum of the part of it that is in braces.  The keys of a
channel have its id there, so that they are all in one slot, which nchan computes from the id.  For
that, ids have no closing braces and namespaces have no braces at all.  But the keys of messages are
made by a format in which the id has already been put: a percent sign in an id is taken for a part
of the format.
-/

namespace Nchan.Redis

open Nchan.Lib List

abbrev Bytes := List (BitVec 8)

/-! ## Slots -/

def crc16tab : List (BitVec 16) := [
  0x0000, 0x1021, 0x2042, 0x3063, 0x4084, 0x50a5, 0x60c6, 0x70e7,
  0x8108, 0x9129, 0xa14a, 0xb16b, 0xc18c, 0xd1ad, 0xe1ce, 0xf1ef,
  0x1231, 0x0210, 0x3273, 0x2252, 0x52b5, 0x4294, 0x72f7, 0x62d6,
  0x9339, 0x8318, 0xb37b, 0xa35a, 0xd3bd, 0xc39c, 0xf3ff, 0xe3de,
  0x2462, 0x3443, 0x0420, 0x1401, 0x64e6, 0x74c7, 0x44a4, 0x5485,
  0xa56a, 0xb54b, 0x8528, 0x9509, 0xe5ee, 0xf5cf, 0xc5ac, 0xd58d,
  0x3653, 0x2672, 0x1611, 0x0630, 0x76d7, 0x66f6, 0x5695, 0x46b4,
  0xb75b, 0xa77a, 0x9719, 0x8738, 0xf7df, 0xe7fe, 0xd79d, 0xc7bc,
  0x48c4, 0x58e5, 0x6886, 0x78a7, 0x0840, 0x1861, 0x2802, 0x3823,
  0xc9cc, 0xd9ed, 0xe98e, 0xf9af, 0x8948, 0x9969, 0xa90a, 0xb92b,
  0x5af5, 0x4ad4, 0x7ab7, 0x6a96, 0x1a71, 0x0a50, 0x3a33, 0x2a12,
  0xdbfd, 0xcbdc, 0xfbbf, 0xeb9e, 0x9b79, 0x8b58, 0xbb3b, 0xab1a,
  0x6ca6, 0x7c87, 0x4ce4, 0x5cc5, 0x2c22, 0x3c03, 0x0c60, 0x1c41,
  0xedae, 0xfd8f, 0xcdec, 0xddcd, 0xad2a, 0xbd0b, 0x8d68, 0x9d49,
  0x7e97, 0x6eb6, 0x5ed5, 0x4ef4, 0x3e13, 0x2e32, 0x1e51, 0x0e70,
  0xff9f, 0xefbe, 0xdfdd, 0xcffc, 0xbf1b, 0xaf3a, 0x9f59, 0x8f78,
  0x9188, 0x81a9, 0xb1ca, 0xa1eb, 0xd10c, 0xc12d, 0xf14e, 0xe16f,
  0x1080, 0x00a1, 0x30c2, 0x20e3, 0x5004, 0x4025, 0x7046, 0x6067,
  0x83b9, 0x9398, 0xa3fb, 0xb3da, 0xc33d, 0xd31c, 0xe37f, 0xf35e,
  0x02b1, 0x1290, 0x22f3, 0x32d2, 0x4235, 0x5214, 0x6277, 0x7256,
  0xb5ea, 0xa5cb, 0x95a8, 0x8589, 0xf56e, 0xe54f, 0xd52c, 0xc50d,
  0x34e2, 0x24c3, 0x14a0, 0x0481, 0x7466, 0x6447, 0x5424, 0x4405,
  0xa7db, 0xb7fa, 0x8799, 0x97b8, 0xe75f, 0xf77e, 0xc71d, 0xd73c,
  0x26d3, 0x36f2, 0x0691, 0x16b0, 0x6657, 0x7676, 0x4615, 0x5634,
  0xd94c, 0xc96d, 0xf90e, 0xe92f, 0x99c8, 0x89e9, 0xb98a, 0xa9ab,
  0x5844, 0x4865, 0x7806, 0x6827, 0x18c0, 0x08e1, 0x3882, 0x28a3,
  0xcb7d, 0xdb5c, 0xeb3f, 0xfb1e, 0x8bf9, 0x9bd8, 0xabbb, 0xbb9a,
  0x4a75, 0x5a54, 0x6a37, 0x7a16, 0x0af1, 0x1ad0, 0x2ab3, 0x3a92,
  0xfd2e, 0xed0f, 0xdd6c, 0xcd4d, 0xbdaa, 0xad8b, 0x9de8, 0x8dc9,
  0x7c26, 0x6c07, 0x5c64, 0x4c45, 0x3ca2, 0x2c83, 0x1ce0, 0x0cc1,
  0xef1f, 0xff3e, 0xcf5d, 0xdf7c, 0xaf9b, 0xbfba, 0x8fd9, 0x9ff8,
  0x6e17, 0x7e36, 0x4e55, 0x5e74, 0x2e93, 0x3eb2, 0x0ed1, 0x1ef0]

/-- `redis_crc16`. -/
def redisCrc16 (crc : BitVec 16) (buf : Bytes) : BitVec 16 :=
  buf.foldl (Crc.tableByte fun i => crc16tab.getD i.toNat 0) crc

def crc16Poly : BitVec 16 := 0x1021

def openBrace : BitVec 8 := 0x7b
def closeBrace : BitVec 8 := 0x7d
def percent : BitVec 8 := 0x25
def slash : BitVec 8 := 0x2f
def colon : BitVec 8 := 0x3a

/-- `channel:` -/
def channelPrefix : Bytes := [0x63, 0x68, 0x61, 0x6e, 0x6e, 0x65, 0x6c, 0x3a]

/-- `redis_keyslot_from_channel_id`. -/
def redisKeyslotFromChannelId (chid : Bytes) : Nat :=
  (redisCrc16 (redisCrc16 0 channelPrefix) chid).toNat % 16384

/-- What a cluster places a key by: the text between the first opening brace and the next closing
    one, if there is any, and the whole key otherwise. -/
def hashTag (key : Bytes) : Bytes :=
  match cut openBrace key with
  | none => key
  | some (_, rest) =>
    match cut closeBrace rest with
    | none => key
    | some (tag, _) => if tag = [] then key else tag

def clusterSlot (key : Bytes) : Nat := (Crc.crc crc16Poly 0 (hashTag key)).toNat % 16384

/-- The slot in which `nodeset_node_find_by_key` looks for a node. -/
def nodeFindByKeySlot (key : Bytes) : Nat :=
  let hashable :=
    match cut openBrace key with
    | none => key
    | some (_, rest) =>
      match cut closeBrace rest with
      | none => key
      | some (tag, _) => if tag.length > 1 then tag else key
  (redisCrc16 0 hashable).toNat % 16384

/-! ## Keys -/

/-- `ngx_conf_process_redis_namespace_slot`. -/
def processRedisNamespaceSlot (arg : Bytes) : Option Bytes :=
  if openBrace ∈ arg then none
  else if closeBrace ∈ arg then none
  else if arg ≠ [] ∧ arg.getLast? ≠ some colon then some (arg ++ [colon])
  else some arg

def substitute : BitVec 8 := 0x19

/-- `nchan_process_multi_channel_id`, when the ids have been evaluated and split.  More than one id
    are put together for the memory store, which takes them apart again. -/
def processMultiChannelId (maxChannelIdLength : Nat) (group : Bytes) (ids : List Bytes) :
    Option Bytes :=
  if ids.any fun id => id.length > maxChannelIdLength then none
  else match ids with
    | [] => some []
    | [id] => some (group ++ slash :: id)
    | ids => some ([0x6d, slash, 0] ++ ids.flatMap fun id => group ++ slash :: id ++ [0])

/-- `nchan_get_channel_id` at a location with Redis. -/
def nchanGetChannelId (maxChannelIdLength : Nat) (group : Bytes) (ids : List Bytes) : Option Bytes :=
  -- the group "m" is reserved
  if group = [0x6d] then none
  else if slash ∈ group then none
  else (processMultiChannelId maxChannelIdLength group ids).bind fun id =>
    if substitute ∈ id then none
    else some (id.map fun b => if b = closeBrace then substitute else b)

/-- What `%s` writes in Lua 5.1: a short string ends at a null byte. -/
def luaString (s : Bytes) : Bytes := if s.length ≥ 100 then s else s.takeWhile (· ≠ 0)

/-- `string.format` with strings.  Other conversions than `%s` and `%%` fail on the arguments that
    are used here, or take them from the `%s` that follows. -/
def luaFormat : Bytes → List Bytes → Option Bytes
  | [], _ => some []
  | b :: fmt, args =>
    if b ≠ percent then (luaFormat fmt args).map (b :: ·)
    else match fmt with
      | [] => none
      | c :: fmt =>
        if c = percent then (luaFormat fmt args).map (percent :: ·)
        else if c = 0x73 then
          match args with
          | [] => none
          | arg :: args => (luaFormat fmt args).map (luaString arg ++ ·)
        else none

/-- `%s` -/
def formatString : Bytes := [percent, 0x73]

def channelKey (ns id : Bytes) : Bytes :=
  luaString ns ++ openBrace :: (channelPrefix ++ luaString id ++ [closeBrace])

/-- `:msg:` -/
def msgInfix : Bytes := [0x3a, 0x6d, 0x73, 0x67, 0x3a]

/-- The key of a message: `ch..':msg:%s'` with its id. -/
def messageKey (ns id msgid : Bytes) : Option Bytes :=
  luaFormat (channelKey ns id ++ (msgInfix ++ formatString)) [msgid]

/-- `format` takes the key of a message, for a channel of this name.  That does not depend on the id
    of the message. -/
def formats (ns id : Bytes) : Bool := (messageKey ns id []).isSome

/-- `:messages`, `:subscribers`, `:subscriber_counts` and `:pubsub`, and nothing for the channel. -/
def keySuffixes : List Bytes := [
  [],
  [0x3a, 0x6d, 0x65, 0x73, 0x73, 0x61, 0x67, 0x65, 0x73],
  [0x3a, 0x73, 0x75, 0x62, 0x73, 0x63, 0x72, 0x69, 0x62, 0x65, 0x72, 0x73],
  [0x3a, 0x73, 0x75, 0x62, 0x73, 0x63, 0x72, 0x69, 0x62, 0x65, 0x72, 0x5f, 0x63, 0x6f, 0x75, 0x6e,
    0x74, 0x73],
  [0x3a, 0x70, 0x75, 0x62, 0x73, 0x75, 0x62]]

def IsKey (ns id key : Bytes) : Prop :=
  (∃ suffix ∈ keySuffixes, key = channelKey ns id ++ suffix) ∨
    ∃ msgid, messageKey ns id msgid = some key

/-- All keys are in the slot that nchan computes. -/
structure Routed (ns id : Bytes) : Prop where
  slots : ∀ key, IsKey ns id key → clusterSlot key = redisKeyslotFromChannelId id
  messages : ∀ msgid, ∃ key, messageKey ns id msgid = some key ∧
    nodeFindByKeySlot key = redisKeyslotFromChannelId id

/-! ## Check sums -/

theorem crc16tab_eq (i : BitVec 8) :
    crc16tab.getD i.toNat 0 = Crc.shifts crc16Poly 8 (i.setWidth 16 <<< 8) := by
  revert i
  decide +kernel

theorem redisCrc16_eq (crc : BitVec 16) (buf : Bytes) :
    redisCrc16 crc buf = Crc.crc crc16Poly crc buf := Crc.foldl_tableByte crc16tab_eq crc buf

theorem redisKeyslotFromChannelId_eq (id : Bytes) :
    redisKeyslotFromChannelId id = (Crc.crc crc16Poly 0 (channelPrefix ++ id)).toNat % 16384 := by
  rw [redisKeyslotFromChannelId, redisCrc16_eq, redisCrc16_eq, Crc.crc_append]

/-! ## Keys without percent signs -/

theorem luaString_of_free {s : Bytes} (free : 0 ∉ s) : luaString s = s := by
  unfold luaString
  split
  · rfl
  · refine takeWhile_eq_self_iff.mpr fun b on => ?_
    simpa using fun zero : b = 0 => free (zero ▸ on)

theorem luaFormat_append {text : Bytes} (free : percent ∉ text) (fmt : Bytes) (args : List Bytes) :
    luaFormat (text ++ fmt) args = (luaFormat fmt args).map (text ++ ·) := by
  induction text with
  | nil => simp
  | cons b text ih =>
    rw [mem_cons, not_or] at free
    rw [cons_append, luaFormat.eq_def]
    simp only [Ne.symm free.1, ne_eq, not_false_eq_true, if_true, ih free.2, Option.map_map]
    rfl

section

variable {ns id : Bytes}

structure Clean (ns id : Bytes) : Prop where
  nsFree : openBrace ∉ ns ∧ percent ∉ ns ∧ 0 ∉ ns
  idFree : closeBrace ∉ id ∧ percent ∉ id ∧ 0 ∉ id

variable (clean : Clean ns id)

include clean

theorem Clean.channelKey :
    channelKey ns id = ns ++ openBrace :: (channelPrefix ++ id ++ [closeBrace]) := by
  rw [Redis.channelKey, luaString_of_free clean.nsFree.2.2, luaString_of_free clean.idFree.2.2]

theorem Clean.messageKey (msgid : Bytes) :
    messageKey ns id msgid = some (Redis.channelKey ns id ++ (msgInfix ++ luaString msgid)) := by
  have free : percent ∉ Redis.channelKey ns id ++ msgInfix := by
    have constant : percent ∉ openBrace :: channelPrefix ∧ percent ∉ closeBrace :: msgInfix := by
      decide
    have := clean.nsFree.2.1
    have := clean.idFree.2.1
    rw [clean.channelKey]
    simp_all
  have written : luaFormat formatString [msgid] = some (luaString msgid) := by
    simp [luaFormat, formatString, percent]
  rw [Redis.messageKey, ← append_assoc, luaFormat_append free, written]
  simp

theorem Clean.cuts (suffix : Bytes) :
    cut openBrace (Redis.channelKey ns id ++ suffix) =
        some (ns, channelPrefix ++ id ++ closeBrace :: suffix) ∧
      cut closeBrace (channelPrefix ++ id ++ closeBrace :: suffix) =
        some (channelPrefix ++ id, suffix) := by
  have noClose : closeBrace ∉ channelPrefix ++ id := by
    rw [mem_append, not_or]
    exact ⟨by decide, clean.idFree.1⟩
  have shape : Redis.channelKey ns id ++ suffix =
      ns ++ openBrace :: (channelPrefix ++ id ++ closeBrace :: suffix) := by
    rw [clean.channelKey]
    simp
  exact ⟨shape ▸ cut_append clean.nsFree.1 _, cut_append noClose _⟩

theorem Clean.hashTag (suffix : Bytes) :
    hashTag (Redis.channelKey ns id ++ suffix) = channelPrefix ++ id := by
  obtain ⟨opened, closed⟩ := clean.cuts suffix
  have nonempty : channelPrefix ++ id ≠ [] := append_ne_nil_of_left_ne_nil (by decide) _
  rw [Redis.hashTag, opened]
  dsimp only
  rw [closed]
  exact if_neg nonempty

theorem Clean.isKey {key : Bytes} (is : IsKey ns id key) :
    Redis.hashTag key = channelPrefix ++ id := by
  cases is with
  | inl constant =>
    obtain ⟨suffix, -, rfl⟩ := constant
    exact clean.hashTag suffix
  | inr message =>
    obtain ⟨msgid, is⟩ := message
    rw [clean.messageKey] at is
    cases is
    exact clean.hashTag _

theorem Clean.routed : Routed ns id where
  slots := fun key is => by rw [clusterSlot, clean.isKey is, redisKeyslotFromChannelId_eq]
  messages := fun msgid => by
    refine ⟨_, clean.messageKey msgid, ?_⟩
    obtain ⟨opened, closed⟩ := clean.cuts (msgInfix ++ luaString msgid)
    have long : (channelPrefix ++ id).length > 1 := by
      rw [length_append]
      have : channelPrefix.length = 8 := rfl
      omega
    rw [nodeFindByKeySlot, opened]
    dsimp only
    rw [closed]
    dsimp only
    rw [if_pos long, redisCrc16_eq, redisKeyslotFromChannelId_eq]

end

/-! ## What may be in an id -/

theorem processRedisNamespaceSlot_free {arg ns : Bytes}
    (accepted : processRedisNamespaceSlot arg = some ns) :
    openBrace ∉ ns ∧ ∀ b ∈ ns, b ∈ arg ∨ b = colon := by
  unfold processRedisNamespaceSlot at accepted
  split at accepted
  · cases accepted
  case isFalse noOpen =>
    split at accepted
    · cases accepted
    · split at accepted
      · cases accepted
        refine ⟨?_, fun b on => by simpa using on⟩
        rw [mem_append, not_or]
        exact ⟨noOpen, by decide⟩
      · cases accepted
        exact ⟨noOpen, fun b on => .inl on⟩

variable {maxLength : Nat} {chan group id : Bytes}

section

variable (accepted : nchanGetChannelId maxLength group [chan] = some id)

include accepted

theorem nchanGetChannelId_single :
    slash ∉ group ∧ substitute ∉ group ++ slash :: chan ∧
      id = (group ++ slash :: chan).map fun b => if b = closeBrace then substitute else b := by
  obtain ⟨-, accepted⟩ := Option.ite_none_left_eq_some.mp accepted
  obtain ⟨noSlash, accepted⟩ := Option.ite_none_left_eq_some.mp accepted
  obtain ⟨raw, made, accepted⟩ := Option.bind_eq_some_iff.mp accepted
  obtain ⟨free, replaced⟩ := Option.ite_none_left_eq_some.mp accepted
  obtain ⟨-, is⟩ := Option.ite_none_left_eq_some.mp made
  cases is
  exact ⟨noSlash, free, (Option.some.inj replaced).symm⟩

theorem nchanGetChannelId_bytes :
    closeBrace ∉ id ∧ ∀ b ∈ id, b ∈ group ++ chan ∨ b = slash ∨ b = substitute := by
  obtain ⟨-, -, rfl⟩ := nchanGetChannelId_single accepted
  constructor
  · intro on
    obtain ⟨b, -, is⟩ := mem_map.mp on
    split at is
    · exact absurd is (by decide)
    case isFalse other => exact other is
  · intro b on
    obtain ⟨c, was, is⟩ := mem_map.mp on
    split at is
    · exact .inr (.inr is.symm)
    · subst is
      simp only [mem_append, mem_cons] at was ⊢
      tauto

omit accepted in
theorem replace_injective {a b : Bytes} (noneA : substitute ∉ a) (noneB : substitute ∉ b)
    (same : (a.map fun b => if b = closeBrace then substitute else b) =
      b.map fun b => if b = closeBrace then substitute else b) : a = b := by
  have undo : ∀ l : Bytes, substitute ∉ l →
      ((l.map fun b => if b = closeBrace then substitute else b).map fun b =>
        if b = substitute then closeBrace else b) = l := by
    intro l free
    rw [map_map]
    refine (map_congr_left fun b on => ?_).trans l.map_id
    have other : b ≠ substitute := fun is => free (is ▸ on)
    by_cases brace : b = closeBrace
    · simp [brace]
    · simp [brace, other]
  rw [← undo a noneA, same, undo b noneB]

theorem nchanGetChannelId_injective {group' chan' : Bytes}
    (accepted' : nchanGetChannelId maxLength group' [chan'] = some id) :
    (group', chan') = (group, chan) := by
  obtain ⟨noSlash, free, is⟩ := nchanGetChannelId_single accepted
  obtain ⟨noSlash', free', is'⟩ := nchanGetChannelId_single accepted'
  have same := replace_injective free' free (is'.symm.trans is)
  have cuts := cut_append noSlash chan
  rw [← same, cut_append noSlash'] at cuts
  exact Option.some.inj cuts

end

/-! ## All ids -/

/-- With these bytes only, in namespaces and in what clients send: all keys of a channel are in the
    slot that nchan computes, and keys of different channels are different. -/
def Conforms (allowed : BitVec 8 → Prop) : Prop :=
  ∀ arg ns maxLength group chan id, processRedisNamespaceSlot arg = some ns →
    nchanGetChannelId maxLength group [chan] = some id → (∀ b ∈ arg ++ group ++ chan, allowed b) →
    Routed ns id ∧
      ∀ group' chan' id', nchanGetChannelId maxLength group' [chan'] = some id' →
        (∀ b ∈ group' ++ chan', allowed b) → (group', chan') ≠ (group, chan) →
        ∀ key, ¬ (IsKey ns id key ∧ IsKey ns id' key)

theorem clean_of_allowed {allowed : BitVec 8 → Prop} (noPercent : ¬ allowed percent)
    (noZero : ¬ allowed 0) {arg ns : Bytes} (named : processRedisNamespaceSlot arg = some ns)
    (nsAllowed : ∀ b ∈ arg, allowed b)
    (accepted : nchanGetChannelId maxLength group [chan] = some id)
    (idAllowed : ∀ b ∈ group ++ chan, allowed b) : Clean ns id := by
  obtain ⟨noOpen, nsBytes⟩ := processRedisNamespaceSlot_free named
  obtain ⟨noClose, idBytes⟩ := nchanGetChannelId_bytes accepted
  have nsOnly : ∀ b, ¬ allowed b → b ≠ colon → b ∉ ns := fun b forbidden other on =>
    (nsBytes b on).elim (fun was => forbidden (nsAllowed b was)) other
  have idOnly : ∀ b, ¬ allowed b → b ≠ slash → b ≠ substitute → b ∉ id :=
    fun b forbidden notSlash notSubstitute on =>
      (idBytes b on).elim (fun was => forbidden (idAllowed b was)) fun added =>
        added.elim notSlash notSubstitute
  exact ⟨⟨noOpen, nsOnly _ noPercent (by decide), nsOnly _ noZero (by decide)⟩,
    ⟨noClose, idOnly _ noPercent (by decide) (by decide), idOnly _ noZero (by decide) (by decide)⟩⟩

theorem message_of_percents :
    nchanGetChannelId 2 [] [[percent, percent]] = some [slash, percent, percent] ∧
      messageKey [] [slash, percent, percent] [0x31] =
        some (openBrace :: channelPrefix ++ [slash, percent, closeBrace] ++ msgInfix ++ [0x31]) ∧
      clusterSlot (openBrace :: channelPrefix ++ [slash, percent, closeBrace] ++ msgInfix ++ [0x31])
        ≠ redisKeyslotFromChannelId [slash, percent, percent] := by
  decide +kernel

theorem channel_of_zero :
    nchanGetChannelId 1 [] [[0]] = some [slash, 0] ∧
      clusterSlot (channelKey [] [slash, 0]) ≠ redisKeyslotFromChannelId [slash, 0] := by
  decide +kernel

/-- Keys and slots agree if and only if neither percent signs nor null bytes can get into namespaces
    and ids. -/
theorem conforms_iff (allowed : BitVec 8 → Prop) :
    Conforms allowed ↔ ¬ allowed percent ∧ ¬ allowed 0 := by
  constructor
  · intro conforms
    refine ⟨fun percents => ?_, fun zeros => ?_⟩
    · obtain ⟨accepted, message, elsewhere⟩ := message_of_percents
      obtain ⟨routed, -⟩ := conforms [] [] 2 [] _ _ rfl accepted (by simpa using percents)
      exact elsewhere (routed.slots _ (.inr ⟨_, message⟩))
    · obtain ⟨accepted, elsewhere⟩ := channel_of_zero
      obtain ⟨routed, -⟩ := conforms [] [] 1 [] _ _ rfl accepted (by simpa using zeros)
      exact elsewhere (routed.slots _ (.inl ⟨[], by simp [keySuffixes], (append_nil _).symm⟩))
  · rintro ⟨noPercent, noZero⟩ arg ns maxLength group chan id named accepted only
    rw [append_assoc, forall_mem_append] at only
    have clean := clean_of_allowed noPercent noZero named only.1 accepted only.2
    refine ⟨clean.routed, fun group' chan' id' accepted' only' other key both => other ?_⟩
    have clean' := clean_of_allowed noPercent noZero named only.1 accepted' only'
    -- both keys have the same id in their braces
    have tags := (clean.isKey both.1).symm.trans (clean'.isKey both.2)
    obtain rfl := append_cancel_left tags
    exact nchanGetChannelId_injective accepted accepted'

/-- Two percent signs in an id. -/
theorem percents_misroute :
    ∃ id key, nchanGetChannelId 2 [] [[percent, percent]] = some id ∧
      messageKey [] id [0x31] = some key ∧ clusterSlot key ≠ redisKeyslotFromChannelId id :=
  ⟨_, _, message_of_percents⟩

end Nchan.Redis
