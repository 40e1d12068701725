import Nchan.ChannelId.Split

/-! # The id of several channels

Several channels are one id to the store: `m/` and a NUL, and then the id of each of them with a NUL
behind it.  The memstore takes such an id apart again.  The id of a single channel is written without
any of this, and for Redis each `}` is replaced.
-/

namespace Nchan.ChannelId

open List Option

/-! ## Writing -/

/-- `sz` in `nchan_process_multi_channel_id`. -/
def multiChannelIdSize (group : Bytes) (ids : List Bytes) : Nat :=
  ids.foldl (fun sz id => sz + (id.length + 1 + group.length)) 0 +
    if ids.length > 1 then 3 + ids.length else 0

def groupedId (group id : Bytes) : Bytes := group ++ 47 :: id

/-- The id that `nchan_process_multi_channel_id` writes. -/
def multiChannelId (group : Bytes) (ids : List Bytes) : Bytes :=
  (if ids.length > 1 then [109, 47, 0] else []) ++
    ids.flatMap fun id => groupedId group id ++ if ids.length > 1 then [0] else []

/-- A closing brace would end the hash tag of a key in Redis. -/
def noBrace (redis : Bool) (id : Bytes) : Bytes :=
  id.map fun c => if redis ∧ c = 125 then 25 else c

/-- `nchan_get_channel_id`, for the ids that were collected.  A request that is declined is
    `none`. -/
def channelId (redis : Bool) (group : Bytes) (ids : List Bytes) : Option Bytes :=
  if group = [109] then none
  else if 47 ∈ group then none
  else if redis ∧ 25 ∈ multiChannelId group ids then none
  else some (noBrace redis (multiChannelId group ids))

/-! ## Reading -/

/-- `nchan_channel_id_is_multi`. -/
def isMulti : Bytes → Bool
  | 109 :: 47 :: 0 :: _ => true
  | _ => false

def upToSeps (seen : Bytes) : Bytes → List Bytes
  | [] => []
  | c :: rest => if c = 0 then seen :: upToSeps [] rest else upToSeps (seen ++ [c]) rest

/-- `parse_multi_id`. -/
def parseMultiId (id : Bytes) : List Bytes :=
  if isMulti id then upToSeps [] (id.drop 3) else []

/-- `count_channel_id`. -/
def countChannelId (id : Bytes) : Nat := if isMulti id then (id.drop 3).count 0 else 1

/-- `nchan_get_group_from_channel_id`.  A failed assert is `none`. -/
def getGroupFromChannelId (id : Bytes) : Option Bytes :=
  let rest := if isMulti id then id.drop 3 else id
  if 47 ∈ rest then some (rest.takeWhile (· ≠ 47)) else none

variable {redis : Bool} {group id : Bytes} {ids : List Bytes}

/-! ## Bytes that are replaced -/

@[simp] theorem noBrace_append (front back : Bytes) :
    noBrace redis (front ++ back) = noBrace redis front ++ noBrace redis back := map_append

@[simp] theorem noBrace_cons (c : UInt8) (id : Bytes) :
    noBrace redis (c :: id) = (if redis ∧ c = 125 then 25 else c) :: noBrace redis id := rfl

@[simp] theorem noBrace_nil : noBrace redis [] = [] := rfl

theorem not_mem_noBrace {c : UInt8} (other : c ≠ 25) (absent : c ∉ id) : c ∉ noBrace redis id := by
  intro found
  obtain ⟨b, on, is⟩ := mem_map.mp found
  split at is
  · exact other is.symm
  · exact absent (is ▸ on)

theorem noBrace_inj {id' : Bytes} (free : redis → 25 ∉ id) (free' : redis → 25 ∉ id')
    (same : noBrace redis id = noBrace redis id') : id = id' := by
  induction id generalizing id' with
  | nil => exact (map_eq_nil_iff.mp same.symm).symm
  | cons c id ih =>
    cases id' with
    | nil => cases same
    | cons c' id' =>
      rw [noBrace_cons, noBrace_cons] at same
      obtain ⟨first, rest⟩ := List.cons.inj same
      simp only [mem_cons, not_or] at free free'
      have head : c = c' := by
        split at first <;> split at first
        · rename_i here there
          exact here.2.trans there.2.symm
        · rename_i here _
          exact absurd first (free' here.1).1
        · rename_i there
          exact absurd first.symm (free there.1).1
        · exact first
      rw [head, ih (fun r => (free r).2) (fun r => (free' r).2) rest]

/-! ## Parsing what was written -/

theorem upToSeps_append (seen : Bytes) (absent : 0 ∉ id) (rest : Bytes) :
    upToSeps seen (id ++ 0 :: rest) = (seen ++ id) :: upToSeps [] rest := by
  induction id generalizing seen with
  | nil => rw [nil_append, upToSeps, if_pos rfl, append_nil]
  | cons c id ih =>
    rw [mem_cons, not_or] at absent
    rw [cons_append, upToSeps, if_neg (Ne.symm absent.1), ih _ absent.2, append_assoc]
    rfl

theorem upToSeps_flatMap (absent : ∀ id ∈ ids, 0 ∉ id) :
    upToSeps [] (ids.flatMap (· ++ [0])) = ids := by
  induction ids with
  | nil => rfl
  | cons id ids ih =>
    obtain ⟨first, others⟩ := forall_mem_cons.mp absent
    rw [flatMap_cons, append_assoc, cons_append, nil_append,
      upToSeps_append [] first, ih others, nil_append]

theorem count_flatMap (absent : ∀ id ∈ ids, 0 ∉ id) :
    (ids.flatMap (· ++ [0])).count 0 = ids.length := by
  induction ids with
  | nil => rfl
  | cons id ids ih =>
    obtain ⟨first, others⟩ := forall_mem_cons.mp absent
    rw [flatMap_cons, count_append, count_append, ih others,
      count_eq_zero.mpr first, count_singleton_self, length_cons]
    omega

def singleId (redis : Bool) (group id : Bytes) : Bytes := noBrace redis (groupedId group id)

theorem channelId_eq_some_iff :
    channelId redis group ids = some id ↔
      (group ≠ [109] ∧ 47 ∉ group ∧ (redis → 25 ∉ multiChannelId group ids)) ∧
        noBrace redis (multiChannelId group ids) = id := by
  unfold channelId
  rw [ite_none_left_eq_some, ite_none_left_eq_some, ite_none_left_eq_some,
    not_and, Option.some.injEq]
  tauto

theorem multiChannelId_singleton (group id : Bytes) :
    multiChannelId group [id] = groupedId group id := by
  simp [multiChannelId]

theorem noBrace_multi (several : 1 < ids.length) :
    noBrace redis (multiChannelId group ids) =
      [109, 47, 0] ++ (ids.map (singleId redis group)).flatMap (· ++ [0]) := by
  have begins : noBrace redis [109, 47, 0] = [109, 47, 0] := by simp
  have entry (id : Bytes) : noBrace redis (groupedId group id ++ [0]) =
      singleId redis group id ++ [0] := by simp [singleId]
  rw [multiChannelId, if_pos several, if_pos several, noBrace_append, begins, flatMap_map]
  refine congrArg _ ((map_flatMap ..).trans (flatMap_congr fun id _ => entry id))

theorem isMulti_iff : isMulti id = true ↔ ∃ rest, id = 109 :: 47 :: 0 :: rest := by
  constructor
  · intro multi
    unfold isMulti at multi
    split at multi
    · exact ⟨_, rfl⟩
    · cases multi
  · rintro ⟨rest, rfl⟩
    rfl

theorem isMulti_singleId (usable : group ≠ [109]) (plain : 47 ∉ group) (id : Bytes) :
    isMulti (singleId redis group id) = false := by
  have kept {c d : UInt8} (other : d ≠ 25) (is : (if redis ∧ c = 125 then 25 else c) = d) :
      c = d := by
    split at is
    · exact absurd is.symm other
    · exact is
  rw [Bool.eq_false_iff]
  intro multi
  obtain ⟨rest, is⟩ := isMulti_iff.mp multi
  rw [singleId, groupedId] at is
  cases group with
  | nil =>
    rw [nil_append, noBrace_cons, List.cons.injEq] at is
    exact absurd (kept (by decide) is.1) (by decide)
  | cons c group =>
    rw [cons_append, noBrace_cons, List.cons.injEq] at is
    obtain rfl := kept (by decide) is.1
    cases group with
    | nil => exact usable rfl
    | cons d group =>
      rw [cons_append, noBrace_cons, List.cons.injEq] at is
      obtain rfl := kept (by decide) is.2.1
      exact plain (mem_cons_of_mem _ mem_cons_self)

theorem takeWhile_grouped (plain : 47 ∉ group) (rest : Bytes) :
    (group ++ 47 :: rest).takeWhile (· ≠ 47) = group := by
  have before : ∀ c ∈ group, decide (c ≠ 47) = true := fun c on => by
    simpa using fun is : c = 47 => plain (is ▸ on)
  rw [takeWhile_append_of_pos before]
  simp

theorem singleId_inj {group' id' : Bytes} (plain : 47 ∉ group) (plain' : 47 ∉ group')
    (free : redis → 25 ∉ groupedId group id) (free' : redis → 25 ∉ groupedId group' id')
    (same : singleId redis group id = singleId redis group' id') : group = group' ∧ id = id' := by
  have grouped : group ++ 47 :: id = group' ++ 47 :: id' := noBrace_inj free free' same
  have groups : group = group' := by
    rw [← takeWhile_grouped plain id, grouped, takeWhile_grouped plain' id']
  subst groups
  exact ⟨rfl, (List.cons.inj (append_cancel_left grouped)).2⟩

/-- The id was accepted, and there is no separator in it but those that were written. -/
structure Accepted (redis : Bool) (group : Bytes) (ids : List Bytes) (id : Bytes) : Prop where
  accepted : channelId redis group ids = some id
  filled : ids ≠ []
  plainGroup : 0 ∉ group
  plain : ∀ id ∈ ids, 0 ∉ id

namespace Accepted

variable (accepted : Accepted redis group ids id)

include accepted

theorem spec : (group ≠ [109] ∧ 47 ∉ group ∧ (redis → 25 ∉ multiChannelId group ids)) ∧
    noBrace redis (multiChannelId group ids) = id :=
  channelId_eq_some_iff.mp accepted.accepted

theorem single_or_several :
    (∃ only, ids = [only] ∧ id = singleId redis group only) ∨
      1 < ids.length ∧ id = [109, 47, 0] ++ (ids.map (singleId redis group)).flatMap (· ++ [0]) := by
  obtain ⟨-, rfl⟩ := accepted.spec
  match ids, accepted.filled with
  | [only], _ => exact .inl ⟨only, rfl, by rw [multiChannelId_singleton, singleId]⟩
  | first :: second :: others, _ => exact .inr ⟨by simp, noBrace_multi (by simp)⟩

theorem free {only : Bytes} (listed : only ∈ ids) : redis → 25 ∉ groupedId group only := by
  intro r found
  refine accepted.spec.1.2.2 r (mem_append_right _ ?_)
  exact mem_flatMap.mpr ⟨only, listed, mem_append_left _ found⟩

theorem plain_singleId : ∀ single ∈ ids.map (singleId redis group), 0 ∉ single := by
  intro single among
  obtain ⟨only, listed, rfl⟩ := mem_map.mp among
  refine not_mem_noBrace (by decide) ?_
  rw [groupedId, mem_append, mem_cons, not_or, not_or]
  exact ⟨accepted.plainGroup, by decide, accepted.plain only listed⟩

theorem isMulti_eq : isMulti id = decide (1 < ids.length) := by
  obtain ⟨⟨usable, plain, -⟩, -⟩ := accepted.spec
  obtain ⟨only, rfl, rfl⟩ | ⟨several, rfl⟩ := accepted.single_or_several
  · exact isMulti_singleId usable plain only
  · exact (decide_eq_true several).symm

theorem parseMultiId_eq :
    parseMultiId id = if ids.length = 1 then [] else ids.map (singleId redis group) := by
  have multi := accepted.isMulti_eq
  have plain := accepted.plain_singleId
  obtain ⟨only, rfl, rfl⟩ | ⟨several, rfl⟩ := accepted.single_or_several
  · rw [parseMultiId, multi]
    rfl
  · rw [parseMultiId, multi, if_pos (decide_eq_true several), if_neg (Nat.ne_of_gt several)]
    exact upToSeps_flatMap plain

theorem countChannelId_eq : countChannelId id = ids.length := by
  have multi := accepted.isMulti_eq
  have plain := accepted.plain_singleId
  obtain ⟨only, rfl, rfl⟩ | ⟨several, rfl⟩ := accepted.single_or_several
  · rw [countChannelId, multi]
    rfl
  · rw [countChannelId, multi, if_pos (decide_eq_true several)]
    exact (count_flatMap plain).trans (length_map _)

theorem getGroupFromChannelId_eq : getGroupFromChannelId id = some (noBrace redis group) := by
  have multi := accepted.isMulti_eq
  have plain : 47 ∉ noBrace redis group := not_mem_noBrace (by decide) accepted.spec.1.2.1
  have found (rest : Bytes) : 47 ∈ noBrace redis group ++ 47 :: rest :=
    mem_append_right _ mem_cons_self
  have grouped (only : Bytes) :
      singleId redis group only = noBrace redis group ++ 47 :: noBrace redis only := by
    simp [singleId, groupedId]
  have begins : ∃ rest, (if isMulti id then id.drop 3 else id) =
      noBrace redis group ++ 47 :: rest := by
    rw [multi]
    obtain ⟨only, rfl, rfl⟩ | ⟨several, rfl⟩ := accepted.single_or_several
    · exact ⟨_, grouped only⟩
    · obtain ⟨first, others, rfl⟩ := exists_cons_of_ne_nil accepted.filled
      rw [if_pos (decide_eq_true several), map_cons, flatMap_cons, grouped]
      exact ⟨_, by simp only [append_assoc, cons_append]; rfl⟩
  obtain ⟨rest, is⟩ := begins
  simp only [getGroupFromChannelId, is]
  rw [if_pos (found rest), takeWhile_grouped plain]

end Accepted

theorem map_singleId_inj {group' : Bytes} {ids' : List Bytes} (plain : 47 ∉ group)
    (plain' : 47 ∉ group') (filled : ids ≠ [])
    (free : ∀ id ∈ ids, redis → 25 ∉ groupedId group id)
    (free' : ∀ id ∈ ids', redis → 25 ∉ groupedId group' id)
    (same : ids.map (singleId redis group) = ids'.map (singleId redis group')) :
    group = group' ∧ ids = ids' := by
  induction ids generalizing ids' with
  | nil => exact absurd rfl filled
  | cons id ids ih =>
    cases ids' with
    | nil => cases same
    | cons id' ids' =>
      rw [forall_mem_cons] at free free'
      rw [map_cons, map_cons, List.cons.injEq] at same
      obtain ⟨rfl, rfl⟩ := singleId_inj plain plain' free.1 free'.1 same.1
      by_cases more : ids = []
      · subst more
        rw [map_eq_nil_iff.mp same.2.symm]
        exact ⟨rfl, rfl⟩
      · rw [(ih more free.2 free'.2 same.2).2]
        exact ⟨rfl, rfl⟩

theorem Accepted.unique {group' : Bytes} {ids' : List Bytes}
    (accepted : Accepted redis group ids id) (other : Accepted redis group' ids' id) :
    group = group' ∧ ids = ids' := by
  have multi : decide (1 < ids.length) = decide (1 < ids'.length) :=
    accepted.isMulti_eq.symm.trans other.isMulti_eq
  have lengths : 1 < ids.length ↔ 1 < ids'.length := decide_eq_decide.mp multi
  refine map_singleId_inj accepted.spec.1.2.1 other.spec.1.2.1 accepted.filled
    (fun _ => accepted.free) (fun _ => other.free) ?_
  obtain ⟨only, rfl, is⟩ | ⟨several, -⟩ := accepted.single_or_several
  · obtain ⟨only', rfl, is'⟩ | ⟨several', -⟩ := other.single_or_several
    · exact congrArg (fun id => [id]) (is.symm.trans is')
    · exact absurd (lengths.mpr several') (Nat.lt_irrefl 1)
  · have parsed := accepted.parseMultiId_eq
    rw [other.parseMultiId_eq, if_neg (Nat.ne_of_gt several),
      if_neg (Nat.ne_of_gt (lengths.mp several))] at parsed
    exact parsed.symm

theorem length_flatMap_groupedId (group sep : Bytes) (ids : List Bytes) (sz : Nat) :
    sz + (ids.flatMap fun id => groupedId group id ++ sep).length =
      ids.foldl (fun sz id => sz + (id.length + 1 + group.length)) sz + ids.length * sep.length := by
  induction ids generalizing sz with
  | nil => simp
  | cons id ids ih =>
    rw [foldl_cons, length_cons, Nat.succ_mul, ← Nat.add_assoc, ← ih]
    simp only [flatMap_cons, length_append, groupedId, length_cons]
    omega

theorem length_multiChannelId (group : Bytes) (ids : List Bytes) :
    (multiChannelId group ids).length = multiChannelIdSize group ids := by
  have whole (sep : Bytes) := length_flatMap_groupedId group sep ids 0
  unfold multiChannelId multiChannelIdSize
  split
  · rw [length_append, ← Nat.zero_add (List.length (List.flatMap ..)), whole]
    simp only [length_cons, length_nil]
    omega
  · rw [nil_append, ← Nat.zero_add (List.length _), whole]
    rfl

/-- An id is taken apart into the ids that it was made of, if there are several.  The id of a single
    channel is not one of several.  In the ids and in the group that is found each `}` is replaced
    for Redis. -/
theorem multi_channel_id_exact (redis : Bool) (group : Bytes) (ids : List Bytes) (id : Bytes)
    (accepted : Accepted redis group ids id) :
    parseMultiId id = (if ids.length = 1 then [] else ids.map (singleId redis group)) ∧
    countChannelId id = ids.length ∧
    (isMulti id = true ↔ 1 < ids.length) ∧
    (∀ group' ids', Accepted redis group' ids' id → group' = group ∧ ids' = ids) ∧
    getGroupFromChannelId id = some (noBrace redis group) ∧
    (∀ only ∈ ids, channelId redis group [only] = some (singleId redis group only) ∧
      getGroupFromChannelId (singleId redis group only) = some (noBrace redis group)) ∧
    id.length = multiChannelIdSize group ids := by
  refine ⟨accepted.parseMultiId_eq, accepted.countChannelId_eq, ?_, fun group' ids' other =>
    other.unique accepted, accepted.getGroupFromChannelId_eq, fun only listed => ?_, ?_⟩
  · rw [accepted.isMulti_eq, decide_eq_true_iff]
  · obtain ⟨⟨usable, plain, -⟩, -⟩ := accepted.spec
    have single : channelId redis group [only] = some (singleId redis group only) :=
      channelId_eq_some_iff.mpr ⟨⟨usable, plain, by
        rw [multiChannelId_singleton]
        exact accepted.free listed⟩, by rw [multiChannelId_singleton, singleId]⟩
    have alone : Accepted redis group [only] (singleId redis group only) :=
      ⟨single, cons_ne_nil _ _, accepted.plainGroup,
        forall_mem_singleton.mpr (accepted.plain only listed)⟩
    exact ⟨single, alone.getGroupFromChannelId_eq⟩
  · rw [← accepted.spec.2, noBrace, length_map, length_multiChannelId]

/-- Two channels `a}` and `b` of a group `g`, for Redis. -/
theorem multi_channel_id_exact_two :
    ∃ id, channelId true [103] [[97, 125], [98]] = some id ∧
      parseMultiId id = [[103, 47, 97, 25], [103, 47, 98]] := by
  have accepted : Accepted true [103] [[97, 125], [98]]
      [109, 47, 0, 103, 47, 97, 25, 0, 103, 47, 98, 0] := ⟨rfl, by decide, by decide, by decide⟩
  exact ⟨_, rfl, (multi_channel_id_exact true [103] [[97, 125], [98]] _ accepted).1⟩

/-- Nothing is found in the id of a single channel.  For Redis the group that is found need not be
    the one of the request, and without Redis another id may come out the same. -/
theorem single_id_not_parsed :
    (channelId false [103] [[97]] = some [103, 47, 97] ∧
      parseMultiId [103, 47, 97] ≠ [[103, 47, 97]]) ∧
    (channelId true [103, 125] [[97]] = some [103, 25, 47, 97] ∧
      getGroupFromChannelId [103, 25, 47, 97] ≠ some [103, 125]) ∧
    channelId true [103] [[97, 125]] = channelId false [103] [[97, 25]] := by
  decide

end Nchan.ChannelId
