import Nchan.ChannelId.MultiId

/-! # Asking for the subscribers of several channels

For an id of several channels `nchan_store_request_subscriber_info` goes through the ids that are in
it, but asks each time for the whole.
-/

namespace Nchan.Memstore.SubscriberInfo

open List ChannelId

inductive Rc where
  | ok | done | error | declined
  deriving DecidableEq

structure Workers (W : Type) where
  /-- `memstore_str_owner` -/
  strOwner : Bytes → W
  /-- The chanheads there are when an alert arrives. -/
  chanheads : W → Bytes → Bool
  /-- `publish_notice` alerts under way, each with its receiver. -/
  alerts : List (W × Bytes × Int) := []
  /-- Each `NCHAN_NOTICE_SUBSCRIBER_INFO_REQUEST` that a worker has broadcast to a channel. -/
  notices : List (W × Bytes × Int) := []
  /-- The `request_subscriber_info` scripts that were sent to Redis. -/
  scripts : List (Bytes × Int) := []

structure Surroundings where
  /-- Whether the messages of the chanhead's `cf` are distributed by Redis; `none` without a
      chanhead, or when it has no `cf`. -/
  chanhead : Option Bool
  nodesetFound : Bool := false
  nodesetReady : Bool := false
  /-- `nodeset_node_find_by_channel_id` -/
  nodeFound : Bool := false
  /-- There is shared memory for the id in the alert. -/
  copied : Bool := false
  /-- There is room in the queue of alerts, or memory for it. -/
  queued : Bool := false

variable {W : Type} [DecidableEq W]

/-- The channels for which the workers or Redis have been asked. -/
def Workers.asked (s : Workers W) : List (Bytes × Int) := s.notices.map (·.2) ++ s.scripts

/-- `memstore_channel_owner`. -/
def channelOwner (slot : W) (id : Bytes) (s : Workers W) : W :=
  if isMulti id then slot else s.strOwner id

/-- `nchan_store_request_subscriber_info` of the Redis store. -/
def redisRequest (id : Bytes) (requestId : Int) (env : Surroundings) (s : Workers W) :
    Workers W × Rc :=
  if isMulti id then (s, .error)
  else if !env.nodesetFound then (s, .error)
  else if !env.nodesetReady then (s, .error)
  else if !env.nodeFound then (s, .error)
  else ({ s with scripts := s.scripts ++ [(id, requestId)] }, .done)

/-- `memstore_ipc_send_publish_notice`. -/
def sendPublishNotice (dst : W) (id : Bytes) (requestId : Int) (env : Surroundings)
    (s : Workers W) : Workers W × Rc :=
  if !env.copied then (s, .declined)
  else if !env.queued then (s, .error)
  else ({ s with alerts := s.alerts ++ [(dst, id, requestId)] }, .ok)

/-- `nchan_store_request_subscriber_info_single_channel`. -/
def requestSingleChannel (slot : W) (id : Bytes) (requestId : Int) (env : Surroundings)
    (s : Workers W) : Workers W × Rc :=
  match env.chanhead with
  | none => (s, .error)
  | some true => redisRequest id requestId env s
  | some false =>
    if channelOwner slot id s = slot then
      ({ s with notices := s.notices ++ [(slot, id, requestId)] }, .ok)
    else sendPublishNotice (channelOwner slot id s) id requestId env s

/-- The loop of `nchan_store_request_subscriber_info`.  What is passed on is the id of all, not the
    one that it is at. -/
def requestEach (slot : W) (id : Bytes) (requestId : Int) :
    List Bytes → (Nat → Surroundings) → Workers W → Workers W × Rc
  | [], _, s => (s, .ok)
  | _ :: ids, env, s =>
    match requestSingleChannel slot id requestId (env 0) s with
    | (s, .ok) | (s, .done) => requestEach slot id requestId ids (fun turn => env (turn + 1)) s
    | failed => failed

/-- `nchan_store_request_subscriber_info`; `env` is what each turn of the loop finds. -/
def requestSubscriberInfo (slot : W) (id : Bytes) (requestId : Int) (env : Nat → Surroundings)
    (s : Workers W) : Workers W × Rc :=
  if isMulti id then requestEach slot id requestId (parseMultiId id) env s
  else requestSingleChannel slot id requestId (env 0) s

/-- `receive_publish_notice`. -/
def receive (s : Workers W) (alert : W × Bytes × Int) : Workers W :=
  if s.chanheads alert.1 alert.2.1 then { s with notices := s.notices ++ [alert] } else s

def deliverAll (s : Workers W) : Workers W := s.alerts.foldl receive { s with alerts := [] }

/-- A request for a single channel gets to where it is answered. -/
def reached (slot : W) (id : Bytes) (env : Surroundings) (s : Workers W) : Bool :=
  match env.chanhead with
  | none => false
  | some true => env.nodesetFound && env.nodesetReady && env.nodeFound
  | some false =>
    s.strOwner id = slot || env.copied && env.queued && s.chanheads (s.strOwner id) id

/-- The turns of the loop until one that finds no chanhead or one for Redis. -/
def turns (env : Nat → Surroundings) : Nat → Nat
  | 0 => 0
  | n + 1 =>
    if (env 0).chanhead = some false then turns (fun turn => env (turn + 1)) n + 1 else 0

section

variable (slot : W) {id : Bytes} (requestId : Int) (env : Nat → Surroundings) (s : Workers W)

theorem requestEach_multi (multi : isMulti id = true) (ids : List Bytes) :
    (requestEach slot id requestId ids env s).1 =
      { s with notices := s.notices ++
          replicate (turns env ids.length) (slot, id, requestId) } := by
  induction ids generalizing s env with
  | nil => simp [requestEach, turns]
  | cons _ ids ih =>
    rcases found : (env 0).chanhead with _ | _ | _ <;>
      simp [requestEach, requestSingleChannel, redisRequest, channelOwner, turns, found, multi, ih,
        replicate_succ]

theorem asked_single (env : Surroundings) (alone : isMulti id = false)
    (quiet : s.alerts = [] ∧ s.asked = []) :
    (deliverAll (requestSingleChannel slot id requestId env s).1).asked =
      if reached slot id env s then [(id, requestId)] else [] := by
  obtain ⟨strOwner, chanheads, alerts, notices, scripts⟩ := s
  obtain ⟨rfl, silent⟩ := quiet
  obtain ⟨rfl, rfl⟩ : notices = [] ∧ scripts = [] := by simpa [Workers.asked] using silent
  obtain ⟨_ | _ | _, found, ready, node, copied, queued⟩ := env
  · rfl
  · -- the worker answers itself, or the owner when it has the alert
    by_cases own : strOwner id = slot
    · simp [requestSingleChannel, channelOwner, alone, own, deliverAll, reached, Workers.asked]
    · cases copied <;> cases queued <;> cases has : chanheads (strOwner id) id <;>
        simp [requestSingleChannel, sendPublishNotice, channelOwner, alone, own, deliverAll,
          receive, reached, has, Workers.asked]
  · cases found <;> cases ready <;> cases node <;>
      simp [requestSingleChannel, redisRequest, alone, deliverAll, reached, Workers.asked]

/-- When all alerts are delivered, each of the channels has been asked once, and no other, if and
    only if it is a single one and the request gets there.  With several, it is their common channel
    that is asked, as often as there are channels if no turn fails. -/
theorem info_request_reaches_iff {redis : Bool} {group : Bytes} {ids : List Bytes}
    (accepted : Accepted redis group ids id) (quiet : s.alerts = [] ∧ s.asked = []) :
    ((deliverAll (requestSubscriberInfo slot id requestId env s).1).asked.Perm
        (ids.map fun only => (singleId redis group only, requestId)) ↔
      ids.length = 1 ∧ reached slot id (env 0) s) ∧
    (1 < ids.length → (deliverAll (requestSubscriberInfo slot id requestId env s).1).asked =
      replicate (turns env ids.length) (id, requestId)) := by
  have multi := accepted.isMulti_eq
  obtain ⟨usable, plain, -⟩ := accepted.spec.1
  obtain ⟨only, rfl, rfl⟩ | ⟨several, -⟩ := accepted.single_or_several
  · have alone : isMulti (singleId redis group only) = false := multi
    have asked := asked_single slot requestId s (env 0) alone quiet
    cases got : reached slot (singleId redis group only) (env 0) s <;>
      simp [requestSubscriberInfo, alone, asked, got]
  · rw [decide_eq_true several] at multi
    have asked : (deliverAll (requestSubscriberInfo slot id requestId env s).1).asked =
        replicate (turns env ids.length) (id, requestId) := by
      obtain ⟨none, silent⟩ := quiet
      obtain ⟨quiet, scripts⟩ : s.notices = [] ∧ s.scripts = [] := by
        simpa [Workers.asked] using silent
      simp [requestSubscriberInfo, requestEach_multi, multi, deliverAll, none, quiet, scripts,
        Workers.asked, accepted.parseMultiId_eq, Nat.ne_of_gt several]
    refine ⟨⟨fun perm => ?_, by omega⟩, fun _ => asked⟩
    -- the common channel is none of the channels
    obtain ⟨only, rest, rfl⟩ := exists_cons_of_length_pos (Nat.zero_lt_of_lt several)
    have is := eq_of_mem_replicate (asked ▸ perm.symm.subset (mem_map_of_mem mem_cons_self))
    rw [← (Prod.mk.inj is).1, isMulti_singleId usable plain] at multi
    cases multi

end

/-- Of two channels neither is asked, and one that another worker owns is. -/
theorem info_request_reaches_other :
    ¬ (deliverAll (requestSubscriberInfo false [109, 47, 0, 103, 47, 97, 0, 103, 47, 98, 0] 7
      (fun _ => { chanhead := some false })
      ⟨fun _ => true, fun w _ => w, [], [], []⟩).1).asked.Perm
        [([103, 47, 97], 7), ([103, 47, 98], 7)] ∧
    (deliverAll (requestSubscriberInfo false [103, 47, 97] 7
      (fun _ => { chanhead := some false, copied := true, queued := true })
      ⟨fun _ => true, fun w _ => w, [], [], []⟩).1).asked.Perm [([103, 47, 97], 7)] :=
  have two : Accepted false [103] [[97], [98]] [109, 47, 0, 103, 47, 97, 0, 103, 47, 98, 0] :=
    ⟨rfl, nofun, by decide, by decide⟩
  have one : Accepted false [103] [[97]] [103, 47, 97] := ⟨rfl, nofun, by decide, by decide⟩
  ⟨fun each =>
      absurd ((info_request_reaches_iff false 7 _ _ two ⟨rfl, rfl⟩).1.mp each).1 (by decide),
    (info_request_reaches_iff false 7 _ _ one ⟨rfl, rfl⟩).1.mpr (by decide)⟩

end Nchan.Memstore.SubscriberInfo
