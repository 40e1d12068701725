import Nchan.Memstore.GroupLists

/-! # What a worker does with a group's channels

For every local step: no assert fails, the list of own chanheads stays one, channels with
messages or subscribers are on it (`Sound`), and messages and subscribers do not vanish
or appear from nowhere (`Evolves`).
-/

namespace Nchan.Memstore.Groups

open Nchan.Lib List Option Worker

variable {W C : Type}

/-! ## What may happen to the channels of a worker -/

def Chanhead.items (ch : Chanhead C) : List Nat := ch.messages ++ ch.subscribers

/-- From `ws` to `ws'`, what is there of the old was there before, and subscribers go only by
    leaving or by being sent 410. -/
structure Evolves (ws ws' : Worker C) : Prop where
  serial : ws.serial ≤ ws'.serial
  old : ∀ c ch', ws'.chanheads c = some ch' → ∀ i ∈ ch'.items, i < ws.serial →
    ∃ ch, ws.chanheads c = some ch ∧ i ∈ ch.items
  log : ∃ new, ws'.log = ws.log ++ new ∧ ∀ c ch, ws.chanheads c = some ch →
    ∀ i ∈ ch.subscribers, (∃ ch', ws'.chanheads c = some ch' ∧ i ∈ ch'.subscribers) ∨
      .gone i ∈ new ∨ .left i ∈ new

namespace Evolves

theorem trans {ws₁ ws₂ ws₃ : Worker C} (first : Evolves ws₁ ws₂) (second : Evolves ws₂ ws₃) :
    Evolves ws₁ ws₃ := by
  refine ⟨Nat.le_trans first.serial second.serial, ?_, ?_⟩
  · intro c ch₃ its₃ i on old
    obtain ⟨ch₂, its₂, on₂⟩ := second.old c ch₃ its₃ i on (Nat.lt_of_lt_of_le old first.serial)
    exact first.old c ch₂ its₂ i on₂ old
  · obtain ⟨new, log, kept⟩ := first.log
    obtain ⟨new', log', kept'⟩ := second.log
    refine ⟨new ++ new', by rw [log', log, append_assoc], fun c ch its i on => ?_⟩
    simp only [mem_append]
    rcases kept c ch its i on with ⟨ch₂, its₂, on₂⟩ | gone | left
    · rcases kept' c ch₂ its₂ i on₂ with still | gone | left
      · exact .inl still
      · exact .inr (.inl (.inr gone))
      · exact .inr (.inr (.inr left))
    · exact .inr (.inl (.inl gone))
    · exact .inr (.inr (.inl left))

end Evolves

variable {ws ws' : Worker C} {c : C} {ch ch' : Chanhead C}

theorem Relinked.same (relinked : Relinked ws ws') (its : ws.chanheads c = some ch) :
    ∃ ch', ws'.chanheads c = some ch' ∧
      ch'.unlinked = ch.unlinked := by
  have content := relinked.content c
  rw [its, map_some] at content
  exact map_eq_some_iff.mp content

theorem Relinked.symm (relinked : Relinked ws ws') : Relinked ws' ws :=
  ⟨fun c => (relinked.content c).symm, relinked.serial.symm, relinked.log.symm⟩

theorem items_of_unlinked (same : ch'.unlinked = ch.unlinked) :
    ch'.items = ch.items ∧ ch'.subscribers = ch.subscribers := by
  have messages := congrArg Chanhead.messages same
  have subscribers := congrArg Chanhead.subscribers same
  exact ⟨congrArg₂ (· ++ ·) messages subscribers, subscribers⟩

theorem Relinked.evolves (relinked : Relinked ws ws') : Evolves ws ws' := by
  refine ⟨Nat.le_of_eq relinked.serial.symm, fun c ch' its' i on _ => ?_, [],
    by simp [relinked.log], ?_⟩
  · obtain ⟨ch, its, same⟩ := relinked.symm.same its'
    exact ⟨ch, its, (items_of_unlinked same).1 ▸ on⟩
  · intro c ch its i on
    obtain ⟨ch', its', same⟩ := relinked.same its
    exact .inl ⟨ch', its', (items_of_unlinked same).2 ▸ on⟩

/-! ## Workers in good order -/

/-- The own chanheads are `cells`, and only they have messages and subscribers. -/
structure Owned (layout : Layout W C) (w : W) (ws : Worker C) (cells : List C) : Prop where
  lists : Lists layout w ws cells
  few : cells.length ≤ ws.serial
  hasNode : ∀ c ch, ws.chanheads c = some ch → ws.node.isSome
  content : ∀ c ch, ws.chanheads c = some ch → layout.multi c = false → c ∉ cells → ch.items = []
  past : ∀ c ch, ws.chanheads c = some ch → ∀ i ∈ ch.items, i < ws.serial

/-- Nothing waits for a group that is there, the group's owner has it, and so what waits is
    not the owner's. -/
structure NodeSound (layout : Layout W C) (w : W) (node : GroupNode C) : Prop where
  called : node.group = true → node.whenReady = []
  owner : w = layout.groupOwner → node.group = true
  foreign : ∀ owned, .groupDelete owned ∈ node.whenReady → owned = false

structure Sound (layout : Layout W C) (w : W) (ws : Worker C) : Prop where
  owned : ∃ cells, Owned layout w ws cells
  node : ∀ node, ws.node = some node → NodeSound layout w node

theorem Sound.new (layout : Layout W C) (w : W) : Sound layout w (Worker.new C) where
  owned := ⟨[], ⟨DList.empty _ _, by simp, by simp [Worker.new, Worker.next],
    by simp [Worker.new, Worker.prev]⟩, by simp, nofun, nofun, nofun⟩
  node := nofun

variable {layout : Layout W C} {w : W}

theorem Owned.sound {node : GroupNode C} {cells : List C}
    (owned : Owned layout w ws cells) (its : ws.node = some node)
    (sound : NodeSound layout w node) : Sound layout w ws :=
  ⟨⟨cells, owned⟩, fun _ its' => some.inj (its.symm.trans its') ▸ sound⟩

/-- No channel of the group has messages or subscribers here. -/
def Worker.Emptied (layout : Layout W C) (ws : Worker C) : Prop :=
  ∀ c ch, ws.chanheads c = some ch → layout.multi c = false → ch.items = []

/-- The channels that the worker owns are deleted by the memstore: none is distributed by Redis, and
    a backup is ready. -/
def Worker.InMemory (layout : Layout W C) (w : W) (ws : Worker C) : Prop :=
  ∀ c ch, ws.chanheads c = some ch → layout.channelOwner c = w →
    ch.storage = .memory ∨ ch.storage = .backup true

/-- A deletion of the group waits for the group. -/
def Worker.Pending (ws : Worker C) : Prop :=
  ∃ node owned, ws.node = some node ∧ .groupDelete owned ∈ node.whenReady

/-- What every step of a worker does that it takes by itself or on an alert. -/
structure StepOk (layout : Layout W C) (w : W) (ws ws' : Worker C) (out : Out W Alert) : Prop where
  sound : Sound layout w ws'
  evolves : Evolves ws ws'
  waits : ∀ node', ws'.node = some node' → node'.group = false →
    (∃ node, ws.node = some node ∧ node.group = false) ∨ .getGroup ∈ out layout.groupOwner
  pending : ws.Pending → ws'.Pending ∨ ∀ j ≠ w, .groupDelete ∈ out j
  getGroup : ∀ j, .getGroup ∈ out j → j = layout.groupOwner ∧ w ≠ layout.groupOwner
  group : ∀ j, .group ∈ out j → w = layout.groupOwner ∧ j ≠ layout.groupOwner

namespace StepOk

theorem trans {ws₁ ws₂ ws₃ : Worker C} {out out' : Out W Alert}
    (first : StepOk layout w ws₁ ws₂ out) (second : StepOk layout w ws₂ ws₃ out') :
    StepOk layout w ws₁ ws₃ (out.andThen out') where
  sound := second.sound
  evolves := first.evolves.trans second.evolves
  waits := by
    intro node its missing
    rw [Out.mem_andThen]
    rcases second.waits node its missing with ⟨node₂, its₂, missing₂⟩ | asked
    · exact (first.waits node₂ its₂ missing₂).imp_right .inl
    · exact .inr (.inr asked)
  pending := by
    intro pending
    rcases first.pending pending with still | told
    · exact (second.pending still).imp_right fun told j other =>
        Out.mem_andThen.mpr (.inr (told j other))
    · exact .inr fun j other => Out.mem_andThen.mpr (.inl (told j other))
  getGroup := fun j on => (Out.mem_andThen.mp on).elim (first.getGroup j) (second.getGroup j)
  group := fun j on => (Out.mem_andThen.mp on).elim (first.group j) (second.group j)

theorem quiet (sound : Sound layout w ws') (evolves : Evolves ws ws')
    (same : ∀ node', ws'.node = some node' → ∃ node, ws.node = some node ∧
      node'.group = node.group ∧ node'.whenReady = node.whenReady)
    (kept : ws.node.isSome → ws'.node.isSome) : StepOk layout w ws ws' Out.none where
  sound := sound
  evolves := evolves
  waits := by
    intro node' its missing
    obtain ⟨node, its, group, _⟩ := same node' its
    exact .inl ⟨node, its, group ▸ missing⟩
  pending := by
    rintro ⟨node, owned, its, on⟩
    obtain ⟨node', its'⟩ := isSome_iff_exists.mp (kept (by simp [its]))
    obtain ⟨node₀, its₀, _, whenReady⟩ := same node' its'
    obtain rfl : node = node₀ := some.inj (its.symm.trans its₀)
    exact .inl ⟨node', owned, its', whenReady ▸ on⟩
  getGroup := by simp
  group := by simp

theorem refl (sound : Sound layout w ws) : StepOk layout w ws ws Out.none :=
  quiet sound (Relinked.refl ws).evolves (fun node its => ⟨node, its, rfl, rfl⟩) id

theorem tell [DecidableEq W] (step : StepOk layout w ws ws' Out.none) :
    StepOk layout w ws ws' (Out.broadcast w .groupDelete) where
  sound := step.sound
  evolves := step.evolves
  waits := fun node its missing => .inl ((step.waits node its missing).resolve_right (by simp))
  pending := fun _ => .inr fun j other => by simp [other]
  getGroup := by simp
  group := by simp

end StepOk

variable {node : GroupNode C}

theorem Sound.not_pending (sound : Sound layout w ws) (its : ws.node = some node)
    (there : node.group = true) : ¬ ws.Pending := by
  rintro ⟨node', owned, its', on⟩
  obtain rfl : node = node' := some.inj (its.symm.trans its')
  rw [(sound.node node its).called there] at on
  simp at on

variable {cells : List C}

theorem Owned.setNode (owned : Owned layout w ws cells) (head : node.ownedChanheadHead = ws.head) :
    Owned layout w (ws.setNode node) cells where
  lists := ⟨by rw [Worker.head, setNode_node, bind_some, head]; exact owned.lists.list,
    owned.lists.own, owned.lists.offNext, owned.lists.offPrev⟩
  few := owned.few
  hasNode := fun _ _ _ => rfl
  content := owned.content
  past := owned.past

variable [DecidableEq C]

theorem Lists.set (lists : Lists layout w ws cells) (its : ws.chanheads c = some ch)
    (next : ch'.groupnodeNext = ch.groupnodeNext) (prev : ch'.groupnodePrev = ch.groupnodePrev) :
    Lists layout w (ws.set c ch') cells := by
  have sameNext := set_next_eq its next
  have samePrev := set_prev_eq its prev
  constructor
  · rw [sameNext, samePrev]
    exact lists.list
  · exact lists.own
  · rw [sameNext]
    exact lists.offNext
  · rw [samePrev]
    exact lists.offPrev

/-! ## Deleting the own channels -/

variable [DecidableEq W]

theorem Evolves.cleared (its : ws.chanheads c = some ch) (empty : ch'.items = []) :
    Evolves ws { ws.set c ch' with log := ws.log ++ ch.subscribers.map .gone } := by
  refine ⟨Nat.le_refl _, fun d chd itsD i on _ => ?_, _, rfl, fun d chd itsD i on => ?_⟩
  · rcases set_cases itsD with ⟨-, rfl⟩ | ⟨-, itsD⟩
    · simp [empty] at on
    · exact ⟨chd, itsD, on⟩
  · by_cases here : d = c
    · obtain rfl : ch = chd := by
        rw [here, its] at itsD
        exact some.inj itsD
      exact .inr (.inl (mem_map_of_mem on))
    · refine .inl ⟨chd, ?_, on⟩
      have elsewhere : (ws.set c ch').chanheads d = ws.chanheads d := by
        rw [set_chanheads, if_neg here]
      exact elsewhere.trans itsD

theorem deleteFirst_spec (lists : Lists layout w ws (c :: cells)) (isNode : ws.node = some node)
    (inMemory : ws.InMemory layout w) :
    ∃ ws₁ ws', memstoreGroupDissociateOwnChannel layout w c ws = some ws₁ ∧
      nchanStoreDeleteSingleChannelId layout w c ws₁ = some ws' ∧ ws'.InMemory layout w ∧
      Lists layout w ws' cells ∧ Evolves ws ws' ∧ ws'.serial = ws.serial ∧
      ws'.node = some { node with ownedChanheadHead := cells.head? } ∧
      ∀ d ch', ws'.chanheads d = some ch' →
        (d = c ∧ ch'.items = []) ∨
        (d ≠ c ∧ ∃ ch, ws.chanheads d = some ch ∧ ch'.items = ch.items) := by
  obtain ⟨node', ws₁, isNode', dissociated, lists₁, relinked, node₁⟩ :=
    dissociate_linked (show Lists layout w ws ([] ++ c :: cells) from lists)
  obtain rfl : node' = node := by
    rw [isNode] at isNode'
    exact (some.inj isNode').symm
  obtain ⟨ch, its⟩ := isSome_iff_exists.mp (lists.created mem_cons_self)
  obtain ⟨ch₁, its₁, _⟩ := relinked.same its
  -- the links say nothing about where a channel is stored
  have inMemory₁ : ws₁.InMemory layout w := by
    intro d chd itsD own
    obtain ⟨chd₀, itsD₀, same⟩ := relinked.symm.same itsD
    have stored := inMemory d chd₀ itsD₀ own
    rwa [show chd₀.storage = _ from congrArg (·.storage) same] at stored
  have own := (lists.own c mem_cons_self).2
  let ws' := { ws₁.set c { ch₁ with subscribers := [], messages := [], inGcQueue := true } with
    log := ws₁.log ++ ch₁.subscribers.map Event.gone }
  have deleted : nchanStoreDeleteSingleChannelId layout w c ws₁ = some ws' := by
    have forced : nchanMemstoreForceDeleteChannel layout w c ws₁ = some ws' := by
      rw [nchanMemstoreForceDeleteChannel, if_pos own, its₁]
    rw [nchanStoreDeleteSingleChannelId, its₁, map_some]
    rcases inMemory₁ c ch₁ its₁ own with storage | storage <;> rw [storage] <;> exact forced
  refine ⟨ws₁, ws', dissociated, deleted, ?_, ?_, ?_, relinked.serial, node₁, ?_⟩
  · intro d chd itsD ownD
    rcases set_cases itsD with ⟨-, rfl⟩ | ⟨-, itsD⟩
    · exact inMemory₁ c ch₁ its₁ own
    · exact inMemory₁ d chd itsD ownD
  · have set : Lists layout w (ws₁.set c { ch₁ with
        subscribers := [], messages := [], inGcQueue := true }) cells := lists₁.set its₁ rfl rfl
    exact ⟨set.list, set.own, set.offNext, set.offPrev⟩
  · exact relinked.evolves.trans (.cleared its₁ rfl)
  · intro d ch' itsD
    rcases set_cases itsD with ⟨here, rfl⟩ | ⟨other, itsD⟩
    · exact .inl ⟨here, rfl⟩
    · obtain ⟨chd, itsD', same⟩ := relinked.symm.same itsD
      exact .inr ⟨other, chd, itsD', (items_of_unlinked same).1.symm⟩

theorem deleteOwned_spec {fuel : Nat} (lists : Lists layout w ws cells)
    (isNode : ws.node = some node) (inMemory : ws.InMemory layout w) (enough : cells.length ≤ fuel) :
    ∃ ws', deleteOwned layout w fuel ws = some ws' ∧ Lists layout w ws' [] ∧ Evolves ws ws' ∧
      ws'.serial = ws.serial ∧ ws'.node = some { node with ownedChanheadHead := none } ∧
      ∀ d ch', ws'.chanheads d = some ch' →
        ch'.items = [] ∨ (d ∉ cells ∧ ∃ ch, ws.chanheads d = some ch ∧ ch'.items = ch.items) := by
  -- each round unlinks the head, so fuel for the length of the list is enough
  induction cells generalizing ws node fuel with
  | nil =>
    have head : node.ownedChanheadHead = none := by
      have := lists.list.first_eq
      rwa [Worker.head, isNode, bind_some] at this
    refine ⟨ws, ?_, lists, (Relinked.refl ws).evolves, rfl, ?_, ?_⟩
    · unfold deleteOwned
      rw [isNode, bind_some, head]
    · rw [isNode, ← head]
    · exact fun d ch' its => .inr ⟨by simp, ch', its, rfl⟩
  | cons c cells ih =>
    obtain ⟨fuel, rfl⟩ : ∃ k, fuel = k + 1 := ⟨fuel - 1, by simp at enough; omega⟩
    have head : node.ownedChanheadHead = some c := by
      have := lists.list.first_eq
      rwa [Worker.head, isNode, bind_some] at this
    obtain ⟨ws₁, ws₂, dissociated, deleted, inMemory₂, lists₂, evolves, serial, node₂, items⟩ :=
      deleteFirst_spec lists isNode inMemory
    obtain ⟨ws', rest, lists', evolves', serial', node', items'⟩ :=
      ih lists₂ node₂ inMemory₂ (by simpa using enough)
    refine ⟨ws', ?_, lists', evolves.trans evolves', serial'.trans serial, node', ?_⟩
    · unfold deleteOwned
      rw [isNode, bind_some, head]
      simp only [dissociated, deleted, bind_eq_bind, bind_some]
      exact rest
    · intro d ch' its
      rcases items' d ch' its with empty | ⟨off, ch₂, its₂, same⟩
      · exact .inl empty
      · rcases items d ch₂ its₂ with ⟨_, empty⟩ | ⟨other, ch, its, same'⟩
        · exact .inl (same.trans empty)
        · exact .inr ⟨by simp [other, off], ch, its, same.trans same'⟩

variable (sound : Sound layout w ws)

include sound

theorem receiveDelete_ok (notPending : ¬ ws.Pending) (inMemory : ws.InMemory layout w) :
    ∃ ws', memstoreGroupReceiveDelete layout w ws = some ws' ∧ StepOk layout w ws ws' Out.none ∧
      ws'.Emptied layout := by
  obtain ⟨cells, owned⟩ := sound.owned
  unfold memstoreGroupReceiveDelete
  cases its : ws.node with
  | none =>
    refine ⟨ws, rfl, .refl sound, fun c ch itsC => ?_⟩
    have := owned.hasNode c ch itsC
    simp [its] at this
  | some node =>
    have head : node.ownedChanheadHead = ws.head := by simp [Worker.head, its]
    have called : Owned layout w (ws.setNode { node with whenReady := [] }) cells :=
      owned.setNode head
    obtain ⟨ws', deleted, lists, evolves, serial, node', items⟩ :=
      deleteOwned_spec called.lists rfl inMemory owned.few
    have emptied : ws'.Emptied layout := by
      intro c ch' itsC notMulti
      rcases items c ch' itsC with empty | ⟨off, ch, itsC, same⟩
      · exact empty
      · rw [same]
        exact owned.content c ch itsC notMulti off
    have owned' : Owned layout w ws' [] := by
      refine ⟨lists, Nat.zero_le _, fun _ _ _ => by simp [node'],
        fun c ch' itsC notMulti _ => emptied c ch' itsC notMulti, fun c ch' itsC i on => ?_⟩
      rcases items c ch' itsC with empty | ⟨off, ch, itsC, same⟩
      · simp [empty] at on
      · rw [serial]
        exact owned.past c ch itsC i (same ▸ on)
    have sound' := owned'.sound node' ⟨fun _ => rfl, (sound.node node its).owner, by simp⟩
    refine ⟨ws', deleted, ⟨sound', (Relinked.setNode ws _).evolves.trans evolves, ?_,
      fun pending => absurd pending notPending, by simp, by simp⟩, emptied⟩
    intro n isNode missing
    obtain rfl : _ = n := some.inj (node'.symm.trans isNode)
    exact .inl ⟨node, its, missing⟩

/-! ## Finding the group -/

omit [DecidableEq C] in
theorem groupnodeGet_ok :
    ∃ ws' out, memstoreGroupnodeGet layout w ws = (ws', out) ∧ StepOk layout w ws ws' out ∧
      ws'.chanheads = ws.chanheads ∧ ws'.node.isSome := by
  obtain ⟨cells, owned⟩ := sound.owned
  unfold memstoreGroupnodeGet
  cases its : ws.node with
  | some node => exact ⟨ws, Out.none, rfl, .refl sound, rfl, by simp [its]⟩
  | none =>
    have head : ws.head = none := by simp [Worker.head, its]
    have notPending : ¬ ws.Pending := by
      rintro ⟨node, _, its', _⟩
      simp [its] at its'
    by_cases owner : w = layout.groupOwner
    · refine ⟨_, _, if_pos owner,
        ⟨(owned.setNode head.symm).sound rfl ⟨fun _ => rfl, fun _ => rfl, by simp⟩,
          (Relinked.setNode ws _).evolves, ?_, fun pending => absurd pending notPending, by simp, ?_⟩,
        rfl, rfl⟩
      · rintro node isNode missing
        cases isNode
        simp at missing
      · intro j on
        exact ⟨owner, owner ▸ (Out.mem_broadcast.mp on).1⟩
    · exact ⟨_, _, if_neg owner,
        ⟨(owned.setNode head.symm).sound rfl ⟨by simp, fun same => absurd same owner, by simp⟩,
          (Relinked.setNode ws _).evolves, fun _ _ _ => .inr (by simp),
          fun pending => absurd pending notPending, fun j on => ⟨(Out.mem_send.mp on).1, owner⟩,
          by simp⟩,
        rfl, rfl⟩

omit [DecidableEq C] in
theorem addWhenready_ok (its : ws.node = some node)
    (missing : node.group = false) (now : Int) {cb : Callback}
    (notOwned : ∀ owned, cb = .groupDelete owned → owned = false) :
    ∃ node' out, addWhenreadyCallback layout now cb node = (node', out) ∧
      StepOk layout w ws (ws.setNode node') out ∧
      node'.whenReady = node.whenReady ++ [cb] ∧ node'.ownedChanheadHead = node.ownedChanheadHead := by
  obtain ⟨cells, owned⟩ := sound.owned
  have foreign : w ≠ layout.groupOwner := fun same => by
    simp [(sound.node node its).owner same] at missing
  -- all that matters of the node is the same with and without asking again
  have ok : ∀ node' (out : Out W Alert), node'.group = false →
      node'.whenReady = node.whenReady ++ [cb] → node'.ownedChanheadHead = node.ownedChanheadHead →
      (∀ j a, a ∈ out j → j = layout.groupOwner ∧ a = .getGroup) →
      StepOk layout w ws (ws.setNode node') out := by
    intro node' out missing' whenReady head asks
    refine ⟨(owned.setNode (by rw [head]; simp [Worker.head, its])).sound rfl ?_,
      (Relinked.setNode ws _).evolves, ?_, ?_, ?_, ?_⟩
    · refine ⟨by simp [missing'], fun same => absurd same foreign, fun owned on => ?_⟩
      rw [whenReady, mem_append, mem_singleton] at on
      exact on.elim ((sound.node node its).foreign owned) fun same => notOwned owned same.symm
    · exact fun _ _ _ => .inl ⟨node, its, missing⟩
    · rintro ⟨node₀, d, its₀, on⟩
      obtain rfl : node = node₀ := some.inj (its.symm.trans its₀)
      exact .inl ⟨node', d, rfl, by simp [whenReady, on]⟩
    · exact fun j on => ⟨(asks j _ on).1, foreign⟩
    · intro j on
      cases (asks j _ on).2
  unfold addWhenreadyCallback
  dsimp only
  split
  · exact ⟨_, _, rfl, ok _ _ missing rfl rfl (by simp), rfl, rfl⟩
  · exact ⟨_, _, rfl, ok _ _ missing rfl rfl (by simp), rfl, rfl⟩

theorem find_ok (hasNode : ws.node.isSome) (now : Int) :
    ∃ ws' out, memstoreGroupFindFromGroupnode layout w now .groupFind ws = some (ws', out) ∧
      StepOk layout w ws ws' out ∧ ws'.chanheads = ws.chanheads ∧ ws'.node.isSome ∧
      ws'.head = ws.head := by
  obtain ⟨node, its⟩ := isSome_iff_exists.mp hasNode
  cases there : node.group with
  | true =>
    exact ⟨ws, Out.none, by simp [memstoreGroupFindFromGroupnode, its, there, callback],
      .refl sound, rfl, hasNode, rfl⟩
  | false =>
    obtain ⟨node', out, added, step, _, head⟩ := addWhenready_ok sound its there now
      (show ∀ owned, Callback.groupFind = .groupDelete owned → owned = false from nofun)
    refine ⟨ws.setNode node', out, ?_, step, rfl, rfl, ?_⟩
    · simp [memstoreGroupFindFromGroupnode, its, there, added]
    · simp [Worker.head, its, head]

theorem delete_ok (now : Int) (inMemory : w = layout.groupOwner → ws.InMemory layout w) :
    ∃ ws' out, memstoreGroupDelete layout w now ws = some (ws', out) ∧ StepOk layout w ws ws' out ∧
      ((∀ j ≠ w, .groupDelete ∈ out j) ∨ ws'.Pending) ∧
      (w = layout.groupOwner → ws'.Emptied layout) := by
  obtain ⟨ws₁, asked, got, step₁, same, hasNode⟩ := groupnodeGet_ok sound
  obtain ⟨node, its⟩ := isSome_iff_exists.mp hasNode
  have told : ∀ j ≠ w, Alert.groupDelete ∈ asked.andThen (Out.broadcast w .groupDelete) j := by
    intro j other
    simp [other]
  unfold memstoreGroupDelete memstoreGroupFind memstoreGroupFindFromGroupnode
  simp only [got, its, bind_eq_bind, bind_some]
  cases there : node.group with
  | true =>
    -- only the owner deletes here, but everyone else is told
    have notPending := step₁.sound.not_pending its there
    simp only [if_true, callback]
    by_cases owner : w = layout.groupOwner
    · have inMemory₁ : ws₁.InMemory layout w := by
        rw [Worker.InMemory, same]
        exact inMemory owner
      obtain ⟨ws', deleted, step, emptied⟩ := receiveDelete_ok step₁.sound notPending inMemory₁
      refine ⟨ws', _, ?_, step₁.trans step.tell, .inl told, fun _ => emptied⟩
      simp [decide_eq_true owner, deleted]
    · refine ⟨ws₁, _, ?_, step₁.trans (StepOk.refl step₁.sound).tell, .inl told,
        fun same => absurd same owner⟩
      simp [decide_eq_false owner]
  | false =>
    -- the owner has the group, so it never waits
    have foreign : w ≠ layout.groupOwner := fun same => by
      simp [(step₁.sound.node node its).owner same] at there
    have notOwned : ∀ owned, Callback.groupDelete (w = layout.groupOwner) = .groupDelete owned →
        owned = false := by
      rintro _ ⟨⟩
      exact decide_eq_false foreign
    obtain ⟨node', out, added, step, whenReady, _⟩ :=
      addWhenready_ok step₁.sound its there now notOwned
    have waiting : Callback.groupDelete (w = layout.groupOwner) ∈ node'.whenReady := by
      rw [whenReady]
      exact mem_append_right _ mem_cons_self
    refine ⟨ws₁.setNode node', _, ?_, step₁.trans step, .inr ⟨node', _, rfl, waiting⟩,
      fun same => absurd same foreign⟩
    simp [added]

end Nchan.Memstore.Groups
