import Nchan.Memstore.GroupWorkers

/-! # Alerts and channels of a group: the steps of one worker -/

namespace Nchan.Memstore.Groups

open Nchan.Lib List Option Worker

variable {W C : Type} [DecidableEq W] [DecidableEq C] {layout : Layout W C} {w : W}

/-! ## Alerts -/

theorem callWhenready_spec {cbs : List Callback} (ws : Worker C)
    (foreign : ∀ owned, .groupDelete owned ∈ cbs → owned = false) :
    ∃ out, callWhenreadyCallbacks layout w cbs ws = some (ws, out) ∧
      (∀ j a, a ∈ out j → a = .groupDelete) ∧
      ∀ owned, .groupDelete owned ∈ cbs → ∀ j ≠ w, .groupDelete ∈ out j := by
  induction cbs with
  | nil => exact ⟨Out.none, rfl, by simp, by simp⟩
  | cons cb cbs ih =>
    obtain ⟨out, called, only, told⟩ := ih fun owned on => foreign owned (mem_cons_of_mem cb on)
    cases cb with
    | groupFind =>
      refine ⟨Out.none.andThen out, by simp [callWhenreadyCallbacks, callback, called], ?_, ?_⟩
      · exact fun j a on => only j a (by simpa using on)
      · intro owned on j other
        simpa using told owned (by simpa using on) j other
    | groupDelete owned =>
      obtain rfl := foreign owned mem_cons_self
      refine ⟨(Out.broadcast w .groupDelete).andThen out, ?_, ?_, ?_⟩
      · simp [callWhenreadyCallbacks, callback, called]
      · intro j a on
        cases Out.mem_andThen.mp on with
        | inl here => exact (Out.mem_broadcast.mp here).2
        | inr later => exact only j a later
      · intro _ _ j other
        simp [other]

variable {ws ws' : Worker C}

theorem groupReceive_ok (sound : Sound layout w ws) (foreign : w ≠ layout.groupOwner) :
    ∃ ws' out, memstoreGroupReceive layout w ws = some (ws', out) ∧ StepOk layout w ws ws' out ∧
      ∃ node, ws'.node = some node ∧ node.group = true := by
  obtain ⟨cells, owned⟩ := sound.owned
  -- in both cases the node is replaced by one that has the group and nothing waiting
  have ok : ∀ node' (out : Out W Alert), node'.group = true → node'.whenReady = [] →
      node'.ownedChanheadHead = ws.head → (∀ j a, a ∈ out j → a = .groupDelete) →
      (ws.Pending → ∀ j ≠ w, .groupDelete ∈ out j) →
      StepOk layout w ws (ws.setNode node') out := by
    intro node' out there called head only told
    refine ⟨(owned.setNode head).sound rfl ⟨fun _ => called, fun _ => there, by simp [called]⟩,
      (Relinked.setNode ws _).evolves, ?_, fun pending => .inr (told pending), ?_, ?_⟩
    · intro n isNode missing
      obtain rfl : node' = n := some.inj isNode
      simp [there] at missing
    · exact fun j on => nomatch only j _ on
    · exact fun j on => nomatch only j _ on
  unfold memstoreGroupReceive
  rw [if_neg foreign]
  cases its : ws.node with
  | none =>
    refine ⟨_, _, rfl, ok _ _ rfl rfl (by simp [Worker.head, its]) (by simp) ?_, _, rfl, rfl⟩
    rintro ⟨node, _, its', _⟩
    simp [its] at its'
  | some node =>
    obtain ⟨out, called, only, told⟩ : ∃ out, callWhenreadyCallbacks layout w node.whenReady
        (ws.setNode { node with group := true, gettingGroup := 0 }) = some (_, out) ∧ _ :=
      callWhenready_spec _ (sound.node node its).foreign
    refine ⟨ws.setNode { node with group := true, gettingGroup := 0, whenReady := [] }, out, ?_,
      ok _ _ rfl rfl (by simp [Worker.head, its]) only ?_, _, rfl, rfl⟩
    · simp only [called, bind_eq_bind, bind_some, Worker.setNode_node, map_some]
      rfl
    · rintro ⟨node', d, its', on⟩
      obtain rfl : node = node' := some.inj (its.symm.trans its')
      exact told d on

omit [DecidableEq C] in
theorem receiveGetGroup_ok {sender : W} (sound : Sound layout w ws) (owner : w = layout.groupOwner)
    (foreign : sender ≠ layout.groupOwner) :
    ∃ ws' out, receiveGetGroup layout sender w ws = some (ws', out) ∧ StepOk layout w ws ws' out ∧
      .group ∈ out sender := by
  unfold receiveGetGroup
  rw [if_pos owner]
  cases its : ws.node with
  | some node =>
    refine ⟨ws, _, rfl, ⟨sound, (Relinked.refl ws).evolves, ?_, .inl, by simp, ?_⟩, by simp⟩
    · exact fun node its missing => .inl ⟨node, its, missing⟩
    · intro j on
      exact ⟨owner, (Out.mem_send.mp on).1 ▸ foreign⟩
  | none =>
    obtain ⟨ws', out, got, step, _, _⟩ := groupnodeGet_ok sound
    refine ⟨ws', out, congrArg some got, step, ?_⟩
    rw [memstoreGroupnodeGet, its] at got
    simp only [if_pos owner, Prod.mk.injEq] at got
    rw [← got.2]
    simp [owner, foreign]

/-! ## Channels -/

variable {cells : List C} {c : C} {ch : Chanhead C}

section Lists

omit [DecidableEq W]

theorem Lists.update {its : Option (Chanhead C)} (lists : Lists layout w ws cells) (off : c ∉ cells)
    (node : ws'.node = ws.node) (chanheads : ws'.chanheads = Function.update ws.chanheads c its)
    (next : ∀ ch, its = some ch → ch.groupnodeNext = none)
    (prev : ∀ ch, its = some ch → ch.groupnodePrev = none) : Lists layout w ws' cells := by
  have head : ws'.head = ws.head := by rw [Worker.head, node, Worker.head]
  have elsewhere : ∀ d, d ≠ c → ws'.chanheads d = ws.chanheads d := by
    intro d other
    rw [chanheads, Function.update_of_ne other]
  have apart : ∀ d ∈ cells, d ≠ c := fun d on same => off (same ▸ on)
  have here : ws'.chanheads c = its := by rw [chanheads, Function.update_self]
  refine ⟨?_, lists.own, ?_, ?_⟩
  · rw [head]
    refine lists.list.frame (fun d on => ?_) (fun d on => ?_)
    · rw [Worker.next, elsewhere d (apart d on), Worker.next]
    · rw [Worker.prev, elsewhere d (apart d on), Worker.prev]
  · intro d away n nexts
    by_cases same : d = c
    · obtain ⟨ch, itsC, nexts⟩ := map_eq_some_iff.mp nexts
      rw [same, here] at itsC
      exact nexts.symm.trans (next ch itsC)
    · rw [Worker.next, elsewhere d same] at nexts
      exact lists.offNext d away n nexts
  · intro d away p prevs
    by_cases same : d = c
    · obtain ⟨ch, itsC, prevs⟩ := map_eq_some_iff.mp prevs
      rw [same, here] at itsC
      exact prevs.symm.trans (prev ch itsC)
    · rw [Worker.prev, elsewhere d same] at prevs
      exact lists.offPrev d away p prevs

/-- A chanhead is on the list: it is the first, or has one before it. -/
def Worker.Linked (ws : Worker C) (c : C) : Prop :=
  ws.head = some c ∨ ∃ p, ws.prev c = some (some p)

omit [DecidableEq C] in
theorem Lists.mem_of_linked (lists : Lists layout w ws cells) (linked : ws.Linked c) :
    c ∈ cells := by
  cases linked with
  | inl first => exact mem_of_head? (lists.list.first_eq.symm.trans first)
  | inr before =>
    obtain ⟨p, before⟩ := before
    by_contra off
    exact nomatch lists.offPrev c off _ before

theorem edit_ok (ch' : Chanhead C) (serial : Nat) (new : List Event) (sound : Sound layout w ws)
    (its : ws.chanheads c = some ch)
    (edited : ws' = { ws.set c ch' with serial := serial, log := ws.log ++ new })
    (next : ch'.groupnodeNext = ch.groupnodeNext) (prev : ch'.groupnodePrev = ch.groupnodePrev)
    (grows : ws.serial ≤ serial)
    (allowed : layout.multi c = false → (ch.items = [] → ch'.items = []) ∨ ws.Linked c)
    (past : ∀ i ∈ ch'.items, i < serial) (old : ∀ i ∈ ch'.items, i < ws.serial → i ∈ ch.items)
    (gone : ∀ i ∈ ch.subscribers, i ∈ ch'.subscribers ∨ .gone i ∈ new ∨ .left i ∈ new) :
    StepOk layout w ws ws' Out.none := by
  subst edited
  obtain ⟨cells, owned⟩ := sound.owned
  have set := owned.lists.set its next prev
  refine .quiet ⟨⟨cells, ⟨set.list, set.own, set.offNext, set.offPrev⟩,
    Nat.le_trans owned.few grows, ?_, ?_, ?_⟩, sound.node⟩ ⟨grows, ?_, new, rfl, ?_⟩
    (fun node its => ⟨node, its, rfl, rfl⟩) id
  · exact fun _ _ _ => owned.hasNode c ch its
  · intro d chd itsD notMulti off
    rcases set_cases itsD with ⟨rfl, rfl⟩ | ⟨-, itsD⟩
    · cases allowed notMulti with
      | inl shrinks => exact shrinks (owned.content d ch its notMulti off)
      | inr linked => exact absurd (owned.lists.mem_of_linked linked) off
    · exact owned.content d chd itsD notMulti off
  · intro d chd itsD i on
    rcases set_cases itsD with ⟨-, rfl⟩ | ⟨-, itsD⟩
    · exact past i on
    · exact Nat.lt_of_lt_of_le (owned.past d chd itsD i on) grows
  · intro d chd itsD i on isOld
    rcases set_cases itsD with ⟨rfl, rfl⟩ | ⟨-, itsD⟩
    · exact ⟨ch, its, old i on isOld⟩
    · exact ⟨chd, itsD, on⟩
  · intro d chd itsD i on
    have chanheads := set_chanheads ws c d ch'
    by_cases here : d = c
    · obtain rfl : ch = chd := by
        rw [here, its] at itsD
        exact some.inj itsD
      exact (gone i on).imp_left fun still => ⟨ch', chanheads.trans (if_pos here), still⟩
    · exact .inl ⟨chd, chanheads.trans ((if_neg here).trans itsD), on⟩

end Lists

omit [DecidableEq C] [DecidableEq W] in
theorem Sound.past (sound : Sound layout w ws) (its : ws.chanheads c = some ch) {i : Nat}
    (on : i ∈ ch.items) : i < ws.serial := by
  obtain ⟨cells, owned⟩ := sound.owned
  exact owned.past c ch its i on

omit [DecidableEq W]

section

variable (sound : Sound layout w ws)
  (linked : layout.multi c = false → (ws.chanheads c).isSome → ws.Linked c)
include sound linked

theorem added_ok (ch' : Chanhead C) (its : ws.chanheads c = some ch)
    (next : ch'.groupnodeNext = ch.groupnodeNext) (prev : ch'.groupnodePrev = ch.groupnodePrev)
    (items : ∀ i ∈ ch'.items, i ∈ ch.items ∨ i = ws.serial)
    (stays : ∀ i ∈ ch.subscribers, i ∈ ch'.subscribers) :
    StepOk layout w ws { ws.set c ch' with serial := ws.serial + 1 } Out.none := by
  refine edit_ok ch' (ws.serial + 1) [] sound its (by rw [append_nil]; rfl) next prev (Nat.le_succ _)
    (fun notMulti => .inr (linked notMulti (by simp [its]))) ?_ ?_ fun i on => .inl (stays i on)
  · intro i on
    rcases items i on with old | rfl
    · exact Nat.lt_succ_of_lt (sound.past its old)
    · exact Nat.lt_succ_self _
  · exact fun i on old => (items i on).resolve_right (Nat.ne_of_lt old)

theorem publish_ok : StepOk layout w ws (publish c ws) Out.none := by
  unfold publish
  cases its : ws.chanheads c with
  | none => exact .refl sound
  | some ch =>
    refine added_ok sound linked _ its rfl rfl (fun i on => ?_) fun i on => on
    simp only [Chanhead.items, mem_append, mem_singleton] at on ⊢
    tauto

theorem subscribe_ok : StepOk layout w ws (subscribe c ws) Out.none := by
  unfold subscribe
  cases its : ws.chanheads c with
  | none => exact .refl sound
  | some ch =>
    refine added_ok sound linked _ its rfl rfl (fun i on => ?_) fun i on => mem_append_left _ on
    simp only [Chanhead.items, mem_append, mem_singleton] at on ⊢
    tauto

end

theorem fewer_ok (ch' : Chanhead C) (new : List Event) (sound : Sound layout w ws)
    (its : ws.chanheads c = some ch) (edited : ws' = { ws.set c ch' with log := ws.log ++ new })
    (next : ch'.groupnodeNext = ch.groupnodeNext) (prev : ch'.groupnodePrev = ch.groupnodePrev)
    (fewer : ∀ i ∈ ch'.items, i ∈ ch.items)
    (gone : ∀ i ∈ ch.subscribers, i ∈ ch'.subscribers ∨ .gone i ∈ new ∨ .left i ∈ new) :
    StepOk layout w ws ws' Out.none := by
  refine edit_ok ch' ws.serial new sound its edited next prev (Nat.le_refl _)
    (fun _ => .inl fun empty => ?_) (fun i on => sound.past its (fewer i on))
    (fun i on _ => fewer i on) gone
  rw [empty] at fewer
  exact eq_nil_iff_forall_not_mem.mpr fun i on => not_mem_nil (fewer i on)

theorem expire_ok (n : Nat) (sound : Sound layout w ws) :
    StepOk layout w ws (expire n c ws) Out.none := by
  unfold expire
  cases its : ws.chanheads c with
  | none => exact .refl sound
  | some ch =>
    exact fewer_ok { ch with messages := ch.messages.drop n } [] sound its
      (by rw [append_nil]; rfl) rfl rfl
      (fun i on => mem_append.mpr ((mem_append.mp on).imp_left mem_of_mem_drop)) fun i on => .inl on

theorem setLocation_ok (storage : Storage) (sound : Sound layout w ws) :
    StepOk layout w ws (setLocation storage c ws) Out.none := by
  unfold setLocation
  cases its : ws.chanheads c with
  | none => exact .refl sound
  | some ch =>
    exact fewer_ok { ch with storage := storage } [] sound its (by rw [append_nil]; rfl)
      rfl rfl (fun i on => on) fun i on => .inl on

theorem leave_ok (subscriber : Nat) (sound : Sound layout w ws) :
    StepOk layout w ws (leave subscriber c ws) Out.none := by
  unfold leave
  cases its : ws.chanheads c with
  | none => exact .refl sound
  | some ch =>
    refine fewer_ok _ [.left subscriber] sound its rfl rfl rfl
      (fun i on => mem_append.mpr ((mem_append.mp on).imp_right mem_of_mem_filter)) fun i on => ?_
    by_cases same : i = subscriber
    · exact .inr (.inr (by simp [same]))
    · exact .inl (mem_filter.mpr ⟨on, by simpa using same⟩)

/-! ## Creating and reaping -/

theorem created_ok (storage : Storage) (owned : Owned layout w ws cells)
    (hasNode : ws.node.isSome) (free : ws.chanheads c = none) :
    c ∉ cells ∧
      Owned layout w { ws.set c ⟨storage, none, none, false, [], []⟩ with
        serial := ws.serial + 1 } cells ∧
      Evolves ws
        { ws.set c ⟨storage, none, none, false, [], []⟩ with serial := ws.serial + 1 } := by
  have off : c ∉ cells := fun on => by simpa [free] using owned.lists.created on
  -- the chanhead has nothing in it, and the others are as before
  have cases : ∀ {d chd}, (ws.set c ⟨storage, none, none, false, [], []⟩).chanheads d = some chd →
      chd.items = [] ∨ ws.chanheads d = some chd := by
    intro d chd itsD
    rcases set_cases itsD with ⟨-, rfl⟩ | ⟨-, itsD⟩
    · exact .inl rfl
    · exact .inr itsD
  refine ⟨off, ⟨?_, Nat.le_succ_of_le owned.few, fun _ _ _ => hasNode, ?_, ?_⟩,
    ⟨Nat.le_succ _, ?_, [], by simp, ?_⟩⟩
  · exact owned.lists.update off rfl rfl (by simp) (by simp)
  · intro d chd itsD notMulti away
    exact (cases itsD).elim id fun itsD => owned.content d chd itsD notMulti away
  · intro d chd itsD i on
    cases cases itsD with
    | inl empty => simp [empty] at on
    | inr itsD => exact Nat.lt_succ_of_lt (owned.past d chd itsD i on)
  · intro d chd itsD i on _
    cases cases itsD with
    | inl empty => simp [empty] at on
    | inr itsD => exact ⟨chd, itsD, on⟩
  · intro d chd itsD i on
    have other : d ≠ c := fun same => by simp [same, free] at itsD
    refine .inl ⟨chd, ?_, on⟩
    exact (set_chanheads ws c d _).trans ((if_neg other).trans itsD)

theorem Owned.relinked {cells' : List C} (owned : Owned layout w ws cells)
    (lists : Lists layout w ws' cells') (relinked : Relinked ws ws') (hasNode : ws'.node.isSome)
    (few : cells'.length ≤ ws.serial)
    (content : ∀ c ch, ws.chanheads c = some ch → c ∉ cells' → c ∈ cells → ch.items = []) :
    Owned layout w ws' cells' := by
  refine ⟨lists, relinked.serial ▸ few, fun _ _ _ => hasNode, ?_, ?_⟩
  · intro c ch' its' notMulti off
    obtain ⟨ch, its, same⟩ := relinked.symm.same its'
    rw [← (items_of_unlinked same).1]
    by_cases on : c ∈ cells
    · exact content c ch its off on
    · exact owned.content c ch its notMulti on
  · intro c ch' its' i on
    obtain ⟨ch, its, same⟩ := relinked.symm.same its'
    rw [relinked.serial]
    exact owned.past c ch its i ((items_of_unlinked same).1 ▸ on)

omit [DecidableEq C] in
theorem Owned.stepOk {node : GroupNode C} {head : Option C} (owned : Owned layout w ws' cells)
    (sound : Sound layout w ws) (relinked : Relinked ws ws') (its : ws.node = some node)
    (its' : ws'.node = some { node with ownedChanheadHead := head }) :
    StepOk layout w ws ws' Out.none := by
  have nodeSound := sound.node node its
  refine .quiet (owned.sound its' ⟨nodeSound.called, nodeSound.owner, nodeSound.foreign⟩)
    relinked.evolves (fun n isNode => ?_) fun _ => by simp [its']
  obtain rfl := some.inj (its'.symm.trans isNode)
  exact ⟨node, its, rfl, rfl⟩

variable [DecidableEq W]

theorem create_ok (sound : Sound layout w ws) (now : Int) (storage : Storage)
    (free : ws.chanheads c = none) :
    ∃ ws' out, chanheadMemstoreCreate layout w now c storage ws = some (ws', out) ∧
      StepOk layout w ws ws' out := by
  obtain ⟨ws₁, asked, got, step₁, same₁, hasNode₁⟩ := groupnodeGet_ok sound
  obtain ⟨ws₂, out, found, step₂, same₂, hasNode₂, _⟩ := find_ok step₁.sound hasNode₁ now
  obtain ⟨cells, owned⟩ := step₂.sound.owned
  obtain ⟨node, its⟩ := isSome_iff_exists.mp hasNode₂
  have free₂ : ws₂.chanheads c = none := by rw [same₂, same₁, free]
  obtain ⟨off, owned₃, evolves₃⟩ := created_ok storage owned hasNode₂ free₂
  let ws₃ := { ws₂.set c ⟨storage, none, none, false, [], []⟩ with serial := ws₂.serial + 1 }
  have step₃ : StepOk layout w ws₂ ws₃ Out.none :=
    .quiet ⟨⟨cells, owned₃⟩, step₂.sound.node⟩ evolves₃ (fun node its => ⟨node, its, rfl, rfl⟩) id
  have created : (ws₃.chanheads c).isSome := by
    have here : ws₃.chanheads c = some ⟨storage, none, none, false, [], []⟩ :=
      (set_chanheads ws₂ c c _).trans (if_pos rfl)
    simp [here]
  -- an own channel of its own is associated
  obtain ⟨ws', associated, step₄⟩ : ∃ ws', associateIfOwned layout w c ws₃ = some ws' ∧
      StepOk layout w ws₃ ws' Out.none := by
    unfold associateIfOwned
    cases owns : layout.owns w c with
    | false => exact ⟨ws₃, by simp, .refl step₃.sound⟩
    | true =>
      cases multi : layout.multi c with
      | true =>
        obtain ⟨ch, itsC⟩ := isSome_iff_exists.mp created
        have itsNode : ws₃.node = some node := its
        exact ⟨ws₃, by simp [memstoreGroupAssociateOwnChannel, itsNode, itsC, multi],
          .refl step₃.sound⟩
      | false =>
        have owner : layout.channelOwner c = w := by simpa [Layout.owns, multi] using owns
        obtain ⟨ws', associated, lists, relinked, node'⟩ :=
          associate_spec owned₃.lists multi owner its created off
        have few : (c :: cells).length ≤ ws₃.serial := Nat.succ_le_succ owned.few
        have owned' := owned₃.relinked lists relinked (by simp [node']) few
          fun d ch _ away on => absurd (mem_cons_of_mem c on) away
        exact ⟨ws', (if_pos rfl).trans associated, owned'.stepOk step₃.sound relinked its node'⟩
  refine ⟨ws', asked.andThen out, ?_, ?_⟩
  · simp only [chanheadMemstoreCreate, memstoreGroupAddChannelGeneric, got, found,
      bind_eq_bind, bind_some]
    rw [show associateIfOwned layout w c _ = some ws' from associated]
    rfl
  · have step := (step₁.trans step₂).trans (step₃.trans step₄)
    rwa [Out.andThen_none, Out.andThen_none] at step

theorem dissociateIfOwned_ok (sound : Sound layout w ws) (its : ws.chanheads c = some ch)
    (empty : ch.items = []) :
    ∃ ws' cells, dissociateIfOwned layout w c ws = some ws' ∧ StepOk layout w ws ws' Out.none ∧
      Owned layout w ws' cells ∧ c ∉ cells ∧ Relinked ws ws' := by
  obtain ⟨cells, owned⟩ := sound.owned
  obtain ⟨node, isNode⟩ := isSome_iff_exists.mp (owned.hasNode c ch its)
  unfold dissociateIfOwned
  by_cases on : c ∈ cells
  · obtain ⟨front, back, rfl⟩ := append_of_mem on
    have owns : layout.owns w c = true := by simp [Layout.owns, (owned.lists.own c on).2]
    have nodup := owned.lists.list.forward.nodup
    have off : c ∉ front ++ back := by
      rw [nodup_append, nodup_cons] at nodup
      rw [mem_append]
      exact fun among => among.elim (fun f => nodup.2.2 c f c (by simp) rfl) nodup.2.1.1
    obtain ⟨node', ws', isNode', dissociated, lists, relinked, node₁⟩ := dissociate_linked owned.lists
    obtain rfl : node = node' := some.inj (isNode.symm.trans isNode')
    have few : (front ++ back).length ≤ ws.serial := by
      have := owned.few
      simp only [length_append, length_cons] at this ⊢
      omega
    have owned' := owned.relinked lists relinked (by simp [node₁]) few (by
      intro d chd itsD away among
      obtain rfl : d = c := by
        simp only [mem_append, mem_cons] at away among
        tauto
      rw [its] at itsD
      exact some.inj itsD ▸ empty)
    exact ⟨ws', _, (if_pos owns).trans dissociated, owned'.stepOk sound relinked isNode node₁,
      owned', off, relinked⟩
  · refine ⟨ws, cells, ?_, .refl sound, owned, on, .refl ws⟩
    split
    case isTrue owns => exact dissociate_unlinked owned.lists owns isNode its on
    case isFalse => rfl

theorem reap_ok (sound : Sound layout w ws) (now : Int) (present : (ws.chanheads c).isSome) :
    ∃ ws' out, memstoreReapChanhead layout w now c ws = some (ws', out) ∧
      StepOk layout w ws ws' out := by
  obtain ⟨ch, its⟩ := isSome_iff_exists.mp present
  -- messages and subscribers go first
  let cleared : Chanhead C := { ch with subscribers := [], messages := [] }
  let ws₁ : Worker C := { ws.set c cleared with log := ws.log ++ ch.subscribers.map .gone }
  have step₁ : StepOk layout w ws ws₁ Out.none := by
    have nothing : ∀ i, i ∉ cleared.items := fun i => not_mem_nil
    exact fewer_ok cleared (ch.subscribers.map .gone) sound its rfl rfl rfl
      (fun i on => absurd on (nothing i)) fun i on => .inr (.inl (mem_map_of_mem on))
  have its₁ : ws₁.chanheads c = some cleared := (set_chanheads ws c c _).trans (if_pos rfl)
  -- then the chanhead is taken off the list
  obtain ⟨ws₂, cells, dissociated, step₂, owned₂, off, relinked⟩ :=
    dissociateIfOwned_ok step₁.sound its₁ rfl
  obtain ⟨ch₂, its₂, same⟩ := relinked.same its₁
  have empty₂ : ch₂.items = [] := (items_of_unlinked same).1
  -- the group is looked up for its count
  obtain ⟨ws₃, out, found, step₃, same₃, hasNode, head₃⟩ :=
    find_ok step₂.sound (owned₂.hasNode c ch₂ its₂) now
  obtain ⟨cells₃, owned₃⟩ := step₃.sound.owned
  have its₃ : ws₃.chanheads c = some ch₂ := by rw [same₃, its₂]
  have links : ch₂.groupnodePrev = none ∧ ch₂.groupnodeNext = none :=
    ⟨owned₂.lists.offPrev c off _ (by rw [Worker.prev, its₂]; rfl),
      owned₂.lists.offNext c off _ (by rw [Worker.next, its₂]; rfl)⟩
  obtain rfl : cells₃ = cells := by
    have chain := owned₃.lists.list.forward
    rw [head₃, show ws₃.next = ws₂.next by funext d; rw [Worker.next, same₃, Worker.next]] at chain
    exact chain.unique owned₂.lists.list.forward
  -- and the chanhead is freed, which nothing links to any more
  let ws' : Worker C := { ws₃ with chanheads := Function.update ws₃.chanheads c none }
  have elsewhere : ∀ {d chd}, ws'.chanheads d = some chd → ws₃.chanheads d = some chd := by
    intro d chd itsD
    have itsD : Function.update ws₃.chanheads c none d = some chd := itsD
    rw [Function.update_apply] at itsD
    split at itsD
    · cases itsD
    · exact itsD
  have step₄ : StepOk layout w ws₃ ws' Out.none := by
    have lists : Lists layout w ws' cells₃ :=
      owned₃.lists.update off rfl rfl (fun _ its => by cases its) (fun _ its => by cases its)
    refine .quiet ⟨⟨cells₃, lists, owned₃.few,
      fun _ _ _ => hasNode, fun d chd itsD => owned₃.content d chd (elsewhere itsD),
      fun d chd itsD => owned₃.past d chd (elsewhere itsD)⟩, step₃.sound.node⟩
      ⟨Nat.le_refl _, fun d chd itsD i on _ => ⟨chd, elsewhere itsD, on⟩, [], by simp [ws'], ?_⟩
      (fun node its => ⟨node, its, rfl, rfl⟩) id
    intro d chd itsD i on
    by_cases here : d = c
    · rw [here, its₃] at itsD
      cases itsD
      have among : i ∈ ch₂.items := mem_append_right _ on
      simp [empty₂] at among
    · exact .inl ⟨chd, (Function.update_of_ne here _ _).trans itsD, on⟩
  refine ⟨ws', out, ?_, ?_⟩
  · simp only [memstoreReapChanhead, memstoreGroupAddChannelGeneric, its, bind_eq_bind,
      bind_some]
    rw [show dissociateIfOwned layout w c _ = some ws₂ from dissociated]
    simp only [bind_some, found, its₃, links, and_self, if_true]
    rfl
  · have step := (step₁.trans step₂).trans (step₃.trans step₄)
    rwa [Out.andThen_none, Out.andThen_none, Out.none_andThen] at step

end Nchan.Memstore.Groups
