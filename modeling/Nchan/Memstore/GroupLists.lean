import Nchan.Lib.Chain
import Nchan.Memstore.Groups

/-! # The lists of own chanheads

The links of `groupnode_next` and `groupnode_prev` are a doubly linked list, which
associating and dissociating a chanhead keep without a failed assert; deleting the group's
channels on a worker empties it.
-/

namespace Nchan.Memstore.Groups

open Nchan.Lib List Option Worker

variable {W C : Type}

def Chanhead.unlinked (ch : Chanhead C) : Chanhead C :=
  { ch with groupnodeNext := none, groupnodePrev := none }

namespace Worker

def next (ws : Worker C) (c : C) : Option (Option C) := (ws.chanheads c).map (·.groupnodeNext)

def prev (ws : Worker C) (c : C) : Option (Option C) := (ws.chanheads c).map (·.groupnodePrev)

def head (ws : Worker C) : Option C := ws.node.bind (·.ownedChanheadHead)

section

variable (ws : Worker C) (c d : C) (ch : Chanhead C) (node : GroupNode C)

@[simp] theorem setNode_node : (ws.setNode node).node = some node := rfl
@[simp] theorem setNode_chanheads : (ws.setNode node).chanheads = ws.chanheads := rfl
@[simp] theorem setNode_next : (ws.setNode node).next = ws.next := rfl
@[simp] theorem setNode_prev : (ws.setNode node).prev = ws.prev := rfl
theorem setNode_self {ws : Worker C} {node : GroupNode C} (its : ws.node = some node) :
    ws.setNode node = ws := by
  rw [setNode, ← its]

variable [DecidableEq C]

@[simp] theorem set_node : (ws.set c ch).node = ws.node := rfl
theorem set_self {ws : Worker C} {c : C} {ch : Chanhead C} (its : ws.chanheads c = some ch) :
    ws.set c ch = ws := by
  rw [set, ← its, Function.update_eq_self]

@[simp] theorem set_log : (ws.set c ch).log = ws.log := rfl

@[simp] theorem set_chanheads :
    (ws.set c ch).chanheads d = if d = c then some ch else ws.chanheads d := by
  simp [set, Function.update_apply]

@[simp] theorem set_next :
    (ws.set c ch).next d = if d = c then some ch.groupnodeNext else ws.next d := by
  simp only [next, set_chanheads]
  split <;> simp

@[simp] theorem set_prev :
    (ws.set c ch).prev d = if d = c then some ch.groupnodePrev else ws.prev d := by
  simp only [prev, set_chanheads]
  split <;> simp

end

variable [DecidableEq C] {ws : Worker C} {c d : C} {ch ch' chd : Chanhead C}

theorem set_cases (found : (ws.set c ch').chanheads d = some chd) :
    d = c ∧ chd = ch' ∨ d ≠ c ∧ ws.chanheads d = some chd := by
  rw [set_chanheads] at found
  split at found
  case isTrue here => exact .inl ⟨here, (some.inj found).symm⟩
  case isFalse other => exact .inr ⟨other, found⟩

theorem set_next_eq (its : ws.chanheads c = some ch)
    (same : ch'.groupnodeNext = ch.groupnodeNext) : (ws.set c ch').next = ws.next := by
  funext d
  rw [set_next]
  split
  case isTrue here => simp [here, next, its, same]
  case isFalse => rfl

theorem set_prev_eq (its : ws.chanheads c = some ch)
    (same : ch'.groupnodePrev = ch.groupnodePrev) : (ws.set c ch').prev = ws.prev := by
  funext d
  rw [set_prev]
  split
  case isTrue here => simp [here, prev, its, same]
  case isFalse => rfl

end Worker

/-- The links are those of the list `cells`, which are own channels. -/
structure Lists (layout : Layout W C) (w : W) (ws : Worker C) (cells : List C) : Prop where
  list : DList ws.next ws.prev ws.head cells.getLast? cells
  own : ∀ c ∈ cells, layout.multi c = false ∧ layout.channelOwner c = w
  offNext : ∀ c ∉ cells, ∀ next, ws.next c = some next → next = none
  offPrev : ∀ c ∉ cells, ∀ prev, ws.prev c = some prev → prev = none

structure Relinked (ws ws' : Worker C) : Prop where
  content : ∀ c, (ws'.chanheads c).map Chanhead.unlinked = (ws.chanheads c).map Chanhead.unlinked
  serial : ws'.serial = ws.serial
  log : ws'.log = ws.log

variable {ws : Worker C} {c : C} {ch : Chanhead C}

namespace Relinked

theorem refl (ws : Worker C) : Relinked ws ws := ⟨fun _ => rfl, rfl, rfl⟩

theorem trans {ws₁ ws₂ ws₃ : Worker C} (first : Relinked ws₁ ws₂) (second : Relinked ws₂ ws₃) :
    Relinked ws₁ ws₃ :=
  ⟨fun c => (second.content c).trans (first.content c), second.serial.trans first.serial,
    second.log.trans first.log⟩

theorem setNode (ws : Worker C) (node : GroupNode C) : Relinked ws (ws.setNode node) :=
  ⟨fun _ => rfl, rfl, rfl⟩

theorem set [DecidableEq C] {ch' : Chanhead C} (its : ws.chanheads c = some ch)
    (same : ch'.unlinked = ch.unlinked) : Relinked ws (ws.set c ch') := by
  refine ⟨fun d => ?_, rfl, rfl⟩
  simp only [set_chanheads]
  split
  case isTrue here => rw [here, its, map_some, map_some, same]
  case isFalse => rfl

end Relinked

variable [DecidableEq C]

/-! ## Associating and dissociating -/

theorem bypassNext_spec (linked : ∀ p, ch.groupnodePrev = some p → ws.next p = some (some c)) :
    ∃ ws', bypassNext c ch ws = some ws' ∧ Relinked ws ws' ∧ ws'.node = ws.node ∧
      ws'.prev = ws.prev ∧
      ∀ d, ws'.next d = if ch.groupnodePrev = some d then some ch.groupnodeNext else ws.next d := by
  unfold bypassNext
  cases before : ch.groupnodePrev with
  | none => exact ⟨ws, rfl, .refl ws, rfl, rfl, by simp⟩
  | some p =>
    obtain ⟨q, its, next⟩ := map_eq_some_iff.mp (linked p before)
    refine ⟨ws.set p { q with groupnodeNext := ch.groupnodeNext }, by simp [its, next],
      .set its rfl, rfl, set_prev_eq its rfl, fun d => ?_⟩
    simp [eq_comm]

theorem bypassPrev_spec (linked : ∀ n, ch.groupnodeNext = some n → ws.prev n = some (some c)) :
    ∃ ws', bypassPrev c ch ws = some ws' ∧ Relinked ws ws' ∧ ws'.node = ws.node ∧
      ws'.next = ws.next ∧
      ∀ d, ws'.prev d = if ch.groupnodeNext = some d then some ch.groupnodePrev else ws.prev d := by
  unfold bypassPrev
  cases after : ch.groupnodeNext with
  | none => exact ⟨ws, rfl, .refl ws, rfl, rfl, by simp⟩
  | some n =>
    obtain ⟨q, its, prev⟩ := map_eq_some_iff.mp (linked n after)
    refine ⟨ws.set n { q with groupnodePrev := ch.groupnodePrev }, by simp [its, prev],
      .set its rfl, rfl, set_next_eq its rfl, fun d => ?_⟩
    simp [eq_comm]

theorem linkBefore_spec {head : Option C}
    (allocated : ∀ d, head = some d → (ws.chanheads d).isSome) :
    ∃ ws', linkBefore head c ws = some ws' ∧ Relinked ws ws' ∧ ws'.node = ws.node ∧
      ws'.next = ws.next ∧ ∀ d, ws'.prev d = if head = some d then some (some c) else ws.prev d := by
  unfold linkBefore
  cases head with
  | none => exact ⟨ws, rfl, .refl _, rfl, rfl, by simp⟩
  | some d =>
    obtain ⟨q, its⟩ := isSome_iff_exists.mp (allocated d rfl)
    refine ⟨ws.set d { q with groupnodePrev := some c }, by simp [its], .set its rfl, rfl,
      set_next_eq its rfl, fun e => ?_⟩
    simp [eq_comm]

variable {layout : Layout W C} {w : W}

variable {cells : List C}

variable (lists : Lists layout w ws cells)

include lists

omit [DecidableEq C] in
theorem Lists.created (on : c ∈ cells) :
    (ws.chanheads c).isSome := by
  have allocated := lists.list.forward.allocated on
  rw [isSome_iff_ne_none]
  intro missing
  exact allocated (by rw [Worker.next, missing]; rfl)

omit [DecidableEq C] in
theorem Lists.node_of_mem (on : c ∈ cells) :
    ∃ node, ws.node = some node ∧ node.ownedChanheadHead = cells.head? := by
  have first := lists.list.first_eq
  cases its : ws.node with
  | none =>
    cases cells with
    | nil => simp at on
    | cons d cells => simp [Worker.head, its] at first
  | some node => exact ⟨node, rfl, by simpa [Worker.head, its] using first⟩

theorem associate_spec {node : GroupNode C}
    (notMulti : layout.multi c = false) (owner : layout.channelOwner c = w)
    (isNode : ws.node = some node) (created : (ws.chanheads c).isSome) (off : c ∉ cells) :
    ∃ ws', memstoreGroupAssociateOwnChannel layout c ws = some ws' ∧
      Lists layout w ws' (c :: cells) ∧ Relinked ws ws' ∧
      ws'.node = some { node with ownedChanheadHead := some c } := by
  obtain ⟨ch, its⟩ := isSome_iff_exists.mp created
  have prev : ws.prev c = some none := by
    have present : ws.prev c = some ch.groupnodePrev := by rw [Worker.prev, its]; rfl
    rw [present, lists.offPrev c off _ present]
  have head : node.ownedChanheadHead = cells.head? := by
    have := lists.list.first_eq
    rwa [Worker.head, isNode, bind_some] at this
  have apart : ∀ d ∈ cells, d ≠ c := fun d on same => off (same ▸ on)
  let ws₁ := ws.set c { ch with groupnodeNext := node.ownedChanheadHead }
  have relinked₁ : Relinked ws ws₁ := .set its rfl
  have prev₁ : ws₁.prev = ws.prev := set_prev_eq its rfl
  have allocated : ∀ d, node.ownedChanheadHead = some d → (ws₁.chanheads d).isSome := by
    intro d first
    have on : d ∈ cells := mem_of_head? (head ▸ first)
    rw [set_chanheads, if_neg (apart d on)]
    exact lists.created on
  obtain ⟨ws₂, linked, relinked₂, node₂, next₂, prev₂⟩ : ∃ ws₂,
      linkBefore node.ownedChanheadHead c ws₁ = some ws₂ ∧ _ := linkBefore_spec allocated
  have next' : ∀ d, ws₂.next d = if d = c then some node.ownedChanheadHead else ws.next d := by
    intro d
    rw [next₂, set_next]
  have prev' : ∀ d, ws₂.prev d = if node.ownedChanheadHead = some d then some (some c)
      else ws.prev d := by
    intro d
    rw [prev₂, prev₁]
  have notHead : node.ownedChanheadHead ≠ some c := fun first =>
    off (mem_of_head? (head ▸ first))
  refine ⟨ws₂.setNode { node with ownedChanheadHead := some c }, ?_, ⟨?_, ?_, ?_, ?_⟩,
    (relinked₁.trans relinked₂).trans (.setNode _ _), rfl⟩
  · simp [memstoreGroupAssociateOwnChannel, isNode, its, notMulti, ws₁, linked]
  · have list := lists.list
    rw [list.first_eq, ← head] at list
    refine list.cons off (fun b first => ?_) (fun a _ other => ?_) (fun a on => ?_) ?_ ?_
    · rw [setNode_prev, prev', if_pos first]
    · rw [setNode_prev, prev', if_neg other]
    · rw [setNode_next, next', if_neg (apart a on)]
    · rw [setNode_prev, prev', if_neg notHead, prev]
    · rw [setNode_next, next', if_pos rfl]
  · intro d on
    cases mem_cons.mp on with
    | inl here => exact here ▸ ⟨notMulti, owner⟩
    | inr on => exact lists.own d on
  · intro d away n nexts
    obtain ⟨other, away⟩ := not_or.mp (mt mem_cons.mpr away)
    rw [setNode_next, next', if_neg other] at nexts
    exact lists.offNext d away n nexts
  · intro d away p prevs
    obtain ⟨other, away⟩ := not_or.mp (mt mem_cons.mpr away)
    have notFirst : node.ownedChanheadHead ≠ some d := fun first =>
      away (mem_of_head? (head ▸ first))
    rw [setNode_prev, prev', if_neg notFirst] at prevs
    exact lists.offPrev d away p prevs

variable [DecidableEq W]

omit lists in
theorem dissociate_linked {front back : List C} (lists : Lists layout w ws (front ++ c :: back)) :
    ∃ node ws', ws.node = some node ∧
      memstoreGroupDissociateOwnChannel layout w c ws = some ws' ∧
      Lists layout w ws' (front ++ back) ∧ Relinked ws ws' ∧
      ws'.node = some { node with ownedChanheadHead := (front ++ back).head? } := by
  have on : c ∈ front ++ c :: back := by simp
  obtain ⟨notMulti, owner⟩ := lists.own c on
  have owns : layout.owns w c = true := by simp [Layout.owns, owner]
  have nodup := lists.list.forward.nodup
  obtain ⟨notFront, notBack⟩ : c ∉ front ∧ c ∉ back := by
    rw [nodup_append, nodup_cons] at nodup
    exact ⟨fun f => nodup.2.2 c f c (by simp) rfl, nodup.2.1.1⟩
  obtain ⟨nextC, prevC⟩ := lists.list.links_at
  obtain ⟨ch, its, next⟩ := map_eq_some_iff.mp nextC
  have prev : ch.groupnodePrev = front.getLast? := by simpa [Worker.prev, its] using prevC
  rw [← next] at nextC
  rw [← prev] at prevC
  obtain ⟨node, isNode, isHead⟩ := lists.node_of_mem on
  have head : (if node.ownedChanheadHead = some c then ch.groupnodeNext else node.ownedChanheadHead) =
      (front ++ back).head? := by
    cases front with
    | nil => simp [isHead, next]
    | cons a front =>
      have apart : a ≠ c := fun same => notFront (by simp [same])
      simp [isHead, apart]
  -- the neighbours of `c` point at it, so that no assert fails
  have linkedBefore : ∀ p, ch.groupnodePrev = some p → ws.next p = some (some c) := by
    intro p before
    rw [prev] at before
    obtain ⟨init, rfl⟩ := List.getLast?_eq_some_iff.mp before
    have list := lists.list
    rw [append_assoc, singleton_append] at list
    exact list.links_at.1
  have linkedAfter : ∀ n, ch.groupnodeNext = some n → ws.prev n = some (some c) := by
    intro n after
    rw [next] at after
    obtain ⟨rest, rfl⟩ := List.head?_eq_some_iff.mp after
    have list := lists.list
    rw [append_cons] at list
    simpa using list.links_at.2
  obtain ⟨ws₁, bypassed₁, relinked₁, node₁, prev₁, next₁⟩ : ∃ ws', bypassNext c ch
      (ws.setNode { node with ownedChanheadHead := (front ++ back).head? }) = some ws' ∧ _ :=
    bypassNext_spec linkedBefore
  obtain ⟨ws₂, bypassed₂, relinked₂, node₂, next₂, prev₂⟩ :
      ∃ ws', bypassPrev c ch ws₁ = some ws' ∧ _ :=
    bypassPrev_spec (by rw [prev₁]; exact linkedAfter)
  let ws' := ws₂.set c { ch with groupnodePrev := none, groupnodeNext := none }
  have its₂ : (ws₂.chanheads c).map Chanhead.unlinked = some ch.unlinked := by
    rw [relinked₂.content, relinked₁.content, setNode_chanheads, its]
    rfl
  obtain ⟨ch₂, its₂, same⟩ := map_eq_some_iff.mp its₂
  have relinked : Relinked ws ws' :=
    ((Relinked.setNode ws _).trans (relinked₁.trans relinked₂)).trans (.set its₂ same.symm)
  have next' : ∀ d, d ≠ c → ws'.next d =
      if front.getLast? = some d then ws.next c else ws.next d := by
    intro d other
    rw [set_next, if_neg other, next₂, next₁, prev, nextC, setNode_next]
  have prev' : ∀ d, d ≠ c → ws'.prev d =
      if back.head? = some d then ws.prev c else ws.prev d := by
    intro d other
    rw [set_prev, if_neg other, prev₂, prev₁, next, prevC, setNode_prev]
  have apart : ∀ d ∈ front ++ back, d ≠ c := by
    rintro d among rfl
    exact (mem_append.mp among).elim notFront notBack
  have isNode' : ws'.node = some { node with ownedChanheadHead := (front ++ back).head? } := by
    rw [set_node, node₂, node₁, setNode_node]
  refine ⟨node, ws', isNode, ?_, ⟨?_, ?_, ?_, ?_⟩, relinked, isNode'⟩
  · have notHead : (front ++ back).head? ≠ some c := fun first =>
      apart c (mem_of_head? first) rfl
    simp only [memstoreGroupDissociateOwnChannel, isNode, its, owns, notMulti, head, bypassed₁,
      bypassed₂, notHead, bind_eq_bind, bind_some, if_true, if_false,
      Bool.false_eq_true]
    rfl
  · rw [Worker.head, isNode', bind_some]
    refine lists.list.unlink ?_ ?_ ?_ ?_
    · intro b last
      rw [next' b (apart b (by simp [mem_of_getLast? last])), if_pos last]
    · intro b first
      rw [prev' b (apart b (by simp [mem_of_head? first])), if_pos first]
    · intro b on notLast
      rw [next' b (apart b on), if_neg notLast]
    · intro b on notFirst
      rw [prev' b (apart b on), if_neg notFirst]
  · intro d on
    exact lists.own d (by simp only [mem_append, mem_cons] at on ⊢; tauto)
  · intro d off n nexts
    by_cases here : d = c
    · rw [here, set_next, if_pos rfl] at nexts
      exact (some.inj nexts).symm
    · have notLast : front.getLast? ≠ some d := fun last => off (by simp [mem_of_getLast? last])
      rw [next' d here, if_neg notLast] at nexts
      exact lists.offNext d (by simp only [mem_append, mem_cons] at off ⊢; tauto) n nexts
  · intro d off p prevs
    by_cases here : d = c
    · rw [here, set_prev, if_pos rfl] at prevs
      exact (some.inj prevs).symm
    · have notFirst : back.head? ≠ some d := fun first => off (by simp [mem_of_head? first])
      rw [prev' d here, if_neg notFirst] at prevs
      exact lists.offPrev d (by simp only [mem_append, mem_cons] at off ⊢; tauto) p prevs

theorem dissociate_unlinked {node : GroupNode C}
    (owns : layout.owns w c = true) (isNode : ws.node = some node) (its : ws.chanheads c = some ch)
    (off : c ∉ cells) : memstoreGroupDissociateOwnChannel layout w c ws = some ws := by
  have notHead : node.ownedChanheadHead ≠ some c := by
    intro first
    have head := lists.list.first_eq
    rw [Worker.head, isNode, bind_some, first] at head
    exact off (mem_of_head? head.symm)
  have next : ch.groupnodeNext = none := lists.offNext c off _ (by rw [Worker.next, its]; rfl)
  have prev : ch.groupnodePrev = none := lists.offPrev c off _ (by rw [Worker.prev, its]; rfl)
  have same : { ch with groupnodeNext := none, groupnodePrev := none } = ch := by
    cases ch
    simp_all
  simp only [memstoreGroupDissociateOwnChannel, isNode, its, owns, notHead, bypassNext, bypassPrev,
    next, prev, bind_eq_bind, bind_some, if_true, if_false]
  split
  · rfl
  · rw [setNode_self isNode, same, set_self its]

end Nchan.Memstore.Groups
