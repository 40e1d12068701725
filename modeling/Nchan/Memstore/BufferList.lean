import Nchan.Memstore.Buffer

/-! # The buffer as a list of messages

`MessageList.Represents` ties the linked list in memory to a Lean list: the links of
neighbours agree in both directions, the ends are null, and the stored count is the
length.  Under it, garbage collection drops a front part of the list and publishing
appends to it; nothing below this file looks at pointers.
-/

namespace Nchan.Memstore

open Nchan.Lib List Option
open Function (update update_of_ne update_self)

/-- The messages reached from `msg_first` along `next`, and backwards from `msg_last`
    along `prev`, are `buf`. -/
structure MessageList.Represents (ch : MessageList) (buf : List Msg) : Prop where
  linked : ∃ nodes,
    DList (fun a => (ch.heap a).map (·.next)) (fun a => (ch.heap a).map (·.prev))
      ch.msgFirst ch.msgLast nodes ∧
    nodes.map (fun a => (ch.heap a).map (·.msg)) = buf.map some
  count : ch.storedMessageCount = buf.length

variable {ch : MessageList} {buf : List Msg}

theorem MessageList.Represents.ends_none_iff (rep : ch.Represents buf) :
    (ch.msgFirst = none ↔ buf = []) ∧ (ch.msgLast = none ↔ buf = []) := by
  obtain ⟨nodes, list, held⟩ := rep.linked
  have empty : nodes = [] ↔ buf = [] := by
    have lengths := congrArg List.length held
    simp only [length_map] at lengths
    rw [← length_eq_zero_iff, lengths, length_eq_zero_iff]
  rw [list.first_eq, list.last_eq, List.head?_eq_none_iff, List.getLast?_eq_none_iff]
  exact ⟨empty, empty⟩

theorem MessageList.Represents.lastMessage_eq (rep : ch.Represents buf) :
    ch.lastMessage = buf.getLast? := by
  obtain ⟨nodes, list, held⟩ := rep.linked
  have lasts := congrArg List.getLast? held
  simp only [List.getLast?_map, ← list.last_eq] at lasts
  unfold MessageList.lastMessage
  cases last : ch.msgLast <;> cases tail : buf.getLast? <;> simp_all

theorem messagesFrom_of_chain {heap : Nat → Option StoreMessage} {start : Option Nat}
    {nodes : List Nat} (chain : Chain (fun a => (heap a).map (·.next)) start nodes)
    (held : nodes.map (fun a => (heap a).map (·.msg)) = buf.map some) :
    messagesFrom heap buf.length start = buf := by
  induction nodes generalizing start buf with
  | nil =>
    obtain rfl : buf = [] := by simpa using held.symm
    rfl
  | cons a nodes ih =>
    cases buf with
    | nil => cases held
    | cons m buf =>
      simp only [map_cons, List.cons.injEq, map_eq_some_iff] at held
      obtain ⟨⟨node, here, rfl⟩, held⟩ := held
      obtain ⟨rfl, rest, step, tail⟩ := chain
      simp only [here, map_some, some.injEq] at step
      subst step
      simp [messagesFrom, here, ih tail held]

theorem MessageList.Represents.messages_eq (rep : ch.Represents buf) : ch.messages = buf := by
  obtain ⟨nodes, list, held⟩ := rep.linked
  rw [MessageList.messages, rep.count]
  exact messagesFrom_of_chain list.forward held

theorem allocated_of_linked {prev : Nat → Option (Option Nat)} {heap : Nat → Option StoreMessage}
    {first last : Option Nat} {nodes : List Nat}
    (list : DList (fun a => (heap a).map (·.next)) prev first last nodes) {b : Nat}
    (on : b ∈ nodes) : ∃ node, heap b = some node := by
  have some_next := list.forward.allocated on
  exact ne_none_iff_exists'.mp fun none => some_next (by simp [none])

/-- `ch'` is `ch` after deleting down to `left`. -/
structure MessageList.Trimmed (ch ch' : MessageList) (left : List Msg) : Prop where
  represents : ch'.Represents left
  last : left ≠ [] → ch'.msgLast = ch.msgLast
  free : ∀ b, ch.heap b = none → ch'.heap b = none

theorem MessageList.Represents.trimmed (rep : ch.Represents buf) : ch.Trimmed ch buf :=
  ⟨rep, fun _ => rfl, fun _ unused => unused⟩

theorem MessageList.Trimmed.trans {ch' ch'' : MessageList} {left left' : List Msg}
    (first : ch.Trimmed ch' left) (second : ch'.Trimmed ch'' left') (less : left' <:+ left) :
    ch.Trimmed ch'' left' where
  represents := second.represents
  last := by
    intro nonempty
    have more : left ≠ [] := by
      rintro rfl
      exact nonempty (suffix_nil.mp less)
    rw [second.last nonempty, first.last more]
  free := fun b unused => second.free b (first.free b unused)

/-! ## Deleting the first message -/

theorem chanheadDeleteMessage_of_prev_none {cur : Nat} {node : StoreMessage}
    (here : ch.heap cur = some node) (first : node.prev = none)
    (more : ∀ b, node.next = some b → ∃ after, ch.heap b = some after) :
    ∃ heap, chanheadDeleteMessage cur ch = some {
        msgFirst := if ch.msgFirst = some cur then node.next else ch.msgFirst
        msgLast := if ch.msgLast = some cur then none else ch.msgLast
        storedMessageCount := ch.storedMessageCount - 1
        heap := heap } ∧
      (∀ b, b ≠ cur → node.next ≠ some b → heap b = ch.heap b) ∧
      (∀ b after, b ≠ cur → node.next = some b → ch.heap b = some after →
        heap b = some { after with prev := none }) ∧
      ∀ b, ch.heap b = none → heap b = none := by
  cases next : node.next with
  | none =>
    refine ⟨update ch.heap cur none, ?_, ?_, ?_, ?_⟩
    · simp [chanheadDeleteMessage, here, next, first]
    · intro b other _
      rw [update_of_ne other]
    · intro b after _ is
      cases is
    · intro b unused
      by_cases same : b = cur <;> simp [same, unused]
  | some b =>
    obtain ⟨after, found⟩ := more b next
    refine ⟨update (update ch.heap b (some { after with prev := none })) cur none,
      ?_, ?_, ?_, ?_⟩
    · simp [chanheadDeleteMessage, here, next, first, found]
    · intro c other notNext
      have notB : c ≠ b := fun same => notNext (same ▸ rfl)
      rw [update_of_ne other, update_of_ne notB]
    · intro c after' other isNext is
      cases isNext
      rw [found] at is
      cases is
      rw [update_of_ne other, update_self]
    · intro c unused
      have notB : c ≠ b := by
        rintro rfl
        simp [found] at unused
      by_cases same : c = cur <;> simp [same, unused, notB]

variable {m : Msg}

theorem represents_delete_first (rep : ch.Represents (m :: buf)) :
    ∃ cur node ch', ch.msgFirst = some cur ∧ ch.heap cur = some node ∧ node.msg = m ∧
      chanheadDeleteMessage cur ch = some ch' ∧ ch.Trimmed ch' buf ∧ ch'.msgFirst = node.next := by
  obtain ⟨⟨nodes, list, held⟩, count⟩ := rep
  cases nodes with
  | nil => cases held
  | cons cur rest =>
    simp only [map_cons, List.cons.injEq, map_eq_some_iff] at held
    obtain ⟨⟨node, here, isMsg⟩, held⟩ := held
    have links := DList.links_at (show DList _ _ _ _ ([] ++ cur :: rest) from list)
    simp only [here, map_some, some.injEq, List.getLast?_nil] at links
    obtain ⟨next, prev⟩ := links
    have notAgain : cur ∉ rest := (nodup_cons.mp list.forward.nodup).1
    have allocated : ∀ b ∈ rest, ∃ after, ch.heap b = some after := fun b on =>
      allocated_of_linked list (mem_cons_of_mem cur on)
    obtain ⟨heap, deleted, other, second, free⟩ := chanheadDeleteMessage_of_prev_none here prev
      fun b is => allocated b (mem_of_head? (next ▸ is))
    rw [next] at other second
    have apart : ∀ b ∈ rest, b ≠ cur := fun b on => ne_of_mem_of_not_mem on notAgain
    have untouched : ∀ b ∈ rest, rest.head? ≠ some b → heap b = ch.heap b := fun b on =>
      other b (apart b on)
    have relinked : ∀ b ∈ rest, ∃ after before, ch.heap b = some after ∧
        heap b = some { after with prev := before } := by
      intro b on
      obtain ⟨after, found⟩ := allocated b on
      by_cases head : rest.head? = some b
      · exact ⟨after, none, found, second b after (apart b on) head found⟩
      · exact ⟨after, after.prev, found, (untouched b on head).trans found⟩
    have last : (if ch.msgLast = some cur then none else ch.msgLast) = rest.getLast? := by
      rw [list.last_eq]
      rcases rest.eq_nil_or_concat' with rfl | ⟨init, b, rfl⟩
      · simp
      · have : b ≠ cur := apart b (by simp)
        simp [List.getLast?_cons, this]
    have first : ch.msgFirst = some cur := list.first_eq
    refine ⟨cur, node, _, first, here, isMsg, deleted, ⟨⟨⟨rest, ?_, ?_⟩, ?_⟩, ?_, free⟩,
      by simp [first]⟩
    · simp only [first, if_true, next, last]
      refine DList.unlink (show DList _ _ _ _ ([] ++ cur :: rest) from list) (by simp) ?_ ?_ ?_
      · intro b head
        have on : b ∈ rest := mem_of_head? head
        obtain ⟨after, found⟩ := allocated b on
        simp [second b after (apart b on) head found, here, prev]
      · intro b on _
        obtain ⟨after, before, was, is⟩ := relinked b on
        simp [was, is]
      · intro b on notHead
        rw [untouched b on notHead]
    · rw [← held]
      refine map_congr_left fun b on => ?_
      obtain ⟨after, before, was, is⟩ := relinked b on
      simp [was, is]
    · simp only [count, length_cons]
      omega
    · intro more
      have nonempty : rest ≠ [] := by
        rintro rfl
        exact more (by simpa using held.symm)
      rw [last, list.last_eq, List.getLast?_cons_of_ne_nil nonempty]

/-! ## The deleting loops -/

/-- What `deleteWhile` leaves of a list whose length is the stored count. -/
def dropFront (condition : Int → Msg → Bool) : List Msg → List Msg
  | [] => []
  | m :: buf =>
    if condition ((m :: buf).length : Int) m then dropFront condition buf else m :: buf

theorem dropFront_suffix (condition : Int → Msg → Bool) (buf : List Msg) :
    dropFront condition buf <:+ buf := by
  induction buf with
  | nil => exact suffix_rfl
  | cons m buf ih =>
    unfold dropFront
    split
    · exact ih.trans (suffix_cons m buf)
    · exact suffix_rfl

theorem represents_deleteWhile (condition : Int → Msg → Bool) (fuel : Nat)
    (rep : ch.Represents buf) (enough : buf.length ≤ fuel) :
    ∃ ch', deleteWhile condition fuel ch.msgFirst ch = some (ch'.msgFirst, ch') ∧
      ch.Trimmed ch' (dropFront condition buf) := by
  induction buf generalizing fuel ch with
  | nil =>
    have empty : ch.msgFirst = none := rep.ends_none_iff.1.mpr rfl
    refine ⟨ch, ?_, rep.trimmed⟩
    rw [empty]
    cases fuel <;> rfl
  | cons m buf ih =>
    obtain ⟨fuel, rfl⟩ : ∃ k, fuel = k + 1 := ⟨fuel - 1, by simp at enough; omega⟩
    obtain ⟨cur, node, ch', first, here, rfl, deleted, rest, moved⟩ := represents_delete_first rep
    simp only [deleteWhile, first, here, dropFront, ← rep.count]
    cases met : condition ch.storedMessageCount node.msg with
    | false => exact ⟨ch, by simp [met, first], by simpa using rep.trimmed⟩
    | true =>
      obtain ⟨ch'', looped, rest'⟩ := ih fuel rest.represents (by simpa using enough)
      refine ⟨ch'', by simp [met, deleted, ← moved, looped], ?_⟩
      simpa using rest.trans rest' (dropFront_suffix condition buf)

/-- The list after `chanhead_messages_gc_custom`. -/
def gcMessages (now maxMessages : Int) (buf : List Msg) : List Msg :=
  dropFront (expired now) (dropFront (tooMany maxMessages) buf)

theorem represents_gc (now maxMessages : Int) (rep : ch.Represents buf) :
    ∃ ch', chanheadMessagesGcCustom now maxMessages ch = some ch' ∧
      ch.Trimmed ch' (gcMessages now maxMessages buf) := by
  obtain ⟨ch₁, deleted₁, trimmed₁⟩ := represents_deleteWhile (tooMany maxMessages)
    ch.storedMessageCount.toNat rep (by rw [rep.count]; simp)
  obtain ⟨ch₂, deleted₂, trimmed₂⟩ := represents_deleteWhile (expired now)
    ch₁.storedMessageCount.toNat trimmed₁.represents (by rw [trimmed₁.represents.count]; simp)
  refine ⟨ch₂, by simp [chanheadMessagesGcCustom, deleted₁, deleted₂], ?_⟩
  exact trimmed₁.trans trimmed₂ (dropFront_suffix _ _)

theorem represents_deleteAll (fuel : Nat) (rep : ch.Represents buf) (enough : buf.length ≤ fuel) :
    ∃ ch', deleteAllMessages fuel ch = some ch' ∧ ch'.Represents [] := by
  induction buf generalizing fuel ch with
  | nil =>
    have empty : ch.msgFirst = none := rep.ends_none_iff.1.mpr rfl
    refine ⟨ch, ?_, rep⟩
    cases fuel <;> simp [deleteAllMessages, empty]
  | cons m buf ih =>
    obtain ⟨fuel, rfl⟩ : ∃ k, fuel = k + 1 := ⟨fuel - 1, by simp at enough; omega⟩
    obtain ⟨cur, node, ch', first, -, -, deleted, rest, -⟩ := represents_delete_first rep
    simp only [deleteAllMessages, first, deleted, bind_some]
    exact ih fuel rest.represents (by simpa using enough)

/-! ## What garbage collection leaves -/

theorem gcMessages_suffix (now maxMessages : Int) (buf : List Msg) :
    gcMessages now maxMessages buf <:+ buf :=
  (dropFront_suffix _ _).trans (dropFront_suffix _ _)

theorem dropFront_head (condition : Int → Msg → Bool) {rest : List Msg}
    (left : dropFront condition buf = m :: rest) :
    condition ((m :: rest).length : Int) m = false := by
  induction buf with
  | nil => cases left
  | cons n buf ih =>
    unfold dropFront at left
    split at left
    · exact ih left
    · rename_i stops
      cases left
      simpa using stops

variable {maxMessages : Int}

theorem length_trimmed (limited : 0 ≤ maxMessages) (buf : List Msg) :
    ((dropFront (tooMany maxMessages) buf).length : Int) ≤ maxMessages := by
  cases left : dropFront (tooMany maxMessages) buf with
  | nil => simpa using limited
  | cons m rest =>
    have stops := dropFront_head _ left
    simp only [tooMany, limited, decide_true, Bool.true_and, decide_eq_false_iff_not, not_lt] at stops
    exact stops

theorem length_gcMessages (limited : 0 ≤ maxMessages) (now : Int) (buf : List Msg) :
    ((gcMessages now maxMessages buf).length : Int) ≤ maxMessages := by
  have pruned := (dropFront_suffix (expired now) (dropFront (tooMany maxMessages) buf)).length_le
  have trimmed := length_trimmed limited buf
  unfold gcMessages
  omega

theorem gcMessages_head {now : Int} {rest : List Msg}
    (left : gcMessages now maxMessages buf = m :: rest) : now ≤ m.expires := by
  have stops := dropFront_head _ left
  simpa [expired] using stops

theorem dropFront_keeps_last (condition : Int → Msg → Bool) (buf : List Msg)
    (stops : condition 1 m = false) : ∃ front, dropFront condition (buf ++ [m]) = front ++ [m] := by
  induction buf with
  | nil => exact ⟨[], by simp [dropFront, stops]⟩
  | cons n buf ih =>
    unfold dropFront
    simp only [cons_append]
    split
    · exact ih
    · exact ⟨n :: buf, rfl⟩

theorem gcMessages_keeps_last {now : Int} (buf : List Msg) (live : now ≤ m.expires)
    (allowed : maxMessages ≠ 0) :
    ∃ front, gcMessages now maxMessages (buf ++ [m]) = front ++ [m] := by
  obtain ⟨front, trimmed⟩ := dropFront_keeps_last (tooMany maxMessages) buf (m := m)
    (by simp [tooMany]; omega)
  unfold gcMessages
  rw [trimmed]
  exact dropFront_keeps_last (expired now) front (by simpa [expired] using live)

/-! ## Linking a message -/

theorem represents_linkLast {address : Nat} (msg : Msg) (rep : ch.Represents buf)
    (fresh : ch.heap address = none) :
    ∃ ch', linkLast address msg ch = some ch' ∧ ch'.Represents (buf ++ [msg]) ∧
      ch'.msgLast = some address := by
  obtain ⟨⟨nodes, list, held⟩, count⟩ := rep
  have unused : address ∉ nodes := by
    intro on
    obtain ⟨node, found⟩ := allocated_of_linked list on
    simp [fresh] at found
  -- the heap after linking, and what it says about the old nodes
  obtain ⟨heap, linked, new, atLast, other⟩ : ∃ heap, linkLast address msg ch = some {
        msgFirst := if ch.msgFirst.isNone then some address else ch.msgFirst
        msgLast := some address
        storedMessageCount := ch.storedMessageCount + 1
        heap := heap } ∧
      heap address = some ⟨msg, ch.msgLast, none⟩ ∧
      (∀ b, ch.msgLast = some b →
        ∃ node, ch.heap b = some node ∧ heap b = some { node with next := some address }) ∧
      ∀ b, b ≠ address → ch.msgLast ≠ some b → heap b = ch.heap b := by
    cases last : ch.msgLast with
    | none =>
      refine ⟨update ch.heap address (some ⟨msg, none, none⟩), by simp [linkLast, last],
        by simp, by simp, fun b different _ => ?_⟩
      rw [update_of_ne different]
    | some b =>
      have on : b ∈ nodes := mem_of_getLast? (list.last_eq ▸ last)
      obtain ⟨node, found⟩ := allocated_of_linked list on
      have different : address ≠ b := fun same => unused (same ▸ on)
      refine ⟨update (update ch.heap address (some ⟨msg, some b, none⟩)) b
        (some { node with next := some address }), by simp [linkLast, last, found],
        by simp [different], ?_, ?_⟩
      · intro c same
        cases same
        exact ⟨node, found, by simp⟩
      · intro c different' notLast
        have notB : c ≠ b := fun same => notLast (same ▸ rfl)
        rw [update_of_ne notB, update_of_ne different']
  have kept : ∀ b ∈ nodes, ∃ node next, ch.heap b = some node ∧
      heap b = some { node with next := next } := by
    intro b on
    by_cases isLast : ch.msgLast = some b
    · obtain ⟨node, was, is⟩ := atLast b isLast
      exact ⟨node, _, was, is⟩
    · obtain ⟨node, found⟩ := allocated_of_linked list on
      have same := other b (ne_of_mem_of_not_mem on unused) isLast
      exact ⟨node, node.next, found, same.trans found⟩
  refine ⟨_, linked, ⟨⟨nodes ++ [address], ?_, ?_⟩, ?_⟩, rfl⟩
  · have first : (if ch.msgFirst.isNone then some address else ch.msgFirst)
        = (nodes ++ [address]).head? := by
      rw [list.first_eq]
      cases nodes <;> simp
    simp only [first]
    refine list.snoc unused ?_ ?_ ?_ (by simp [new]) (by simp [new])
    · intro b isLast
      obtain ⟨node, -, is⟩ := atLast b isLast
      simp [is]
    · intro b on notLast
      rw [other b (ne_of_mem_of_not_mem on unused) notLast]
    · intro b on
      obtain ⟨node, next, was, is⟩ := kept b on
      simp [was, is]
  · rw [map_append, map_append (f := some), ← held]
    simp only [map_cons, map_nil, new, map_some]
    congr 1
    refine map_congr_left fun b on => ?_
    obtain ⟨node, next, was, is⟩ := kept b on
    simp [was, is]
  · simp [count]

end Nchan.Memstore
