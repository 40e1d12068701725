import Mathlib.Data.List.Induction
import Nchan.Memstore.Channel
import Nchan.MultiMsgId

/-! # Finding the next message

`chanhead_find_next_message` answers a request for the message after an id: it looks
for a request's position from the newest message backwards, or counts messages from
either end.  `findNext` says the same over the list of messages.
-/

namespace Nchan.Memstore

open Nchan.Lib Option List Prod

/-- `for(cur = ..; cur != NULL && n > 1; cur = ..) { prev = cur; n--; }` and
    `cur = cur ? cur : prev`, where the first argument after `follow` is `n - 1`. -/
def walkNth (heap : Nat → Option StoreMessage) (follow : StoreMessage → Option Nat) :
    Nat → Option Nat → Option Nat → Option (Option Nat)
  | _, none, prev => some prev
  | 0, some cur, _ => some (some cur)
  | n + 1, some cur, _ => (heap cur).bind fun node => walkNth heap follow n (follow node) (some cur)

/-- The `while(cur != NULL)` loop that goes back from the last message to one that the
    requested id is not below. -/
def scanBack (heap : Nat → Option StoreMessage) (midTime midTag : Int) :
    Nat → Option Nat → Option (MsgStatus × Option Nat)
  | _, none => some (.notfound, none)
  | 0, some _ => none
  | fuel + 1, some cur =>
    (heap cur).bind fun node =>
      let id := node.msg.id
      if midTime > id.time ∨ midTime = id.time ∧ midTag ≥ id.tag then
        match node.next with
        | some next => some (.found, some next)
        | none => some (.expected, none)
      else scanBack heap midTime midTag fuel node.prev

/-- The lookup of `chanhead_find_next_message`, after its garbage collection. -/
def findNextStored (msgid : Stamp) (ch : Chanhead) : Option (MsgStatus × Option Nat) :=
  if ch.msgLast = none then
    some (if msgid.time = 0 ∨ ch.maxMessages = 0 then .expected else .notfound, none)
  else if msgid.time = newestMsgidTime then some (.expected, none)
  else if msgid.time = nthMsgidTime then
    -- assert(mid_tag != 0)
    if msgid.tag = 0 then none
    else
      let found :=
        if msgid.tag > 0 then walkNth ch.heap (·.next) (msgid.tag.toNat - 1) ch.msgFirst none
        else walkNth ch.heap (·.prev) ((-msgid.tag).toNat - 1) ch.msgLast none
      found.map fun cur => (if cur.isSome then .found else .expected, cur)
  else
    (ch.msgFirst.bind ch.heap).bind fun first =>
      if msgid.time < first.msg.id.time ∨
          msgid.time = first.msg.id.time ∧ msgid.tag < first.msg.id.tag then
        some (.found, ch.msgFirst)
      else scanBack ch.heap msgid.time msgid.tag ch.storedMessageCount.toNat ch.msgLast

/-- `chanhead_find_next_message` on the owner of a complete buffer. -/
def chanheadFindNextMessage (now : Int) (msgid : Stamp) (ch : Chanhead) :
    Option ((MsgStatus × Option Nat) × Chanhead) :=
  (memstoreChanheadMessagesGc now ch).bind fun ch =>
    (findNextStored msgid ch).map fun answer => (answer, ch)

/-! ## Over the list of messages -/

/-- The `n`-th message of a list, counting from 0, or the last one if there are fewer. -/
def nthOrLast (n : Nat) (buf : List Msg) : Option Msg := buf[min n (buf.length - 1)]?

/-- Going back through messages, newest first, to one that is not after `msgid`; the
    answer is the message after that one. -/
def nextAfter (msgid : Stamp) : List Msg → Option Msg → MsgStatus × Option Msg
  | [], _ => (.notfound, none)
  | m :: older, newer =>
    if m.id ≤ msgid then (if newer.isSome then .found else .expected, newer)
    else nextAfter msgid older (some m)

/-- What a request for the message after `msgid` is answered. -/
def findNext (maxMessages : Int) (msgid : Stamp) (buf : List Msg) : Option (MsgStatus × Option Msg) :=
  match buf with
  | [] => some (if msgid.time = 0 ∨ maxMessages = 0 then .expected else .notfound, none)
  | first :: _ =>
    if msgid.time = newestMsgidTime then some (.expected, none)
    else if msgid.time = nthMsgidTime then
      if msgid.tag = 0 then none
      else if msgid.tag > 0 then some (.found, nthOrLast (msgid.tag.toNat - 1) buf)
      else some (.found, nthOrLast ((-msgid.tag).toNat - 1) buf.reverse)
    else if msgid < first.id then some (.found, some first)
    else some (nextAfter msgid buf.reverse none)

/-! ## Walks along the links -/

theorem walkNth_of_chain {heap : Nat → Option StoreMessage} {follow : StoreMessage → Option Nat}
    {start : Option Nat} {nodes : List Nat}
    (chain : Chain (fun a => (heap a).map follow) start nodes) (n : Nat) (prev : Option Nat) :
    walkNth heap follow n start prev
      = some (if nodes = [] then prev else nodes[min n (nodes.length - 1)]?) := by
  induction nodes generalizing n start prev with
  | nil =>
    rw [show start = none from chain]
    cases n <;> rfl
  | cons a nodes ih =>
    obtain ⟨rfl, rest, step, tail⟩ := chain
    cases n with
    | zero => simp [walkNth]
    | succ n =>
      obtain ⟨node, here, rfl⟩ := map_eq_some_iff.mp step
      simp only [walkNth, here, bind_some, ih tail]
      cases nodes with
      | nil => simp
      | cons b nodes =>
        simp

def messageAt (heap : Nat → Option StoreMessage) (address : Nat) : Option Msg :=
  (heap address).map (·.msg)

variable {heap : Nat → Option StoreMessage} {nodes : List Nat} {buf : List Msg}

section

variable (held : nodes.map (messageAt heap) = buf.map some)

include held

theorem messageAt_getElem? (i : Nat) :
    nodes[i]?.map (messageAt heap) = buf[i]?.map some := by
  simpa using congrArg (·[i]?) held

omit held in
theorem scanBack_of_list {first last : Option Nat} {front back : List Nat} {older newer : List Msg}
    (list : DList (fun a => (heap a).map (·.next)) (fun a => (heap a).map (·.prev))
      first last (front ++ back))
    (heldFront : front.map (messageAt heap) = older.map some)
    (heldBack : back.map (messageAt heap) = newer.map some)
    (msgid : Stamp) (fuel : Nat) (enough : front.length ≤ fuel) :
    ∃ status address msg,
      scanBack heap msgid.time msgid.tag fuel front.getLast? = some (status, address) ∧
      nextAfter msgid older.reverse newer.head? = (status, msg) ∧
      address.map (messageAt heap) = msg.map some := by
  induction front using reverseRecOn generalizing back older newer fuel with
  | nil =>
    obtain rfl : older = [] := by simpa using heldFront.symm
    refine ⟨.notfound, none, none, ?_, rfl, rfl⟩
    cases fuel <;> rfl
  | append_singleton front cur ih =>
    obtain ⟨fuel, rfl⟩ : ∃ k, fuel = k + 1 := ⟨fuel - 1, by simp at enough; omega⟩
    obtain ⟨older, m, rfl⟩ : ∃ init m, older = init ++ [m] := by
      refine older.eq_nil_or_concat'.resolve_left ?_
      rintro rfl
      simp at heldFront
    rw [map_append, map_append] at heldFront
    obtain ⟨heldOlder, heldCur⟩ := append_inj' heldFront rfl
    simp only [map_cons, map_nil, cons.injEq, and_true] at heldCur
    obtain ⟨node, here, rfl⟩ := map_eq_some_iff.mp heldCur
    rw [append_assoc, singleton_append] at list
    have links := list.links_at
    simp only [here, map_some, some.injEq] at links
    obtain ⟨next, prev⟩ := links
    have reached : node.msg.id ≤ msgid ↔ msgid.time > node.msg.id.time ∨
        msgid.time = node.msg.id.time ∧ msgid.tag ≥ node.msg.id.tag := by
      rw [Stamp.le_iff]
      omega
    simp only [getLast?_concat, scanBack, here, bind_some, reverse_append,
      reverse_cons, reverse_nil, nil_append, singleton_append, nextAfter,
      ← reached, next, prev]
    by_cases stops : node.msg.id ≤ msgid
    · have follower := messageAt_getElem? heldBack 0
      simp only [← head?_eq_getElem?] at follower
      cases after : back.head? with
      | none =>
        rw [after] at follower
        have none : newer.head? = none := map_eq_none_iff.mp follower.symm
        exact ⟨.expected, .none, .none, by simp [stops], by simp [stops, none], rfl⟩
      | some b =>
        obtain ⟨m, is⟩ : ∃ m, newer.head? = some m := by
          refine ne_none_iff_exists'.mp fun none => ?_
          simp [after, none] at follower
        refine ⟨.found, some b, newer.head?, by simp [stops], by simp [stops, is], ?_⟩
        rw [← follower, after]
    · simp only [stops, if_false]
      have heldRest : (cur :: back).map (messageAt heap) = (node.msg :: newer).map some := by
        simp [heldCur, heldBack]
      exact ih list heldOlder heldRest fuel (by simpa using enough)

theorem scanBack_implements {first last : Option Nat}
    (list : DList (fun a => (heap a).map (·.next)) (fun a => (heap a).map (·.prev))
      first last nodes) (msgid : Stamp) (fuel : Nat)
    (enough : nodes.length ≤ fuel) :
    ∃ status address msg, scanBack heap msgid.time msgid.tag fuel last = some (status, address) ∧
      nextAfter msgid buf.reverse none = (status, msg) ∧
      address.map (messageAt heap) = msg.map some := by
  have whole : DList (fun a => (heap a).map (·.next)) (fun a => (heap a).map (·.prev)) first last
      (nodes ++ []) := by
    simpa using list
  rw [list.last_eq]
  exact scanBack_of_list whole held (show [].map (messageAt heap) = [].map some from rfl) msgid
    fuel enough

theorem walkNth_implements {follow : StoreMessage → Option Nat} {start : Option Nat}
    (chain : Chain (fun a => (heap a).map follow) start nodes) (nonempty : buf ≠ []) (n : Nat) :
    ∃ a, walkNth heap follow n start none = some (some a) ∧
      some (messageAt heap a) = (nthOrLast n buf).map some := by
  have lengths : nodes.length = buf.length := by simpa using congrArg length held
  have positive := length_pos_iff.mpr nonempty
  have some_node : nodes ≠ [] := length_pos_iff.mp (by omega)
  have inside : min n (nodes.length - 1) < nodes.length := by omega
  have walked := walkNth_of_chain chain n none
  have found := messageAt_getElem? held (min n (nodes.length - 1))
  rw [getElem?_eq_getElem inside] at found walked
  simp only [some_node, if_false] at walked
  refine ⟨_, walked, ?_⟩
  rw [nthOrLast, ← lengths]
  exact found

end

variable {ch : Chanhead} {c : Channel}

theorem findNextStored_implements (msgid : Stamp) (impl : ch.Implements c) :
    match findNext c.maxMessages msgid c.messages with
    | none => findNextStored msgid ch = none
    | some (status, msg) => ∃ address, findNextStored msgid ch = some (status, address) ∧
        address.map (messageAt ch.heap) = msg.map some := by
  obtain ⟨nodes, list, held⟩ := impl.represents.linked
  change nodes.map (messageAt ch.heap) = _ at held
  have lengths : nodes.length = c.messages.length := by simpa using congrArg length held
  have limit := impl.limit
  have count := impl.represents.count
  cases messages : c.messages with
  | nil =>
    have empty : ch.msgLast = none := impl.represents.ends_none_iff.2.mpr messages
    exact ⟨none, by simp [findNextStored, empty, limit], rfl⟩
  | cons first rest =>
    have nonempty : ch.msgLast ≠ none := fun none => by
      simp [impl.represents.ends_none_iff.2.mp none] at messages
    rw [messages] at held lengths count
    simp only [findNext, findNextStored, nonempty, if_false]
    by_cases newest : msgid.time = newestMsgidTime
    · simp only [newest, if_true]
      exact ⟨none, rfl, rfl⟩
    simp only [newest, if_false]
    by_cases nth : msgid.time = nthMsgidTime
    · simp only [nth, if_true]
      by_cases zero : msgid.tag = 0
      · simp [zero]
      simp only [zero, if_false]
      by_cases oldest : msgid.tag > 0
      · obtain ⟨a, walked, found⟩ :=
          walkNth_implements held list.forward (by simp) (msgid.tag.toNat - 1)
        simp only [oldest, if_true, walked]
        exact ⟨some a, rfl, found⟩
      · have reversed : nodes.reverse.map (messageAt ch.heap) = (first :: rest).reverse.map some := by
          rw [map_reverse, held, map_reverse]
        obtain ⟨a, walked, found⟩ :=
          walkNth_implements reversed list.backward (by simp) ((-msgid.tag).toNat - 1)
        simp only [oldest, if_false, walked]
        exact ⟨some a, rfl, found⟩
    · simp only [nth, if_false]
      cases nodes with
      | nil => cases held
      | cons a nodes =>
        simp only [map_cons, cons.injEq] at held
        obtain ⟨node, here, rfl⟩ := map_eq_some_iff.mp held.1
        have isFirst : ch.msgFirst = some a := list.first_eq
        have below : msgid < node.msg.id ↔ msgid.time < node.msg.id.time ∨
            msgid.time = node.msg.id.time ∧ msgid.tag < node.msg.id.tag := Stamp.lt_iff
        simp only [isFirst, bind_some, here, ← below]
        by_cases before : msgid < node.msg.id
        · simp only [before, if_true]
          exact ⟨some a, rfl, congrArg some held.1⟩
        · simp only [before, if_false]
          have whole : (a :: nodes).map (messageAt ch.heap) = (node.msg :: rest).map some := by
            simp [held]
          obtain ⟨status, address, msg, scanned, next, same⟩ := scanBack_implements whole list msgid
            ch.storedMessageCount.toNat (by rw [count, ← lengths]; simp)
          rw [next]
          exact ⟨address, scanned, same⟩

/-- `chanhead_find_next_message` answers `findNext` of what garbage collection leaves. -/
theorem findNext_implements (now : Int) (msgid : Stamp) (impl : ch.Implements c) :
    match findNext c.maxMessages msgid (c.gc now).messages with
    | none => chanheadFindNextMessage now msgid ch = none
    | some (status, msg) => ∃ address ch',
        chanheadFindNextMessage now msgid ch = some ((status, address), ch') ∧
        ch'.Implements (c.gc now) ∧ address.map (messageAt ch'.heap) = msg.map some := by
  obtain ⟨ch', collected, impl', -⟩ := gc_implements now impl
  have stored := findNextStored_implements msgid impl'
  rw [show (c.gc now).maxMessages = c.maxMessages from rfl] at stored
  cases answer : findNext c.maxMessages msgid (c.gc now).messages with
  | none =>
    rw [answer] at stored
    simp [chanheadFindNextMessage, collected, stored]
  | some found =>
    rw [answer] at stored
    obtain ⟨address, is, same⟩ := stored
    exact ⟨address, ch', by simp [chanheadFindNextMessage, collected, is], impl', same⟩

/-! ## What is found -/

variable {msgid : Stamp} {status : MsgStatus} {m : Msg}

theorem nextAfter_mem {msgs : List Msg} {newer : Option Msg}
    (answer : nextAfter msgid msgs newer = (status, some m)) : m ∈ msgs ∨ newer = some m := by
  induction msgs generalizing newer with
  | nil => cases answer
  | cons n older ih =>
    unfold nextAfter at answer
    split at answer
    · exact .inr (congrArg snd answer)
    · rcases ih answer with on | is
      · exact .inl (mem_cons_of_mem n on)
      · exact .inl (some.inj is ▸ mem_cons_self)

theorem nthOrLast_mem {n : Nat} (answer : nthOrLast n buf = some m) : m ∈ buf :=
  mem_of_getElem? answer

variable {maxMessages : Int}

theorem findNext_mem (answer : findNext maxMessages msgid buf = some (status, some m)) :
    m ∈ buf := by
  unfold findNext at answer
  split at answer
  · simp at answer
  split at answer
  · simp at answer
  split at answer
  · split at answer
    · cases answer
    split at answer
    · exact nthOrLast_mem (congrArg snd (some.inj answer))
    · exact mem_reverse.mp (nthOrLast_mem (congrArg snd (some.inj answer)))
  split at answer
  · cases answer
    exact mem_cons_self
  · rcases nextAfter_mem (some.inj answer) with on | is
    · exact mem_reverse.mp on
    · cases is

/-! ## In a sorted buffer -/

theorem nextAfter_of_sorted {msgs : List Msg} {newer : Option Msg}
    (sorted : msgs.Pairwise (·.id < ·.id)) (reached : ∃ m ∈ msgs, m.id ≤ msgid) :
    nextAfter msgid msgs.reverse newer =
      (if ((msgs.filter (msgid < ·.id)).head?.or newer).isSome then .found else .expected,
        (msgs.filter (msgid < ·.id)).head?.or newer) := by
  induction msgs using reverseRecOn generalizing newer with
  | nil => simp at reached
  | append_singleton older m ih =>
    rw [pairwise_append] at sorted
    rw [reverse_concat, nextAfter, filter_append]
    by_cases stops : m.id ≤ msgid
    · have allBefore : older.filter (msgid < ·.id) = [] := by
        refine filter_eq_nil_iff.mpr fun a on => ?_
        have below : a.id < m.id := sorted.2.2 a on m (mem_singleton_self m)
        simpa using (below.trans_le stops).le
      simp [stops, allBefore]
    · have reached' : ∃ a ∈ older, a.id ≤ msgid := by
        obtain ⟨a, on, before⟩ := reached
        rcases mem_append.mp on with on | is
        · exact ⟨a, on, before⟩
        · exact absurd (mem_singleton.mp is ▸ before) stops
      rw [if_neg stops, ih sorted.1 reached']
      have later : [m].filter (fun x => decide (msgid < x.id)) = [m] := by
        simpa using lt_of_not_ge stops
      rw [later]
      cases older.filter (msgid < ·.id) <;> simp

section

variable (sorted : buf.Pairwise (·.id < ·.id))

include sorted

theorem findNext_of_explicit
    (notNewest : msgid.time ≠ newestMsgidTime) (notNth : msgid.time ≠ nthMsgidTime)
    (nonempty : buf ≠ []) :
    findNext maxMessages msgid buf = some
      (if ((buf.filter (msgid < ·.id)).head?).isSome then .found else .expected,
        (buf.filter (msgid < ·.id)).head?) := by
  cases buf with
  | nil => exact absurd rfl nonempty
  | cons first rest =>
    simp only [findNext, notNewest, notNth, if_false]
    by_cases before : msgid < first.id
    · simp [before]
    · rw [if_neg before, nextAfter_of_sorted sorted ⟨first, mem_cons_self, not_lt.mp before⟩]
      simp

theorem findNext_of_sorted (position : 0 ≤ msgid.time) :
    findNext maxMessages msgid buf = some
      (if ((buf.filter (msgid < ·.id)).head?).isSome then .found
        else if buf = [] ∧ msgid.time ≠ 0 ∧ maxMessages ≠ 0 then .notfound else .expected,
      (buf.filter (msgid < ·.id)).head?) := by
  by_cases empty : buf = []
  · subst empty
    by_cases gone : msgid.time = 0 ∨ maxMessages = 0
    · have : ¬ (msgid.time ≠ 0 ∧ maxMessages ≠ 0) := by omega
      simp [findNext, this]
    · have : msgid.time ≠ 0 ∧ maxMessages ≠ 0 := by omega
      simp [findNext, this]
  · have notNewest : msgid.time ≠ -1 := by omega
    have notNth : msgid.time ≠ -2 := by omega
    simp [findNext_of_explicit sorted notNewest notNth empty, empty]

/-! ## The successor function of a buffer -/

/-- `m` is the message of `buf` with the least id after `msgid`. -/
structure IsNext (buf : List Msg) (msgid : Stamp) (m : Msg) : Prop where
  stored : m ∈ buf
  after : msgid < m.id
  least : ∀ b ∈ buf, msgid < b.id → m.id ≤ b.id

theorem isNext_of_sorted
    (first : (buf.filter (msgid < ·.id)).head? = some m) : IsNext buf msgid m := by
  obtain ⟨later, is⟩ := head?_eq_some_iff.mp first
  have mem : m ∈ buf.filter (msgid < ·.id) := is ▸ mem_cons_self
  have sortedLater : (m :: later).Pairwise (·.id < ·.id) := is ▸ sorted.filter _
  refine ⟨mem_of_mem_filter mem, by simpa using of_mem_filter mem, fun b on after => ?_⟩
  have among : b ∈ m :: later := is ▸ mem_filter.mpr ⟨on, by simpa using after⟩
  rcases mem_cons.mp among with rfl | on
  · exact le_refl _
  · exact ((pairwise_cons.mp sortedLater).1 b on).le

end

theorem exists_nthOrLast (nonempty : buf ≠ []) (n : Nat) : ∃ m, nthOrLast n buf = some m := by
  have positive := length_pos_iff.mpr nonempty
  exact ⟨_, getElem?_eq_getElem (show min n (buf.length - 1) < buf.length by omega)⟩

theorem findNext_of_nth {n : Int} (counted : n ≠ 0) (nonempty : buf ≠ []) :
    findNext maxMessages ⟨nthMsgidTime, n⟩ buf =
      some (.found, if n > 0 then nthOrLast (n.toNat - 1) buf
        else nthOrLast ((-n).toNat - 1) buf.reverse) := by
  cases buf with
  | nil => exact absurd rfl nonempty
  | cons first rest =>
    rw [findNext, if_neg (show nthMsgidTime ≠ newestMsgidTime by decide), if_pos rfl, if_neg counted]
    split <;> rfl

/-- `chanhead_find_next_message` answers with this status and message. -/
def Finds (now : Int) (msgid : Stamp) (ch : Chanhead) (status : MsgStatus) (msg : Option Msg) :
    Prop :=
  ∃ address ch', chanheadFindNextMessage now msgid ch = some ((status, address), ch') ∧
    address.map (messageAt ch'.heap) = msg.map some

theorem finds_of_findNext {now : Int} {msg : Option Msg} (impl : ch.Implements c)
    (answer : findNext c.maxMessages msgid (c.gc now).messages = some (status, msg)) :
    Finds now msgid ch status msg := by
  have found := findNext_implements now msgid impl
  rw [answer] at found
  obtain ⟨address, ch', is, _, same⟩ := found
  exact ⟨address, ch', is, same⟩

/-- Ask for the message after `msgid`, then for the one after the answer, and so on: the messages
    found and the status of the first answer without one. -/
def iterateNext (now : Int) : Nat → Stamp → Chanhead → Option (List Msg × MsgStatus)
  | 0, _, _ => none
  | fuel + 1, msgid, ch =>
    (chanheadFindNextMessage now msgid ch).bind fun ((status, address), ch') =>
      match address with
      | none => some ([], status)
      | some address =>
        (messageAt ch'.heap address).bind fun m =>
          (iterateNext now fuel m.id ch').map fun (later, last) => (m :: later, last)

theorem dropFront_of_head {condition : Int → Msg → Bool}
    (stops : ∀ m rest, buf = m :: rest → condition ((m :: rest).length : Int) m = false) :
    dropFront condition buf = buf := by
  cases buf with
  | nil => rfl
  | cons m rest => simp only [dropFront, stops m rest rfl, Bool.false_eq_true, if_false]

theorem gcMessages_idem (now maxMessages : Int) (buf : List Msg) :
    gcMessages now maxMessages (gcMessages now maxMessages buf) = gcMessages now maxMessages buf := by
  generalize left : gcMessages now maxMessages buf = rest
  have few : dropFront (tooMany maxMessages) rest = rest := by
    refine dropFront_of_head fun m rest' is => ?_
    by_cases limited : 0 ≤ maxMessages
    · have short := length_gcMessages limited now buf
      rw [left, is] at short
      simp only [tooMany, limited, decide_true, Bool.true_and, decide_eq_false_iff_not, not_lt]
      exact short
    · simp [tooMany, limited]
  have live : dropFront (expired now) rest = rest :=
    dropFront_of_head fun m rest' is => by simpa [expired] using gcMessages_head (left.trans is)
  rw [gcMessages, few, live]

theorem Channel.gc_idem (now : Int) (c : Channel) : (c.gc now).gc now = c.gc now := by
  simp [Channel.gc, gcMessages_idem]

theorem filter_after_of_sorted {seen later : List Msg}
    (sorted : (seen ++ m :: later).Pairwise (·.id < ·.id)) :
    (seen ++ m :: later).filter (m.id < ·.id) = later := by
  obtain ⟨_, tail, across⟩ := pairwise_append.mp sorted
  have before : seen.filter (m.id < ·.id) = [] := by
    refine filter_eq_nil_iff.mpr fun a on => ?_
    simpa using (across a on m mem_cons_self).le
  have behind : later.filter (m.id < ·.id) = later := by
    refine filter_eq_self.mpr fun b on => ?_
    simpa using (pairwise_cons.mp tail).1 b on
  rw [filter_append, before, nil_append, filter_cons_of_neg (by simp), behind]

theorem iterateNext_behind {now : Int} (impl : ch.Implements c)
    (sorted : (c.gc now).messages.Pairwise (·.id < ·.id))
    (explicit : ∀ m ∈ (c.gc now).messages, 0 ≤ m.id.time) (nonempty : (c.gc now).messages ≠ [])
    (position : 0 ≤ msgid.time) {later : List Msg} (suffix : later <:+ (c.gc now).messages)
    (behind : (c.gc now).messages.filter (msgid < ·.id) = later) {fuel : Nat}
    (enough : later.length < fuel) : iterateNext now fuel msgid ch = some (later, .expected) := by
  induction fuel generalizing ch c msgid later with
  | zero => omega
  | succ fuel ih =>
    have found := findNext_implements now msgid impl
    rw [findNext_of_explicit sorted (show msgid.time ≠ -1 by omega)
      (show msgid.time ≠ -2 by omega) nonempty, behind] at found
    obtain ⟨address, ch', is, impl', same⟩ := found
    rw [iterateNext, is, bind_some]
    cases later with
    | nil =>
      obtain rfl : address = none := by simpa using same
      rfl
    | cons m later =>
      obtain ⟨a, rfl, holds⟩ : ∃ a, address = some a ∧ messageAt ch'.heap a = some m := by
        simpa using same
      obtain ⟨seen, split⟩ := suffix
      have again : (c.gc now).gc now = c.gc now := c.gc_idem now
      have stored : m ∈ (c.gc now).messages := by simp [← split]
      have rest : iterateNext now fuel m.id ch' = some (later, .expected) := by
        refine ih impl' (again.symm ▸ sorted) (again.symm ▸ explicit) (again.symm ▸ nonempty)
          (explicit m stored) ?_ ?_ (by simpa using enough)
        · rw [again, ← split]
          exact (suffix_cons m later).trans (suffix_append seen _)
        · rw [again, ← split]
          exact filter_after_of_sorted (split ▸ sorted)
      simp [holds, rest]

/-- Looking up the next message is the successor function of the buffer, as garbage collection
    leaves it: after an id, counted from an end, or again and again from the oldest. -/
theorem find_next_is_successor (ch : Chanhead) (c : Channel) (now : Int) (impl : ch.Implements c)
    (nonempty : (c.gc now).messages ≠ [])
    (sorted : (c.gc now).messages.Pairwise (·.id < ·.id)) :
    (∀ msgid : Stamp, msgid.time ≠ newestMsgidTime → msgid.time ≠ nthMsgidTime →
      (∃ m, IsNext (c.gc now).messages msgid m ∧ Finds now msgid ch .found (some m)) ∨
      (∀ b ∈ (c.gc now).messages, ¬ msgid < b.id) ∧ Finds now msgid ch .expected none) ∧
    (∀ n : Int, 0 < n → ∃ m,
      (c.gc now).messages[min (n.toNat - 1) ((c.gc now).messages.length - 1)]? = some m ∧
      Finds now ⟨nthMsgidTime, n⟩ ch .found (some m)) ∧
    (∀ n : Int, n < 0 → ∃ m, (c.gc now).messages[(c.gc now).messages.length - 1 -
        min (n.natAbs - 1) ((c.gc now).messages.length - 1)]? = some m ∧
      Finds now ⟨nthMsgidTime, n⟩ ch .found (some m)) ∧
    ((∀ m ∈ (c.gc now).messages, ⟨oldestMsgidTime, 0⟩ < m.id) →
      ∀ fuel > (c.gc now).messages.length,
        iterateNext now fuel ⟨oldestMsgidTime, 0⟩ ch = some ((c.gc now).messages, .expected)) := by
  have positive := length_pos_iff.mpr nonempty
  refine ⟨fun msgid notNewest notNth => ?_, fun n front => ?_, fun n back => ?_,
    fun dated fuel enough => ?_⟩
  · have answer : findNext c.maxMessages msgid (c.gc now).messages = _ :=
      findNext_of_explicit sorted notNewest notNth nonempty
    cases next : ((c.gc now).messages.filter (msgid < ·.id)).head? with
    | some m =>
      rw [next] at answer
      exact .inl ⟨m, isNext_of_sorted sorted next, finds_of_findNext impl answer⟩
    | none =>
      rw [next] at answer
      refine .inr ⟨fun b on => ?_, finds_of_findNext impl answer⟩
      simpa using filter_eq_nil_iff.mp (head?_eq_none_iff.mp next) b on
  · obtain ⟨m, is⟩ := exists_nthOrLast nonempty (n.toNat - 1)
    refine ⟨m, is, finds_of_findNext impl ?_⟩
    rw [findNext_of_nth front.ne' nonempty, if_pos front, is]
  · obtain ⟨m, is⟩ := exists_nthOrLast (reverse_ne_nil_iff.mpr nonempty) ((-n).toNat - 1)
    refine ⟨m, ?_, finds_of_findNext impl ?_⟩
    · rw [nthOrLast, length_reverse, getElem?_reverse (by omega)] at is
      rwa [show n.natAbs = (-n).toNat by omega]
    · rw [findNext_of_nth back.ne nonempty, if_neg (by omega), is]
  · have explicit : ∀ m ∈ (c.gc now).messages, 0 ≤ m.id.time := fun m on => by
      have after : 0 < m.id.time ∨ 0 = m.id.time ∧ 0 < m.id.tag := Stamp.lt_iff.mp (dated m on)
      omega
    have all : (c.gc now).messages.filter (⟨oldestMsgidTime, 0⟩ < ·.id) = (c.gc now).messages :=
      filter_eq_self.mpr fun m on => by simpa using dated m on
    exact iterateNext_behind impl sorted explicit nonempty (Int.le_refl 0) suffix_rfl all enough

def twoMessages : Channel where
  messages := [⟨⟨100, 0⟩, ⟨0, 0⟩, 200⟩, ⟨⟨100, 1⟩, ⟨100, 0⟩, 200⟩]
  latestMsgid := ⟨100, 1⟩
  maxMessages := 10
  cf := ⟨false, .backup, 100, 10⟩

/-- The messages of `twoMessages` at the addresses 1 and 2. -/
def twoMessagesHead : Chanhead where
  msgFirst := some 1
  msgLast := some 2
  storedMessageCount := 2
  heap
    | 1 => some ⟨⟨⟨100, 0⟩, ⟨0, 0⟩, 200⟩, none, some 2⟩
    | 2 => some ⟨⟨⟨100, 1⟩, ⟨100, 0⟩, 200⟩, some 1, none⟩
    | _ => none
  totalMessageCount := 2
  latestMsgid := ⟨100, 1⟩
  maxMessages := 10
  cf := twoMessages.cf

theorem twoMessagesHead_implements : twoMessagesHead.Implements twoMessages := by
  refine ⟨⟨⟨[1, 2], ⟨?_, ?_⟩, rfl⟩, rfl⟩, rfl, rfl, rfl⟩
  · exact ⟨rfl, some 2, rfl, rfl, none, rfl, rfl⟩
  · change Lib.Chain _ _ [2, 1]
    exact ⟨rfl, some 1, rfl, rfl, none, rfl, rfl⟩

theorem find_next_is_successor_two :
    (∃ m, IsNext (twoMessages.gc 150).messages ⟨100, 0⟩ m ∧
      Finds 150 ⟨100, 0⟩ twoMessagesHead .found (some m)) ∧
    iterateNext 150 3 ⟨oldestMsgidTime, 0⟩ twoMessagesHead =
      some (twoMessages.messages, .expected) := by
  obtain ⟨explicit, _, _, enumerates⟩ := find_next_is_successor twoMessagesHead twoMessages 150
    twoMessagesHead_implements (by decide) (by decide)
  refine ⟨(explicit ⟨100, 0⟩ (by decide) (by decide)).resolve_right fun none => ?_,
    enumerates (by decide) 3 (by decide)⟩
  exact none.1 ⟨⟨100, 1⟩, ⟨100, 0⟩, 200⟩ (by decide) (by decide)

end Nchan.Memstore
