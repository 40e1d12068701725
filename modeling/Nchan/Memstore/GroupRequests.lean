import Nchan.Lib.Run
import Nchan.Memstore.AccountingSteps

/-! # Group requests

The handler of an `nchan_group_location` in front of the group store: what it answers itself,
what it asks of the store, and how often the client gets an answer once all alerts between
the workers are delivered.
-/

namespace Nchan.Memstore.GroupRequests

open Nchan.Lib Nchan.Memstore.Accounting List Run Function
open Nchan.Memstore.Groups (Layout Alert)

/-! ## The handler -/

/-- The `group` part of a location's configuration. -/
structure Location where
  enableAccounting : Bool
  get : Bool
  set : Bool
  delete : Bool

/-- The texts of the `nchan_group_max_…` directives for a request, where there are any. -/
structure LimitTexts where
  maxChannels : Option String
  maxSubscribers : Option String
  maxMessages : Option String
  maxMessagesShmBytes : Option String
  maxMessagesFileBytes : Option String

/-- `ngx_atoi` and `parse_size_limit`; `none` is `NGX_ERROR`. -/
structure Parsers where
  atoi : String → Option Int
  parseSizeLimit : String → Option Int

/-- The method of a request.  Only a `POST` looks at limits. -/
inductive Method where
  | get
  | post (limits : LimitTexts)
  | delete
  | options
  | other

structure Request where
  clientClosed : Bool
  method : Method

inductive Response where
  | forbidden (text : Option String)
  | options
  | groupInfo
  deriving DecidableEq

@[simp] def Response.status : Response → Nat
  | .forbidden _ => 403
  | .options | .groupInfo => 200

/-- `set_group_num_limit`: the limit, or the text of the 403. -/
def setGroupNumLimit (cv : Option String) (parsefunc : String → Option Int) (errstr : String) :
    Int ⊕ String :=
  match cv with
  | none => .inl (-1)
  | some text =>
    if text = "" then .inl (-1)
    else
      match parsefunc text with
      | none => .inr errstr
      | some num => if num < 0 then .inr errstr else .inl num

/-- What a failed limit leaves behind is not looked at. -/
def limitOr (parsed : Int ⊕ String) : Int := parsed.elim id fun _ => -1

def channelsLimit (ps : Parsers) (texts : LimitTexts) : Int ⊕ String :=
  setGroupNumLimit texts.maxChannels ps.atoi "invalid nchan_group_max_channels value"

def subscribersLimit (ps : Parsers) (texts : LimitTexts) : Int ⊕ String :=
  setGroupNumLimit texts.maxSubscribers ps.atoi "invalid nchan_group_max_subscribers value"

def messagesLimit (ps : Parsers) (texts : LimitTexts) : Int ⊕ String :=
  setGroupNumLimit texts.maxMessages ps.atoi "invalid nchan_group_max_messages value"

def messagesShmemLimit (ps : Parsers) (texts : LimitTexts) : Int ⊕ String :=
  setGroupNumLimit texts.maxMessagesShmBytes ps.parseSizeLimit
    "invalid nchan_group_max_messages_memory value"

def messagesFileLimit (ps : Parsers) (texts : LimitTexts) : Int ⊕ String :=
  setGroupNumLimit texts.maxMessagesFileBytes ps.parseSizeLimit
    "invalid nchan_group_max_messages_disk value"

/-- The limits of `parse_group_limits`. -/
def parsedLimits (ps : Parsers) (texts : LimitTexts) : GroupLimits where
  channels := limitOr (channelsLimit ps texts)
  subscribers := limitOr (subscribersLimit ps texts)
  messages := limitOr (messagesLimit ps texts)
  messagesShmemBytes := limitOr (messagesShmemLimit ps texts)
  messagesFileBytes := limitOr (messagesFileLimit ps texts)

/-- The texts that `parse_group_limits` sends, one for each malformed limit. -/
def malformedLimits (ps : Parsers) (texts : LimitTexts) : List String :=
  [channelsLimit ps texts, subscribersLimit ps texts, messagesLimit ps texts,
    messagesShmemLimit ps texts, messagesFileLimit ps texts].filterMap Sum.getRight?

inductive StoreCall where
  | getGroup
  | setGroupLimits (limits : GroupLimits)
  | deleteGroup

def unlessPermitted (permitted : Bool) : List Response :=
  if permitted then [] else [.forbidden none]

/-- `nchan_group_handler`: what it responds, and what it asks of the store. -/
def nchanGroupHandler (ps : Parsers) (cf : Location) (r : Request) :
    List Response × Option StoreCall :=
  if r.clientClosed then ([], none)
  else if !cf.enableAccounting then
    ([.forbidden (some "Channel group accounting is disabled.")], none)
  else
    match r.method with
    | .get => (unlessPermitted cf.get, some .getGroup)
    | .post texts =>
      let responses := unlessPermitted cf.set ++
        (malformedLimits ps texts).map fun text => .forbidden (some text)
      -- the status tells whether anything was forbidden, permission included
      if responses.any (·.status = 403) then (responses, none)
      else (responses, some (.setGroupLimits (parsedLimits ps texts)))
    | .delete => (unlessPermitted cf.delete, some .deleteGroup)
    | .options => ([.options], none)
    | .other => ([], none)

/-! ## Requests to the store -/

variable {W C : Type} [DecidableEq W] [DecidableEq C]

/-- The call for the request `id`, whose callback `group_handler_callback` sends the group's
    info. -/
def StoreCall.op (id : Nat) (now : Int) (w : W) : StoreCall → Op W C
  | .getGroup => .find now w (some id)
  | .setGroupLimits limits => .setLimits now w (some id) limits
  | .deleteGroup => .deleteGroup now w id

/-- The group store with what the handler has responded, by request. -/
structure System (W C : Type) where
  store : State W C
  responses : List (Nat × Response)

def System.initial (W C : Type) : System W C := ⟨State.initial W C, []⟩

inductive Step (W C : Type) where
  | store (op : Op W C)
  | request (id : Nat) (now : Int) (w : W) (cf : Location) (r : Request)

def Step.id? : Step W C → Option Nat
  | .store _ => none
  | .request id _ _ _ _ => some id

/-- One step.  The store does by itself what is nobody's request. -/
def Step.apply (ps : Parsers) (sizes : Sizes) (layout : Layout W C) (step : Step W C)
    (s : System W C) : Option (System W C) :=
  match step with
  | .store op =>
    if op.asks = [] then (op.apply sizes layout s.store).map fun store => { s with store := store }
    else some s
  | .request id now w cf r =>
    let (responses, call) := nchanGroupHandler ps cf r
    let s := { s with responses := s.responses ++ responses.map fun response => (id, response) }
    match call with
    | none => some s
    | some call =>
      ((call.op id now w).apply sizes layout s.store).map fun store => { s with store := store }

def System.responded (s : System W C) (id : Nat) : List Response :=
  (s.responses.filter (·.1 = id)).map (·.2)

/-- All responses that were made to the request.  The client sees the first of them: nginx refuses
    another header once `header_sent` is set. -/
def System.answers (s : System W C) (id : Nat) : List Response :=
  s.responded id ++ List.replicate (s.store.called.count id) .groupInfo

/-! ## Every call is answered once -/

variable [Fintype W] {ps : Parsers} {sizes : Sizes} {layout : Layout W C}

/-- A worker without the group has asked for it or will get it, which its owner has. -/
structure Awaited (layout : Layout W C) (s : State W C) : Prop where
  sound : ∀ w, (s.net.node w).Sound
  asked : ∀ w, (s.net.node w).Waits →
    .getGroup ∈ s.net.wire w layout.groupOwner ∨ .group ∈ s.net.wire layout.groupOwner w
  owner : ¬ (s.net.node layout.groupOwner).Waits

/-- How often the request is called back, now and later. -/
def calls (s : State W C) (id : Nat) : Nat :=
  s.called.count id + ∑ w, (s.net.node w).requests.count id

omit [DecidableEq W] [DecidableEq C] [Fintype W] in
theorem Awaited.initial (layout : Layout W C) : Awaited layout (State.initial W C) := by
  have none (w : W) : ¬ ((State.initial W C).net.node w).Waits := by
    simp [State.initial, Worker.Waits]
  refine ⟨fun _ node its => ?_, fun w waits => absurd waits (none w), none _⟩
  cases its

omit [Fintype W] [DecidableEq C] in
theorem Awaited.acted {op : Op W C} {s s' : State W C} {w : W} {base : Net W (Worker C) Alert}
    {delta : Counters} {v' : View C} {sent : Sent W} (awaited : Awaited layout s)
    (acted : Acted sizes layout op s s' w base delta v' sent) : Awaited layout s' := by
  rw [acted.result]
  have nodes (u : W) : (base.act w v'.worker sent.alerts).node u =
      if u = w then v'.worker else s.net.node u := by
    rw [Net.act_node, acted.nodes]
  refine ⟨fun u => ?_, fun u waits => ?_, fun waits => ?_⟩
  · rw [nodes]
    split
    case isTrue => exact acted.moves.sound (awaited.sound w)
    case isFalse => exact awaited.sound u
  · simp only [Net.mem_act_wire]
    rw [nodes] at waits
    -- it has waited before, or has just asked
    have before : (s.net.node u).Waits ∨ u = w ∧ .getGroup ∈ sent.alerts layout.groupOwner := by
      split at waits
      case isTrue here =>
        subst here
        exact (acted.moves.waits waits).imp_right fun asks => ⟨rfl, asks⟩
      case isFalse => exact .inl waits
    rcases before with waited | asks
    · rcases awaited.asked u waited with asked | coming
      · rcases acted.getGroup u asked with still | ⟨isOwner, answered⟩
        · exact .inl (.inl still)
        · have other : u ≠ w := by
            rintro rfl
            exact awaited.owner (isOwner ▸ waited)
          exact .inr (.inr ⟨isOwner.symm, answered other⟩)
      · rcases acted.group u coming with still | ⟨rfl, has⟩
        · exact .inr (.inl still)
        · rw [if_pos rfl] at waits
          exact absurd waits has
    · exact .inl (.inr asks)
  · rw [nodes] at waits
    split at waits
    case isTrue here => exact awaited.owner (here ▸ acted.moves.owner here.symm waits)
    case isFalse => exact awaited.owner waits

omit [DecidableEq C] in
theorem calls_acted {op : Op W C} {s s' : State W C} {w : W} {base : Net W (Worker C) Alert}
    {delta : Counters} {v' : View C} {sent : Sent W}
    (acted : Acted sizes layout op s s' w base delta v' sent) (id : Nat) :
    calls s' id = calls s id + op.asks.count id := by
  rw [acted.result]
  have moved := base.sum_act w v'.worker sent.alerts fun _ ws => ws.requests.count id
  rw [acted.nodes] at moved
  have here := acted.moves.answered id
  simp only [calls, count_append] at here ⊢
  omega

theorem Awaited.step {op : Op W C} {s s' : State W C} (awaited : Awaited layout s)
    (stepped : op.apply sizes layout s = some s') :
    Awaited layout s' ∧ ∀ id, calls s' id = calls s id + op.asks.count id := by
  rcases op.steps awaited.sound _ stepped with ⟨rfl, nobody⟩ | ⟨w, base, delta, v', sent, acted⟩
  · exact ⟨awaited, by simp [nobody]⟩
  · exact ⟨awaited.acted acted, calls_acted acted⟩

omit [DecidableEq W] [DecidableEq C] in
theorem Awaited.called {s : State W C} (awaited : Awaited layout s)
    (delivered : ∀ i j, s.net.wire i j = []) (id : Nat) : s.called.count id = calls s id := by
  have nobody (w : W) : (s.net.node w).requests = [] := by
    have has : ¬ (s.net.node w).Waits := fun waits => by
      simpa [delivered] using awaited.asked w waits
    cases its : (s.net.node w).node with
    | none => simp [Worker.requests, Worker.waiting, its]
    | some node =>
      have ready : node.group = true := by
        by_contra lacks
        exact has ⟨node, its, by simpa using lacks⟩
      simp [Worker.requests, Worker.waiting, its, awaited.sound w node its ready]
  simp [calls, nobody]

/-! ## Runs -/

/-- The responses in the end: those of the handler, and the group's info if the store is asked. -/
@[simp] def finalAnswers (ps : Parsers) (cf : Location) (r : Request) : List Response :=
  (nchanGroupHandler ps cf r).1 ++ if (nchanGroupHandler ps cf r).2.isSome then [.groupInfo] else []

omit [DecidableEq W] [DecidableEq C] [Fintype W] in
theorem StoreCall.asks_op (call : StoreCall) (id : Nat) (now : Int) (w : W) :
    (call.op id now w : Op W C).asks = [id] := by
  cases call <;> rfl

omit [DecidableEq W] [DecidableEq C] [Fintype W] in
theorem responded_append (s : System W C) (id id' : Nat) (own : List Response) :
    System.responded ⟨s.store, s.responses ++ own.map fun response => (id', response)⟩ id =
      s.responded id ++ if id' = id then own else [] := by
  simp only [System.responded, filter_append, map_append]
  congr 1
  split
  case isTrue same => simp [same, filter_map]
  case isFalse other => simp [other]

theorem request_step {id : Nat} {now : Int} {w : W} {cf : Location} {r : Request} {s : System W C}
    (awaited : Awaited layout s.store) :
    Gives ((Step.request id now w cf r).apply ps sizes layout s) fun s' =>
      Awaited layout s'.store ∧
        (∀ id', calls s'.store id' = calls s.store id' +
          if id = id' ∧ (nchanGroupHandler ps cf r).2.isSome then 1 else 0) ∧
        ∀ id', s'.responded id' =
          s.responded id' ++ if id = id' then (nchanGroupHandler ps cf r).1 else [] := by
  rw [Step.apply]
  cases call : (nchanGroupHandler ps cf r).2 with
  | none =>
    simp only [call]
    exact .of_some ⟨awaited, by simp, fun id' => responded_append s id' id _⟩
  | some call' =>
    simp only [call]
    refine .map fun store done => ?_
    obtain ⟨awaited', more⟩ := awaited.step done
    refine ⟨awaited', fun id' => ?_, fun id' => responded_append s id' id _⟩
    rw [more, StoreCall.asks_op, count_singleton]
    simp

/-- Nothing has come of the request in between. -/
def Unmoved (layout : Layout W C) (id : Nat) (s s' : System W C) : Prop :=
  Awaited layout s'.store ∧ calls s'.store id = calls s.store id ∧ s'.responded id = s.responded id

theorem other_step {step : Step W C} {id : Nat} {s : System W C} (awaited : Awaited layout s.store)
    (other : step.id? ≠ some id) :
    Gives (step.apply ps sizes layout s) (Unmoved layout id s) := by
  cases step with
  | store op =>
    refine .ite (fun nobody => .map fun store done => ?_) fun _ => .of_some ⟨awaited, rfl, rfl⟩
    obtain ⟨awaited', more⟩ := awaited.step done
    exact ⟨awaited', by simpa [nobody] using more id, rfl⟩
  | request id' now w cf r =>
    have different : id' ≠ id := fun same => other (congrArg some same)
    refine (request_step awaited).mono fun s' ⟨awaited', more, responds⟩ => ?_
    exact ⟨awaited', by simpa [different] using more id, by simpa [different] using responds id⟩

theorem other_run {steps : List (Step W C)} {id : Nat} {s : System W C}
    (awaited : Awaited layout s.store) (others : ∀ step ∈ steps, step.id? ≠ some id) :
    Gives (run (Step.apply ps sizes layout) steps s) (Unmoved layout id s) := by
  induction steps generalizing s with
  | nil => exact .of_some ⟨awaited, rfl, rfl⟩
  | cons step steps ih =>
    obtain ⟨here, later⟩ := forall_mem_cons.mp others
    refine (other_step awaited here).seq fun s₁ ⟨awaited₁, calls₁, responded₁⟩ => ?_
    exact (ih awaited₁ later).mono fun t ⟨awaited', calls', responded'⟩ =>
      ⟨awaited', calls'.trans calls₁, responded'.trans responded₁⟩

omit [Fintype W] in
theorem step_store (step : Step W C) {s s' : System W C} (same : s'.store = s.store) :
    (step.apply ps sizes layout s').map (·.store) =
      (step.apply ps sizes layout s).map (·.store) := by
  cases step with
  | store op =>
    by_cases nobody : op.asks = []
    · simp [Step.apply, nobody, same, comp_def]
    · simp [Step.apply, nobody, same]
  | request id now w cf r =>
    cases call : (nchanGroupHandler ps cf r).2 with
    | none => simp [Step.apply, call, same]
    | some call' => simp [Step.apply, call, same, comp_def]

omit [Fintype W] in
theorem run_store {steps : List (Step W C)} {s t : System W C}
    (reaches : run (Step.apply ps sizes layout) steps s = some t) {s' : System W C}
    (same : s'.store = s.store) :
    ∃ t', run (Step.apply ps sizes layout) steps s' = some t' ∧ t'.store = t.store := by
  induction steps generalizing s s' with
  | nil =>
    cases reaches
    exact ⟨s', rfl, same⟩
  | cons step steps ih =>
    obtain ⟨s₁, stepped, rest⟩ := Option.bind_eq_some_iff.mp reaches
    obtain ⟨s₁', stepped', same₁⟩ := Option.map_eq_some_iff.mp
      ((step_store step same).trans (congrArg (Option.map System.store) stepped))
    obtain ⟨t', reaches', same'⟩ := ih rest same₁
    refine ⟨t', ?_, same'⟩
    rw [run_cons, stepped']
    exact reaches'

section Request

variable {before after : List (Step W C)} {id : Nat} {now : Int} {w : W} {cf : Location} {r : Request}
  {s : System W C}

section

variable (distinct : ((before ++ .request id now w cf r :: after).filterMap Step.id?).Nodup)

include distinct

omit [DecidableEq W] [DecidableEq C] [Fintype W] in
theorem others_of_nodup :
    (∀ step ∈ before, step.id? ≠ some id) ∧ ∀ step ∈ after, step.id? ≠ some id := by
  rw [filterMap_append, filterMap_cons_some (rfl : Step.id? (.request id now w cf r) = some id),
    nodup_append, nodup_cons] at distinct
  obtain ⟨-, ⟨notAfter, -⟩, notBefore⟩ := distinct
  refine ⟨fun step is same => ?_, fun step is same => ?_⟩
  · exact notBefore id (mem_filterMap.mpr ⟨step, is, same⟩) id (by simp) rfl
  · exact notAfter (mem_filterMap.mpr ⟨step, is, same⟩)

theorem answers_eq
    (reaches : run (Step.apply ps sizes layout) (before ++ .request id now w cf r :: after)
      (System.initial W C) = some s)
    (delivered : ∀ i j, s.store.net.wire i j = []) : s.answers id = finalAnswers ps cf r := by
  obtain ⟨noneBefore, noneAfter⟩ := others_of_nodup distinct
  rw [run_append] at reaches
  obtain ⟨s₁, first, rest⟩ := Option.bind_eq_some_iff.mp reaches
  obtain ⟨s₂, stepped, last⟩ := Option.bind_eq_some_iff.mp rest
  obtain ⟨awaited₁, calls₁, responded₁⟩ := other_run (Awaited.initial layout) noneBefore _ first
  obtain ⟨awaited₂, calls₂, responded₂⟩ := request_step awaited₁ _ stepped
  obtain ⟨awaited, calls₃, responded₃⟩ := other_run awaited₂ noneAfter _ last
  have nobody : calls (System.initial W C).store id = 0 := by
    simp [calls, System.initial, State.initial, Worker.requests, Worker.waiting]
  have nothing : (System.initial W C).responded id = [] := rfl
  rw [System.answers, awaited.called delivered, calls₃, calls₂, calls₁, nobody, responded₃, responded₂,
    responded₁, nothing, finalAnswers]
  cases (nchanGroupHandler ps cf r).2 <;> simp

end

omit [Fintype W] in
theorem no_effect (unasked : (nchanGroupHandler ps cf r).2 = none)
    (reaches : run (Step.apply ps sizes layout) (before ++ .request id now w cf r :: after)
      (System.initial W C) = some s) :
    ∃ s', run (Step.apply ps sizes layout) (before ++ after) (System.initial W C) = some s' ∧
      s'.store = s.store := by
  rw [run_append] at reaches
  obtain ⟨s₁, first, rest⟩ := Option.bind_eq_some_iff.mp reaches
  obtain ⟨s₂, stepped, last⟩ := Option.bind_eq_some_iff.mp rest
  rw [Step.apply] at stepped
  simp only [unasked] at stepped
  cases stepped
  obtain ⟨s', last', same⟩ := run_store last (rfl : s₁.store = _)
  refine ⟨s', ?_, same⟩
  rw [run_append, first]
  exact last'

end Request

/-! ## What a request should come to -/

def permitted (cf : Location) : Method → Bool
  | .get => cf.get
  | .post _ => cf.set
  | .delete => cf.delete
  | .options => true
  | .other => false

@[simp] def malformed (ps : Parsers) : Method → Bool
  | .post texts => malformedLimits ps texts ≠ []
  | _ => false

/-- There is one response, and it forbids just what is to be forbidden. -/
structure AnsweredRight (ps : Parsers) (cf : Location) (r : Request) (answers : List Response) :
    Prop where
  once : answers.length = 1
  forbidden : (∃ answer ∈ answers, answer.status = 403) ↔
    permitted cf r.method = false ∨ malformed ps r.method = true

/-- The requests that the handler gets right: from a client that is there, and with accounting
    on, `GET` and `DELETE` where they are permitted, `OPTIONS`, and `POST` with at most one thing
    to forbid.  With accounting off everything is forbidden. -/
def HandledRight (ps : Parsers) (cf : Location) (r : Request) : Prop :=
  r.clientClosed = false ∧
    if cf.enableAccounting then
      match r.method with
      | .get => cf.get = true
      | .post texts => (malformedLimits ps texts).length ≤ if cf.set then 1 else 0
      | .delete => cf.delete = true
      | .options => True
      | .other => False
    else permitted cf r.method = false ∨ malformed ps r.method = true

omit [Fintype W] [DecidableEq W] [DecidableEq C] in
theorem unlessPermitted_right (allowed : Bool) :
    (unlessPermitted allowed ++ [Response.groupInfo]).length = 1 ∧
      ((∃ answer ∈ unlessPermitted allowed ++ [Response.groupInfo], answer.status = 403) ↔
        allowed = false) ↔ allowed = true := by
  cases allowed <;> simp [unlessPermitted]

theorem answeredRight_iff (ps : Parsers) (cf : Location) (r : Request) :
    AnsweredRight ps cf r (finalAnswers ps cf r) ↔ HandledRight ps cf r := by
  have split : AnsweredRight ps cf r (finalAnswers ps cf r) ↔
      (finalAnswers ps cf r).length = 1 ∧ ((∃ answer ∈ finalAnswers ps cf r, answer.status = 403) ↔
        permitted cf r.method = false ∨ malformed ps r.method = true) :=
    ⟨fun right => ⟨right.once, right.forbidden⟩, fun right => ⟨right.1, right.2⟩⟩
  rw [split, HandledRight]
  obtain ⟨closed, method⟩ := r
  cases closed with
  | true => simp [nchanGroupHandler]
  | false =>
    cases accounting : cf.enableAccounting with
    | false => simp [nchanGroupHandler, accounting]
    | true =>
      cases method with
      | get =>
        simpa [nchanGroupHandler, accounting, permitted] using
          unlessPermitted_right cf.get
      | delete =>
        simpa [nchanGroupHandler, accounting, permitted] using
          unlessPermitted_right cf.delete
      | options => simp [nchanGroupHandler, accounting, permitted]
      | other => simp [nchanGroupHandler, accounting]
      | post texts =>
        cases allowed : cf.set <;> cases errors : malformedLimits ps texts <;>
          simp [nchanGroupHandler, accounting, permitted, allowed, errors, unlessPermitted]

/-- What a request should come to: its limits and channels with their messages and subscribers are as
    without the request if it is not permitted, and its client is answered right. -/
structure RequestRight (ps : Parsers) (sizes : Sizes) (layout : Layout W C)
    (before after : List (Step W C))
    (id : Nat) (cf : Location) (r : Request) (s : System W C) : Prop where
  noEffect : permitted cf r.method = false → ∃ s',
    run (Step.apply ps sizes layout) (before ++ after) (System.initial W C) = some s' ∧
      s'.store.group.limit = s.store.group.limit ∧
      ∀ w, (s'.store.net.node w).chanheads = (s.store.net.node w).chanheads
  answered : AnsweredRight ps cf r (s.answers id)

theorem HandledRight.unasked {cf : Location} {r : Request} (right : HandledRight ps cf r)
    (forbidden : permitted cf r.method = false) : (nchanGroupHandler ps cf r).2 = none := by
  obtain ⟨closed, method⟩ := r
  obtain ⟨rfl, right⟩ := right
  cases accounting : cf.enableAccounting with
  | false => simp [nchanGroupHandler, accounting]
  | true =>
    cases method with
    | get => simp_all [permitted]
    | delete => simp_all [permitted]
    | options => simp [permitted] at forbidden
    | other => simp [accounting] at right
    | post texts =>
      have allowed : cf.set = false := forbidden
      simp [nchanGroupHandler, accounting, unlessPermitted, allowed]

/-- In every history of any number of workers, once all alerts are delivered, a group request
    has come to what it should exactly if it is one that the handler gets right. -/
theorem group_request_right_iff (ps : Parsers) (sizes : Sizes) (layout : Layout W C)
    (before after : List (Step W C)) (id : Nat) (now : Int) (w : W) (cf : Location) (r : Request)
    {s : System W C}
    (distinct : ((before ++ .request id now w cf r :: after).filterMap Step.id?).Nodup)
    (reaches : run (Step.apply ps sizes layout) (before ++ .request id now w cf r :: after)
      (System.initial W C) = some s)
    (delivered : ∀ i j, s.store.net.wire i j = []) :
    RequestRight ps sizes layout before after id cf r s ↔ HandledRight ps cf r := by
  have answers := answers_eq distinct reaches delivered
  constructor
  · intro right
    exact (answeredRight_iff ps cf r).mp (answers ▸ right.answered)
  · intro right
    refine ⟨fun forbidden => ?_, answers ▸ (answeredRight_iff ps cf r).mpr right⟩
    obtain ⟨s', reaches', same⟩ := no_effect (right.unasked forbidden) reaches
    exact ⟨s', reaches', by rw [same], fun _ => by rw [same]⟩

def twoWorkers : Layout (Fin 2) (Fin 2) := ⟨0, id, fun _ => false⟩

def noSizes : Sizes := ⟨0, 0, 0, 0⟩

def noParsers : Parsers := ⟨fun _ => none, fun _ => none⟩

def getOnly : Location := ⟨true, true, false, false⟩

/-- Worker 0 has a channel with a message, and worker 1 knows the group. -/
def oneMessage : List (Step (Fin 2) (Fin 2)) :=
  [.store (.create 10 0 0),
    .store (.push 10 0 0 ⟨⟨true, false, 5, none⟩, none, none, none⟩), .store (.deliver 10 0 1)]

theorem group_request_right_get : ∃ s,
    run (Step.apply noParsers noSizes twoWorkers)
      (oneMessage ++ .request 0 10 1 getOnly ⟨false, .get⟩ :: []) (System.initial _ _) = some s ∧
    RequestRight noParsers noSizes twoWorkers oneMessage [] 0 getOnly ⟨false, .get⟩ s := by
  have ends : (run (Step.apply noParsers noSizes twoWorkers)
      (oneMessage ++ .request 0 10 1 getOnly ⟨false, .get⟩ :: []) (System.initial _ _)).any
      (fun s => decide (∀ i j, s.store.net.wire i j = [])) = true := by
    decide +kernel
  obtain ⟨s, reaches, delivered⟩ := Option.any_eq_true _ _ |>.mp ends
  exact ⟨s, reaches, (group_request_right_iff _ _ _ _ _ 0 10 1 getOnly ⟨false, .get⟩ (by decide) reaches
    (of_decide_eq_true delivered)).mpr ⟨rfl, rfl⟩⟩

/-- A `DELETE` that is not permitted is answered twice, and deletes the group's messages. -/
theorem forbidden_delete_deletes :
    (run (Step.apply noParsers noSizes twoWorkers)
      (oneMessage ++ .request 0 10 1 getOnly ⟨false, .delete⟩ :: [.store (.deliver 10 1 0)])
      (System.initial _ _)).any (fun s => decide ((∀ i j, s.store.net.wire i j = []) ∧
        s.answers 0 = [.forbidden none, .groupInfo] ∧
        ((s.store.net.node 0).chanheads.get 0).map (·.messages.length) = some 0)) = true ∧
    (run (Step.apply noParsers noSizes twoWorkers)
      (oneMessage ++ [.store (.deliver 10 1 0)]) (System.initial _ _)).any (fun s => decide (
        (∀ i j, s.store.net.wire i j = []) ∧
        ((s.store.net.node 0).chanheads.get 0).map (·.messages.length) = some 1)) = true := by
  decide +kernel

end Nchan.Memstore.GroupRequests
