import Mathlib.Algebra.BigOperators.Group.List.Basic
import Mathlib.Algebra.GroupWithZero.Nat
import Mathlib.Data.List.Induction
import Nchan.Lib.Run
import Nchan.Memstore.Buffer

/-! # What a publisher is told

The callback of a publisher is handed a code and what is known of the channel.  If another worker
owns the channel, both come back in the `publish_message_reply` alert, whose fields have widths of
their own.  If there are several channels, what they report is gathered until all of them have.
A channel whose alert finds no shared memory never does.
-/

namespace Nchan.Memstore

open Nchan.Lib List Option Run

/-- `nchan_channel_t`, without the id, which no such callback reads. -/
structure ChannelInfo where
  messages : Nat
  subscribers : Nat
  lastSeen : Nat
  lastPublishedMsgId : Stamp
  deriving DecidableEq

/-- `NCHAN_MESSAGE_RECEIVED`. -/
@[simp] abbrev messageReceived : Int := 9000

/-- `NCHAN_MESSAGE_QUEUED`. -/
@[simp] abbrev messageQueued : Int := 9001

/-- `NGX_HTTP_INTERNAL_SERVER_ERROR`. -/
@[simp] abbrev internalServerError : Int := 500

/-- `NGX_HTTP_INSUFFICIENT_STORAGE`. -/
@[simp] abbrev insufficientStorage : Int := 507

/-! ## Through another worker -/

structure SharedCounts where
  subCount : Nat
  lastSeen : Nat

/-- `chanhead_copy_channel_info`. -/
def chanheadCopyChannelInfo (shared : SharedCounts) (ch : Chanhead) : ChannelInfo :=
  ⟨ch.storedMessageCount.toNat, shared.subCount, shared.lastSeen, ch.latestMsgid⟩

/-- What `nchan_memstore_publish_generic` returns. -/
def nchanMemstorePublishGeneric (shared : SharedCounts) : Int :=
  if shared.subCount > 0 then messageReceived else messageQueued

def publishOnOwner (now : Int) (address : Nat) (cf : LocConf) (msg : Msg) (shared : SharedCounts)
    (ch : Chanhead) : Option (Int × Option ChannelInfo) :=
  (nchanStoreChanheadPublishMessageGeneric now address cf msg ch).map fun (result, ch') =>
    match result with
    | .internalServerError => (internalServerError, none)
    | .published _ =>
      (nchanMemstorePublishGeneric shared, some (chanheadCopyChannelInfo shared ch'))

/-- `publish_response_data`.  The tag is kept without its sign. -/
structure PublishResponseData where
  status : BitVec 16
  subscribers : BitVec 32
  messages : BitVec 16
  lastSeen : Nat
  msgTime : Int
  msgTag : BitVec 16

/-- `publish_message_generic_callback`, with what was on the stack. -/
def publishMessageGenericCallback (stack : PublishResponseData) (status : Int)
    (ch : Option ChannelInfo) : PublishResponseData :=
  match ch with
  | none => { stack with status := .ofInt 16 status }
  | some ch => {
      status := .ofInt 16 status
      subscribers := .ofNat 32 ch.subscribers
      messages := .ofNat 16 ch.messages
      lastSeen := ch.lastSeen
      msgTime := ch.lastPublishedMsgId.time
      msgTag := .ofInt 16 ch.lastPublishedMsgId.tag }

/-- What the callback is handed by `receive_publish_message_reply`. -/
def receivePublishMessageReply (d : PublishResponseData) : Int × Option ChannelInfo :=
  (d.status.toNat,
    some ⟨d.messages.toNat, d.subscribers.toNat, d.lastSeen, ⟨d.msgTime, d.msgTag.toInt⟩⟩)

def ChannelInfo.Fits (info : ChannelInfo) : Prop :=
  info.messages < 2 ^ 16 ∧ info.subscribers < 2 ^ 32

variable {now : Int} {address : Nat} {cf : LocConf} {msg : Msg} {shared : SharedCounts}
  {ch : Chanhead} {code : Int} {info : Option ChannelInfo}

theorem publishOnOwner_code (publishes : publishOnOwner now address cf msg shared ch
    = some (code, info)) :
    0 ≤ code ∧ code < 2 ^ 16 := by
  obtain ⟨⟨result, ch'⟩, -, handed⟩ := map_eq_some_iff.mp publishes
  cases result with
  | internalServerError => cases handed; decide
  | published =>
    cases handed
    unfold nchanMemstorePublishGeneric
    split <;> decide

theorem reply_code (small : 0 ≤ code ∧ code < 2 ^ 16) :
    ((BitVec.ofInt 16 code).toNat : Int) = code := by
  rw [BitVec.toNat_ofInt]
  omega

theorem reply_tag {tag : Int} (int16 : -2 ^ 15 ≤ tag ∧ tag < 2 ^ 15) :
    (BitVec.ofInt 16 tag).toInt = tag := by
  rw [BitVec.toInt_ofInt]
  exact Int.bmod_eq_of_le (by omega) (by omega)

/-- Another worker's publisher is told the same as one of the owner just if the publish has
    succeeded and the counters fit. -/
theorem remote_publish_reports_iff (stack : PublishResponseData)
    (publishes : publishOnOwner now address cf msg shared ch = some (code, info))
    (int16 : ∀ i ∈ info, -2 ^ 15 ≤ i.lastPublishedMsgId.tag ∧ i.lastPublishedMsgId.tag < 2 ^ 15) :
    receivePublishMessageReply (publishMessageGenericCallback stack code info) = (code, info) ↔
      ∃ i ∈ info, i.Fits := by
  have codes := reply_code (publishOnOwner_code publishes)
  cases info with
  | none => simp [receivePublishMessageReply]
  | some i =>
    have tags := reply_tag (int16 i rfl)
    simp only [receivePublishMessageReply, publishMessageGenericCallback, codes, tags,
      BitVec.toNat_ofNat, Prod.mk.injEq, some.injEq, mem_def, true_and,
      exists_eq_left', ChannelInfo.Fits]
    constructor
    · intro same
      have messages := congrArg ChannelInfo.messages same
      have subscribers := congrArg ChannelInfo.subscribers same
      dsimp only at messages subscribers
      omega
    · rintro ⟨messages, subscribers⟩
      rw [Nat.mod_eq_of_lt messages, Nat.mod_eq_of_lt subscribers]

/-- A channel with `n` messages, at the addresses below `n`, that keeps all of them. -/
def filledChannel (n : Nat) : Chanhead where
  msgFirst := some 0
  msgLast := some (n - 1)
  storedMessageCount := n
  heap address :=
    if address < n then
      some ⟨⟨⟨1, address⟩, ⟨1, address - 1⟩, 100⟩,
        if address = 0 then none else some (address - 1),
        if address + 1 < n then some (address + 1) else none⟩
    else none
  totalMessageCount := n
  latestMsgid := ⟨1, n - 1⟩
  maxMessages := -1
  cf := ⟨false, .backup, 60, -1⟩

def nothingOnStack : PublishResponseData := ⟨0, 0, 0, 0, 0, 0⟩

theorem remote_publish_reports_third :
    publishOnOwner 2 2 ⟨false, .backup, 60, -1⟩ ⟨⟨0, 0⟩, ⟨0, 0⟩, 0⟩ ⟨1, 5⟩ (filledChannel 2)
      = some (messageReceived, some ⟨3, 1, 5, ⟨2, 0⟩⟩) ∧
    receivePublishMessageReply (publishMessageGenericCallback nothingOnStack messageReceived
      (some ⟨3, 1, 5, ⟨2, 0⟩⟩)) = (messageReceived, some ⟨3, 1, 5, ⟨2, 0⟩⟩) := by
  have publishes : publishOnOwner 2 2 ⟨false, .backup, 60, -1⟩ ⟨⟨0, 0⟩, ⟨0, 0⟩, 0⟩ ⟨1, 5⟩
      (filledChannel 2) = some (messageReceived, some ⟨3, 1, 5, ⟨2, 0⟩⟩) := by rfl
  refine ⟨publishes, (remote_publish_reports_iff nothingOnStack publishes ?_).mpr ?_⟩
  · rintro i ⟨rfl⟩
    decide
  · exact ⟨_, rfl, by decide, by decide⟩

/-- The publisher of the 65536th message is told that there are none. -/
theorem remote_publish_loses_count :
    publishOnOwner 2 65535 ⟨false, .backup, 60, -1⟩ ⟨⟨0, 0⟩, ⟨0, 0⟩, 0⟩ ⟨0, 0⟩ (filledChannel 65535)
      = some (messageQueued, some ⟨65536, 0, 0, ⟨2, 0⟩⟩) ∧
    receivePublishMessageReply (publishMessageGenericCallback nothingOnStack messageQueued
      (some ⟨65536, 0, 0, ⟨2, 0⟩⟩)) = (messageQueued, some ⟨0, 0, 0, ⟨2, 0⟩⟩) := by
  constructor <;> rfl

/-! ## To several channels -/

/-- What the callback of one of several channels is handed. -/
structure ChannelOutcome where
  code : Int
  ch : Option ChannelInfo
  deriving DecidableEq

/-- `publish_multi_data_t` and `delete_multi_data_t`, and what the callback of the publisher has
    been told.  They are freed when all channels have answered. -/
structure Gathering where
  n : Nat
  rc : Int
  ch : ChannelInfo
  told : List (Int × ChannelInfo)

namespace Gathering

def start (n : Nat) (rc : Int) : Gathering := ⟨n, rc, ⟨0, 0, 0, ⟨0, 0⟩⟩, []⟩

/-- One more channel has answered, with `rc` and `ch` so far. -/
def gather (rc : Int) (ch : ChannelInfo) (pd : Gathering) : Option Gathering :=
  if pd.n = 0 then none
  else some ⟨pd.n - 1, rc, ch, if pd.n = 1 then pd.told ++ [(rc, ch)] else pd.told⟩

end Gathering

def publishMultiCode (rc status : Int) : Int :=
  if status = internalServerError ∨ (status = messageReceived ∧ rc ≠ internalServerError) then status
  else rc

def publishMultiInfo (sum : ChannelInfo) (ch : Option ChannelInfo) : ChannelInfo :=
  match ch with
  | none => sum
  | some ch => { sum with
      lastSeen := max sum.lastSeen ch.lastSeen
      messages := max sum.messages ch.messages
      subscribers := sum.subscribers + ch.subscribers }

/-- `publish_multi_callback`. -/
def publishMultiCallback (o : ChannelOutcome) (pd : Gathering) : Option Gathering :=
  pd.gather (publishMultiCode pd.rc o.code) (publishMultiInfo pd.ch o.ch)

def deleteMultiInfo (sum : ChannelInfo) (ch : Option ChannelInfo) : ChannelInfo :=
  match ch with
  | none => sum
  | some ch => { sum with
      lastSeen := max sum.lastSeen ch.lastSeen
      subscribers := sum.subscribers + ch.subscribers }

/-- `delete_multi_callback_handler`, which hands on the code of the channel that answers last. -/
def deleteMultiCallbackHandler (o : ChannelOutcome) (pd : Gathering) : Option Gathering :=
  pd.gather o.code (deleteMultiInfo pd.ch o.ch)

@[simp] def totalInfo (os : List ChannelOutcome) : ChannelInfo where
  messages := ((os.filterMap (·.ch)).map (·.messages)).foldr max 0
  subscribers := ((os.filterMap (·.ch)).map (·.subscribers)).sum
  lastSeen := ((os.filterMap (·.ch)).map (·.lastSeen)).foldr max 0
  lastPublishedMsgId := ⟨0, 0⟩

def ChannelOutcome.PublishFails (o : ChannelOutcome) : Prop :=
  o.code ≠ messageReceived ∧ o.code ≠ messageQueued
  deriving Decidable

def PublishCode (os : List ChannelOutcome) (code : Int) : Prop :=
  if ∃ o ∈ os, o.PublishFails then code ≠ messageReceived ∧ code ≠ messageQueued
  else if ∃ o ∈ os, o.code = messageReceived then code = messageReceived
  else code = messageQueued

/-- The code that a delete of several channels is to report; 0 is `NGX_OK`. -/
def DeleteCode (os : List ChannelOutcome) (code : Int) : Prop :=
  if ∃ o ∈ os, o.code ≠ 0 then code ≠ 0 else code = 0

/-- In whatever order the channels answer, except for some that never do, the publisher is told once,
    the same and the truth. -/
def Settles (step : ChannelOutcome → Gathering → Option Gathering) (rc : Int)
    (right : List ChannelOutcome → Int → Prop) (silent : Nat) (os : List ChannelOutcome) : Prop :=
  ∃ code, right os code ∧ ∀ order, order.Perm os →
    (run step order (.start (os.length + silent) rc)).map (·.told) = some [(code, totalInfo os)]

section

variable (codes : Int → Int → Int) (infos : ChannelInfo → Option ChannelInfo → ChannelInfo)
  {step : ChannelOutcome → Gathering → Option Gathering}
  (gathers : ∀ o pd, step o pd = pd.gather (codes pd.rc o.code) (infos pd.ch o.ch))

include gathers

theorem run_gathers (os : List ChannelOutcome) (o : ChannelOutcome) (rc : Int) (ch : ChannelInfo) :
    (run step (o :: os) ⟨os.length + 1, rc, ch, []⟩).map (·.told) =
      some [((o :: os).foldl (fun rc o => codes rc o.code) rc,
        (o :: os).foldl (fun ch o => infos ch o.ch) ch)] := by
  induction os generalizing o rc ch with
  | nil => simp [gathers, Gathering.gather]
  | cons next os ih =>
    rw [run_cons, gathers, Gathering.gather, if_neg (by simp), bind_some,
      length_cons, if_neg (by simp)]
    exact ih next _ _

theorem run_waits (os : List ChannelOutcome) {n : Nat} (more : os.length < n) (rc : Int)
    (ch : ChannelInfo) : (run step os ⟨n, rc, ch, []⟩).map (·.told) = some [] := by
  induction os generalizing n rc ch with
  | nil => rfl
  | cons o os ih =>
    rw [length_cons] at more
    have notLast : n ≠ 0 ∧ n ≠ 1 := by omega
    rw [run_cons, gathers, Gathering.gather, if_neg notLast.1, bind_some, if_neg notLast.2]
    exact ih (show os.length < n - 1 by omega) _ _

theorem Settles.all_answer {rc : Int} {right : List ChannelOutcome → Int → Prop} {silent : Nat}
    {os : List ChannelOutcome} (settles : Settles step rc right silent os) :
    silent = 0 ∧ os ≠ [] := by
  obtain ⟨code, -, tells⟩ := settles
  have told := tells os (.refl os)
  refine ⟨Classical.by_contradiction fun some_ => ?_, fun none_ => ?_⟩
  · rw [Gathering.start, run_waits codes infos gathers os (by omega)] at told
    cases told
  · subst none_
    cases told

end

section

variable (os : List ChannelOutcome)

include os

theorem publishMultiInfo_total (sum : ChannelInfo) :
    os.foldl (fun ch o => publishMultiInfo ch o.ch) sum =
      { sum with
        messages := max sum.messages (totalInfo os).messages
        subscribers := sum.subscribers + (totalInfo os).subscribers
        lastSeen := max sum.lastSeen (totalInfo os).lastSeen } := by
  induction os generalizing sum with
  | nil => simp
  | cons o os ih =>
    rw [foldl_cons, ih]
    cases known : o.ch <;> simp [publishMultiInfo, known, Nat.add_assoc]

theorem deleteMultiInfo_total (sum : ChannelInfo) :
    os.foldl (fun ch o => deleteMultiInfo ch o.ch) sum =
      { sum with
        subscribers := sum.subscribers + (totalInfo os).subscribers
        lastSeen := max sum.lastSeen (totalInfo os).lastSeen } := by
  induction os generalizing sum with
  | nil => simp
  | cons o os ih =>
    rw [foldl_cons, ih]
    cases known : o.ch <;> simp [deleteMultiInfo, known, Nat.add_assoc]

omit os in
theorem totalInfo_perm {os os' : List ChannelOutcome} (perm : os.Perm os') :
    totalInfo os = totalInfo os' := by
  have known := perm.filterMap (·.ch)
  simp [(known.map _).foldr_eq, (known.map _).sum_nat]

def publishedCode (os : List ChannelOutcome) : Int :=
  if ∃ o ∈ os, o.code = internalServerError then internalServerError
  else if ∃ o ∈ os, o.code = messageReceived then messageReceived
  else messageQueued

theorem publishedCode_concat (o : ChannelOutcome) :
    publishMultiCode (publishedCode os) o.code = publishedCode (os ++ [o]) := by
  unfold publishMultiCode publishedCode
  by_cases failed : ∃ o ∈ os, o.code = internalServerError
  · by_cases fails : o.code = internalServerError <;> simp [failed, fails]
  · by_cases fails : o.code = internalServerError
    · simp [fails]
    · by_cases received : o.code = messageReceived
      · by_cases before : ∃ o ∈ os, o.code = messageReceived <;> simp [failed, received, before]
      · simp [fails, received]

theorem publishMultiCode_fold :
    os.foldl (fun rc o => publishMultiCode rc o.code) messageQueued = publishedCode os := by
  induction os using List.reverseRecOn with
  | nil => rfl
  | append_singleton os o ih =>
    rw [foldl_append, ih]
    exact publishedCode_concat os o

omit os in
theorem publishedCode_perm {os os' : List ChannelOutcome} (perm : os.Perm os') :
    publishedCode os = publishedCode os' := by
  simp [publishedCode, perm.mem_iff]

theorem publishedCode_right :
    PublishCode os (publishedCode os) ↔
      ((∃ o ∈ os, o.PublishFails) → ∃ o ∈ os, o.code = internalServerError) := by
  unfold PublishCode publishedCode
  by_cases failed : ∃ o ∈ os, o.code = internalServerError
  · have fails : ∃ o ∈ os, o.PublishFails := by
      obtain ⟨o, on, is⟩ := failed
      exact ⟨o, on, by simp [ChannelOutcome.PublishFails, is]⟩
    simp [failed, fails]
  · by_cases fails : ∃ o ∈ os, o.PublishFails
    · simp only [fails, failed, if_true, if_false, true_implies, iff_false]
      split <;> simp
    · simp only [fails, failed, if_false, false_implies, iff_true]
      split <;> rfl

end

variable {o : ChannelOutcome} {os order : List ChannelOutcome}

theorem run_publishMulti (perm : (o :: order).Perm os) :
    (run publishMultiCallback (o :: order) (.start os.length messageQueued)).map (·.told) =
      some [(publishedCode os, totalInfo os)] := by
  rw [← perm.length_eq, ← publishedCode_perm perm, ← totalInfo_perm perm, ← publishMultiCode_fold]
  refine (run_gathers publishMultiCode publishMultiInfo (fun _ _ => rfl) order o _ _).trans ?_
  rw [publishMultiInfo_total]
  simp

theorem publishMulti_settles (o : ChannelOutcome) (os : List ChannelOutcome) :
    Settles publishMultiCallback messageQueued PublishCode 0 (o :: os) ↔
      ((∃ p ∈ o :: os, p.PublishFails) → ∃ p ∈ o :: os, p.code = internalServerError) := by
  rw [← publishedCode_right]
  constructor
  · rintro ⟨code, right, tells⟩
    have told := (run_publishMulti (.refl _)).symm.trans (tells (o :: os) (.refl _))
    simp only [some.injEq, List.cons.injEq, Prod.mk.injEq, and_true] at told
    exact told ▸ right
  · refine fun right => ⟨_, right, fun order perm => ?_⟩
    cases order with
    | nil => cases perm.nil_eq
    | cons p order => exact run_publishMulti perm

theorem run_deleteMulti (rc : Int) (perm : (order ++ [o]).Perm os) :
    (run deleteMultiCallbackHandler (order ++ [o]) (.start os.length rc)).map (·.told) =
      some [(o.code, { totalInfo os with messages := 0 })] := by
  rw [← perm.length_eq, ← totalInfo_perm perm]
  have told (p : ChannelOutcome) (rest : List ChannelOutcome) (is : order ++ [o] = p :: rest) :
      (run deleteMultiCallbackHandler (p :: rest) (.start (p :: rest).length rc)).map (·.told) =
        some [(o.code, { totalInfo (p :: rest) with messages := 0 })] := by
    refine (run_gathers (fun _ code => code) deleteMultiInfo (fun _ _ => rfl) rest p _ _).trans ?_
    rw [deleteMultiInfo_total, ← is, foldl_append]
    simp
  cases order with
  | nil => exact told o [] rfl
  | cons p order => exact told p (order ++ [o]) rfl

theorem deleteMulti_settles (o : ChannelOutcome) (os : List ChannelOutcome) (rc : Int) :
    Settles deleteMultiCallbackHandler rc DeleteCode 0 (o :: os) ↔
      (∀ p ∈ o :: os, p.code = o.code) ∧ (totalInfo (o :: os)).messages = 0 := by
  constructor
  · rintro ⟨code, right, tells⟩
    have told (p : ChannelOutcome) (on : p ∈ o :: os) :
        p.code = code ∧ { totalInfo (o :: os) with messages := 0 } = totalInfo (o :: os) := by
      have last : ((o :: os).erase p ++ [p]).Perm (o :: os) :=
        (perm_append_singleton _ _).trans (perm_cons_erase on).symm
      have told := (run_deleteMulti rc last).symm.trans (tells _ last)
      simpa using told
    have same := told o mem_cons_self
    exact ⟨fun p on => (told p on).1.trans same.1.symm, (congrArg ChannelInfo.messages same.2).symm⟩
  · rintro ⟨same, none⟩
    refine ⟨o.code, ?_, fun order perm => ?_⟩
    · unfold DeleteCode
      by_cases failed : o.code = 0
      · rw [if_neg (by simpa [failed] using same)]
        exact failed
      · rw [if_pos ⟨o, mem_cons_self, failed⟩]
        exact failed
    · rcases order.eq_nil_or_concat' with rfl | ⟨front, last, rfl⟩
      · cases perm.nil_eq
      · rw [Nat.add_zero, run_deleteMulti rc perm, same last (perm.mem_iff.mp (by simp)), ← none]

/-- Whatever several channels answer in whatever order, the publisher is told once, the same and
    the truth, just if there are channels and all of them answer, and: of a publish, a failure comes
    with an internal server error; of a delete, all channels answer alike and had no messages. -/
theorem multi_channel_reports_iff (os : List ChannelOutcome) (silent : Nat) :
    (Settles publishMultiCallback messageQueued PublishCode silent os ↔ (silent = 0 ∧ os ≠ []) ∧
      ((∃ p ∈ os, p.PublishFails) → ∃ p ∈ os, p.code = internalServerError)) ∧
    (Settles deleteMultiCallbackHandler 0 DeleteCode silent os ↔ (silent = 0 ∧ os ≠ []) ∧
      (∀ p ∈ os, ∀ q ∈ os, p.code = q.code) ∧ (totalInfo os).messages = 0) := by
  -- somebody who never answers leaves the publisher waiting
  have published : Settles publishMultiCallback messageQueued PublishCode silent os → _ :=
    Settles.all_answer publishMultiCode publishMultiInfo fun _ _ => rfl
  have deleted : Settles deleteMultiCallbackHandler 0 DeleteCode silent os → _ :=
    Settles.all_answer (fun _ code => code) deleteMultiInfo fun _ _ => rfl
  by_cases answered : silent = 0 ∧ os ≠ []
  · obtain ⟨rfl, some_⟩ := answered
    obtain ⟨o, rest, rfl⟩ := exists_cons_of_ne_nil some_
    have all : 0 = 0 ∧ o :: rest ≠ [] := ⟨rfl, some_⟩
    rw [publishMulti_settles, deleteMulti_settles, and_iff_right all, and_iff_right all]
    refine ⟨.rfl, and_congr_left fun _ => ⟨fun same p on q other => ?_, fun same p on => ?_⟩⟩
    · rw [same p on, same q other]
    · exact same p on o mem_cons_self
  · exact ⟨iff_of_false (mt published answered) (mt And.left answered),
      iff_of_false (mt deleted answered) (mt And.left answered)⟩

/-- A message that one of two channels has no memory for is reported as queued, and a delete that
    one of them has no memory for as done. -/
theorem storage_failure_not_reported :
    (∃ s, run publishMultiCallback [⟨insufficientStorage, none⟩, ⟨messageQueued, none⟩]
        (.start 2 messageQueued) = some s ∧ s.told = [(messageQueued, ⟨0, 0, 0, ⟨0, 0⟩⟩)]) ∧
    ¬ Settles publishMultiCallback messageQueued PublishCode 0
      [⟨insufficientStorage, none⟩, ⟨messageQueued, none⟩] ∧
    (∃ s, run deleteMultiCallbackHandler [⟨insufficientStorage, none⟩, ⟨0, none⟩]
        (.start 2 0) = some s ∧ s.told = [(0, ⟨0, 0, 0, ⟨0, 0⟩⟩)]) ∧
    ¬ Settles deleteMultiCallbackHandler 0 DeleteCode 0 [⟨insufficientStorage, none⟩, ⟨0, none⟩] := by
  refine ⟨⟨_, rfl, rfl⟩, ?_, ⟨_, rfl, rfl⟩, ?_⟩
  · rw [publishMulti_settles]
    simp [ChannelOutcome.PublishFails]
  · rw [deleteMulti_settles]
    simp

end Nchan.Memstore
