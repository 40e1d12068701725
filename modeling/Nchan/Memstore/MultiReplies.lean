import Nchan.Lib.Merge
import Nchan.Memstore.MultiMessage

/-! # The best of the replies

The replies of the channels of a multiplexed one come in one by one, and the callback keeps the
best of them.  After any of them it has the earliest message so far.  Without a message it has
`EXPECTED`, if that was answered or known from the start, and otherwise what was answered last.
-/

namespace Nchan.Memstore

open Nchan.Lib List Option

variable {n : Nat}

@[simp] def lastStatus (initial : MsgStatus) (seen : List (MultiReply n)) : MsgStatus :=
  if initial = .expected ∨ ∃ reply ∈ seen, reply.status = .expected then .expected
  else (seen.getLast?.map (·.status)).getD initial

theorem lastStatus_concat (initial : MsgStatus) (seen : List (MultiReply n)) (reply : MultiReply n) :
    lastStatus initial (seen ++ [reply]) =
      if lastStatus initial seen = .expected then .expected else reply.status := by
  have settled : lastStatus initial seen = .expected ↔
      initial = .expected ∨ ∃ reply ∈ seen, reply.status = .expected := by
    unfold lastStatus
    split
    · rename_i expected
      simp [expected]
    · rename_i unsettled
      refine iff_of_false (fun is => unsettled ?_) unsettled
      cases last : seen.getLast? with
      | none => exact .inl (by simpa [last] using is)
      | some other => exact .inr ⟨other, mem_of_getLast? last, by simpa [last] using is⟩
  by_cases before : initial = .expected ∨ ∃ reply ∈ seen, reply.status = .expected
  · have after : initial = .expected ∨ ∃ other ∈ seen ++ [reply], other.status = .expected :=
      before.imp_right fun ⟨other, on, is⟩ => ⟨other, mem_append_left _ on, is⟩
    rw [lastStatus, if_pos after, if_pos (settled.mpr before)]
  · rw [if_neg (mt settled.mp before), lastStatus]
    split
    · rename_i after
      rcases after with first | ⟨other, on, is⟩
      · exact absurd (.inl first) before
      · rcases mem_append.mp on with earlier | last
        · exact absurd (.inr ⟨other, earlier, is⟩) before
        · exact mem_singleton.mp last ▸ is.symm
    · simp

theorem betterResponse_iff {i j : Fin n} {m best : Msg} :
    betterResponse i j m best = true ↔ rank Msg.id (i, m) < rank Msg.id (j, best) := by
  have lt : rank Msg.id (i, m) < rank Msg.id (j, best) ↔ m.id < best.id ∨ m.id = best.id ∧ i < j :=
    Prod.Lex.toLex_lt_toLex
  rw [lt, Stamp.lt_iff, Stamp.ext_iff, betterResponse, decide_eq_true_eq]
  tauto

/-- The callback's data after the replies `seen`. -/
structure GetMultiMessage.Earliest (initial : MsgStatus) (seen : List (MultiReply n))
    (d : GetMultiMessage n) : Prop where
  none_found : d.msg = none →
    (∀ reply ∈ seen, reply.msg = none) ∧ d.msgStatus = lastStatus initial seen
  found : ∀ i m, d.msg = some (i, m) → d.msgStatus = .found ∧
    (∃ reply ∈ seen, reply.n = i ∧ reply.msg = some m) ∧
    ∀ reply ∈ seen, ∀ b, reply.msg = some b → rank Msg.id (i, m) ≤ rank Msg.id (reply.n, b)

/-- A message is found, and not in a second before that of the wanted id. -/
def MultiReply.InTime (wantedMsgid : MsgId) (reply : MultiReply n) : Prop :=
  ∀ m, reply.msg = some m → reply.status = .found ∧ wantedMsgid.time ≤ m.id.time

namespace GetMultiMessage.Earliest

variable {initial : MsgStatus} {seen : List (MultiReply n)} {d : GetMultiMessage n}
  {reply : MultiReply n}

theorem begin (initial : MsgStatus) :
    GetMultiMessage.Earliest initial ([] : List (MultiReply n)) ⟨initial, none⟩ where
  none_found := fun _ => ⟨by simp, by simp⟩
  found := by simp

theorem replaced {m : Msg} (status : reply.status = .found) (has : reply.msg = some m)
    (least : ∀ other ∈ seen, ∀ b, other.msg = some b →
      rank Msg.id (reply.n, m) ≤ rank Msg.id (other.n, b)) :
    GetMultiMessage.Earliest initial (seen ++ [reply])
      ⟨reply.status, reply.msg.map fun msg => (reply.n, msg)⟩ where
  none_found := fun none => by simp [has] at none
  found := by
    rw [has]
    rintro i m' ⟨rfl, rfl⟩
    refine ⟨status, ⟨reply, by simp, rfl, has⟩,
      forall_mem_append.mpr ⟨least, forall_mem_singleton.mpr fun b is => ?_⟩⟩
    rw [has] at is
    exact some.inj is ▸ le_rfl

theorem still_none (hasNone : reply.msg = none)
    (none : ∀ other ∈ seen, other.msg = none) {status : MsgStatus}
    (status_eq : status = lastStatus initial (seen ++ [reply])) :
    GetMultiMessage.Earliest initial (seen ++ [reply]) ⟨status, .none⟩ where
  none_found := fun _ => by
    exact ⟨forall_mem_append.mpr ⟨none, forall_mem_singleton.mpr hasNone⟩, status_eq⟩
  found := by simp

variable (best : d.Earliest initial seen)

include best

theorem kept {i : Fin n} {m : Msg} (is : d.msg = some (i, m))
    (notBetter : ∀ b, reply.msg = some b → rank Msg.id (i, m) ≤ rank Msg.id (reply.n, b)) :
    d.Earliest initial (seen ++ [reply]) where
  none_found := fun none => by simp [is] at none
  found := by
    intro i' m' is'
    obtain ⟨status, ⟨source, on, its⟩, least⟩ := best.found i' m' is'
    obtain ⟨rfl, rfl⟩ : i' = i ∧ m' = m := by
      rw [is] at is'
      cases is'
      exact ⟨rfl, rfl⟩
    exact ⟨status, ⟨source, mem_append_left _ on, its⟩,
      forall_mem_append.mpr ⟨least, forall_mem_singleton.mpr notBetter⟩⟩

theorem callback {wantedMsgid : MsgId}
    (inTime : reply.InTime wantedMsgid) :
    ∃ d', multiMessageCallback wantedMsgid d reply = some d' ∧
      d'.Earliest initial (seen ++ [reply]) := by
  cases has : reply.msg with
  | none =>
    cases holds : d.msg with
    | none =>
      obtain ⟨none, current⟩ := best.none_found holds
      have next : (⟨if d.msgStatus = .expected then .expected else reply.status, .none⟩ :
          GetMultiMessage n).Earliest initial (seen ++ [reply]) :=
        still_none has none (by rw [lastStatus_concat, current])
      refine ⟨_, ?_, next⟩
      unfold multiMessageCallback
      by_cases expected : d.msgStatus = .expected
      · have same : d = ⟨.expected, .none⟩ := by
          rw [← expected, ← holds]
        simp [same, has]
      · simp [expected, has, holds]
    | some bestMsg =>
      obtain ⟨found, -⟩ := best.found bestMsg.1 bestMsg.2 holds
      refine ⟨d, by simp [multiMessageCallback, found, has, holds], best.kept holds ?_⟩
      simp [has]
  | some m =>
    obtain ⟨status, notEarly⟩ := inTime m has
    cases holds : d.msg with
    | none =>
      -- the first message, whatever was answered before
      obtain ⟨none, -⟩ := best.none_found holds
      refine ⟨_, by simp [multiMessageCallback, has, holds], replaced status has ?_⟩
      intro other on b is
      simp [none other on] at is
    | some bestMsg =>
      obtain ⟨found, -, least⟩ := best.found bestMsg.1 bestMsg.2 holds
      by_cases better : betterResponse reply.n bestMsg.1 m bestMsg.2
      · refine ⟨_, by simp [multiMessageCallback, has, holds, notEarly, better],
          replaced status has fun other on b is => ?_⟩
        exact (betterResponse_iff.mp better).le.trans (least other on b is)
      · refine ⟨d, by simp [multiMessageCallback, found, has, holds, notEarly, better],
          best.kept holds fun b is => ?_⟩
        obtain rfl : m = b := some.inj (has.symm.trans is)
        exact not_lt.mp fun earlier => better (betterResponse_iff.mpr earlier)

theorem fold (wantedMsgid : MsgId) (replies : List (MultiReply n))
    (inTime : ∀ reply ∈ replies, reply.InTime wantedMsgid) :
    ∃ d', replies.foldlM (multiMessageCallback wantedMsgid) d = some d' ∧
      d'.Earliest initial (seen ++ replies) := by
  induction replies generalizing d seen with
  | nil => exact ⟨d, rfl, by simpa using best⟩
  | cons reply replies ih =>
    obtain ⟨d', called, best'⟩ := best.callback (inTime reply mem_cons_self)
    obtain ⟨d'', folded, best''⟩ := ih best' fun other on => inTime other (mem_cons_of_mem _ on)
    refine ⟨d'', ?_, by simpa using best''⟩
    rw [foldlM_cons, called]
    exact folded

end GetMultiMessage.Earliest

end Nchan.Memstore
