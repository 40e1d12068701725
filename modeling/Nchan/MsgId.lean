import Mathlib.Algebra.Group.Int.Defs
import Mathlib.Algebra.Group.Nat.Defs
import Mathlib.Data.Prod.Lex
import Mathlib.Tactic.Common

/-! # Message ids

A message of one channel is stamped with a second and a 16-bit tag that counts the
messages within that second.
-/

namespace Nchan

/-- The `time` and `tag.fixed[0]` of an id with a single tag. -/
@[ext] structure Stamp where
  time : Int
  tag : Int
  deriving DecidableEq

namespace Stamp

instance : LinearOrder Stamp :=
  LinearOrder.lift' (fun s : Stamp => toLex (s.time, s.tag)) fun _ _ same =>
    Stamp.ext (congrArg (fun p => (ofLex p).1) same) (congrArg (fun p => (ofLex p).2) same)

theorem lt_iff {a b : Stamp} : a < b ↔ a.time < b.time ∨ a.time = b.time ∧ a.tag < b.tag :=
  Prod.Lex.toLex_lt_toLex

theorem le_iff {a b : Stamp} : a ≤ b ↔ a.time < b.time ∨ a.time = b.time ∧ a.tag ≤ b.tag :=
  Prod.Lex.toLex_le_toLex

/-- `tag + 1` stored back into an `int16_t`. -/
def nextTag (tag : Int) : Int := (tag + 1).bmod (2 ^ 16)

theorem nextTag_of_lt {tag : Int} (nonneg : 0 ≤ tag) (small : tag < 32767) :
    nextTag tag = tag + 1 :=
  Int.bmod_eq_of_le (by omega) (by omega)

theorem nextTag_ne (tag : Int) : nextTag tag ≠ tag := by
  rw [nextTag, Int.bmod_def]
  split <;> omega

end Stamp

/-- `NCHAN_NEWEST_MSGID_TIME`. -/
abbrev newestMsgidTime : Int := -1

/-- `NCHAN_NTH_MSGID_TIME`; the tag says which message, counted from the oldest if it is
    positive and from the newest if it is negative. -/
abbrev nthMsgidTime : Int := -2

/-- `nchan_msg_status_t`. -/
inductive MsgStatus where
  | error | channelNotready | invalid | pending | notfound | found | expected | expired
  deriving DecidableEq

end Nchan
