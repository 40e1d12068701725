import Nchan.Memstore.BufferInvariant
import Nchan.Memstore.FindNext

/-! # Catching up with a channel -/

namespace Nchan.Memstore

open Nchan.Lib.Run List

/-- Whoever goes on asking for the next message, from one that garbage collection leaves, gets what
    was buffered after it, once and in order. -/
def CatchesUp (ch : Chanhead) (h : History) : Prop :=
  ∀ now, ∃ ch', memstoreChanheadMessagesGc now ch = some ch' ∧ ch'.messages <:+ h.buffered ∧
    ∀ m later, m :: later <:+ ch'.messages →
      ∀ fuel > later.length, iterateNext now fuel m.id ch = some (later, .expected)

/-- This is so after every ordinary run. -/
theorem reader_catches_up (cf : LocConf) (disabled : cf.redisEnabled = false) (ops : List Op)
    (ordinary : Along Op.apply Op.Ordinary ops (Chanhead.create cf, .start)) :
    ∃ ch h, run Op.apply ops (Chanhead.create cf, .start) = some (ch, h) ∧ CatchesUp ch h := by
  obtain ⟨⟨ch, h⟩, runs, ⟨c, impl, sound, -⟩, -⟩ :=
    run_succeeds step_afterRun (afterRun_create disabled) ordinary
  refine ⟨ch, h, runs, fun now => ?_⟩
  obtain ⟨ch', collected, impl', -⟩ := gc_implements now impl
  have kept : (c.gc now).messages <:+ c.messages := gcMessages_suffix now c.maxMessages c.messages
  have sorted : (c.gc now).messages.Pairwise (·.id < ·.id) := by
    rw [← pairwise_map, ← isChain_iff_pairwise, isChain_map]
    exact (sound.ordered.suffix kept).imp fun _ _ both => both.1
  refine ⟨ch', collected, ?_, ?_⟩ <;> rw [impl'.represents.messages_eq]
  · exact kept.trans sound.newest
  · rintro m later ⟨seen, split⟩ fuel enough
    have explicit : ∀ m ∈ (c.gc now).messages, 0 ≤ m.id.time := fun m on =>
      sound.explicit m (kept.subset on)
    have on : m ∈ (c.gc now).messages := by simp [← split]
    refine iterateNext_behind impl sorted explicit (ne_nil_of_mem on) (explicit m on)
      ⟨seen ++ [m], by simp [split]⟩ ?_ enough
    rw [← split]
    exact filter_after_of_sorted (split ▸ sorted)

/-- Four messages for a buffer of three. -/
def publishesFour : List Op :=
  let publish (now : Int) (address : Nat) : Op :=
    .publish now address ⟨false, .backup, 60, 3⟩ ⟨⟨0, 0⟩, ⟨0, 0⟩, 0⟩
  [publish 7 0, publish 7 1, publish 7 2, publish 8 3]

/-- A reader of the second one gets the two others. -/
theorem reader_catches_up_four :
    ∃ ch h, run Op.apply publishesFour (Chanhead.create ⟨false, .backup, 60, 3⟩, .start) =
      some (ch, h) ∧ CatchesUp ch h ∧
      iterateNext 9 3 ⟨7, 1⟩ ch = some ([⟨⟨7, 2⟩, ⟨7, 1⟩, 67⟩, ⟨⟨8, 0⟩, ⟨7, 2⟩, 68⟩], .expected) := by
  have ordinary : Along Op.apply Op.Ordinary publishesFour
      (Chanhead.create ⟨false, .backup, 60, 3⟩, .start) := by
    refine .cons ?_ rfl (.cons ?_ rfl (.cons ?_ rfl (.cons ?_ rfl trivial)))
    all_goals exact ⟨by decide, by decide, rfl, rfl, by decide, rfl, rfl, by decide⟩
  obtain ⟨ch, h, reaches, catches⟩ := reader_catches_up _ rfl _ ordinary
  refine ⟨ch, h, reaches, catches, ?_⟩
  obtain ⟨ch', collected, -, reads⟩ := catches 9
  cases reaches
  cases collected
  exact reads ⟨⟨7, 1⟩, ⟨7, 0⟩, 67⟩ _ ⟨[], rfl⟩ 3 (by decide)

end Nchan.Memstore
