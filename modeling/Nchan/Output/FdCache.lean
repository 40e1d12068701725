import Mathlib.Data.List.Nodup

/-! # The cache of file descriptors

Messages may be kept in files.  What has to be read from one is looked up by file name in a
cache of open descriptors, which opens the file if it has to.  Entries are dropped, and their
descriptors closed, by age alone: neither a lookup nor the use of a descriptor extends its life.

The kernel may give the number of a closed descriptor to another file.  Here every opening has a
number of its own, so that a number that is still open was not closed in between.
-/

namespace Nchan.Output

open List Function

/-- `thing_t`.  `data` is `none` for a file that did not open, which is kept like any other. -/
structure Thing (Name : Type) where
  id : Name
  data : Option Nat
  time : Nat
  deriving DecidableEq

/-- `nchan_thing_cache_t` of `fd_cache`, its list from head to tail, with the number of openings
    so far and the file on which each of them is open. -/
structure FdCache (Name : Type) where
  things : List (Thing Name)
  opened : Nat
  descriptors : Nat → Option Name

namespace FdCache

variable {Name : Type}

def empty : FdCache Name := ⟨[], 0, fun _ => none⟩

def ttl : Nat := 5

section Lookup

variable [DecidableEq Name]

/-- `fd_open`; `failing` are the files that cannot be opened at the moment. -/
def fdOpen (failing : List Name) (filename : Name) (tc : FdCache Name) :
    Option Nat × FdCache Name :=
  if filename ∈ failing then (none, tc)
  else
    (some tc.opened, { tc with
      opened := tc.opened + 1
      descriptors := update tc.descriptors tc.opened (some filename) })

/-- `nchan_fdcache_get`, which is `nchan_thingcache_get`. -/
def get (failing : List Name) (now : Nat) (filename : Name) (tc : FdCache Name) :
    Option Nat × FdCache Name :=
  match tc.things.find? (fun thing => thing.id = filename) with
  | some thing => (thing.data, tc)
  | none =>
    let (fd, tc) := tc.fdOpen failing filename
    (fd, { tc with things := tc.things ++ [⟨filename, fd, now + ttl⟩] })

end Lookup

/-- `fd_close`. -/
def fdClose (fd : Option Nat) (tc : FdCache Name) : FdCache Name :=
  match fd with
  | none => tc
  | some fd => { tc with descriptors := update tc.descriptors fd none }

/-- The loop of `nchan_thingcache_gc_timer_handler`, from the head of the list to the first entry
    that has not expired. -/
def collect (now : Nat) : List (Thing Name) → FdCache Name → FdCache Name
  | [], tc => tc
  | thing :: rest, tc =>
    if thing.time ≤ now then collect now rest { tc.fdClose thing.data with things := rest }
    else tc

/-- `nchan_thingcache_gc_timer_handler`. -/
def gcTimerHandler (now : Nat) (tc : FdCache Name) : FdCache Name := collect now tc.things tc

/-- Every entry has a descriptor of its own, open on its file. -/
structure Sound (tc : FdCache Name) : Prop where
  isOpen : ∀ thing ∈ tc.things, ∃ fd, thing.data = some fd ∧ tc.descriptors fd = some thing.id
  distinct : (tc.things.map Thing.data).Nodup
  numbered : ∀ fd name, tc.descriptors fd = some name → fd < tc.opened

/-- What was open still is. -/
def Keeps (tc tc' : FdCache Name) : Prop :=
  ∀ fd name, tc.descriptors fd = some name → tc'.descriptors fd = some name

variable {tc tc' tc'' : FdCache Name}

theorem Keeps.refl (tc : FdCache Name) : tc.Keeps tc := fun _ _ isOpen => isOpen

theorem Keeps.trans (first : tc.Keeps tc') (second : tc'.Keeps tc'') : tc.Keeps tc'' :=
  fun fd name isOpen => second fd name (first fd name isOpen)

theorem empty_sound : (empty : FdCache Name).Sound :=
  ⟨forall_mem_nil _, nodup_nil,
    fun _ _ isOpen => by cases isOpen⟩

section Lookup

variable [DecidableEq Name]

theorem Sound.get (sound : tc.Sound) {failing : List Name} (now : Nat) {filename : Name}
    (opens : filename ∉ failing) :
    ∃ fd tc', tc.get failing now filename = (some fd, tc') ∧ tc'.descriptors fd = some filename ∧
      tc'.Sound ∧ tc.Keeps tc' := by
  unfold FdCache.get
  cases found : tc.things.find? (fun thing => thing.id = filename) with
  | some thing =>
    have named : thing.id = filename := by simpa using List.find?_some found
    obtain ⟨fd, is, isOpen⟩ := sound.isOpen thing (mem_of_find?_eq_some found)
    exact ⟨fd, tc, Prod.ext is rfl, named ▸ isOpen, sound, .refl tc⟩
  | none =>
    have keeps : ∀ fd name, tc.descriptors fd = some name →
        update tc.descriptors tc.opened (some filename) fd = some name := by
      intro fd name isOpen
      rwa [update_of_ne (Nat.ne_of_lt (sound.numbered fd name isOpen))]
    simp only [fdOpen, if_neg opens]
    refine ⟨tc.opened, _, rfl, update_self .., ⟨?_, ?_, ?_⟩, keeps⟩
    · refine forall_mem_append.mpr
        ⟨fun thing old => ?_, forall_mem_singleton.mpr ⟨tc.opened, rfl, update_self ..⟩⟩
      obtain ⟨fd, is, isOpen⟩ := sound.isOpen thing old
      exact ⟨fd, is, keeps fd _ isOpen⟩
    · rw [map_append]
      refine sound.distinct.append (nodup_singleton _) fun data old new => ?_
      obtain ⟨thing, listed, rfl⟩ := mem_map.mp old
      obtain ⟨fd, is, isOpen⟩ := sound.isOpen thing listed
      have same : fd = tc.opened := by simpa [is] using new
      exact Nat.ne_of_lt (sound.numbered fd _ isOpen) same
    · intro fd name isOpen
      by_cases same : fd = tc.opened
      · exact same ▸ Nat.lt_succ_self _
      · change update tc.descriptors tc.opened (some filename) fd = some name at isOpen
        rw [update_of_ne same] at isOpen
        exact Nat.lt_succ_of_lt (sound.numbered fd name isOpen)

end Lookup

theorem Sound.close {thing : Thing Name} {rest : List (Thing Name)} (sound : tc.Sound)
    (first : tc.things = thing :: rest) :
    ({ tc.fdClose thing.data with things := rest } : FdCache Name).Sound ∧
      ∀ fd name, tc.descriptors fd = some name → thing.data ≠ some fd →
        (tc.fdClose thing.data).descriptors fd = some name := by
  obtain ⟨closing, is, -⟩ := sound.isOpen thing (first ▸ mem_cons_self)
  have kept : ∀ fd name, tc.descriptors fd = some name → thing.data ≠ some fd →
      (tc.fdClose thing.data).descriptors fd = some name := by
    intro fd name isOpen other
    rw [is] at other ⊢
    have ne : fd ≠ closing := fun same => other (congrArg some same.symm)
    simpa [fdClose, update_of_ne ne] using isOpen
  have distinct := sound.distinct
  rw [first, map_cons, nodup_cons] at distinct
  refine ⟨⟨fun other listed => ?_, distinct.2, fun fd name isOpen => ?_⟩, kept⟩
  · obtain ⟨fd, data, isOpen⟩ := sound.isOpen other (first ▸ mem_cons_of_mem _ listed)
    refine ⟨fd, data, kept fd _ isOpen fun same => distinct.1 ?_⟩
    exact mem_map.mpr ⟨other, listed, data.trans same.symm⟩
  · change (tc.fdClose thing.data).descriptors fd = some name at isOpen
    have numbered : fd < tc.opened := by
      refine sound.numbered fd name ?_
      rw [is] at isOpen
      by_cases same : fd = closing
      · simp [fdClose, same] at isOpen
      · simpa [fdClose, update_of_ne same] using isOpen
    rw [is]
    exact numbered

theorem Sound.gc (sound : tc.Sound) (now : Nat) :
    (tc.gcTimerHandler now).Sound ∧
      ∀ fd name, tc.descriptors fd = some name →
        (∀ thing ∈ tc.things, thing.data = some fd → now < thing.time) →
        (tc.gcTimerHandler now).descriptors fd = some name := by
  -- the loop walks the list it shortens
  suffices walked : ∀ things, ∀ tc : FdCache Name, tc.things = things → tc.Sound →
      (collect now things tc).Sound ∧ ∀ fd name, tc.descriptors fd = some name →
        (∀ thing ∈ things, thing.data = some fd → now < thing.time) →
        (collect now things tc).descriptors fd = some name from walked _ tc rfl sound
  intro things
  induction things with
  | nil => exact fun tc _ sound => ⟨sound, fun fd name isOpen _ => isOpen⟩
  | cons thing rest ih =>
    intro tc is sound
    unfold collect
    split
    next expired =>
      obtain ⟨sound', kept⟩ := sound.close is
      obtain ⟨sound'', kept'⟩ := ih _ rfl sound'
      refine ⟨sound'', fun fd name isOpen fresh => kept' fd name (kept fd name isOpen ?_) ?_⟩
      · intro same
        exact Nat.not_le_of_lt (fresh thing mem_cons_self same) expired
      · exact fun other listed => fresh other (mem_cons_of_mem _ listed)
    next => exact ⟨sound, fun fd name isOpen _ => isOpen⟩

end FdCache

end Nchan.Output
