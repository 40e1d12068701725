import Mathlib.Data.List.TakeWhile
import Nchan.MsgIdText

/-! # Looking up a line of an INFO text

A line is looked for by what it starts with.  Whatever is found in the middle of a line is to be
skipped, but the search begins at the start of the text again, and finds the same once more.
-/

namespace Nchan.Redis

open List Option

variable {text lineStart : Text} {i first last : Nat}

/-- `strchr`, from some place on. -/
def strchr (chr : Char) (text : Text) (i : Nat) : Option Nat :=
  ((text.drop i).findIdx? (· = chr)).map (i + ·)

/-- `strstr`. -/
def strstr (text needle : Text) : Option Nat :=
  (range text.length).find? fun i => needle.isPrefixOf (text.drop i)

def slice (text : Text) (first last : Nat) : Text := (text.drop first).take (last - first)

/-- Where the line ends that starts at `first`. -/
def lineEnd (text : Text) (first : Nat) : Nat :=
  match strchr '\n' text first with
  | none => text.length
  | some last => if first < last ∧ text[last - 1]? = some '\r' then last - 1 else last

/-- The loop of `nchan_get_rest_of_line_in_cstr`, where `cur` may be null.  What it returns is the
    rest of a line or nothing; it may also still be running. -/
def restOfLineLoop (cstr lineStart : Text) : Nat → Option Nat → Option (Option Text)
  | 0, _ => none
  | _ + 1, none => some none
  | fuel + 1, some cur =>
    if cur < cstr.length then
      match strstr cstr lineStart with
      | none => some none
      | some first =>
        if first = 0 ∨ cstr[first - 1]? = some '\n' then
          some (some (slice cstr (first + lineStart.length) (lineEnd cstr first)))
        else restOfLineLoop cstr lineStart fuel (strchr '\n' cstr cur)
    else some none

/-- `nchan_get_rest_of_line_in_cstr`. -/
def getRestOfLineInCstr (fuel : Nat) (cstr lineStart : Text) : Option (Option Text) :=
  restOfLineLoop cstr lineStart fuel (some 0)

/-! ## What it should find -/

def LineStart (text : Text) (i : Nat) : Prop := i = 0 ∨ text[i - 1]? = some '\n'

instance : DecidablePred (LineStart text) := fun _ => inferInstanceAs (Decidable (_ ∨ _))

def lineAt (text : Text) (i : Nat) : Text :=
  let line := (text.drop i).takeWhile (· ≠ '\n')
  if i + line.length < text.length ∧ line.getLast? = some '\r' then line.dropLast else line

/-- A line that starts here starts with a text, which is meant to have no CR or LF. -/
def LineStarts (text lineStart : Text) (i : Nat) : Prop :=
  LineStart text i ∧ lineStart <+: text.drop i

/-- The rest of the first such line, or that there is none. -/
def AnswersLookup (text lineStart : Text) : Option Text → Prop
  | none => ∀ i, ¬ LineStarts text lineStart i
  | some rest => ∃ i, LineStarts text lineStart i ∧ (∀ j < i, ¬ LineStarts text lineStart j) ∧
      rest = (lineAt text i).drop lineStart.length

/-- Nothing is found in the middle of a line that another one follows. -/
def Legible (text lineStart : Text) : Prop :=
  ∀ first ∈ strstr text lineStart, LineStart text first ∨ '\n' ∉ text

/-! ## Searching -/

theorem strstr_eq_some (found : strstr text lineStart = some first) :
    first < text.length ∧ lineStart <+: text.drop first ∧
      ∀ j < first, ¬ lineStart <+: text.drop j := by
  obtain ⟨here, within, earlier⟩ := find?_range_eq_some.mp found
  refine ⟨mem_range.mp within, isPrefixOf_iff_prefix.mp here, fun j before is => ?_⟩
  have starts := isPrefixOf_iff_prefix.mpr is
  simpa [starts] using earlier j before

theorem strstr_eq_none (nonempty : lineStart ≠ []) (missing : strstr text lineStart = none) (i : Nat) :
    ¬ lineStart <+: text.drop i := by
  intro is
  have within : i < text.length := by
    by_contra beyond
    rw [drop_eq_nil_of_le (by omega)] at is
    exact nonempty (prefix_nil.mp is)
  have starts := isPrefixOf_iff_prefix.mpr is
  simpa [starts] using find?_range_eq_none.mp missing i within

theorem strchr_self (newline : text[i]? = some '\n') : strchr '\n' text i = some i := by
  obtain ⟨within, is⟩ := List.getElem?_eq_some_iff.mp newline
  simp [strchr, drop_eq_getElem_cons within, is, findIdx?_cons]

theorem strchr_start (newline : '\n' ∈ text) :
    ∃ i, strchr '\n' text 0 = some i ∧ text[i]? = some '\n' := by
  cases found : text.findIdx? (· = '\n') with
  | none => simpa using findIdx?_eq_none_iff.mp found '\n' newline
  | some i =>
    obtain ⟨within, is, -⟩ := findIdx?_eq_some_iff_getElem.mp found
    exact ⟨i, by simp [strchr, found], by simpa [within] using is⟩

theorem slice_lineEnd (text : Text) (i n : Nat) :
    slice text (i + n) (lineEnd text i) = (lineAt text i).drop n := by
  unfold slice lineEnd lineAt strchr
  cases found : (text.drop i).findIdx? (· = '\n') with
  | none =>
    have whole : (text.drop i).takeWhile (· ≠ '\n') = text.drop i :=
      takeWhile_eq_self_iff.mpr fun c on => by
        simpa using findIdx?_eq_none_iff.mp found c on
    have ends : ¬ i + (text.drop i).length < text.length := by
      rw [length_drop]
      omega
    simp only [whole, map_none, ends, false_and, if_false, drop_drop]
    exact take_of_length_le (by rw [length_drop])
  | some m =>
    obtain ⟨within, newline, -⟩ := findIdx?_eq_some_iff_getElem.mp found
    rw [length_drop] at within
    have front : (text.drop i).takeWhile (· ≠ '\n') = (text.drop i).take m := by
      rw [takeWhile_eq_take_findIdx_not]
      congr 1
      simpa using (findIdx?_eq_some_iff_findIdx_eq.mp found).2
    have length : ((text.drop i).take m).length = m := by
      rw [length_take, length_drop]
      omega
    have before : ((text.drop i).take m).getLast? = if 0 < m then text[i + m - 1]? else none := by
      rw [getLast?_eq_getElem?, length]
      split
      · rw [List.getElem?_take_of_lt (by omega), List.getElem?_drop]
        congr 1
        omega
      · obtain rfl : m = 0 := by omega
        simp
    simp only [front, map_some, length, before]
    by_cases ends : 0 < m ∧ text[i + m - 1]? = some '\r'
    · rw [if_pos ⟨by omega, ends.2⟩, if_pos ⟨by omega, by rw [if_pos ends.1, ends.2]⟩,
        dropLast_eq_take, length, take_take, drop_take, drop_drop]
      congr 1
      omega
    · rw [if_neg fun is => ends ⟨by omega, is.2⟩, if_neg fun is => ends ?_, drop_take,
        drop_drop]
      · congr 1
        omega
      · by_cases some : 0 < m
        · exact ⟨some, by simpa [some] using is.2⟩
        · simp [some] at is

/-! ## Looking a line up -/

theorem restOfLineLoop_stuck (found : strstr text lineStart = some first)
    (inside : ¬ LineStart text first) (newline : text[i]? = some '\n') (fuel : Nat) :
    restOfLineLoop text lineStart fuel (some i) = none := by
  induction fuel with
  | zero => rfl
  | succ fuel ih =>
    have within : i < text.length := (List.getElem?_eq_some_iff.mp newline).1
    rw [restOfLineLoop, if_pos within, found]
    exact (if_neg inside).trans (by rw [strchr_self newline, ih])

theorem getRestOfLineInCstr_stuck (illegible : ¬ Legible text lineStart) (fuel : Nat) :
    getRestOfLineInCstr fuel text lineStart = none := by
  simp only [Legible, mem_def, not_forall, not_or, not_not] at illegible
  obtain ⟨first, found, inside, lines⟩ := illegible
  obtain ⟨i, next, newline⟩ := strchr_start lines
  cases fuel with
  | zero => rfl
  | succ fuel =>
    have within := (strstr_eq_some found).1
    rw [getRestOfLineInCstr, restOfLineLoop, if_pos (by omega), found]
    exact (if_neg inside).trans (by rw [next, restOfLineLoop_stuck found inside newline])

theorem getRestOfLineInCstr_legible (nonempty : lineStart ≠ []) (legible : Legible text lineStart)
    (fuel : Nat) :
    ∃ answer, getRestOfLineInCstr (fuel + 2) text lineStart = some answer ∧
      AnswersLookup text lineStart answer := by
  rw [getRestOfLineInCstr, restOfLineLoop]
  cases found : strstr text lineStart with
  | none =>
    refine ⟨none, by simp, fun i starts => strstr_eq_none nonempty found i starts.2⟩
  | some first =>
    obtain ⟨within, here, earlier⟩ := strstr_eq_some found
    rw [if_pos (by omega)]
    by_cases start : LineStart text first
    · refine ⟨_, if_pos start, first, ⟨start, here⟩, fun j before starts => ?_, ?_⟩
      · exact earlier j before starts.2
      · exact slice_lineEnd text first lineStart.length
    · -- the only line of the text starts with something else
      have single : '\n' ∉ text := (legible first found).resolve_left start
      have last : strchr '\n' text 0 = none := by
        simp only [strchr, drop_zero, map_eq_none_iff, findIdx?_eq_none_iff]
        exact fun c on => by simpa using ne_of_mem_of_not_mem on single
      refine ⟨none, (if_neg start).trans (by rw [last]; rfl), fun i starts => ?_⟩
      obtain rfl : i = 0 := starts.1.resolve_right fun newline =>
        single (mem_of_getElem? newline)
      exact earlier 0 (by have := mt Or.inl start; omega) starts.2

/-- The lookup ends with the rest of the first line that starts as wanted, or rightly says that
    there is none, just if the text is legible. -/
theorem rest_of_line_found_iff (nonempty : lineStart ≠ []) :
    (∃ fuel answer, getRestOfLineInCstr fuel text lineStart = some answer ∧
      AnswersLookup text lineStart answer) ↔ Legible text lineStart := by
  constructor
  · rintro ⟨fuel, answer, returns, -⟩
    by_contra illegible
    cases (getRestOfLineInCstr_stuck illegible fuel).symm.trans returns
  · exact fun legible => ⟨2, getRestOfLineInCstr_legible nonempty legible 0⟩

theorem rest_of_line_found_role :
    ∃ fuel answer, getRestOfLineInCstr fuel ['r', ':', 'm', '\r', '\n', 'd', ':', '0'] ['r', ':'] =
      some answer ∧ AnswersLookup ['r', ':', 'm', '\r', '\n', 'd', ':', '0'] ['r', ':'] answer :=
  (rest_of_line_found_iff (by decide)).mpr (by unfold Legible; decide)

/-- The second line starts with what is also inside of the first one. -/
theorem rest_of_line_loops :
    LineStarts ['x', 'r', ':', '\n', 'r', ':', 'm'] ['r', ':'] 4 ∧
      ∀ fuel, getRestOfLineInCstr fuel ['x', 'r', ':', '\n', 'r', ':', 'm'] ['r', ':'] = none :=
  ⟨⟨by decide, by decide⟩,
    getRestOfLineInCstr_stuck (by unfold Legible; decide)⟩

end Nchan.Redis
