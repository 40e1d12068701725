import Mathlib.Data.List.Infix

/-! # Reading header lines

Header lines end with a carriage return and a line feed, and an empty line ends the header.
-/

namespace Nchan.Lib.HeaderLines

open List Option

abbrev Line := List UInt8

/-- The lines up to the empty one, and what follows it; `line` is what was read of a line. -/
def read (line : Line) : List UInt8 → Option (List Line × List UInt8)
  | [] => none
  | c :: rest =>
    if c = 10 ∧ line.getLast? = some 13 then
      if line.dropLast = [] then some ([], rest)
      else (read [] rest).map fun found => (line.dropLast :: found.1, found.2)
    else read (line ++ [c]) rest

def value (label : Line) (lines : List Line) : Option (List UInt8) :=
  lines.findSome? fun line => line.dropPrefix? label

def OneLine (text : List UInt8) : Prop := ¬[13, 10] <:+: text

instance (text : List UInt8) : Decidable (OneLine text) := inferInstanceAs (Decidable (¬_))

variable {text : List UInt8}

theorem oneLine_concat {c : UInt8} :
    OneLine (text ++ [c]) ↔ OneLine text ∧ ¬(c = 10 ∧ text.getLast? = some 13) := by
  have atEnd : [13, 10] <:+ text ++ [c] ↔ c = 10 ∧ text.getLast? = some 13 := by
    rw [List.getLast?_eq_some_iff, suffix_concat_iff]
    constructor
    · rintro (none | ⟨front, same, back, rfl⟩)
      · cases none
      · have same : [13] ++ [10] = front ++ [c] := same
        obtain ⟨rfl, last⟩ := List.append_inj' same rfl
        exact ⟨(List.cons.inj last).1.symm, back, rfl⟩
    · rintro ⟨rfl, front, rfl⟩
      exact .inr ⟨[13], rfl, front, rfl⟩
  rw [OneLine, infix_concat_iff, not_or, atEnd, and_comm, OneLine]

theorem OneLine.of_append {front back : List UInt8} (whole : OneLine (front ++ back)) :
    OneLine front ∧ OneLine back :=
  ⟨fun inside => whole (inside.trans (List.infix_append' [] front back)),
    fun inside => whole (inside.trans (suffix_append front back).isInfix)⟩

theorem OneLine.append {front back : List UInt8} (first : 13 ∉ front) (second : OneLine back) :
    OneLine (front ++ back) := by
  induction front with
  | nil => exact second
  | cons c front ih =>
    rw [mem_cons, not_or] at first
    rw [cons_append, OneLine, infix_cons_iff, not_or]
    refine ⟨?_, ih first.2⟩
    rintro ⟨rest, same⟩
    exact first.1 (List.cons.inj same).1

theorem OneLine.of_not_mem (none : 13 ∉ text) : OneLine text := by
  have whole : OneLine (text ++ []) := .append none (by decide)
  rwa [append_nil] at whole

theorem read_append {line : List UInt8} (one : OneLine (line ++ text)) (rest : List UInt8) :
    read line (text ++ rest) = read (line ++ text) rest := by
  induction text generalizing line with
  | nil => rw [nil_append, append_nil]
  | cons c text ih =>
    rw [append_cons] at one ⊢
    rw [cons_append, read, if_neg (oneLine_concat.mp one.of_append.1).2, ih one]

theorem read_line {line : Line} (filled : line ≠ []) (one : OneLine line) (rest : List UInt8) :
    read [] (line ++ 13 :: 10 :: rest) =
      (read [] rest).map fun found => (line :: found.1, found.2) := by
  have begins : OneLine ([] ++ line) := one
  have inside : ¬((13 : UInt8) = 10 ∧ line.getLast? = some 13) := fun both => by cases both.1
  rw [read_append begins, nil_append, read, if_neg inside, read,
    if_pos ⟨rfl, List.getLast?_concat⟩, dropLast_concat, if_neg filled]

variable {lines : List Line}

theorem read_lines (all : ∀ line ∈ lines, line ≠ [] ∧ OneLine line) (rest : List UInt8) :
    read [] (lines.flatMap (· ++ [13, 10]) ++ 13 :: 10 :: rest) = some (lines, rest) := by
  induction lines with
  | nil => rfl
  | cons line lines ih =>
    obtain ⟨⟨filled, one⟩, others⟩ := forall_mem_cons.mp all
    rw [flatMap_cons, append_assoc, append_assoc, cons_append,
      cons_append, nil_append, read_line filled one, ih others, map_some]

theorem oneLine_of_read {line rest : List UInt8} (found : read line text = some (lines, rest))
    (one : OneLine line) : ∀ l ∈ lines, OneLine l := by
  induction text generalizing line lines with
  | nil => cases found
  | cons c text ih =>
    rw [read] at found
    split at found
    · split at found
      · cases found
        exact forall_mem_nil _
      · obtain ⟨⟨others, rest'⟩, behind, same⟩ := map_eq_some_iff.mp found
        cases same
        have here : OneLine line.dropLast := fun inside =>
          one (inside.trans ( dropLast_prefix line).isInfix)
        exact forall_mem_cons.mpr ⟨here, ih behind (by decide)⟩
    · rename_i inside
      exact ih found (oneLine_concat.mpr ⟨one, inside⟩)

@[simp] theorem value_nil (label : Line) : value label [] = none := rfl

@[simp] theorem value_cons (label text : Line) (lines : List Line) :
    value label ((label ++ text) :: lines) = some text := by
  have found : (label ++ text).dropPrefix? label = some text :=
    List.dropPrefix?_eq_some_iff.mpr ⟨label, rfl, BEq.rfl⟩
  rw [value, List.findSome?_cons, found]

theorem value_cons_other {label line : Line} (other : line.dropPrefix? label = none)
    (lines : List Line) : value label (line :: lines) = value label lines := by
  rw [value, List.findSome?_cons, other, value]

theorem oneLine_value {label : Line} (all : ∀ line ∈ lines, OneLine line)
    (found : value label lines = some text) : OneLine text := by
  obtain ⟨line, listed, cut⟩ := exists_of_findSome?_eq_some found
  obtain ⟨front, rfl, -⟩ := List.dropPrefix?_eq_some_iff.mp cut
  exact (all _ listed).of_append.2

end Nchan.Lib.HeaderLines
