import Mathlib.Tactic.Common

/-! # Reading an event stream

The rules by which Server-Sent Events are read: lines end with a line feed, a carriage return or
both; `data` lines are joined with line feeds; an empty line dispatches what has been collected.
-/

namespace Nchan.Lib.EventStream

open List

abbrev Line := List UInt8

/-- The complete lines of a stream.  A line feed right behind a carriage return belongs to it. -/
def lines (line : Line) (afterReturn : Bool) : List UInt8 → List Line
  | [] => []
  | c :: rest =>
    if c = 10 then
      if afterReturn then lines [] false rest else line :: lines [] false rest
    else if c = 13 then line :: lines [] true rest
    else lines (line ++ [c]) false rest

structure Event where
  name : List UInt8
  data : List UInt8
  lastEventId : List UInt8
  deriving DecidableEq

structure Reader where
  event : List UInt8 := []
  data : List UInt8 := []
  lastEventId : List UInt8 := []
  deriving DecidableEq

def ascii (text : String) : List UInt8 := text.toList.map fun c => UInt8.ofNat c.toNat

def Reader.field (name value : List UInt8) (r : Reader) : Reader :=
  if name = ascii "event" then { r with event := value }
  else if name = ascii "data" then { r with data := r.data ++ value ++ [10] }
  else if name = ascii "id" then if 0 ∈ value then r else { r with lastEventId := value }
  else r

/-- The value behind a colon, without one space before it. -/
def valueOf : List UInt8 → List UInt8
  | 32 :: value => value
  | value => value

/-- One line, and the event that it dispatches. -/
def Reader.read (line : Line) (r : Reader) : Reader × Option Event :=
  if line = [] then
    let left := { r with event := [], data := [] }
    (left, if r.data = [] then none else some ⟨r.event, r.data.dropLast, r.lastEventId⟩)
  else
    match line.takeWhile (· ≠ 58), line.dropWhile (· ≠ 58) with
    | [], _ :: _ => (r, none)
    | name, _ :: value => (r.field name (valueOf value), none)
    | name, [] => (r.field name [], none)

def Reader.events (r : Reader) : List Line → List Event
  | [] => []
  | line :: rest => (r.read line).2.toList ++ (r.read line).1.events rest

def decode (r : Reader) (stream : List UInt8) : List Event := r.events (lines [] false stream)

def Unbroken (text : List UInt8) : Prop := 10 ∉ text ∧ 13 ∉ text

instance (text : List UInt8) : Decidable (Unbroken text) := inferInstanceAs (Decidable (_ ∧ _))

theorem Unbroken.append {front back : List UInt8} (first : Unbroken front) (second : Unbroken back) :
    Unbroken (front ++ back) := by
  simp only [Unbroken, mem_append, not_or]
  exact ⟨⟨first.1, second.1⟩, first.2, second.2⟩

theorem lines_append {text : List UInt8} (unbroken : Unbroken text) (line : Line)
    (rest : List UInt8) : lines line false (text ++ rest) = lines (line ++ text) false rest := by
  induction text generalizing line with
  | nil => rw [nil_append, append_nil]
  | cons c text ih =>
    simp only [Unbroken, mem_cons, not_or] at unbroken
    obtain ⟨⟨lf, noLf⟩, cr, noCr⟩ := unbroken
    rw [cons_append, lines, if_neg (Ne.symm lf), if_neg (Ne.symm cr), ih ⟨noLf, noCr⟩,
      append_assoc]
    rfl

theorem lines_feed (line : Line) (rest : List UInt8) :
    lines line false (10 :: rest) = line :: lines [] false rest := rfl

theorem decode_line {text : List UInt8} (unbroken : Unbroken text) (r : Reader)
    (rest : List UInt8) :
    decode r (text ++ 10 :: rest) = (r.read text).2.toList ++ decode (r.read text).1 rest := by
  rw [decode, lines_append unbroken, nil_append, lines_feed, Reader.events, decode]

theorem Reader.read_field (name : List UInt8) (some : name ≠ []) (noColon : 58 ∉ name)
    (value : List UInt8) (r : Reader) :
    r.read (name ++ 58 :: 32 :: value) = (r.field name value, none) := by
  have before : ∀ c ∈ name, c ≠ 58 := fun c on is => noColon (is ▸ on)
  have front : (name ++ 58 :: 32 :: value).takeWhile (· ≠ 58) = name := by
    rw [takeWhile_append_of_pos (by simpa using before)]
    simp
  have back : (name ++ 58 :: 32 :: value).dropWhile (· ≠ 58) = 58 :: 32 :: value := by
    rw [dropWhile_append_of_pos (by simpa using before)]
    simp
  obtain ⟨c, rest, rfl⟩ := exists_cons_of_ne_nil some
  rw [Reader.read, if_neg (by simp), front, back]
  rfl

theorem Reader.read_event (value : List UInt8) (r : Reader) :
    r.read (ascii "event: " ++ value) = ({ r with event := value }, none) :=
  Reader.read_field (ascii "event") (by decide) (by decide) value r

theorem Reader.read_data (value : List UInt8) (r : Reader) :
    r.read (ascii "data: " ++ value) = ({ r with data := r.data ++ value ++ [10] }, none) :=
  Reader.read_field (ascii "data") (by decide) (by decide) value r

theorem Reader.read_id {value : List UInt8} (plain : 0 ∉ value) (r : Reader) :
    r.read (ascii "id: " ++ value) = ({ r with lastEventId := value }, none) := by
  have set : r.field (ascii "id") value = { r with lastEventId := value } := by
    rw [Reader.field, if_neg (by decide), if_neg (by decide), if_pos rfl, if_neg plain]
  rw [← set]
  exact Reader.read_field (ascii "id") (by decide) (by decide) value r

end Nchan.Lib.EventStream
