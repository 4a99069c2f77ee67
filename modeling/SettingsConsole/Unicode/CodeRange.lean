import SettingsConsole.Text.Ascii
import SettingsConsole.Text.Split

/-!
# Sets of code points, and shifts

A property of characters is a set of code points, which ranges make up. A table of a property has
rows of words with blanks between them. A word is a range: its first and its last code point in
hexadecimal with a hyphen between them, or a code point that is alone.

Where all characters of a stretch are replaced by others that are equally far away, they are
shifted. A shift is written as the stretch, with `/2` if it concerns every second character only,
and what the first one becomes.
-/

namespace SettingsConsole.Unicode

open Text

/-- A range of code points; both ends belong to it. -/
structure CodeRange where
  first : Nat
  last : Nat
  deriving DecidableEq, Repr

/-- A set of code points, as the ranges that make it up. -/
abbrev CodeSet := List CodeRange

/-- Whether a character is in a range. -/
def CodeRange.has (r : CodeRange) (c : Char) : Bool := r.first ≤ c.toNat && c.toNat ≤ r.last

/-- Whether a character is in a set. -/
def CodeSet.has (s : CodeSet) (c : Char) : Bool := s.any fun r => CodeRange.has r c

/-- The number that hexadecimal digits write. -/
def hexNumber (cs : List Char) : Nat := cs.foldl (fun n c => n * 16 + (hexValue? c).getD 0) 0

/-- The character whose number hexadecimal digits write. -/
def hexChar (cs : List Char) : Char := Char.ofNat (hexNumber cs)

/-- Read a range. -/
def CodeRange.ofText (cs : List Char) : CodeRange :=
  match cutChars '-' cs with
  | some (first, last) => ⟨hexNumber first, hexNumber last⟩
  | none => ⟨hexNumber cs, hexNumber cs⟩

/-- The words of a table. -/
def words (rows : List String) : List (List Char) :=
  rows.flatMap fun row => splitChars ' ' row.toList

/-- The set that a table lists. -/
def CodeSet.ofRows (rows : List String) : CodeSet := (words rows).map CodeRange.ofText

/-- A row with a range and a code point that is alone. -/
example : CodeSet.ofRows ["41-5A 5F"] = [⟨0x41, 0x5A⟩, ⟨0x5F, 0x5F⟩] := by decide +kernel

/-- A set has a character exactly if one of its ranges does. -/
theorem CodeSet.has_iff (s : CodeSet) (c : Char) :
    s.has c = true ↔ ∃ r ∈ s, r.first ≤ c.toNat ∧ c.toNat ≤ r.last := by
  simp [CodeSet.has, CodeRange.has]

/-- Two tables one after the other list what either of them does. -/
theorem CodeSet.has_append (s t : CodeSet) (c : Char) :
    CodeSet.has (s ++ t) c = (s.has c || t.has c) := by
  simp [CodeSet.has]

/-! ## Shifts -/

/-- A stretch of code points, of which every one or every second one is replaced by the one that
is as far from `target` as it is from the first. -/
structure Shift where
  range : CodeRange
  step : Nat
  target : Nat
  deriving Repr

/-- Read a shift. -/
def Shift.ofText? (cs : List Char) : Option Shift := do
  let (stretch, target) ← cutChars '>' cs
  match cutChars '/' stretch with
  | some (range, step) => some ⟨.ofText range, hexNumber step, hexNumber target⟩
  | none => some ⟨.ofText stretch, 1, hexNumber target⟩

/-- What a shift makes of a character. -/
def Shift.move? (s : Shift) (c : Char) : Option Char :=
  let distance := c.toNat - s.range.first
  if s.range.has c ∧ distance % s.step = 0 then some (Char.ofNat (s.target + distance)) else none

/-- Every second letter of a stretch is shifted to the one after it. -/
example :
    ((Shift.ofText? "100-12E/2>101".toList).bind (·.move? 'Ă') = some 'ă') ∧
    ((Shift.ofText? "100-12E/2>101".toList).bind (·.move? 'ă') = none) := by decide +kernel

end SettingsConsole.Unicode
