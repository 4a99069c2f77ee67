import SettingsConsole.Text.Ascii

/-!
# Decimal numerals

A numeral is an optional sign followed by one or more ASCII digits, with any number of leading
zeros. A minus sign belongs to signed numerals only. Reading goes from left to right and stops
at the first fault: a character that is no digit, or a digit that carries the value out of range.
-/

namespace SettingsConsole.Numeral

open Text

/-- Why a text is no numeral of the wanted range. -/
inductive Fault where
  /-- There is no text at all. -/
  | empty
  /-- A character is no digit, or a sign has no digits after it. -/
  | invalidDigit
  /-- The value is above the range. -/
  | tooLarge
  /-- The value is below the range. -/
  | tooSmall
  deriving DecidableEq, Repr

/-- The words for a fault. -/
def Fault.message : Fault → String
  | .empty => "cannot parse integer from empty string"
  | .invalidDigit => "invalid digit found in string"
  | .tooLarge => "number too large to fit in target type"
  | .tooSmall => "number too small to fit in target type"

/-- Read digits onto `value`, failing with `excess` as soon as the value passes `limit`. -/
def digits (limit : Nat) (excess : Fault) (value : Nat) : List Char → Except Fault Nat
  | [] => .ok value
  | c :: cs =>
    if isAsciiDigit c then
      let next := value * 10 + digitValue c
      if next ≤ limit then digits limit excess next cs else .error excess
    else .error .invalidDigit

/-- Read the digits of a numeral, of which there is at least one. -/
def magnitude (limit : Nat) (excess : Fault) : List Char → Except Fault Nat
  | [] => .error .invalidDigit
  | c :: cs => digits limit excess 0 (c :: cs)

/-- Read an unsigned numeral of at most `limit`; a plus sign may stand in front. -/
def natural (limit : Nat) : List Char → Except Fault Nat
  | [] => .error .empty
  | '+' :: cs => magnitude limit .tooLarge cs
  | c :: cs => magnitude limit .tooLarge (c :: cs)

/-- Read a signed numeral from `-low` to `high`; either sign may stand in front. -/
def signed (low high : Nat) : List Char → Except Fault Int
  | [] => .error .empty
  | '+' :: cs => (magnitude high .tooLarge cs).map Int.ofNat
  | '-' :: cs => (magnitude low .tooSmall cs).map fun n => -Int.ofNat n
  | c :: cs => (magnitude high .tooLarge (c :: cs)).map Int.ofNat

/-- Read an unsigned 16-bit numeral. -/
def word16 (s : String) : Except Fault UInt16 := (natural 65535 s.toList).map UInt16.ofNat

/-- Read an unsigned 32-bit numeral. -/
def word32 (s : String) : Except Fault UInt32 := (natural 4294967295 s.toList).map UInt32.ofNat

/-- Read a signed 64-bit numeral. -/
def int64 (s : String) : Except Fault Int64 :=
  (signed 9223372036854775808 9223372036854775807 s.toList).map Int64.ofInt

/-- A sign alone is no numeral, leading zeros are fine, and the range ends where it says. -/
example :
    natural 65535 "+00389".toList = .ok 389 ∧
    natural 65535 "65536".toList = .error .tooLarge ∧
    natural 65535 "+".toList = .error .invalidDigit ∧
    natural 65535 "-0".toList = .error .invalidDigit ∧
    signed 128 127 "-0".toList = .ok 0 ∧ signed 128 127 "-128".toList = .ok (-128) :=
  ⟨rfl, rfl, rfl, rfl, rfl, rfl⟩

/-- Digits that are read stay within the limit, if they started there. -/
theorem digits_le {limit : Nat} {excess : Fault} {cs : List Char} {value n : Nat}
    (hv : value ≤ limit) (h : digits limit excess value cs = .ok n) : n ≤ limit := by
  induction cs generalizing value with
  | nil => simp_all [digits]
  | cons c cs ih =>
    simp only [digits] at h
    split at h
    · split at h
      · next hle => exact ih hle h
      · simp at h
    · simp at h

end SettingsConsole.Numeral
