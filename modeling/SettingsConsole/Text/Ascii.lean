/-!
# ASCII letters

Case folding that touches `A` to `Z` only, and the letter tests that go with it.
-/

namespace SettingsConsole.Text

/-- Lower case of `A` to `Z`; every other character stays. -/
def asciiLowerChar (c : Char) : Char :=
  if 'A' ≤ c ∧ c ≤ 'Z' then Char.ofNat (c.toNat + 32) else c

/-- Lower case of the ASCII letters of a text. -/
def asciiLower (s : String) : String := String.ofList (s.toList.map asciiLowerChar)

/-- Whether two texts differ at most in the case of ASCII letters. -/
def sameIgnoringCase (s t : String) : Bool := asciiLower s == asciiLower t

/-- Whether a character is one of the 52 ASCII letters. -/
def isAsciiLetter (c : Char) : Bool := ('a' ≤ c && c ≤ 'z') || ('A' ≤ c && c ≤ 'Z')

/-- Whether a character is one of the ten ASCII digits. -/
def isAsciiDigit (c : Char) : Bool := '0' ≤ c && c ≤ '9'

/-- The value of an ASCII digit. -/
def digitValue (c : Char) : Nat := c.toNat - 48

/-- The value of a hexadecimal digit of either case. -/
def hexValue? (c : Char) : Option Nat :=
  if isAsciiDigit c then some (digitValue c)
  else if 'a' ≤ c && c ≤ 'f' then some (c.toNat - 87)
  else if 'A' ≤ c && c ≤ 'F' then some (c.toNat - 55)
  else none

/-- The upper-case hexadecimal digit of a number below sixteen. -/
def hexDigitUpper (n : Nat) : Char := if n < 10 then Char.ofNat (48 + n) else Char.ofNat (55 + n)

/-- The lower-case hexadecimal digit of a number below sixteen. -/
def hexDigitLower (n : Nat) : Char := if n < 10 then Char.ofNat (48 + n) else Char.ofNat (87 + n)

/-- A digit written in upper-case hexadecimal reads back as its value. -/
theorem hexValue?_hexDigitUpper {n : Nat} (h : n < 16) : hexValue? (hexDigitUpper n) = some n := by
  have all : ∀ m ∈ List.range 16, hexValue? (hexDigitUpper m) = some m := by decide
  exact all n (List.mem_range.mpr h)

/-- A digit written in lower-case hexadecimal reads back as its value. -/
theorem hexValue?_hexDigitLower {n : Nat} (h : n < 16) : hexValue? (hexDigitLower n) = some n := by
  have all : ∀ m ∈ List.range 16, hexValue? (hexDigitLower m) = some m := by decide
  exact all n (List.mem_range.mpr h)

end SettingsConsole.Text
