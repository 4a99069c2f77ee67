import SettingsConsole.Proofs.Text.Blank
import SettingsConsole.Text.Numeral

/-!
# Written numbers read back

A number that is written in decimal digits has no white space in it and reads back as itself,
wherever the number is within the limit of the reader.
-/

namespace SettingsConsole

open Text

/-- Trimming leaves a text without white space as it is. -/
theorem Text.trim_eq_self {s : String} (h : ∀ c ∈ s.toList, isWhite c = false) : trim s = s := by
  have hleft : trimLeft s.toList = s.toList := by
    cases hs : s.toList with
    | nil => rfl
    | cons c cs =>
      have hc : isWhite c = false := h c (by simp [hs])
      simp [trimLeft, hc]
  have hright : trimRight s.toList = s.toList := by
    unfold trimRight
    cases hs : s.toList.reverse with
    | nil => simpa using hs
    | cons c cs =>
      have hc : isWhite c = false := h c (by rw [← List.mem_reverse, hs]; simp)
      rw [List.dropWhile_cons_of_neg (by simp [hc]), ← hs, List.reverse_reverse]
  rw [trim, hleft, hright, String.ofList_toList]

namespace Numeral

/-- The digit of a number below ten is a digit, with the number as its value. -/
theorem digit_digitChar {n : Nat} (h : n < 10) :
    isAsciiDigit n.digitChar = true ∧ digitValue n.digitChar = n := by
  have all : ∀ m ∈ List.range 10,
      isAsciiDigit m.digitChar = true ∧ digitValue m.digitChar = m := by decide
  exact all n (List.mem_range.mpr h)

/-- An ASCII digit is no white space. -/
theorem isWhite_of_isDigit {c : Char} (h : c.isDigit = true) : isWhite c = false := by
  simp only [Char.isDigit, Bool.and_eq_true, decide_eq_true_eq, UInt32.le_iff_toNat_le] at h
  change 48 ≤ c.toNat ∧ c.toNat ≤ 57 at h
  simp only [isWhite, Bool.or_eq_false_iff, Bool.and_eq_false_iff, decide_eq_false_iff_not,
    beq_eq_false_iff_ne]
  omega

/-- Digits that are read one after another are read in two stretches. -/
theorem digits_append {limit : Nat} {excess : Fault} {value n : Nat} {before : List Char}
    (h : digits limit excess value before = .ok n) (after : List Char) :
    digits limit excess value (before ++ after) = digits limit excess n after := by
  induction before generalizing value with
  | nil =>
    cases h
    rfl
  | cons c before ih =>
    simp only [digits] at h
    rw [List.cons_append, digits]
    split at h
    · next hc =>
      rw [if_pos hc]
      split at h
      · next hle =>
        simp only [if_pos hle]
        exact ih h
      · cases h
    · cases h

/-- The digits of a number within the limit read back as the number. -/
theorem digits_toDigits {limit n : Nat} (h : n ≤ limit) (excess : Fault) :
    digits limit excess 0 (Nat.toDigits 10 n) = .ok n := by
  induction n using Nat.strongRecOn with
  | ind n ih =>
    rw [Nat.toDigits_eq_if (by decide)]
    split
    · next hn =>
      obtain ⟨hdigit, hvalue⟩ := digit_digitChar hn
      simp [digits, hdigit, hvalue, h]
    · next hn =>
      obtain ⟨hdigit, hvalue⟩ := digit_digitChar (n := n % 10) (by omega)
      have hnext : n / 10 * 10 + n % 10 = n := Nat.div_add_mod' n 10
      rw [digits_append (ih (n / 10) (by omega) (by omega))]
      simp [digits, hdigit, hvalue, hnext, h]

/-- A number within the limit reads back from its digits, as one without a sign. -/
theorem natural_toDigits {limit n : Nat} (h : n ≤ limit) :
    natural limit (Nat.toDigits 10 n) = .ok n := by
  have hread := digits_toDigits h .tooLarge
  cases hcs : Nat.toDigits 10 n with
  | nil => exact absurd hcs Nat.toDigits_ne_nil
  | cons c cs =>
    rw [hcs] at hread
    -- The first character is read as a digit, so it is no sign.
    have hplus : c ≠ '+' := by
      rintro rfl
      cases hread
    unfold natural
    split
    · next heq => cases heq
    · next heq =>
      cases heq
      exact absurd rfl hplus
    · next heq =>
      cases heq
      exact hread

/-- A number of 16 bits reads back from its text, with the white space around the text dropped. -/
theorem word16_trim_toString (n : UInt16) : word16 (trim (toString n.toNat)) = .ok n := by
  have hlt : n.toNat < 65536 := n.toNat_lt
  have hchars : (toString n.toNat).toList = Nat.toDigits 10 n.toNat := by
    rw [Nat.toString_eq_ofList_toDigits, String.toList_ofList]
  have htrim : trim (toString n.toNat) = toString n.toNat := by
    refine trim_eq_self fun c hc => ?_
    rw [hchars] at hc
    exact isWhite_of_isDigit (Nat.isDigit_of_mem_toDigits (by decide) (by decide) hc)
  rw [htrim, word16, hchars, natural_toDigits (by omega)]
  exact congrArg Except.ok UInt16.ofNat_toNat

end Numeral

end SettingsConsole
