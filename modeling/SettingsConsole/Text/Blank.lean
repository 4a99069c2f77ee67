/-!
# White space

The white space of Unicode (property `White_Space`), and the trimming of texts by it. A text
is blank when trimming leaves nothing of it.
-/

namespace SettingsConsole.Text

/-- The characters with the property `White_Space`. -/
def isWhite (c : Char) : Bool :=
  let n := c.toNat
  (0x09 ≤ n && n ≤ 0x0D) || n == 0x20 || n == 0x85 || n == 0xA0 || n == 0x1680 ||
    (0x2000 ≤ n && n ≤ 0x200A) || n == 0x2028 || n == 0x2029 || n == 0x202F || n == 0x205F ||
    n == 0x3000

/-- Drop leading white space. -/
def trimLeft (cs : List Char) : List Char := cs.dropWhile isWhite

/-- Drop trailing white space. -/
def trimRight (cs : List Char) : List Char := (cs.reverse.dropWhile isWhite).reverse

/-- Drop the white space at both ends of a text. -/
def trim (s : String) : String := String.ofList (trimRight (trimLeft s.toList))

/-- Whether a text is empty or holds white space only. -/
def isBlank (s : String) : Bool := s.toList.all isWhite

/-- Keep a text unless it is blank. -/
def unlessBlank (s : String) : Option String := if isBlank s then none else some s

/-- White space at both ends is dropped, and the character between it stays. -/
example : trim "\u3000 a \t" = "a" := by decide

/-- A zero-width space and the byte order mark are no white space. -/
example : isBlank "\u200b" = false ∧ isBlank "\ufeff" = false ∧ isBlank "\u2003\u2028" = true := by
  decide

/-- Dropping the white space at the front leaves nothing exactly when all is white space. -/
theorem trimLeft_eq_nil_iff (cs : List Char) : trimLeft cs = [] ↔ cs.all isWhite = true := by
  induction cs with
  | nil => simp [trimLeft]
  | cons c cs ih =>
    unfold trimLeft at ih ⊢
    by_cases h : isWhite c = true <;> simp [h, ih]

/-- Dropping the white space at the end leaves nothing exactly when all is white space. -/
theorem trimRight_eq_nil_iff (cs : List Char) : trimRight cs = [] ↔ cs.all isWhite = true := by
  have h : trimLeft cs.reverse = [] ↔ cs.reverse.all isWhite = true :=
    trimLeft_eq_nil_iff cs.reverse
  rw [List.all_reverse] at h
  rw [trimRight, List.reverse_eq_nil_iff]
  exact h

/-- White space at the front does not decide whether all is white space. -/
theorem all_isWhite_trimLeft (cs : List Char) :
    (trimLeft cs).all isWhite = cs.all isWhite := by
  induction cs with
  | nil => rfl
  | cons c cs ih =>
    unfold trimLeft at ih ⊢
    by_cases h : isWhite c = true
    · simp only [List.dropWhile_cons, h, if_true, ih, List.all_cons, Bool.true_and]
    · simp [h]

/-- A text is blank exactly when trimming leaves nothing of it. -/
theorem trim_eq_empty_iff (s : String) : trim s = "" ↔ isBlank s = true := by
  rw [trim, String.ofList_eq_empty_iff, trimRight_eq_nil_iff, all_isWhite_trimLeft, isBlank]

end SettingsConsole.Text
