/-!
# Splitting at a separator

A text is split at every occurrence of a separator, or cut in two at the first one. Joining the
pieces of a split with the separator gives the text back.
-/

namespace SettingsConsole.Text

/-- Split at every occurrence of `sep`; there is always one piece more than separators. -/
def splitChars (sep : Char) : List Char → List (List Char)
  | [] => [[]]
  | c :: cs =>
    if c = sep then [] :: splitChars sep cs else (splitChars sep cs).modifyHead (c :: ·)

/-- Split a text at every occurrence of `sep`. -/
def split (sep : Char) (s : String) : List String := (splitChars sep s.toList).map String.ofList

/-- Cut at the first occurrence of `sep`, which belongs to neither side. -/
def cutChars (sep : Char) : List Char → Option (List Char × List Char)
  | [] => none
  | c :: cs =>
    if c = sep then some ([], cs) else (cutChars sep cs).map fun (l, r) => (c :: l, r)

/-- Cut a text at the first occurrence of `sep`. -/
def cut (sep : Char) (s : String) : Option (String × String) :=
  (cutChars sep s.toList).map fun (l, r) => (String.ofList l, String.ofList r)

/-- Join pieces with a separator between neighbours. -/
def join (sep : String) : List String → String
  | [] => ""
  | [s] => s
  | s :: t :: rest => s ++ sep ++ join sep (t :: rest)

/-- Whether `needle` occurs in `hay` as an unbroken stretch. -/
def hasInfix (needle : List Char) : List Char → Bool
  | [] => needle.isEmpty
  | c :: cs => needle.isPrefixOf (c :: cs) || hasInfix needle cs

/-- Whether a text contains another one. -/
def contains (hay needle : String) : Bool := hasInfix needle.toList hay.toList

/-- A search finds a stretch exactly if there is one. -/
theorem hasInfix_iff (needle hay : List Char) : hasInfix needle hay = true ↔ needle <:+: hay := by
  induction hay with
  | nil => simp [hasInfix, List.infix_nil]
  | cons c cs ih =>
    simp only [hasInfix, Bool.or_eq_true, List.isPrefixOf_iff_prefix, ih, List.infix_cons_iff]

/-- A text contains the empty one. -/
theorem contains_empty (hay : String) : contains hay "" = true := by
  simp [contains, hasInfix_iff]

/-- A split has at least one piece. -/
theorem splitChars_ne_nil (sep : Char) (cs : List Char) : splitChars sep cs ≠ [] := by
  induction cs with
  | nil => simp [splitChars]
  | cons c cs ih =>
    by_cases h : c = sep
    · simp [splitChars, h]
    · cases hs : splitChars sep cs with
      | nil => exact absurd hs ih
      | cons w ws => simp [splitChars, h, hs]

/-- The pieces of a split, joined with the separator, are the text again. -/
theorem intercalate_splitChars (sep : Char) (cs : List Char) :
    [sep].intercalate (splitChars sep cs) = cs := by
  induction cs with
  | nil => simp [splitChars, List.intercalate]
  | cons c cs ih =>
    cases hs : splitChars sep cs with
    | nil => exact absurd hs (splitChars_ne_nil sep cs)
    | cons w ws =>
      rw [hs] at ih
      by_cases h : c = sep
      · subst h
        simp only [splitChars, if_true, hs]
        rw [← ih]
        simp [List.intercalate]
      · simp only [splitChars, if_neg h, hs, List.modifyHead_cons]
        rw [← ih]
        cases ws <;> simp [List.intercalate]

end SettingsConsole.Text
