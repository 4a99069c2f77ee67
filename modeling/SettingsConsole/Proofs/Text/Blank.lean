import SettingsConsole.Text.Blank

/-!
# Trimming and blankness

Trimming decides blankness and keeps it: a trimmed text is blank only if it is empty.
-/

namespace SettingsConsole.Text

/-- White space at the end does not decide whether all is white space. -/
theorem all_isWhite_trimRight (cs : List Char) :
    (trimRight cs).all isWhite = cs.all isWhite := by
  have h := all_isWhite_trimLeft cs.reverse
  rw [List.all_reverse] at h
  rw [trimRight, List.all_reverse]
  exact h

/-- A trimmed text is blank exactly when the text is. -/
theorem isBlank_trim (s : String) : isBlank (trim s) = isBlank s := by
  simp only [isBlank, trim, String.toList_ofList, all_isWhite_trimRight, all_isWhite_trimLeft]

/-- A text of which trimming leaves something is not blank. -/
theorem isBlank_eq_false {s : String} (h : trim s ≠ "") : isBlank s = false := by
  rwa [Ne, trim_eq_empty_iff, Bool.not_eq_true] at h

/-- Trimming a second time leaves something if trimming once does. -/
theorem trim_trim_ne {s : String} (h : trim s ≠ "") : trim (trim s) ≠ "" := by
  rwa [Ne, trim_eq_empty_iff, isBlank_trim, ← trim_eq_empty_iff]

/-- A text of which trimming leaves something is kept. -/
theorem unlessBlank_of_ne {s : String} (h : trim s ≠ "") : unlessBlank s = some s := by
  simp [unlessBlank, isBlank_eq_false h]

/-- A text of which trimming leaves nothing is dropped. -/
theorem unlessBlank_of_eq {s : String} (h : trim s = "") : unlessBlank s = none := by
  simp [unlessBlank, (trim_eq_empty_iff s).mp h]

/-- What is kept unless it is blank is kept a second time. -/
theorem bind_unlessBlank_bind (s : Option String) :
    (s.bind unlessBlank).bind unlessBlank = s.bind unlessBlank := by
  cases s with
  | none => rfl
  | some s =>
    cases hblank : isBlank s with
    | true => simp [unlessBlank, hblank]
    | false => simp [unlessBlank, hblank]

/-- A trimmed text is kept if something is left of it. -/
theorem unlessBlank_trim_of_ne {s : String} (h : trim s ≠ "") :
    unlessBlank (trim s) = some (trim s) :=
  unlessBlank_of_ne (trim_trim_ne h)

/-- A trimmed text is dropped if nothing is left of it. -/
theorem unlessBlank_trim_of_eq {s : String} (h : trim s = "") : unlessBlank (trim s) = none := by
  rw [h]
  rfl

/-- White space at the end does not count. -/
theorem trimRight_append_white (cs : List Char) {after : List Char}
    (hafter : ∀ c ∈ after, isWhite c = true) : trimRight (cs ++ after) = trimRight cs := by
  rw [trimRight, List.reverse_append, List.dropWhile_append_of_pos, trimRight]
  exact fun c hc => hafter c (List.mem_reverse.mp hc)

/-- What ends with another character is trimmed already. -/
theorem trimRight_concat (cs : List Char) {c : Char} (hc : isWhite c = false) :
    trimRight (cs ++ [c]) = cs ++ [c] := by
  simp [trimRight, hc]

/-- White space around a text does not count. -/
theorem trim_surrounded {before after : List Char} (hbefore : ∀ c ∈ before, isWhite c = true)
    (hafter : ∀ c ∈ after, isWhite c = true) (s : String) :
    trim (String.ofList before ++ s ++ String.ofList after) = trim s := by
  have hleft : trimLeft (before ++ (s.toList ++ after)) = trimLeft (s.toList ++ after) :=
    List.dropWhile_append_of_pos hbefore
  have hboth : trimRight (trimLeft (s.toList ++ after)) = trimRight (trimLeft s.toList) := by
    rw [trimLeft, List.dropWhile_append, ← trimLeft]
    split
    · next hempty =>
      -- The text is white space itself, so that nothing is left of either.
      rw [List.isEmpty_iff.mp hempty]
      exact (trimRight_eq_nil_iff _).mpr
        ((all_isWhite_trimLeft after).trans (List.all_eq_true.mpr hafter))
    · exact trimRight_append_white _ hafter
  simp only [trim, String.toList_append, String.toList_ofList, List.append_assoc, hleft, hboth]

end SettingsConsole.Text
