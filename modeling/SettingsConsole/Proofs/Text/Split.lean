import SettingsConsole.Text.Split
import Mathlib.Data.List.Basic

/-!
# Splitting and joining

Cutting a text at a separator that stands between two texts gives these texts back if the separator
is not in the first one. Splitting what was joined gives the pieces back if the separator is in none
of them.
-/

namespace SettingsConsole.Text

variable {sep : Char}

/-- The first occurrence of a separator is the one after a stretch without it. -/
theorem cutChars_append_cons {l : List Char} (h : sep ∉ l) (r : List Char) :
    cutChars sep (l ++ sep :: r) = some (l, r) := by
  induction l with
  | nil => simp [cutChars]
  | cons c l ih =>
    obtain ⟨hc, hl⟩ := List.ne_and_not_mem_of_not_mem_cons h
    simp [cutChars, Ne.symm hc, ih hl]

/-- Nothing is cut where there is no separator. -/
theorem cutChars_eq_none {cs : List Char} (h : sep ∉ cs) : cutChars sep cs = none := by
  induction cs with
  | nil => rfl
  | cons c cs ih =>
    obtain ⟨hc, hcs⟩ := List.ne_and_not_mem_of_not_mem_cons h
    simp [cutChars, Ne.symm hc, ih hcs]

/-- A stretch without the separator is one piece. -/
theorem splitChars_eq_singleton {cs : List Char} (h : sep ∉ cs) : splitChars sep cs = [cs] := by
  induction cs with
  | nil => rfl
  | cons c cs ih =>
    obtain ⟨hc, hcs⟩ := List.ne_and_not_mem_of_not_mem_cons h
    simp [splitChars, Ne.symm hc, ih hcs]

/-- A split at a separator splits what is before it and what is after it. -/
theorem splitChars_append_cons (l r : List Char) :
    splitChars sep (l ++ sep :: r) = splitChars sep l ++ splitChars sep r := by
  induction l with
  | nil => simp [splitChars]
  | cons c l ih =>
    by_cases hc : c = sep
    · simp [splitChars, hc, ih]
    · cases hl : splitChars sep l with
      | nil => exact absurd hl (splitChars_ne_nil sep l)
      | cons piece pieces => simp [splitChars, hc, ih, hl]

/-- No piece of a split has the separator in it. -/
theorem not_mem_of_mem_splitChars {cs piece : List Char} (h : piece ∈ splitChars sep cs) :
    sep ∉ piece := by
  induction cs generalizing piece with
  | nil =>
    rw [List.mem_singleton.mp h]
    exact List.not_mem_nil
  | cons c cs ih =>
    by_cases hc : c = sep
    · rw [splitChars, if_pos hc] at h
      rcases List.mem_cons.mp h with rfl | h
      · exact List.not_mem_nil
      · exact ih h
    · cases hcs : splitChars sep cs with
      | nil => exact absurd hcs (splitChars_ne_nil sep cs)
      | cons first rest =>
        rw [splitChars, if_neg hc, hcs, List.modifyHead_cons] at h
        rw [hcs] at ih
        rcases List.mem_cons.mp h with rfl | h
        · exact List.not_mem_cons_of_ne_of_not_mem (Ne.symm hc) (ih List.mem_cons_self)
        · exact ih (List.mem_cons_of_mem _ h)

/-! ## Texts -/

/-- The first occurrence of a separator in a text is the one after a text without it. -/
theorem cut_append {l : String} (h : sep ∉ l.toList) (r : String) :
    cut sep (l ++ String.singleton sep ++ r) = some (l, r) := by
  simp [cut, cutChars_append_cons h]

/-- A text with a separator in it has a first one. -/
theorem exists_eq_append_of_mem {s : String} (h : sep ∈ s.toList) :
    ∃ before after, s = before ++ String.singleton sep ++ after ∧ sep ∉ before.toList := by
  obtain ⟨before, after, hs, hbefore⟩ := List.eq_append_cons_of_mem h
  refine ⟨String.ofList before, String.ofList after, ?_, by rwa [String.toList_ofList]⟩
  rw [← String.toList_inj, hs]
  simp

/-- A text without the separator is not cut. -/
theorem cut_eq_none {s : String} (h : sep ∉ s.toList) : cut sep s = none := by
  rw [cut, cutChars_eq_none h]
  rfl

/-- A text without the separator is one piece. -/
theorem split_eq_singleton {s : String} (h : sep ∉ s.toList) : split sep s = [s] := by
  simp [split, splitChars_eq_singleton h]

/-- A split at a separator splits the text before it and the text after it. -/
theorem split_append (l r : String) :
    split sep (l ++ String.singleton sep ++ r) = split sep l ++ split sep r := by
  simp [split, splitChars_append_cons]

/-- Different texts have different pieces. -/
theorem split_injective : Function.Injective (split sep) := by
  intro s t h
  have hchars : splitChars sep s.toList = splitChars sep t.toList :=
    List.map_injective_iff.mpr (fun _ _ => String.ofList_injective) h
  rw [← String.toList_inj, ← intercalate_splitChars sep s.toList, hchars, intercalate_splitChars]

/-- A split has at least one piece. -/
theorem split_ne_nil (s : String) : split sep s ≠ [] := by
  rw [split, Ne, List.map_eq_nil_iff]
  exact splitChars_ne_nil sep s.toList

/-- Joining one more piece in front puts it before a separator. -/
theorem join_cons {sep piece : String} {pieces : List String} (h : pieces ≠ []) :
    join sep (piece :: pieces) = piece ++ sep ++ join sep pieces := by
  cases pieces with
  | nil => exact absurd rfl h
  | cons next rest => rfl

/-- The pieces of two joined texts are joined by one more separator between them. -/
theorem join_append {sep : String} {pieces others : List String} (h : pieces ≠ [])
    (h' : others ≠ []) :
    join sep (pieces ++ others) = join sep pieces ++ sep ++ join sep others := by
  induction pieces with
  | nil => exact absurd rfl h
  | cons piece pieces ih =>
    cases pieces with
    | nil => exact join_cons h'
    | cons next rest =>
      have hrest : next :: rest ≠ [] := List.cons_ne_nil next rest
      rw [List.cons_append, join_cons (by simp), ih hrest, join_cons hrest]
      simp only [String.append_assoc]

/-- Without a separator, a piece in front is put before the others. -/
theorem join_empty_cons (piece : String) (pieces : List String) :
    join "" (piece :: pieces) = piece ++ join "" pieces := by
  cases pieces with
  | nil => exact String.append_empty.symm
  | cons next rest => rw [join_cons (List.cons_ne_nil next rest), String.append_empty]

/-- Without a separator, pieces are put before the others. -/
theorem join_empty_append (pieces others : List String) :
    join "" (pieces ++ others) = join "" pieces ++ join "" others := by
  induction pieces with
  | nil => exact String.empty_append.symm
  | cons piece pieces ih =>
    rw [List.cons_append, join_empty_cons, ih, join_empty_cons, String.append_assoc]

/-- Splitting what was joined gives the pieces back. -/
theorem split_join {pieces : List String} (hne : pieces ≠ [])
    (h : ∀ piece ∈ pieces, sep ∉ piece.toList) :
    split sep (join (String.singleton sep) pieces) = pieces := by
  induction pieces with
  | nil => exact absurd rfl hne
  | cons piece pieces ih =>
    have hpiece : sep ∉ piece.toList := h piece List.mem_cons_self
    cases pieces with
    | nil => exact split_eq_singleton hpiece
    | cons next rest =>
      rw [join_cons (by simp), split_append, split_eq_singleton hpiece,
        ih (by simp) fun other hother => h other (List.mem_cons_of_mem _ hother)]
      rfl

/-- No piece of a split has the separator in it. -/
theorem not_mem_of_mem_split {s piece : String} (h : piece ∈ split sep s) :
    sep ∉ piece.toList := by
  obtain ⟨cs, hcs, rfl⟩ := List.mem_map.mp h
  rw [String.toList_ofList]
  exact not_mem_of_mem_splitChars hcs

/-- Joining the pieces of a split gives the text back. -/
theorem join_split (s : String) : join (String.singleton sep) (split sep s) = s :=
  split_injective (split_join (split_ne_nil s) fun _ => not_mem_of_mem_split)

/-- A split has one piece more than there are separators. -/
theorem length_split (s : String) : (split sep s).length = s.toList.count sep + 1 := by
  rw [split, List.length_map]
  induction s.toList with
  | nil => rfl
  | cons c cs ih =>
    by_cases hc : c = sep
    · simp [splitChars, hc, ih]
    · simp [splitChars, hc, ih]

/-- A split at the end of every piece splits the pieces, and gives an empty text after the last
one. -/
theorem split_terminated (pieces : List String) :
    split sep (join "" (pieces.map (· ++ String.singleton sep))) =
      pieces.flatMap (split sep) ++ [""] := by
  induction pieces with
  | nil => rfl
  | cons piece pieces ih =>
    rw [List.map_cons, join_empty_cons, split_append, ih, List.flatMap_cons, List.append_assoc]

/-- A split at the end of every piece gives one text more than there are pieces exactly if no piece
has the separator in it. -/
theorem length_split_terminated_iff (pieces : List String) :
    (split sep (join "" (pieces.map (· ++ String.singleton sep)))).length = pieces.length + 1 ↔
      ∀ piece ∈ pieces, sep ∉ piece.toList := by
  have hlength : (pieces.flatMap (split sep)).length =
      pieces.length + (pieces.map fun piece => piece.toList.count sep).sum := by
    induction pieces with
    | nil => rfl
    | cons piece pieces ih =>
      rw [List.flatMap_cons, List.length_append, length_split, ih, List.length_cons, List.map_cons,
        List.sum_cons]
      omega
  have hsum : (pieces.map fun piece => piece.toList.count sep).sum = 0 ↔
      ∀ piece ∈ pieces, sep ∉ piece.toList := by
    simp [List.sum_eq_zero_iff_forall_eq_nat, List.count_eq_zero]
  rw [split_terminated, List.length_append, List.length_singleton, hlength, ← hsum]
  omega

/-- A split at the end of every piece gives the pieces back if none has the separator in it. -/
theorem split_terminated_of_not_mem {pieces : List String}
    (h : ∀ piece ∈ pieces, sep ∉ piece.toList) :
    split sep (join "" (pieces.map (· ++ String.singleton sep))) = pieces ++ [""] := by
  rw [split_terminated]
  congr 1
  induction pieces with
  | nil => rfl
  | cons piece pieces ih =>
    obtain ⟨hpiece, hpieces⟩ := List.forall_mem_cons.mp h
    rw [List.flatMap_cons, split_eq_singleton hpiece, ih hpieces]
    rfl

/-- A joined text holds only what its pieces and the separator hold. -/
theorem mem_toList_join {sep : String} {pieces : List String} {c : Char}
    (h : c ∈ (join sep pieces).toList) : c ∈ sep.toList ∨ ∃ piece ∈ pieces, c ∈ piece.toList := by
  induction pieces with
  | nil => simp [join] at h
  | cons piece pieces ih =>
    cases pieces with
    | nil => exact .inr ⟨piece, by simp, h⟩
    | cons next rest =>
      rw [join_cons (by simp), String.toList_append, String.toList_append, List.mem_append,
        List.mem_append] at h
      rcases h with (h | h) | h
      · exact .inr ⟨piece, by simp, h⟩
      · exact .inl h
      · rcases ih h with h | ⟨other, hother, h⟩
        · exact .inl h
        · exact .inr ⟨other, List.mem_cons_of_mem _ hother, h⟩

instance instDecidableDisjoint (signs cs : List Char) : Decidable (signs.Disjoint cs) :=
  decidable_of_iff ((signs.all fun c => !cs.contains c) = true) (by simp [List.Disjoint])

/-- Joined pieces hold no sign that neither the pieces nor the separator holds. -/
theorem disjoint_join {signs : List Char} {sep : String} {pieces : List String}
    (hsep : signs.Disjoint sep.toList) (h : ∀ piece ∈ pieces, signs.Disjoint piece.toList) :
    signs.Disjoint (join sep pieces).toList := by
  intro c hc hjoin
  rcases mem_toList_join hjoin with hc' | ⟨piece, hpiece, hc'⟩
  · exact hsep hc hc'
  · exact h piece hpiece hc hc'

/-- A text contains its end. -/
theorem contains_append (front needle : String) : contains (front ++ needle) needle = true := by
  rw [contains, hasInfix_iff, String.toList_append]
  exact (List.suffix_append _ _).isInfix

/-- A text contains itself. -/
theorem contains_self (s : String) : contains s s = true :=
  (hasInfix_iff _ _).mpr (List.infix_refl _)

end SettingsConsole.Text
