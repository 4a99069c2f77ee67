import Mathlib.Data.List.Forall2

/-!
# Reading the items of a list

The items of a list are read one after another. If all of them read, the result is the list of what
is read; otherwise it is the fault of the first item that does not read.
-/

namespace SettingsConsole.Traversal

variable {α β γ ε : Type}

/-- If every item is of one kind or another, then all are of the first kind, or there is a first
one of the other. -/
theorem all_or_first {p q : α → Prop} (h : ∀ a, p a ∨ q a) (as : List α) :
    (∀ a ∈ as, p a) ∨
      ∃ before a after, as = before ++ a :: after ∧ (∀ b ∈ before, p b) ∧ q a := by
  induction as with
  | nil => exact .inl (List.forall_mem_nil p)
  | cons a as ih =>
    rcases h a with ha | ha
    · rcases ih with hall | ⟨before, b, after, rfl, hbefore, hb⟩
      · exact .inl (List.forall_mem_cons.mpr ⟨ha, hall⟩)
      · exact .inr ⟨a :: before, b, after, rfl, List.forall_mem_cons.mpr ⟨ha, hbefore⟩, hb⟩
    · exact .inr ⟨[], a, as, rfl, List.forall_mem_nil p, ha⟩

/-- Two lists are mapped to the same one exactly if the items are mapped alike in every place. -/
theorem map_eq_map_iff_forall₂ {f : α → γ} {g : β → γ} {as : List α} {bs : List β} :
    as.map f = bs.map g ↔ List.Forall₂ (fun a b => f a = g b) as bs := by
  have hplaces : as.map f = bs.map g ↔ List.Forall₂ Eq (as.map f) (bs.map g) := by
    rw [List.forall₂_eq_eq_eq]
  rw [hplaces, List.forall₂_map_left_iff, List.forall₂_map_right_iff]

/-- There is a list of partners exactly if every item has a partner. -/
theorem exists_forall₂_iff {r : α → β → Prop} {as : List α} :
    (∃ bs, List.Forall₂ r as bs) ↔ ∀ a ∈ as, ∃ b, r a b := by
  induction as with
  | nil => simp
  | cons a as ih =>
    rw [List.forall_mem_cons, ← ih]
    constructor
    · rintro ⟨_, _ | ⟨hb, hbs⟩⟩
      exact ⟨⟨_, hb⟩, _, hbs⟩
    · rintro ⟨⟨b, hb⟩, bs, hbs⟩
      exact ⟨b :: bs, .cons hb hbs⟩

variable {read : α → Except ε β}

/-- An item that reads is put before what is read from the others. -/
theorem mapM_cons_of_ok {a : α} {b : β} (h : read a = .ok b) (as : List α) :
    (a :: as).mapM read = (as.mapM read).map (b :: ·) := by
  rw [List.mapM_cons, h]
  cases as.mapM read <;> rfl

/-- An item that does not read decides the result. -/
theorem mapM_cons_of_error {a : α} {e : ε} (h : read a = .error e) (as : List α) :
    (a :: as).mapM read = .error e := by
  rw [List.mapM_cons, h]
  rfl

/-- Items that all read give the list of what is read. -/
theorem mapM_of_forall₂ {as : List α} {bs : List β}
    (h : List.Forall₂ (fun a b => read a = .ok b) as bs) : as.mapM read = .ok bs := by
  induction h with
  | nil => rfl
  | cons hread _ ih => rw [mapM_cons_of_ok hread, ih]; rfl

/-- The first item that does not read decides the result. -/
theorem mapM_of_first_fault {before : List α} {bs : List β} {a : α} {e : ε}
    (hbefore : List.Forall₂ (fun a b => read a = .ok b) before bs) (ha : read a = .error e)
    (after : List α) : (before ++ a :: after).mapM read = .error e := by
  induction hbefore with
  | nil => exact mapM_cons_of_error ha after
  | cons hread _ ih => rw [List.cons_append, mapM_cons_of_ok hread, ih]; rfl

/-- Either all items read, or there is a first one that does not. -/
theorem forall₂_or_first_fault (read : α → Except ε β) (as : List α) :
    (∃ bs, List.Forall₂ (fun a b => read a = .ok b) as bs) ∨
      ∃ before a after bs e, as = before ++ a :: after ∧
        List.Forall₂ (fun a b => read a = .ok b) before bs ∧ read a = .error e := by
  have hcases (a : α) : (∃ b, read a = .ok b) ∨ ∃ e, read a = .error e := by
    cases read a with
    | ok b => exact .inl ⟨b, rfl⟩
    | error e => exact .inr ⟨e, rfl⟩
  rcases all_or_first hcases as with hall | ⟨before, a, after, rfl, hbefore, e, he⟩
  · exact .inl (exists_forall₂_iff.mpr hall)
  · obtain ⟨bs, hbs⟩ := exists_forall₂_iff.mpr hbefore
    exact .inr ⟨before, a, after, bs, e, rfl, hbs, he⟩

/-- The items give a list exactly if each of them reads as the item in its place. -/
theorem mapM_eq_ok_iff {as : List α} {bs : List β} :
    as.mapM read = .ok bs ↔ List.Forall₂ (fun a b => read a = .ok b) as bs := by
  refine ⟨fun h => ?_, mapM_of_forall₂⟩
  rcases forall₂_or_first_fault read as with
    ⟨bs', hall⟩ | ⟨before, a, after, _, e, rfl, hbefore, ha⟩
  · rw [mapM_of_forall₂ hall] at h
    cases h
    exact hall
  · rw [mapM_of_first_fault hbefore ha] at h
    cases h

/-- The items give a list exactly if all of them read. -/
theorem exists_mapM_eq_ok_iff {as : List α} :
    (∃ bs, as.mapM read = .ok bs) ↔ ∀ a ∈ as, ∃ b, read a = .ok b := by
  simp only [mapM_eq_ok_iff, exists_forall₂_iff]

/-- The items give a fault exactly if it is that of the first one that does not read. -/
theorem mapM_eq_error_iff {as : List α} {e : ε} :
    as.mapM read = .error e ↔ ∃ before a after, as = before ++ a :: after ∧
      (∀ x ∈ before, ∃ b, read x = .ok b) ∧ read a = .error e := by
  constructor
  · intro h
    rcases forall₂_or_first_fault read as with
      ⟨bs, hall⟩ | ⟨before, a, after, bs, f, rfl, hbefore, ha⟩
    · rw [mapM_of_forall₂ hall] at h
      cases h
    · rw [mapM_of_first_fault hbefore ha] at h
      cases h
      exact ⟨before, a, after, rfl, exists_forall₂_iff.mp ⟨bs, hbefore⟩, ha⟩
  · rintro ⟨before, a, after, rfl, hbefore, ha⟩
    obtain ⟨bs, hbs⟩ := exists_forall₂_iff.mpr hbefore
    exact mapM_of_first_fault hbs ha after

/-! ## Items that may be missing -/

/-- Items that all give something give the list of what they give. -/
theorem mapM_of_forall_some {f : α → Option β} {g : α → β} {as : List α}
    (h : ∀ a ∈ as, f a = some (g a)) : as.mapM f = some (as.map g) := by
  induction as with
  | nil => rfl
  | cons a as ih =>
    obtain ⟨ha, has⟩ := List.forall_mem_cons.mp h
    rw [List.mapM_cons, ha, ih has]
    rfl

/-- An item that gives nothing leaves no list. -/
theorem mapM_of_mem_none {f : α → Option β} {as : List α} {a : α} (ha : a ∈ as)
    (hnone : f a = none) : as.mapM f = none := by
  induction as with
  | nil => cases ha
  | cons b as ih =>
    rw [List.mapM_cons]
    rcases List.mem_cons.mp ha with rfl | ha
    · rw [hnone]
      rfl
    · rw [ih ha]
      cases f b <;> rfl

end SettingsConsole.Traversal
