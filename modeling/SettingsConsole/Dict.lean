/-!
# Sorted dictionaries

A finite map from texts to values, kept as a list of members in strictly increasing order of
their keys. Keys are ordered by code points. Inserting a member replaces an earlier one of the
same key, and looking a key up after an insertion gives what was inserted last.
-/

namespace SettingsConsole

/-- A finite map from texts to values. -/
structure Dict (α : Type) where
  /-- The members, in the order of their keys. -/
  toList : List (String × α)
  /-- Keys increase strictly, so that no key occurs twice. -/
  sorted : toList.Pairwise fun a b => a.1 < b.1
  deriving DecidableEq

namespace Dict

variable {α β : Type}

/-- Put a member into a sorted list, replacing one of the same key. -/
def insertSorted (key : String) (value : α) : List (String × α) → List (String × α)
  | [] => [(key, value)]
  | (k, v) :: rest =>
    if key < k then (key, value) :: (k, v) :: rest
    else if key = k then (key, value) :: rest
    else (k, v) :: insertSorted key value rest

/-- The keys after an insertion are the old keys and the new one. -/
theorem fst_mem_insertSorted {key : String} {value : α} {entries : List (String × α)}
    {m : String × α} (h : m ∈ insertSorted key value entries) :
    m.1 = key ∨ ∃ e ∈ entries, e.1 = m.1 := by
  induction entries with
  | nil => simp_all [insertSorted]
  | cons e rest ih =>
    obtain ⟨k, v⟩ := e
    simp only [insertSorted] at h
    split at h
    · simp only [List.mem_cons] at h
      rcases h with rfl | rfl | h
      · exact .inl rfl
      · exact .inr ⟨_, by simp, rfl⟩
      · exact .inr ⟨m, by simp [h], rfl⟩
    · split at h
      · simp only [List.mem_cons] at h
        rcases h with rfl | h
        · exact .inl rfl
        · exact .inr ⟨m, by simp [h], rfl⟩
      · simp only [List.mem_cons] at h
        rcases h with rfl | h
        · exact .inr ⟨_, by simp, rfl⟩
        · rcases ih h with h | ⟨e, he, hk⟩
          · exact .inl h
          · exact .inr ⟨e, by simp [he], hk⟩

/-- Insertion keeps keys strictly increasing. -/
theorem pairwise_insertSorted {key : String} {value : α} {entries : List (String × α)}
    (h : entries.Pairwise fun a b => a.1 < b.1) :
    (insertSorted key value entries).Pairwise fun a b => a.1 < b.1 := by
  induction entries with
  | nil => simp [insertSorted]
  | cons e rest ih =>
    obtain ⟨k, v⟩ := e
    obtain ⟨hk, hr⟩ := List.pairwise_cons.mp h
    simp only [insertSorted]
    split
    · next hlt =>
      refine List.pairwise_cons.mpr ⟨fun m hm => ?_, h⟩
      rcases List.mem_cons.mp hm with rfl | hm
      · exact hlt
      · exact String.lt_trans hlt (hk m hm)
    · next hnlt =>
      split
      · next heq =>
        subst heq
        exact List.pairwise_cons.mpr ⟨hk, hr⟩
      · next hne =>
        refine List.pairwise_cons.mpr ⟨fun m hm => ?_, ih hr⟩
        rcases fst_mem_insertSorted hm with hm | ⟨e, he, hek⟩
        · have hle : k ≤ key := String.not_lt.mp hnlt
          show k < m.1
          rw [hm]
          exact String.not_le.mp fun h' => hne (String.le_antisymm h' hle)
        · show k < m.1
          rw [← hek]
          exact hk e he

/-- The map without members. -/
def empty : Dict α := ⟨[], List.Pairwise.nil⟩

instance : EmptyCollection (Dict α) := ⟨empty⟩

instance : Inhabited (Dict α) := ⟨empty⟩

/-- Set the value of a key. -/
def insert (d : Dict α) (key : String) (value : α) : Dict α :=
  ⟨insertSorted key value d.toList, pairwise_insertSorted d.sorted⟩

/-- The map of a list of members; the last member of a key counts. -/
def ofList (members : List (String × α)) : Dict α :=
  members.foldl (fun d m => d.insert m.1 m.2) empty

/-- The value of a key. -/
def get? (d : Dict α) (key : String) : Option α := d.toList.lookup key

/-- The number of members. -/
def size (d : Dict α) : Nat := d.toList.length

/-- Whether there are no members. -/
def isEmpty (d : Dict α) : Bool := d.toList.isEmpty

/-- Replace every value by a function of it. -/
def map (f : α → β) (d : Dict α) : Dict β :=
  ⟨d.toList.map fun m => (m.1, f m.2), List.pairwise_map.mpr d.sorted⟩

/-- Two maps with the same members are the same map. -/
@[ext] theorem ext {d e : Dict α} (h : d.toList = e.toList) : d = e := by
  cases d; cases e; simp_all

/-- An empty map has no value for any key. -/
@[simp] theorem get?_empty (key : String) : (empty : Dict α).get? key = none := rfl

/-- Looking a key up in a sorted list after putting a member into it. -/
theorem lookup_insertSorted (key other : String) (value : α) (entries : List (String × α)) :
    (insertSorted key value entries).lookup other =
      if other = key then some value else entries.lookup other := by
  induction entries with
  | nil =>
    by_cases h : other = key
    · subst h; simp [insertSorted]
    · simp [insertSorted, List.lookup_cons, h, beq_eq_false_iff_ne.mpr h]
  | cons e rest ih =>
    obtain ⟨k, v⟩ := e
    by_cases h : other = key
    · subst h
      simp only [insertSorted, if_true]
      split
      · simp
      · next hnlt =>
        split
        · simp
        · next hne => simp [List.lookup_cons, beq_eq_false_iff_ne.mpr hne, ih]
    · simp only [insertSorted, if_neg h]
      split
      · simp [List.lookup_cons, beq_eq_false_iff_ne.mpr h]
      · next hnlt =>
        split
        · next heq => subst heq; simp [List.lookup_cons, beq_eq_false_iff_ne.mpr h]
        · simp [List.lookup_cons, ih, if_neg h]

/-- A key that was set has its new value, and every other key keeps its own. -/
@[simp] theorem get?_insert (d : Dict α) (key other : String) (value : α) :
    (d.insert key value).get? other = if other = key then some value else d.get? other :=
  lookup_insertSorted key other value d.toList

/-- A replaced value is found under its old key. -/
@[simp] theorem get?_map (f : α → β) (d : Dict α) (key : String) :
    (d.map f).get? key = (d.get? key).map f := by
  simp only [get?, map]
  induction d.toList with
  | nil => rfl
  | cons m rest ih =>
    obtain ⟨k, v⟩ := m
    by_cases h : key = k
    · subst h; simp
    · simp [List.lookup_cons, beq_eq_false_iff_ne.mpr h, ih]

/-- A member after all others is the one that counts. -/
theorem ofList_append_singleton (members : List (String × α)) (m : String × α) :
    ofList (members ++ [m]) = (ofList members).insert m.1 m.2 := by
  simp [ofList]

/-- Of a list of members the last one with a key gives its value. -/
theorem get?_ofList (members : List (String × α)) (key : String) :
    (ofList members).get? key = members.reverse.lookup key := by
  have step (d : Dict α) (ms : List (String × α)) :
      (ms.foldl (fun d m => d.insert m.1 m.2) d).get? key =
        (ms.reverse.lookup key).or (d.get? key) := by
    induction ms generalizing d with
    | nil => rfl
    | cons m ms ih =>
      obtain ⟨k, v⟩ := m
      rw [List.foldl_cons, ih, get?_insert, List.reverse_cons, List.lookup_append, Option.or_assoc]
      by_cases h : key = k
      · subst h; simp
      · simp [h, List.lookup_cons, beq_eq_false_iff_ne.mpr h]
  simp [ofList, step]

/-- A key has a value in the map of a list of members exactly if the last member with the key has
it. -/
theorem get?_ofList_eq_some_iff (members : List (String × α)) (key : String) (value : α) :
    (ofList members).get? key = some value ↔
      ∃ before after, members = before ++ (key, value) :: after ∧ ∀ m ∈ after, m.1 ≠ key := by
  rw [get?_ofList, List.lookup_eq_some_iff]
  constructor
  · rintro ⟨after, before, hmembers, hafter⟩
    refine ⟨before.reverse, after.reverse, ?_, fun m hm => ?_⟩
    · rw [List.reverse_eq_append_iff.mp hmembers, List.reverse_cons, List.append_assoc]
      rfl
    · exact Ne.symm (bne_iff_ne.mp (hafter m (List.mem_reverse.mp hm)))
  · rintro ⟨before, after, rfl, hafter⟩
    refine ⟨after.reverse, before.reverse, ?_, fun m hm => ?_⟩
    · rw [List.reverse_append, List.reverse_cons, List.append_assoc]
      rfl
    · exact bne_iff_ne.mpr (Ne.symm (hafter m (List.mem_reverse.mp hm)))

/-- A map holds the value of a member for its key, and nothing else. -/
theorem mem_toList_iff (d : Dict α) (key : String) (value : α) :
    (key, value) ∈ d.toList ↔ d.get? key = some value := by
  obtain ⟨members, hsorted⟩ := d
  simp only [get?]
  induction members with
  | nil => simp
  | cons m members ih =>
    obtain ⟨k, v⟩ := m
    obtain ⟨hk, hrest⟩ := List.pairwise_cons.mp hsorted
    rw [List.mem_cons, ih hrest, List.lookup_cons]
    by_cases hkey : key = k
    · subst hkey
      -- The key is less than all later ones, so it is not found again.
      have hnone : members.lookup key = none := by
        refine List.lookup_eq_none_iff.mpr fun m hm => ?_
        have hne : key ≠ m.1 := fun h => String.lt_irrefl key (by simpa [← h] using hk m hm)
        simpa using hne
      simp [hnone, eq_comm]
    · simp [beq_eq_false_iff_ne.mpr hkey, hkey]

/-- Two maps with the same value for every key are the same map. -/
theorem ext_get? {d e : Dict α} (h : ∀ key, d.get? key = e.get? key) : d = e := by
  have hlt {a b : String × α} (hab : a.1 < b.1) : a ≠ b := fun heq =>
    String.lt_irrefl b.1 (heq ▸ hab)
  have hperm : d.toList.Perm e.toList := by
    refine (List.perm_ext_iff_of_nodup (d.sorted.imp hlt) (e.sorted.imp hlt)).mpr ?_
    intro m
    rw [d.mem_toList_iff, e.mem_toList_iff, h]
  refine ext (hperm.eq_of_pairwise (fun a b _ _ hab hba => ?_) d.sorted e.sorted)
  exact absurd hba (String.lt_asymm hab)

/-- Putting the greatest key into a sorted list puts it last. -/
theorem insertSorted_of_forall_lt {key : String} {value : α} {entries : List (String × α)}
    (h : ∀ m ∈ entries, m.1 < key) :
    insertSorted key value entries = entries ++ [(key, value)] := by
  induction entries with
  | nil => rfl
  | cons m rest ih =>
    have hlt : m.1 < key := h m List.mem_cons_self
    have hne : key ≠ m.1 := by
      rintro rfl
      exact String.lt_irrefl _ hlt
    rw [insertSorted, if_neg (String.lt_asymm hlt), if_neg hne,
      ih fun m hm => h m (List.mem_cons_of_mem _ hm)]
    rfl

/-- A map is the map of its members. -/
theorem ofList_toList (d : Dict α) : ofList d.toList = d := by
  -- The members are put in one after another, each of them after all those before.
  have step (before : Dict α) (rest : List (String × α))
      (hsorted : (before.toList ++ rest).Pairwise fun a b => a.1 < b.1) :
      (rest.foldl (fun d m => d.insert m.1 m.2) before).toList = before.toList ++ rest := by
    induction rest generalizing before with
    | nil => simp
    | cons m rest ih =>
      have hinsert : (before.insert m.1 m.2).toList = before.toList ++ [m] :=
        insertSorted_of_forall_lt fun b hb =>
          (List.pairwise_append.mp hsorted).2.2 b hb m List.mem_cons_self
      rw [List.append_cons, ← hinsert] at hsorted
      rw [List.foldl_cons, ih _ hsorted, hinsert, ← List.append_cons]
  exact ext (step empty d.toList d.sorted)

end Dict

end SettingsConsole
