import Mathlib.Data.List.Nodup
import SettingsConsole.Json.Parser

/-!
# The order of members

Every object in a document that is read has its members in the order of their keys, each key once,
however the text has them. So a member is found by its key exactly if it is there.
-/

namespace SettingsConsole

/-- A member of a map that was made of a list is one of the list. -/
theorem Dict.mem_of_mem_ofList {α : Type} {ms : List (String × α)} {m : String × α}
    (h : m ∈ (ofList ms).toList) : m ∈ ms := by
  obtain ⟨key, value⟩ := m
  rw [mem_toList_iff, get?_ofList, List.lookup_eq_some_iff] at h
  obtain ⟨before, after, hsplit, -⟩ := h
  rw [← List.mem_reverse, hsplit]
  exact List.mem_append_right _ List.mem_cons_self

/-- A member is found by its key if no other one in a list has the key with another value. -/
theorem Dict.get?_ofList_of_unique {α : Type} {ms : List (String × α)} {key : String} {v : α}
    (hmem : (key, v) ∈ ms) (hunique : ∀ w, (key, w) ∈ ms → w = v) :
    (ofList ms).get? key = some v := by
  cases hget : (ofList ms).get? key with
  | some w =>
    have hw : (key, w) ∈ ms := mem_of_mem_ofList ((mem_toList_iff _ key w).mpr hget)
    rw [hunique w hw]
  | none =>
    rw [get?_ofList, List.lookup_eq_none_iff] at hget
    have hne := hget (key, v) (List.mem_reverse.mpr hmem)
    simp at hne

/-- If no key occurs twice, a list and its map have the same members. -/
theorem Dict.get?_ofList_eq_some_iff_mem {α : Type} {ms : List (String × α)}
    (h : (ms.map Prod.fst).Nodup) {key : String} {v : α} :
    (ofList ms).get? key = some v ↔ (key, v) ∈ ms := by
  constructor
  · intro hget
    exact mem_of_mem_ofList ((mem_toList_iff _ key v).mpr hget)
  · intro hmem
    refine get?_ofList_of_unique hmem fun w hw => ?_
    exact congrArg Prod.snd (List.inj_on_of_nodup_map h hw hmem rfl)

/-- If no key occurs twice, the order of members does not matter. -/
theorem Dict.ofList_of_perm {α : Type} {ms ns : List (String × α)} (hperm : ms.Perm ns)
    (h : (ns.map Prod.fst).Nodup) : ofList ms = ofList ns := by
  have hms : (ms.map Prod.fst).Nodup := (hperm.map Prod.fst).nodup_iff.mpr h
  refine ext_get? fun key => Option.ext fun v => ?_
  rw [get?_ofList_eq_some_iff_mem hms, get?_ofList_eq_some_iff_mem h, hperm.mem_iff]

namespace Json

/-- Every object in a value has its members in the order of their keys. -/
inductive Ordered : Json → Prop
  | null : Ordered .null
  | bool (b : Bool) : Ordered (.bool b)
  | int (n : Int) : Ordered (.int n)
  | decimal (d : Decimal) : Ordered (.decimal d)
  | str (s : String) : Ordered (.str s)
  | arr {items : List Json} (hitems : ∀ v ∈ items, Ordered v) : Ordered (.arr items)
  | obj {members : List (String × Json)} (hsorted : members.Pairwise fun a b => a.1 < b.1)
      (hmembers : ∀ m ∈ members, Ordered m.2) : Ordered (.obj members)

/-- In members in the order of their keys, a value is found for a key exactly if it stands there. -/
theorem lookup_eq_some_iff_mem {ms : List (String × Json)}
    (h : ms.Pairwise fun a b => a.1 < b.1) {key : String} {v : Json} :
    ms.lookup key = some v ↔ (key, v) ∈ ms :=
  (Dict.mem_toList_iff ⟨ms, h⟩ key v).symm

/-- In members in the order of their keys, the first result is that of the least key with one. -/
theorem findSome?_eq_some_iff_least {ms : List (String × Json)}
    (h : ms.Pairwise fun a b => a.1 < b.1) {β : Type} {f : Json → Option β} {b : β} :
    (ms.findSome? fun m => f m.2) = some b ↔
      ∃ key v, (key, v) ∈ ms ∧ f v = some b ∧
        ∀ other w c, (other, w) ∈ ms → f w = some c → key ≤ other := by
  rw [List.findSome?_eq_some_iff]
  constructor
  · rintro ⟨before, ⟨key, v⟩, after, rfl, hfound, hbefore⟩
    refine ⟨key, v, List.mem_append_cons_self, hfound, fun other w c hw hc => ?_⟩
    rcases List.mem_append.mp hw with hmem | hmem
    · cases (hbefore _ hmem).symm.trans hc
    · rcases List.mem_cons.mp hmem with heq | hafter
      · cases heq
        exact String.le_refl key
      · rw [List.pairwise_append, List.pairwise_cons] at h
        exact Std.le_of_lt (h.2.1.1 _ hafter)
  · rintro ⟨key, v, hv, hfound, hleast⟩
    obtain ⟨before, after, rfl⟩ := List.append_of_mem hv
    refine ⟨before, (key, v), after, rfl, hfound, fun ⟨other, w⟩ hw => ?_⟩
    refine Option.eq_none_iff_forall_ne_some.mpr fun c hc => ?_
    have hlt : other < key := (List.pairwise_append.mp h).2.2 _ hw _ List.mem_cons_self
    exact String.not_le.mpr hlt (hleast other w c (List.mem_append_left _ hw) hc)

/-- An object that is made of ordered values is ordered. -/
theorem Ordered.object {ms : List (String × Json)} (h : ∀ m ∈ ms, m.2.Ordered) :
    (object ms).Ordered :=
  .obj (Dict.ofList ms).sorted fun m hm => h m (Dict.mem_of_mem_ofList hm)

/-- A decimal with some digits before and after the point is ordered. -/
theorem ordered_pointNumber {negative : Bool} {ds fs : List Char} {exp : Int} {v : Json}
    (h : pointNumber negative ds fs exp = some v) : v.Ordered := by
  obtain ⟨d, -, rfl⟩ := Option.map_eq_some_iff.mp h
  exact .decimal d

/-- A number without fraction and exponent is ordered. -/
theorem ordered_wholeNumber {negative : Bool} {ds : List Char} {v : Json}
    (h : wholeNumber negative ds = some v) : v.Ordered := by
  simp only [wholeNumber] at h
  split at h
  · cases h
    exact .int _
  · split at h
    · cases h
      exact .int _
    · exact ordered_pointNumber h

/-- A number is ordered. -/
theorem ordered_number {negative : Bool} {cs rest : List Char} {v : Json}
    (h : number negative cs = some (v, rest)) : v.Ordered := by
  simp only [number] at h
  split at h
  · cases h
  · obtain ⟨⟨frac, rest'⟩, -, h⟩ := Option.bind_eq_some_iff.mp h
    obtain ⟨⟨exp, rest''⟩, -, h⟩ := Option.bind_eq_some_iff.mp h
    split at h
    · obtain ⟨w, hw, h⟩ := Option.bind_eq_some_iff.mp h
      cases h
      exact ordered_wholeNumber hw
    · obtain ⟨w, hw, h⟩ := Option.bind_eq_some_iff.mp h
      cases h
      exact ordered_pointNumber hw

/-- What is read with some fuel is ordered, if the items and members before it are. -/
structure ReadsOrdered (fuel : Nat) : Prop where
  value {depth : Nat} {cs rest : List Char} {v : Json} :
    value fuel depth cs = some (v, rest) → v.Ordered
  items {depth : Nat} {done : List Json} {cs rest : List Char} {v : Json}
    (hdone : ∀ w ∈ done, w.Ordered) : items fuel depth done cs = some (v, rest) → v.Ordered
  members {depth : Nat} {done : List (String × Json)} {cs rest : List Char} {v : Json}
    (hdone : ∀ m ∈ done, m.2.Ordered) : members fuel depth done cs = some (v, rest) → v.Ordered

namespace ReadsOrdered

variable {fuel depth : Nat} {cs rest : List Char} {v : Json}

/-- A value is read as a simple one, or its items or members are read next. -/
theorem value_succ (ih : ReadsOrdered fuel) (h : Json.value (fuel + 1) depth cs = some (v, rest)) :
    v.Ordered := by
  rw [Json.value] at h
  split at h
  · cases h
    exact .null
  · cases h
    exact .bool true
  · cases h
    exact .bool false
  · obtain ⟨⟨s, rest'⟩, -, h⟩ := Option.map_eq_some_iff.mp h
    cases h
    exact .str s
  · exact ordered_number h
  · split at h
    · cases h
    · split at h
      · cases h
        exact .arr (List.forall_mem_nil _)
      · exact ih.items (List.forall_mem_nil _) h
  · split at h
    · cases h
    · split at h
      · cases h
        exact .object (List.forall_mem_nil _)
      · exact ih.members (List.forall_mem_nil _) h
  · exact ordered_number h

/-- Items end an array, or further items are read after them. -/
theorem items_succ (ih : ReadsOrdered fuel) {done : List Json} (hdone : ∀ w ∈ done, w.Ordered)
    (h : Json.items (fuel + 1) depth done cs = some (v, rest)) : v.Ordered := by
  rw [Json.items] at h
  split at h
  · cases h
  · next w rest' hw =>
    have hitems : ∀ x ∈ w :: done, x.Ordered := List.forall_mem_cons.mpr ⟨ih.value hw, hdone⟩
    split at h
    · exact ih.items hitems h
    · cases h
      exact .arr fun x hx => hitems x (List.mem_reverse.mp hx)
    · cases h

/-- Members end an object, or further members are read after them. -/
theorem members_succ (ih : ReadsOrdered fuel) {done : List (String × Json)}
    (hdone : ∀ m ∈ done, m.2.Ordered)
    (h : Json.members (fuel + 1) depth done cs = some (v, rest)) : v.Ordered := by
  rw [Json.members] at h
  split at h
  · split at h
    · cases h
    · next key _ _ =>
      split at h
      · split at h
        · cases h
        · next w rest' hw =>
          have hmembers : ∀ m ∈ (key, w) :: done, m.2.Ordered :=
            List.forall_mem_cons.mpr ⟨ih.value hw, hdone⟩
          split at h
          · exact ih.members hmembers h
          · cases h
            exact .object fun m hm => hmembers m (List.mem_reverse.mp hm)
          · cases h
      · cases h
  · cases h

end ReadsOrdered

/-- Whatever the fuel, what is read is ordered. -/
theorem readsOrdered (fuel : Nat) : ReadsOrdered fuel := by
  induction fuel with
  | zero =>
    refine ⟨fun h => ?_, fun _ h => ?_, fun _ h => ?_⟩
    · rw [value] at h
      cases h
    · rw [items] at h
      cases h
    · rw [members] at h
      cases h
  | succ fuel ih => exact ⟨ih.value_succ, ih.items_succ, ih.members_succ⟩

/-- A document that is read is ordered. -/
theorem ordered_of_parse? {s : String} {v : Json} (h : parse? s = some v) : v.Ordered := by
  simp only [parse?] at h
  split at h
  · next w rest hw =>
    split at h
    · cases h
      exact (readsOrdered _).value hw
    · cases h
  · cases h

end Json

end SettingsConsole
