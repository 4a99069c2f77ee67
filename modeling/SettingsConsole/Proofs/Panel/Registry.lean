import SettingsConsole.Panel.Registry
import Mathlib.Data.List.Nodup

/-!
# What an accepted section guarantees

A section is accepted only if its panels show different resource types, every panel declares each
action at most once, and exactly one field of every panel identifies a row. So the searches by
resource type, by action and for the identifying field each have at most one answer: whatever
satisfies the test is what the search finds.
-/

namespace SettingsConsole

/-- If no two elements share a key, a search for the key of an element finds the element. -/
theorem find?_key_of_nodup {α κ : Type} [DecidableEq κ] (key : α → κ) {as : List α} {a : α}
    (hnodup : (as.map key).Nodup) (ha : a ∈ as) : as.find? (fun b => key b = key a) = some a := by
  induction as with
  | nil => cases ha
  | cons b as ih =>
    rw [List.map_cons, List.nodup_cons] at hnodup
    rcases List.mem_cons.mp ha with rfl | ha
    · simp
    · have hne : key b ≠ key a := fun h => hnodup.1 (h ▸ List.mem_map_of_mem ha)
      rw [List.find?_cons_of_neg (by simpa using hne)]
      exact ih hnodup.2 ha

/-- If exactly one element satisfies a test, the search by the test finds it. -/
theorem find?_of_countP_eq_one {α : Type} {test : α → Bool} {as : List α} {a : α}
    (hcount : as.countP test = 1) (ha : a ∈ as) (htest : test a = true) :
    as.find? test = some a := by
  rw [List.countP_eq_length_filter, List.length_eq_one_iff] at hcount
  obtain ⟨b, hb⟩ := hcount
  have hfound : a = b := by
    have hmem : a ∈ as.filter test := List.mem_filter.mpr ⟨ha, htest⟩
    rw [hb] at hmem
    exact List.mem_singleton.mp hmem
  rw [← List.head?_filter, hb, hfound, List.head?_cons]

namespace Descriptor

/-- Actions without fault have different names, none of them declared before. -/
theorem nodup_of_actionFault?_eq_none {seen : List Action.Name} {as : List Action}
    (h : actionFault? seen as = none) :
    (as.map (·.name)).Nodup ∧ ∀ a ∈ as, a.name ∉ seen := by
  induction as generalizing seen with
  | nil => simp
  | cons a as ih =>
    simp only [actionFault?] at h
    split at h
    · cases h
    · next hseen =>
      split at h
      · cases h
      · obtain ⟨hnodup, hfresh⟩ := ih h
        have hown : ∀ b ∈ as, b.name ≠ a.name := fun b hb hba =>
          hfresh b hb (hba ▸ List.mem_cons_self)
        have hold : ∀ b ∈ as, b.name ∉ seen := fun b hb hbs =>
          hfresh b hb (List.mem_cons_of_mem _ hbs)
        refine ⟨?_, ?_⟩
        · rw [List.map_cons, List.nodup_cons]
          refine ⟨fun hmem => ?_, hnodup⟩
          obtain ⟨b, hb, hba⟩ := List.mem_map.mp hmem
          exact hown b hb hba
        · intro b hb
          rcases List.mem_cons.mp hb with rfl | hb
          · exact hseen
          · exact hold b hb

/-- Of actions without fault, those that remove have a question to the user. -/
theorem confirmation_of_actionFault?_eq_none {seen : List Action.Name} {as : List Action}
    (h : actionFault? seen as = none) : ∀ a ∈ as, a.name = .remove → a.confirmation ≠ none := by
  induction as generalizing seen with
  | nil => exact fun _ ha => absurd ha List.not_mem_nil
  | cons a as ih =>
    simp only [actionFault?] at h
    split at h
    · cases h
    · split at h
      · cases h
      · next hprompted =>
        intro b hb hname
        rcases List.mem_cons.mp hb with rfl | hb
        · exact fun hnone => hprompted ⟨hname, hnone⟩
        · exact ih h b hb hname

/-- A valid descriptor has one identifying field, and its actions are without fault. -/
theorem parts_of_validate {d : Descriptor} (h : d.validate = .ok ()) :
    d.identifierCount = 1 ∧ actionFault? [] d.actions = none := by
  have hfault : d.fault? = none := by
    unfold validate at h
    split at h
    · cases h
    · assumption
  unfold fault? at hfault
  split at hfault
  · cases hfault
  · split at hfault
    · cases hfault
    · next hcount =>
      split at hfault
      · cases hfault
      · exact ⟨not_not.mp hcount, hfault⟩

/-- A valid descriptor has one identifying field and declares no action twice. -/
theorem unique_of_validate {d : Descriptor} (h : d.validate = .ok ()) :
    d.identifierCount = 1 ∧ (d.actions.map (·.name)).Nodup :=
  ⟨(parts_of_validate h).1, (nodup_of_actionFault?_eq_none (parts_of_validate h).2).1⟩

/-- A valid descriptor has a question to the user for every removal. -/
theorem exists_confirmation {d : Descriptor} (h : d.validate = .ok ()) {a : Action}
    (ha : a ∈ d.actions) (hname : a.name = .remove) : ∃ text, a.confirmation = some text :=
  Option.ne_none_iff_exists'.mp
    (confirmation_of_actionFault?_eq_none (parts_of_validate h).2 a ha hname)

/-- The identifying field of a valid descriptor is the one that is found. -/
theorem identifierField?_of_mem {d : Descriptor} {f : Field} (h : d.validate = .ok ())
    (hf : f ∈ d.listFields) (hid : f.identifier = true) : d.identifierField? = some f :=
  find?_of_countP_eq_one (unique_of_validate h).1 hf hid

/-- A valid descriptor has an identifying field. -/
theorem exists_identifierField {d : Descriptor} (h : d.validate = .ok ()) :
    ∃ f ∈ d.listFields, f.identifier = true := by
  have hpos : 0 < d.listFields.countP (·.identifier) := by
    have hcount : d.listFields.countP (·.identifier) = 1 := (unique_of_validate h).1
    omega
  obtain ⟨f, hf, hid⟩ := List.countP_pos_iff.mp hpos
  exact ⟨f, hf, hid⟩

/-- A declared action of a valid descriptor is the one that is found under its name. -/
theorem action?_of_mem {d : Descriptor} {a : Action} (h : d.validate = .ok ())
    (ha : a ∈ d.actions) : d.action? a.name = some a :=
  find?_key_of_nodup (fun b : Action => b.name) (unique_of_validate h).2 ha

end Descriptor

namespace Registry

variable {m : Type → Type}

/-- Accepted descriptors are valid and show different resource types, none of them seen before. -/
theorem of_checkDescriptors {seen : List Resource} {ds : List Descriptor}
    (h : checkDescriptors seen ds = .ok ()) :
    (∀ d ∈ ds, d.validate = .ok ()) ∧ (ds.map (·.resource)).Nodup ∧
      ∀ d ∈ ds, d.resource ∉ seen := by
  induction ds generalizing seen with
  | nil => simp
  | cons d ds ih =>
    simp only [checkDescriptors] at h
    cases hvalid : d.validate with
    | error e => rw [hvalid] at h; cases h
    | ok =>
      rw [hvalid] at h
      by_cases hseen : d.resource ∈ seen
      · rw [if_pos hseen] at h; cases h
      · rw [if_neg hseen] at h
        have hrest : checkDescriptors (d.resource :: seen) ds = .ok () := h
        obtain ⟨hvalids, hnodup, hfresh⟩ := ih hrest
        refine ⟨?_, ?_, ?_⟩
        · intro c hc
          rcases List.mem_cons.mp hc with rfl | hc
          · exact hvalid
          · exact hvalids c hc
        · rw [List.map_cons, List.nodup_cons]
          refine ⟨fun hmem => ?_, hnodup⟩
          obtain ⟨c, hc, hcd⟩ := List.mem_map.mp hmem
          exact hfresh c hc (hcd ▸ List.mem_cons_self)
        · intro c hc
          rcases List.mem_cons.mp hc with rfl | hc
          · exact hseen
          · exact fun hcs => hfresh c hc (List.mem_cons_of_mem _ hcs)

/-- What acceptance says about a section. -/
structure Accepted (r : Registry m) : Prop where
  /-- Every descriptor is valid. -/
  valid : ∀ p ∈ r.panels, p.descriptor.validate = .ok ()
  /-- No two panels show the same resource type. -/
  nodup : (r.panels.map (·.descriptor.resource)).Nodup

/-- A section that was built has the panels it was built of, whose descriptors passed the check. -/
theorem of_build {id title selector : String} {panels : List (Panel m)} {r : Registry m}
    (h : build id title selector panels = .ok r) :
    r.panels = panels ∧ checkDescriptors [] (panels.map (·.descriptor)) = .ok () := by
  unfold build at h
  cases hcheck : checkDescriptors [] (panels.map (·.descriptor)) with
  | error e => rw [hcheck] at h; cases h
  | ok => rw [hcheck] at h; cases h; exact ⟨rfl, rfl⟩

/-- A section that was built is accepted. -/
theorem accepted_of_build {id title selector : String} {panels : List (Panel m)} {r : Registry m}
    (h : build id title selector panels = .ok r) : r.Accepted := by
  obtain ⟨rfl, hcheck⟩ := of_build h
  obtain ⟨hvalid, hnodup, -⟩ := of_checkDescriptors hcheck
  refine ⟨fun p hp => hvalid _ (List.mem_map_of_mem hp), ?_⟩
  rw [List.map_map] at hnodup
  exact hnodup

/-- The panel of a section that shows a resource type is the one that is found for it. -/
theorem Accepted.get_of_mem {r : Registry m} (h : r.Accepted) {p : Panel m} (hp : p ∈ r.panels) :
    r.get p.descriptor.resource = .ok p := by
  unfold get
  rw [find?_key_of_nodup (fun q : Panel m => q.descriptor.resource) h.nodup hp]

/-- A resource type that no panel shows is unknown. -/
theorem get_of_forall_ne {r : Registry m} {resource : Resource}
    (h : ∀ p ∈ r.panels, p.descriptor.resource ≠ resource) :
    r.get resource = .error (.unknownPanel resource.panelId) := by
  have hnone : r.panels.find? (·.descriptor.resource = resource) = none :=
    List.find?_eq_none.mpr fun p hp => by simpa using h p hp
  rw [get, hnone]

end Registry

end SettingsConsole
