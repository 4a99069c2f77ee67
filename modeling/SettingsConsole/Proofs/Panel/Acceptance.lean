import Mathlib.Data.List.Perm.Subperm
import SettingsConsole.Proofs.Panel.Registry

/-!
# Which sections are accepted

The checks of declarations go through lists and compare every element with those before it: the keys
of the fields, the names of the actions, the resource types of the panels. Here it is shown what
they come to. A section is accepted exactly if each of its panels keeps five rules and no two panels
show the same resource type. Otherwise the first panel that is at fault is named, with the first
rule that it breaks; only if it breaks none, the repeated resource type is its fault. In an accepted
section a panel is found by its resource type and by its identifier alike.
-/

namespace SettingsConsole

/-! ## Faults in a list -/

section Scan

variable {α κ ε : Type}

/-- The first fault in a list whose elements are tested against the keys of those before them, the
latest key first. -/
def firstFault? (key : α → κ) (fault? : List κ → α → Option ε) (seen : List κ) :
    List α → Option ε
  | [] => none
  | a :: as =>
    match fault? seen a with
    | some e => some e
    | none => firstFault? key fault? (key a :: seen) as

variable {key : α → κ} {fault? : List κ → α → Option ε}

/-- The first fault is that of an element after others without fault. -/
theorem firstFault?_eq_some_iff {seen : List κ} {as : List α} {e : ε} :
    firstFault? key fault? seen as = some e ↔
      ∃ before a after, as = before ++ a :: after ∧ firstFault? key fault? seen before = none ∧
        fault? ((before.map key).reverse ++ seen) a = some e := by
  induction as generalizing seen with
  | nil => simp [firstFault?]
  | cons b as ih =>
    cases hb : fault? seen b with
    | some e' =>
      have hfirst : firstFault? key fault? seen (b :: as) = some e' := by rw [firstFault?, hb]
      rw [hfirst]
      constructor
      · rintro ⟨⟩
        exact ⟨[], b, as, rfl, rfl, hb⟩
      · rintro ⟨before, a, after, hsplit, hbefore, ha⟩
        cases before with
        | nil =>
          cases hsplit
          exact hb.symm.trans ha
        | cons c before =>
          cases hsplit
          rw [firstFault?, hb] at hbefore
          cases hbefore
    | none =>
      have hnext (as : List α) : firstFault? key fault? seen (b :: as) =
          firstFault? key fault? (key b :: seen) as := by rw [firstFault?, hb]
      rw [hnext, ih]
      constructor
      · rintro ⟨before, a, after, rfl, hbefore, ha⟩
        refine ⟨b :: before, a, after, rfl, (hnext before).trans hbefore, ?_⟩
        simpa using ha
      · rintro ⟨before, a, after, hsplit, hbefore, ha⟩
        cases before with
        | nil =>
          cases hsplit
          cases hb.symm.trans ha
        | cons c before =>
          cases hsplit
          exact ⟨before, a, after, rfl, (hnext before).symm.trans hbefore, by simpa using ha⟩

/-- In a list whose keys differ, the key of an element is none of those before it. -/
theorem not_mem_of_nodup_map {before after : List α} {a : α}
    (h : ((before ++ a :: after).map key).Nodup) : key a ∉ before.map key := by
  rw [List.map_append, List.map_cons, List.nodup_middle, List.nodup_cons] at h
  exact fun hmem => h.1 (List.mem_append_left _ hmem)

end Scan

/-! ## The rules of a declaration -/

/-- An action has a question to the user if it removes a row. -/
def Action.Asks (a : Action) : Prop := a.name = .remove → ∃ text, a.confirmation = some text

/-- An action asks unless it is a removal without a question. -/
theorem Action.not_asks_iff (a : Action) : ¬ a.Asks ↔ a.name = .remove ∧ a.confirmation = none := by
  rw [Asks, ← Option.ne_none_iff_exists', Classical.not_imp, not_not]

namespace Descriptor

/-- The rules of a declaration. -/
structure Proper (d : Descriptor) : Prop where
  /-- The identifier is that of the resource type. -/
  id : d.id = d.resource.panelId
  /-- Exactly one field of the list identifies a row. -/
  identifier : ∃ f, d.listFields.filter (·.identifier) = [f]
  /-- No two fields of the list have the same key. -/
  fields : (d.listFields.map (·.key)).Nodup
  /-- No two actions have the same name. -/
  actions : (d.actions.map (·.name)).Nodup
  /-- Every removal has a question. -/
  removals : ∀ a ∈ d.actions, a.Asks

/-- The first rule that a declaration breaks, in the words of the fault. Every case names the rules
that are kept, and then the one that is broken. -/
inductive Breaks (d : Descriptor) : String → Prop
  | id : d.id ≠ d.resource.panelId →
      Breaks d ("id does not match resource type " ++ d.resource.title)
  | identifier : d.id = d.resource.panelId → (d.listFields.filter (·.identifier)).length ≠ 1 →
      Breaks d ("expected exactly one identifier field, found " ++
        toString (d.listFields.filter (·.identifier)).length)
  | field {before after : List String} {key : String} : d.id = d.resource.panelId →
      (d.listFields.filter (·.identifier)).length = 1 →
      d.listFields.map (·.key) = before ++ key :: after → before.Nodup → key ∈ before →
      Breaks d ("duplicate list field '" ++ key ++ "'")
  | action {before after : List Action} {a : Action} : d.id = d.resource.panelId →
      (d.listFields.filter (·.identifier)).length = 1 → (d.listFields.map (·.key)).Nodup →
      d.actions = before ++ a :: after → (before.map (·.name)).Nodup → (∀ b ∈ before, b.Asks) →
      a.name ∈ before.map (·.name) → Breaks d ("duplicate action '" ++ a.name.text ++ "'")
  | removal {before after : List Action} {a : Action} : d.id = d.resource.panelId →
      (d.listFields.filter (·.identifier)).length = 1 → (d.listFields.map (·.key)).Nodup →
      d.actions = before ++ a :: after → (before.map (·.name)).Nodup → (∀ b ∈ before, b.Asks) →
      a.name ∉ before.map (·.name) → ¬ a.Asks → Breaks d "remove action without confirmation"

/-- The search for a repeated element is one for faults. -/
theorem firstRepeated?_eq_firstFault? {α : Type} [DecidableEq α] (seen as : List α) :
    firstRepeated? seen as =
      firstFault? (fun a => a) (fun seen a => if a ∈ seen then some a else none) seen as := by
  induction as generalizing seen with
  | nil => rfl
  | cons a as ih =>
    by_cases ha : a ∈ seen
    · simp [firstRepeated?, firstFault?, ha]
    · simp [firstRepeated?, firstFault?, ha, ih]

/-- A repeated element is the first one that stands among those before it. -/
theorem firstRepeated?_eq_some_iff {α : Type} [DecidableEq α] {as : List α} {a : α} :
    firstRepeated? [] as = some a ↔
      ∃ before after, as = before ++ a :: after ∧ before.Nodup ∧ a ∈ before := by
  rw [firstRepeated?_eq_firstFault?, firstFault?_eq_some_iff]
  have hbefore (before : List α) :
      firstFault? (fun a => a) (fun seen a => if a ∈ seen then some a else none) [] before = none ↔
        before.Nodup := by
    simp [← firstRepeated?_eq_firstFault?, firstRepeated?_eq_none_iff]
  simp only [hbefore, List.map_id', List.append_nil, List.mem_reverse]
  constructor
  · rintro ⟨before, b, after, rfl, hnodup, hb⟩
    split at hb
    · next hmem =>
      cases hb
      exact ⟨before, after, rfl, hnodup, hmem⟩
    · cases hb
  · rintro ⟨before, after, rfl, hnodup, hmem⟩
    exact ⟨before, a, after, rfl, hnodup, if_pos hmem⟩

/-- What is wrong with an action if others have been declared before. -/
def faultAfter? (seen : List Action.Name) (a : Action) : Option String :=
  if a.name ∈ seen then some ("duplicate action '" ++ a.name.text ++ "'")
  else if a.name = .remove ∧ a.confirmation = none then some "remove action without confirmation"
  else none

/-- The check of the actions is a search for faults. -/
theorem actionFault?_eq_firstFault? (seen : List Action.Name) (as : List Action) :
    actionFault? seen as = firstFault? (·.name) faultAfter? seen as := by
  induction as generalizing seen with
  | nil => rfl
  | cons a as ih =>
    by_cases hseen : a.name ∈ seen
    · simp [actionFault?, firstFault?, faultAfter?, hseen]
    · by_cases hasks : a.name = .remove ∧ a.confirmation = none
      · simp only [actionFault?, firstFault?, faultAfter?, if_neg hseen, if_pos hasks]
      · simp only [actionFault?, firstFault?, faultAfter?, if_neg hseen, if_neg hasks, ih]

/-- Actions are without fault exactly if their names differ from each other and every removal
asks. -/
theorem actionFault?_eq_none_iff (as : List Action) :
    actionFault? [] as = none ↔ (as.map (·.name)).Nodup ∧ ∀ a ∈ as, a.Asks := by
  constructor
  · intro h
    refine ⟨(nodup_of_actionFault?_eq_none h).1, fun a ha hname => ?_⟩
    exact Option.ne_none_iff_exists'.mp (confirmation_of_actionFault?_eq_none h a ha hname)
  · rintro ⟨hnodup, hasks⟩
    rw [actionFault?_eq_firstFault?]
    refine Option.eq_none_iff_forall_ne_some.mpr fun reason hfault => ?_
    obtain ⟨before, a, after, rfl, -, ha⟩ := firstFault?_eq_some_iff.mp hfault
    have hnew := not_mem_of_nodup_map hnodup
    have hask : ¬ (a.name = .remove ∧ a.confirmation = none) :=
      mt a.not_asks_iff.mpr (not_not.mpr (hasks a (by simp)))
    rw [faultAfter?, if_neg (by simpa using hnew), if_neg hask] at ha
    cases ha

/-- The fault of actions is that of the first one that repeats a name or removes without asking. -/
theorem actionFault?_eq_some_iff {as : List Action} {reason : String} :
    actionFault? [] as = some reason ↔
      ∃ before a after, as = before ++ a :: after ∧ (before.map (·.name)).Nodup ∧
        (∀ b ∈ before, b.Asks) ∧
        ((a.name ∈ before.map (·.name) ∧ reason = "duplicate action '" ++ a.name.text ++ "'") ∨
          (a.name ∉ before.map (·.name) ∧ ¬ a.Asks ∧
            reason = "remove action without confirmation")) := by
  have hbefore (before : List Action) :
      firstFault? (·.name) faultAfter? [] before = none ↔
        (before.map (·.name)).Nodup ∧ ∀ b ∈ before, b.Asks := by
    rw [← actionFault?_eq_firstFault?, actionFault?_eq_none_iff]
  have hfault (before : List Action) (a : Action) :
      faultAfter? ((before.map (·.name)).reverse ++ []) a = some reason ↔
        (a.name ∈ before.map (·.name) ∧ reason = "duplicate action '" ++ a.name.text ++ "'") ∨
          (a.name ∉ before.map (·.name) ∧ ¬ a.Asks ∧
            reason = "remove action without confirmation") := by
    simp only [faultAfter?, List.append_nil, List.mem_reverse, Action.not_asks_iff]
    grind
  rw [actionFault?_eq_firstFault?, firstFault?_eq_some_iff]
  simp only [hbefore, hfault, and_assoc]

/-- The fields that identify a row are counted. -/
theorem identifierCount_eq_length (d : Descriptor) :
    d.identifierCount = (d.listFields.filter (·.identifier)).length :=
  List.countP_eq_length_filter

/-- Once the identifiers are right, the fields are searched for a repeated key, and then the actions
for a fault. -/
theorem fault?_of_identifiers {d : Descriptor} (hid : d.id = d.resource.panelId)
    (hcount : (d.listFields.filter (·.identifier)).length = 1) :
    d.fault? =
      match firstRepeated? [] (d.listFields.map (·.key)) with
      | some key => some ("duplicate list field '" ++ key ++ "'")
      | none => actionFault? [] d.actions := by
  have hone : d.identifierCount = 1 := d.identifierCount_eq_length.trans hcount
  cases hkeys : firstRepeated? [] (d.listFields.map (·.key)) <;>
    simp only [fault?, if_neg (not_not.mpr hid), if_neg (not_not.mpr hone), hkeys]

/-- Once the fields are right too, the actions are searched for a fault. -/
theorem fault?_of_fields {d : Descriptor} (hid : d.id = d.resource.panelId)
    (hcount : (d.listFields.filter (·.identifier)).length = 1)
    (hfields : (d.listFields.map (·.key)).Nodup) : d.fault? = actionFault? [] d.actions := by
  have hrepeated : firstRepeated? [] (d.listFields.map (·.key)) = none :=
    (firstRepeated?_eq_none_iff _ _).mpr ⟨hfields, fun _ _ => List.not_mem_nil⟩
  rw [fault?_of_identifiers hid hcount, hrepeated]

/-- A declaration that breaks a rule is at fault. -/
theorem fault?_of_breaks {d : Descriptor} {reason : String} (h : d.Breaks reason) :
    d.fault? = some reason := by
  cases h with
  | id hid => rw [fault?, if_pos hid]
  | identifier hid hcount =>
    have hne : d.identifierCount ≠ 1 := by rwa [identifierCount_eq_length]
    rw [fault?, if_neg (not_not.mpr hid), if_pos hne, identifierCount_eq_length]
  | field hid hcount hsplit hnodup hmem =>
    have hrepeated := firstRepeated?_eq_some_iff.mpr ⟨_, _, hsplit, hnodup, hmem⟩
    rw [fault?_of_identifiers hid hcount, hrepeated]
  | action hid hcount hfields hsplit hnodup hasks hmem =>
    rw [fault?_of_fields hid hcount hfields]
    exact actionFault?_eq_some_iff.mpr ⟨_, _, _, hsplit, hnodup, hasks, .inl ⟨hmem, rfl⟩⟩
  | removal hid hcount hfields hsplit hnodup hasks hnew hnot =>
    rw [fault?_of_fields hid hcount hfields]
    exact actionFault?_eq_some_iff.mpr ⟨_, _, _, hsplit, hnodup, hasks, .inr ⟨hnew, hnot, rfl⟩⟩

/-- A declaration that keeps the rules is not at fault. -/
theorem fault?_of_proper {d : Descriptor} (h : d.Proper) : d.fault? = none := by
  obtain ⟨hid, hidentifier, hfields, hactions, hasks⟩ := h
  rw [fault?_of_fields hid (List.length_eq_one_iff.mpr hidentifier) hfields]
  exact (actionFault?_eq_none_iff _).mpr ⟨hactions, hasks⟩

/-- Every declaration keeps the rules, or there is a first one that it breaks. -/
theorem proper_or_breaks (d : Descriptor) : d.Proper ∨ ∃ reason, d.Breaks reason := by
  by_cases hid : d.id = d.resource.panelId
  case neg => exact .inr ⟨_, .id hid⟩
  by_cases hcount : (d.listFields.filter (·.identifier)).length = 1
  case neg => exact .inr ⟨_, .identifier hid hcount⟩
  cases hrepeated : firstRepeated? [] (d.listFields.map (·.key)) with
  | some key =>
    obtain ⟨before, after, hsplit, hnodup, hmem⟩ := firstRepeated?_eq_some_iff.mp hrepeated
    exact .inr ⟨_, .field hid hcount hsplit hnodup hmem⟩
  | none =>
    have hfields := ((firstRepeated?_eq_none_iff _ _).mp hrepeated).1
    cases hfault : actionFault? [] d.actions with
    | some reason =>
      obtain ⟨before, a, after, hsplit, hnodup, hasks, ⟨hmem, -⟩ | ⟨hnew, hnot, -⟩⟩ :=
        actionFault?_eq_some_iff.mp hfault
      · exact .inr ⟨_, .action hid hcount hfields hsplit hnodup hasks hmem⟩
      · exact .inr ⟨_, .removal hid hcount hfields hsplit hnodup hasks hnew hnot⟩
    | none =>
      obtain ⟨hactions, hasks⟩ := (actionFault?_eq_none_iff _).mp hfault
      exact .inl ⟨hid, List.length_eq_one_iff.mp hcount, hfields, hactions, hasks⟩

/-- A declaration has no fault exactly if it keeps the rules. -/
theorem fault?_eq_none_iff (d : Descriptor) : d.fault? = none ↔ d.Proper := by
  refine ⟨fun h => ?_, fault?_of_proper⟩
  rcases d.proper_or_breaks with hproper | ⟨reason, hbreaks⟩
  · exact hproper
  · cases h.symm.trans (fault?_of_breaks hbreaks)

/-- The fault of a declaration is the first rule that it breaks. -/
theorem fault?_eq_some_iff (d : Descriptor) (reason : String) :
    d.fault? = some reason ↔ d.Breaks reason := by
  refine ⟨fun h => ?_, fault?_of_breaks⟩
  rcases d.proper_or_breaks with hproper | ⟨other, hbreaks⟩
  · cases h.symm.trans (fault?_of_proper hproper)
  · cases h.symm.trans (fault?_of_breaks hbreaks)
    exact hbreaks

/-- Validation passes exactly if there is no fault. -/
theorem validate_eq_ok_iff (d : Descriptor) : d.validate = .ok () ↔ d.Proper := by
  rw [← fault?_eq_none_iff, validate]
  cases d.fault? <;> simp

end Descriptor

namespace Registry

variable {m : Type → Type}

/-! ## The declarations of a section -/

/-- Declarations that may stand in one section. -/
structure Fit (ds : List Descriptor) : Prop where
  /-- Each of them keeps the rules. -/
  proper : ∀ d ∈ ds, d.Proper
  /-- No two of them are for the same resource type. -/
  nodup : (ds.map (·.resource)).Nodup

/-- Why declarations may not stand in one section. The ones before the culprit may. -/
inductive Unfit (ds : List Descriptor) : PanelError → Prop
  /-- The culprit breaks a rule. -/
  | rule {before after : List Descriptor} {d : Descriptor} {reason : String} :
      ds = before ++ d :: after → Fit before → d.Breaks reason →
      Unfit ds (.invalidDescriptor d.id reason)
  /-- The culprit breaks no rule, but its resource type is taken. -/
  | resource {before after : List Descriptor} {d : Descriptor} :
      ds = before ++ d :: after → Fit before → d.Proper →
      d.resource ∈ before.map (·.resource) →
      Unfit ds (.invalidDescriptor d.id "resource type registered twice")

/-- What is wrong with a declaration if there are panels for some resource types. -/
def faultAfter? (seen : List Resource) (d : Descriptor) : Option PanelError :=
  match d.fault? with
  | some reason => some (.invalidDescriptor d.id reason)
  | none =>
    if d.resource ∈ seen then some (.invalidDescriptor d.id "resource type registered twice")
    else none

/-- The check of the declarations is a search for faults. -/
theorem checkDescriptors_eq (seen : List Resource) (ds : List Descriptor) :
    checkDescriptors seen ds =
      match firstFault? (·.resource) faultAfter? seen ds with
      | some e => .error e
      | none => .ok () := by
  induction ds generalizing seen with
  | nil => rfl
  | cons d ds ih =>
    rw [checkDescriptors, Descriptor.validate, firstFault?, faultAfter?]
    cases d.fault? with
    | some reason => rfl
    | none =>
      by_cases hseen : d.resource ∈ seen
      · simp only [if_pos hseen]
        rfl
      · simp only [if_neg hseen]
        exact ih _

/-- Declarations pass the check exactly if they may stand in one section. -/
theorem checkDescriptors_eq_ok_iff (ds : List Descriptor) :
    checkDescriptors [] ds = .ok () ↔ Fit ds := by
  constructor
  · intro h
    obtain ⟨hvalid, hnodup, -⟩ := of_checkDescriptors h
    exact ⟨fun d hd => d.validate_eq_ok_iff.mp (hvalid d hd), hnodup⟩
  · rintro ⟨hproper, hnodup⟩
    rw [checkDescriptors_eq]
    cases hfault : firstFault? (·.resource) faultAfter? [] ds with
    | none => rfl
    | some e =>
      obtain ⟨before, d, after, rfl, -, hd⟩ := firstFault?_eq_some_iff.mp hfault
      have hnew := not_mem_of_nodup_map hnodup
      rw [faultAfter?, Descriptor.fault?_of_proper (hproper d (by simp))] at hd
      simp only at hd
      rw [if_neg (by simpa using hnew)] at hd
      cases hd

/-- Declarations do not pass the check exactly if they may not stand in one section, and then the
fault is that of the first culprit. -/
theorem checkDescriptors_eq_error_iff (ds : List Descriptor) (e : PanelError) :
    checkDescriptors [] ds = .error e ↔ Unfit ds e := by
  have herror : checkDescriptors [] ds = .error e ↔
      firstFault? (·.resource) faultAfter? [] ds = some e := by
    rw [checkDescriptors_eq]
    cases firstFault? (·.resource) faultAfter? [] ds <;> simp
  have hbefore (before : List Descriptor) :
      firstFault? (·.resource) faultAfter? [] before = none ↔ Fit before := by
    rw [← checkDescriptors_eq_ok_iff, checkDescriptors_eq]
    cases firstFault? (·.resource) faultAfter? [] before <;> simp
  rw [herror, firstFault?_eq_some_iff]
  simp only [hbefore, faultAfter?, List.append_nil, List.mem_reverse]
  constructor
  · rintro ⟨before, d, after, hsplit, hfit, hd⟩
    cases hfault : d.fault? with
    | some reason =>
      rw [hfault] at hd
      cases hd
      exact .rule hsplit hfit ((d.fault?_eq_some_iff reason).mp hfault)
    | none =>
      rw [hfault] at hd
      simp only at hd
      split at hd
      · next hmem =>
        cases hd
        exact .resource hsplit hfit (d.fault?_eq_none_iff.mp hfault) hmem
      · cases hd
  · rintro (⟨hsplit, hfit, hbreaks⟩ | ⟨hsplit, hfit, hproper, hmem⟩)
    · exact ⟨_, _, _, hsplit, hfit, by rw [Descriptor.fault?_of_breaks hbreaks]⟩
    · refine ⟨_, _, _, hsplit, hfit, ?_⟩
      rw [Descriptor.fault?_of_proper hproper]
      exact if_pos hmem

/-! ## Searching an accepted section -/

/-- What the searches in a section give. -/
structure Searched (r : Registry m) : Prop where
  /-- There is one panel for each resource type at most. -/
  length_le : r.panels.length ≤ 3
  /-- A panel is found by its resource type and by its identifier. -/
  found : ∀ p ∈ r.panels, r.get p.descriptor.resource = .ok p ∧
    r.find p.descriptor.resource.panelId = .ok p
  /-- A resource type without a panel is found in neither way. -/
  missing : ∀ resource, (∀ p ∈ r.panels, p.descriptor.resource ≠ resource) →
    r.get resource = .error (.unknownPanel resource.panelId) ∧
      r.find resource.panelId = .error (.unknownPanel resource.panelId)
  /-- A text that identifies no panel is found nowhere. -/
  unknown : ∀ text, (∀ p ∈ r.panels, p.descriptor.resource.panelId ≠ text) →
    r.find text = .error (.unknownPanel text)
  /-- The identifying field of a panel is the only one. -/
  identifier : ∀ p ∈ r.panels, ∃ f, p.descriptor.identifierField? = some f ∧
    p.descriptor.listFields.filter (·.identifier) = [f]

/-- The identifier of a panel in an accepted section is that of its resource type. -/
theorem Accepted.id_eq {r : Registry m} (h : r.Accepted) {p : Panel m} (hp : p ∈ r.panels) :
    p.descriptor.id = p.descriptor.resource.panelId :=
  (p.descriptor.validate_eq_ok_iff.mp (h.valid p hp)).id

/-- There are no more panels in an accepted section than resource types. -/
theorem Accepted.length_le {r : Registry m} (h : r.Accepted) : r.panels.length ≤ 3 := by
  have hsubset : r.panels.map (·.descriptor.resource) ⊆ Resource.all := by
    intro resource _
    cases resource <;> decide
  have hle := (List.subperm_of_subset h.nodup hsubset).length_le
  rwa [List.length_map] at hle

/-- A text that identifies no panel of an accepted section is found nowhere. -/
theorem Accepted.find_of_forall_ne {r : Registry m} (h : r.Accepted) {text : String}
    (htext : ∀ p ∈ r.panels, p.descriptor.resource.panelId ≠ text) :
    r.find text = .error (.unknownPanel text) := by
  have hnone : r.panels.find? (·.descriptor.id = text) = none :=
    List.find?_eq_none.mpr fun p hp => by simpa [h.id_eq hp] using htext p hp
  rw [find, hnone]

/-- A panel of an accepted section is found by its identifier. -/
theorem Accepted.find_of_mem {r : Registry m} (h : r.Accepted) {p : Panel m} (hp : p ∈ r.panels) :
    r.find p.descriptor.resource.panelId = .ok p := by
  have hids : r.panels.map (·.descriptor.id) =
      (r.panels.map (·.descriptor.resource)).map Resource.panelId := by
    rw [List.map_map]
    exact List.map_congr_left fun q hq => h.id_eq hq
  have hnodup : (r.panels.map (·.descriptor.id)).Nodup := by
    rw [hids]
    exact h.nodup.map fun a b hab => Resource.panelId_inj.mp hab
  rw [← h.id_eq hp, find, find?_key_of_nodup (fun q : Panel m => q.descriptor.id) hnodup hp]

/-- The searches in an accepted section find what is there, and nothing else. -/
theorem Accepted.searched {r : Registry m} (h : r.Accepted) : r.Searched where
  length_le := h.length_le
  found _ hp := ⟨h.get_of_mem hp, h.find_of_mem hp⟩
  missing _ hresource := ⟨get_of_forall_ne hresource,
    h.find_of_forall_ne fun p hp => mt Resource.panelId_inj.mp (hresource p hp)⟩
  unknown _ htext := h.find_of_forall_ne htext
  identifier p hp := by
    obtain ⟨f, hf⟩ := (p.descriptor.validate_eq_ok_iff.mp (h.valid p hp)).identifier
    have hmem : f ∈ p.descriptor.listFields.filter (·.identifier) := hf ▸ List.mem_cons_self
    obtain ⟨hlisted, hidentifier⟩ := List.mem_filter.mp hmem
    exact ⟨f, Descriptor.identifierField?_of_mem (h.valid p hp) hlisted hidentifier, hf⟩

/-- A section is accepted exactly if the declarations of its panels may stand together, and it keeps
the panels in their order. Otherwise the first culprit is named. In an accepted section every search
finds what is there, and nothing else. -/
theorem build_accepts_exactly (id title selector : String) (panels : List (Panel m)) :
    (∀ r, build id title selector panels = .ok r ↔
        Fit (panels.map (·.descriptor)) ∧ r = ⟨id, title, selector, panels⟩) ∧
      (∀ e, build id title selector panels = .error e ↔ Unfit (panels.map (·.descriptor)) e) ∧
      ∀ r, build id title selector panels = .ok r → r.Searched := by
  have hbuild : build id title selector panels =
      (checkDescriptors [] (panels.map (·.descriptor))).map fun _ =>
        ⟨id, title, selector, panels⟩ :=
    rfl
  refine ⟨fun r => ?_, fun e => ?_, fun r h => (accepted_of_build h).searched⟩
  · rw [← checkDescriptors_eq_ok_iff, hbuild]
    cases checkDescriptors [] (panels.map (·.descriptor)) <;> simp [Except.map, eq_comm]
  · rw [← checkDescriptors_eq_error_iff, hbuild]
    cases checkDescriptors [] (panels.map (·.descriptor)) <;> simp [Except.map]

/-- A second panel for LDAP servers that removes them without a question is named for that, and not
for its resource type. The section of global settings is accepted. -/
theorem build_accepts_exactly_unasked :
    let c : Client Id := ⟨fun op _ => ExceptT.mk (.error (.network op.name ""))⟩
    let unasked : Descriptor :=
      { Ldap.descriptor with actions := [⟨.remove, Message.removeLdap, none, []⟩] }
    build standardId Message.globalSettings Message.selectView
        [Ldap.panel c, { Ldap.panel c with descriptor := unasked }] =
      .error (.invalidDescriptor "ldapConfiguration" "remove action without confirmation") ∧
    (standard c).Searched := by
  intro c unasked
  have hfit : Fit [Ldap.descriptor] := (checkDescriptors_eq_ok_iff _).mp rfl
  have hsplit : [Ldap.descriptor, unasked] = [Ldap.descriptor] ++ unasked :: [] := rfl
  have hbreaks : unasked.Breaks "remove action without confirmation" :=
    (unasked.fault?_eq_some_iff _).mp rfl
  obtain ⟨-, hunfit, -⟩ := build_accepts_exactly standardId Message.globalSettings
    Message.selectView [Ldap.panel c, { Ldap.panel c with descriptor := unasked }]
  obtain ⟨-, -, hsearched⟩ := build_accepts_exactly standardId Message.globalSettings
    Message.selectView (standardPanels c)
  exact ⟨(hunfit _).mpr (.rule hsplit hfit hbreaks), hsearched _ (build_standardPanels c)⟩

end Registry

end SettingsConsole
