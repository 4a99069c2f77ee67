import SettingsConsole.Panel.Input
import SettingsConsole.Proofs.Text.Blank
import SettingsConsole.Proofs.Traversal
import Mathlib.Data.List.Basic

/-!
# Checking inputs in order

The inputs of an action are checked one after the other. All of them pass, or there is a first one
that does not, and then its failure is the failure of the whole check. A failure is always the
refusal of one of the inputs, and a reading that succeeds has read the given value without the white
space around it. An input that is needed and passes can be read.
-/

namespace SettingsConsole.Input

open Text

/-- The check of all inputs passes exactly when the check of each of them does. -/
theorem checkAll_eq_ok_iff (values : FieldValues) (inputs : List Input) :
    checkAll values inputs = .ok () ↔ ∀ i ∈ inputs, i.check values = .ok () := by
  induction inputs with
  | nil => simp [checkAll]
  | cons i rest ih =>
    simp only [checkAll, List.mem_cons, forall_eq_or_imp, ← ih]
    cases hi : check values i with
    | error e => simp [bind, Except.bind]
    | ok => simp [bind, Except.bind]

/-- The first input that does not pass decides the check of all inputs. -/
theorem checkAll_append_cons {values : FieldValues} {before after : List Input} {i : Input}
    {e : PanelError} (hbefore : ∀ j ∈ before, j.check values = .ok ())
    (hi : i.check values = .error e) :
    checkAll values (before ++ i :: after) = .error e := by
  induction before with
  | nil => simp [checkAll, hi, bind, Except.bind]
  | cons j before ih =>
    have hj : j.check values = .ok () := hbefore j List.mem_cons_self
    have hrest := ih fun k hk => hbefore k (List.mem_cons_of_mem _ hk)
    simp [checkAll, hj, hrest, bind, Except.bind]

/-- Either all inputs pass, or there is a first one that does not. -/
theorem all_or_first (values : FieldValues) (inputs : List Input) :
    (∀ i ∈ inputs, i.check values = .ok ()) ∨
      ∃ before i after e, inputs = before ++ i :: after ∧
        (∀ j ∈ before, j.check values = .ok ()) ∧ i.check values = .error e := by
  have hcases (i : Input) : i.check values = .ok () ∨ ∃ e, i.check values = .error e := by
    cases i.check values with
    | error e => exact .inr ⟨e, rfl⟩
    | ok => exact .inl rfl
  rcases Traversal.all_or_first hcases inputs with hall | ⟨before, i, after, rfl, hbefore, e, hi⟩
  · exact .inl hall
  · exact .inr ⟨before, i, after, e, rfl, hbefore, hi⟩

/-! ## Refusals -/

variable {values : FieldValues} {i : Input} {e : PanelError}

/-- A failed check of an input is a refusal of it. -/
theorem eq_refuse_of_check (h : i.check values = .error e) : ∃ reason, e = i.refuse reason := by
  unfold check at h
  split at h
  · unfold checkKind at h
    split at h
    · cases h
    · split at h <;> cases h
      exact ⟨_, rfl⟩
    · split at h <;> cases h
      exact ⟨_, rfl⟩
  · split at h <;> cases h
    exact ⟨_, rfl⟩

/-- A failed check of inputs is a refusal of one of them. -/
theorem eq_refuse_of_checkAll {inputs : List Input} (h : checkAll values inputs = .error e) :
    ∃ i ∈ inputs, ∃ reason, e = i.refuse reason := by
  rcases all_or_first values inputs with hall | ⟨before, i, after, f, rfl, hbefore, hi⟩
  · rw [(checkAll_eq_ok_iff values inputs).mpr hall] at h
    cases h
  · rw [checkAll_append_cons hbefore hi] at h
    cases h
    exact ⟨i, by simp, eq_refuse_of_check hi⟩

/-- A value is the given one without white space around it. -/
theorem get?_of_value? {value : String} (h : i.value? values = some value) :
    ∃ v, values.get? i.key = some v ∧ value = trim v := by
  obtain ⟨v, hv, hvalue⟩ := Option.bind_eq_some_iff.mp h
  refine ⟨v, hv, ?_⟩
  unfold unlessBlank at hvalue
  split at hvalue
  · cases hvalue
  · exact (Option.some.inj hvalue).symm

/-- The text of a needed input is read, or the input is refused. -/
theorem requiredText_cases (values : FieldValues) (i : Input) :
    (∃ v, values.get? i.key = some v ∧ i.requiredText values = .ok (trim v)) ∨
      ∃ reason, i.requiredText values = .error (i.refuse reason) := by
  unfold requiredText
  cases hi : i.check values with
  | error e =>
    obtain ⟨reason, rfl⟩ := eq_refuse_of_check hi
    exact .inr ⟨reason, rfl⟩
  | ok =>
    cases hvalue : i.value? values with
    | none => exact .inr ⟨.required, rfl⟩
    | some value =>
      obtain ⟨v, hv, rfl⟩ := get?_of_value? hvalue
      exact .inl ⟨v, hv, rfl⟩

/-- A needed input is read further, or it is refused. -/
theorem required_cases {α : Type} (values : FieldValues) (i : Input) {read : String → Option α}
    {further : String → Except PanelError α}
    (hsome : ∀ text n, read text = some n → further text = .ok n)
    (hnone : ∀ text, read text = none → ∃ reason, further text = .error (i.refuse reason)) :
    (∃ v n, values.get? i.key = some v ∧ read (trim v) = some n ∧
        (i.requiredText values >>= further) = .ok n) ∨
      ∃ reason, (i.requiredText values >>= further) = .error (i.refuse reason) := by
  rcases requiredText_cases values i with ⟨v, hv, htext⟩ | ⟨reason, htext⟩
  · rw [htext]
    cases hread : read (trim v) with
    | none => exact .inr (hnone _ hread)
    | some n => exact .inl ⟨v, n, hv, hread, hsome _ _ hread⟩
  · rw [htext]
    exact .inr ⟨reason, rfl⟩

/-- The port of a needed input is read, or the input is refused. -/
theorem requiredPort_cases (values : FieldValues) (i : Input) :
    (∃ v n, values.get? i.key = some v ∧ readPort (trim v) = some n ∧
        i.requiredPort values = .ok n) ∨
      ∃ reason, i.requiredPort values = .error (i.refuse reason) :=
  required_cases values i (fun _ _ h => by simp only [h]; rfl)
    fun _ h => ⟨.invalidPort, by simp only [h]; rfl⟩

/-- The count of a needed input is read, or the input is refused. -/
theorem requiredCount_cases (values : FieldValues) (i : Input) :
    (∃ v n, values.get? i.key = some v ∧ readCount (trim v) = some n ∧
        i.requiredCount values = .ok n) ∨
      ∃ reason, i.requiredCount values = .error (i.refuse reason) :=
  required_cases values i (fun _ _ h => by simp only [h]; rfl)
    fun _ h => ⟨.invalidInteger, by simp only [h]; rfl⟩

/-! ## Inputs that pass -/

/-- An input that is needed and passes has a text that is not blank, and it is of the kind. -/
theorem value?_of_check (hrequired : i.required = true) (h : i.check values = .ok ()) :
    ∃ v, values.get? i.key = some v ∧ trim v ≠ "" ∧ i.value? values = some (trim v) ∧
      i.checkKind (trim v) = .ok () := by
  unfold check at h
  cases hvalue : i.value? values with
  | none =>
    rw [hvalue, hrequired] at h
    cases h
  | some value =>
    rw [hvalue] at h
    obtain ⟨v, hv, rfl⟩ := get?_of_value? hvalue
    refine ⟨v, hv, fun hblank => ?_, rfl, h⟩
    rw [value?, hv, Option.bind_some, unlessBlank_trim_of_eq hblank] at hvalue
    cases hvalue

/-- The text of an input that is needed and passes is read. -/
theorem requiredText_of_check (hrequired : i.required = true) (h : i.check values = .ok ()) :
    ∃ v, values.get? i.key = some v ∧ trim v ≠ "" ∧ i.checkKind (trim v) = .ok () ∧
      i.requiredText values = .ok (trim v) := by
  obtain ⟨v, hv, hne, hvalue, hkind⟩ := value?_of_check hrequired h
  refine ⟨v, hv, hne, hkind, ?_⟩
  simp only [requiredText, h, hvalue]
  rfl

/-- The port of an input that is needed and passes is read. -/
theorem requiredPort_of_check (hrequired : i.required = true) (hport : i.kind = .port)
    (h : i.check values = .ok ()) :
    ∃ v n, values.get? i.key = some v ∧ readPort (trim v) = some n ∧
      i.requiredPort values = .ok n := by
  obtain ⟨v, hv, -, hkind, htext⟩ := requiredText_of_check hrequired h
  cases hread : readPort (trim v) with
  | none =>
    simp only [checkKind, hport, hread] at hkind
    cases hkind
  | some n =>
    refine ⟨v, n, hv, hread, ?_⟩
    simp only [requiredPort, htext, bind, Except.bind, hread]
    rfl

/-- A port is one at least. -/
theorem one_le_of_readPort {s : String} {n : UInt16} (h : readPort s = some n) : 1 ≤ n.toNat := by
  have hne : n ≠ 0 := by
    simpa using (Option.filter_eq_some_iff.mp h).2
  have hzero : n.toNat ≠ 0 := fun h0 => hne (UInt16.toNat_inj.mp h0)
  omega

end SettingsConsole.Input
