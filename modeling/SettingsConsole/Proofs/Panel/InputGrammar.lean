import SettingsConsole.Proofs.Panel.Input
import SettingsConsole.Proofs.Text.NumeralValue

/-!
# Which inputs are accepted

The texts that an input accepts are those of its kind: any text, the numerals of a port, or the
numerals of a count. An input that is left out passes if it is optional. The inputs of an action
are accepted exactly if each of them passes, and otherwise the first one that does not is refused,
for a reason that its text alone decides. A port or a count that is read is the number for which the
given numeral stands.
-/

namespace SettingsConsole

open Text

/-! ## The grammar -/

/-- The texts of a kind of input, without the white space around them. -/
inductive InputKind.Accepts : InputKind → String → Prop
  | text {s : String} : Accepts .text s
  | port {s : String} {n : Int} (hwrites : Numeral.Writes false s.toList n)
      (hrange : 1 ≤ n ∧ n ≤ 65535) : Accepts .port s
  | count {s : String} {n : Int} (hwrites : Numeral.Writes true s.toList n)
      (hrange : 0 ≤ n ∧ n ≤ 9223372036854775807) : Accepts .count s

namespace Input

/-- Nothing is given for an input, or nothing but white space. -/
def LeftOut (values : FieldValues) (i : Input) : Prop :=
  ∀ v, values.get? i.key = some v → trim v = ""

/-- A text is given for an input. The white space around it does not belong to it. -/
def Given (values : FieldValues) (i : Input) (s : String) : Prop :=
  s ≠ "" ∧ ∃ v, values.get? i.key = some v ∧ trim v = s

/-- An input passes. -/
inductive Passes (values : FieldValues) (i : Input) : Prop
  | given {s : String} (hgiven : i.Given values s) (hkind : i.kind.Accepts s)
  | leftOut (hnone : i.LeftOut values) (hoptional : i.required = false)

/-- An input is refused for a reason. -/
inductive Refused (values : FieldValues) (i : Input) : Refusal → Prop
  | required (hnone : i.LeftOut values) (hrequired : i.required = true) : Refused values i .required
  | invalidPort {s : String} (hgiven : i.Given values s) (hkind : i.kind = .port)
      (hother : ¬ InputKind.port.Accepts s) : Refused values i .invalidPort
  | invalidInteger {s : String} (hgiven : i.Given values s) (hkind : i.kind = .count)
      (hother : ¬ InputKind.count.Accepts s) : Refused values i .invalidInteger

/-! ## Texts of a kind -/

/-- A port is read exactly from the numerals of it. -/
theorem readPort_eq_some_iff {s : String} {n : UInt16} :
    readPort s = some n ↔ Numeral.Writes false s.toList n.toNat ∧ 1 ≤ n.toNat := by
  have hne : n ≠ 0 ↔ 1 ≤ n.toNat := by
    rw [Ne, ← UInt16.toNat_inj]
    exact Nat.pos_iff_ne_zero.symm
  rw [readPort, Option.filter_eq_some_iff, Numeral.toOption_eq_some_iff, Numeral.word16_eq_ok_iff,
    decide_eq_true_eq, hne]

/-- A count is read exactly from the numerals of it. -/
theorem readCount_eq_some_iff {s : String} {n : Int64} :
    readCount s = some n ↔ Numeral.Writes true s.toList n.toInt ∧ 0 ≤ n.toInt := by
  have hle : 0 ≤ n ↔ 0 ≤ n.toInt := Int64.le_iff_toInt_le
  rw [readCount, Option.filter_eq_some_iff, Numeral.toOption_eq_some_iff, Numeral.int64_eq_ok_iff,
    decide_eq_true_eq, hle]

/-- Zeros in front do not count, and zero may be negative where there is a sign. -/
example : readPort "00065535" = some 65535 ∧ readPort "65536" = none ∧ readPort "-0" = none ∧
    readCount "-0" = some 0 := by
  decide

/-- A port is read exactly from the texts that a port accepts. -/
theorem isSome_readPort_iff {s : String} :
    (readPort s).isSome = true ↔ InputKind.port.Accepts s := by
  rw [Option.isSome_iff_exists]
  constructor
  · rintro ⟨n, hn⟩
    obtain ⟨hwrites, hone⟩ := readPort_eq_some_iff.mp hn
    have hlt : n.toNat < 65536 := n.toNat_lt
    exact .port hwrites ⟨by omega, by omega⟩
  · intro h
    cases h with
    | port hwrites hrange =>
      obtain ⟨a, rfl⟩ := Numeral.exists_word16_iff.mpr ⟨by omega, hrange.2⟩
      exact ⟨a, readPort_eq_some_iff.mpr ⟨hwrites, by omega⟩⟩

/-- A count is read exactly from the texts that a count accepts. -/
theorem isSome_readCount_iff {s : String} :
    (readCount s).isSome = true ↔ InputKind.count.Accepts s := by
  rw [Option.isSome_iff_exists]
  constructor
  · rintro ⟨n, hn⟩
    obtain ⟨hwrites, hpos⟩ := readCount_eq_some_iff.mp hn
    exact .count hwrites ⟨hpos, n.toInt_le⟩
  · intro h
    cases h with
    | count hwrites hrange =>
      obtain ⟨a, rfl⟩ := Numeral.exists_int64_iff.mpr ⟨by omega, hrange.2⟩
      exact ⟨a, readCount_eq_some_iff.mpr ⟨hwrites, hrange.1⟩⟩

/-! ## One input -/

variable {values : FieldValues} {i : Input}

/-- The value of an input is the text that is given for it. -/
theorem value?_eq_some_iff {s : String} : i.value? values = some s ↔ i.Given values s := by
  constructor
  · intro h
    obtain ⟨v, hv, rfl⟩ := get?_of_value? h
    refine ⟨fun hblank => ?_, v, hv, rfl⟩
    rw [value?, hv, Option.bind_some, unlessBlank_trim_of_eq hblank] at h
    cases h
  · intro h
    obtain ⟨hne, v, hv, rfl⟩ := h
    rw [value?, hv, Option.bind_some, unlessBlank_trim_of_ne hne]

/-- An input has no value exactly if it is left out. -/
theorem value?_eq_none_iff : i.value? values = none ↔ i.LeftOut values := by
  constructor
  · intro h v hv
    by_contra hne
    have hsome : i.value? values = some (trim v) := value?_eq_some_iff.mpr ⟨hne, v, hv, rfl⟩
    cases h.symm.trans hsome
  · intro h
    cases hvalue : i.value? values with
    | none => rfl
    | some s =>
      obtain ⟨hne, v, hv, rfl⟩ := value?_eq_some_iff.mp hvalue
      exact absurd (h v hv) hne

/-- The check of an input is that of the text that is given for it. -/
theorem check_of_given {s : String} (h : i.Given values s) : i.check values = i.checkKind s := by
  rw [check, value?_eq_some_iff.mpr h]

/-- The check of an input that is left out asks whether it is needed. -/
theorem check_of_leftOut (h : i.LeftOut values) :
    i.check values = if i.required then .error (i.refuse .required) else .ok () := by
  rw [check, value?_eq_none_iff.mpr h]

/-- A text is given for an input, or the input is left out. -/
theorem given_or_leftOut (values : FieldValues) (i : Input) :
    (∃ s, i.Given values s) ∨ i.LeftOut values := by
  cases hvalue : i.value? values with
  | none => exact .inr (value?_eq_none_iff.mp hvalue)
  | some s => exact .inl ⟨s, value?_eq_some_iff.mp hvalue⟩

/-- An input that passes has a check that passes. -/
theorem Passes.check_eq (h : i.Passes values) : i.check values = .ok () := by
  cases h with
  | @given s hgiven hkind =>
    rw [check_of_given hgiven, checkKind]
    cases hk : i.kind with
    | text => rfl
    | port => exact if_pos (isSome_readPort_iff.mpr (hk ▸ hkind))
    | count => exact if_pos (isSome_readCount_iff.mpr (hk ▸ hkind))
  | leftOut hnone hoptional =>
    rw [check_of_leftOut hnone, hoptional]
    rfl

/-- An input that is refused has a check that fails, for the same reason. -/
theorem Refused.check_eq {reason : Refusal} (h : i.Refused values reason) :
    i.check values = .error (i.refuse reason) := by
  cases h with
  | required hnone hrequired =>
    rw [check_of_leftOut hnone, hrequired]
    rfl
  | invalidPort hgiven hkind hother =>
    rw [check_of_given hgiven, checkKind, hkind]
    exact if_neg fun h => hother (isSome_readPort_iff.mp h)
  | invalidInteger hgiven hkind hother =>
    rw [check_of_given hgiven, checkKind, hkind]
    exact if_neg fun h => hother (isSome_readCount_iff.mp h)

/-- An input passes, or it is refused. -/
theorem passes_or_refused (values : FieldValues) (i : Input) :
    i.Passes values ∨ ∃ reason, i.Refused values reason := by
  rcases given_or_leftOut values i with ⟨s, hs⟩ | hnone
  · by_cases haccepts : i.kind.Accepts s
    · exact .inl (.given hs haccepts)
    · cases hk : i.kind with
      | text => exact absurd .text (hk ▸ haccepts)
      | port => exact .inr ⟨_, .invalidPort hs hk (hk ▸ haccepts)⟩
      | count => exact .inr ⟨_, .invalidInteger hs hk (hk ▸ haccepts)⟩
  · cases hrequired : i.required with
    | true => exact .inr ⟨_, .required hnone hrequired⟩
    | false => exact .inl (.leftOut hnone hrequired)

/-- The check of an input passes exactly if the input does. -/
theorem check_eq_ok_iff : i.check values = .ok () ↔ i.Passes values := by
  refine ⟨fun h => ?_, Passes.check_eq⟩
  rcases passes_or_refused values i with hpasses | ⟨reason, hrefused⟩
  · exact hpasses
  · cases h.symm.trans hrefused.check_eq

/-- The check of an input fails exactly if the input is refused, for the same reason. -/
theorem check_eq_error_iff {e : PanelError} :
    i.check values = .error e ↔ ∃ reason, i.Refused values reason ∧ e = i.refuse reason := by
  constructor
  · intro h
    rcases passes_or_refused values i with hpasses | ⟨reason, hrefused⟩
    · cases h.symm.trans hpasses.check_eq
    · exact ⟨reason, hrefused, Except.error.inj (h.symm.trans hrefused.check_eq)⟩
  · rintro ⟨reason, hrefused, rfl⟩
    exact hrefused.check_eq

/-! ## Readings -/

/-- The text of a needed input is read exactly if the input passes, and is the given one. -/
theorem requiredText_eq_ok_iff {s : String} :
    i.requiredText values = .ok s ↔ i.Passes values ∧ i.Given values s := by
  rw [← check_eq_ok_iff, ← value?_eq_some_iff, requiredText]
  cases i.check values with
  | error e => simp [bind, Except.bind]
  | ok => cases i.value? values <;> simp [bind, Except.bind, pure, Except.pure]

/-- What is read further of a needed input is read of the given text. -/
theorem requiredText_bind_eq_ok_iff {α : Type} {read : String → Option α}
    {further : String → Except PanelError α} {n : α}
    (hfurther : ∀ s, further s = .ok n ↔ read s = some n) :
    (i.requiredText values >>= further) = .ok n ↔
      i.Passes values ∧ ∃ s, i.Given values s ∧ read s = some n := by
  constructor
  · intro h
    cases htext : i.requiredText values with
    | error e =>
      rw [htext] at h
      cases h
    | ok s =>
      rw [htext] at h
      obtain ⟨hpasses, hgiven⟩ := requiredText_eq_ok_iff.mp htext
      exact ⟨hpasses, s, hgiven, (hfurther s).mp h⟩
  · intro h
    obtain ⟨hpasses, s, hgiven, hread⟩ := h
    rw [requiredText_eq_ok_iff.mpr ⟨hpasses, hgiven⟩]
    exact (hfurther s).mpr hread

/-- The port of a needed input is read exactly if the input passes and its text is a numeral of the
port. -/
theorem requiredPort_eq_ok_iff {n : UInt16} :
    i.requiredPort values = .ok n ↔ i.Passes values ∧ ∃ s, i.Given values s ∧
      Numeral.Writes false s.toList n.toNat ∧ 1 ≤ n.toNat := by
  simp only [← readPort_eq_some_iff]
  refine requiredText_bind_eq_ok_iff fun s => ?_
  cases readPort s <;> simp [pure, Except.pure]

/-- The count of a needed input is read exactly if the input passes and its text is a numeral of the
count. -/
theorem requiredCount_eq_ok_iff {n : Int64} :
    i.requiredCount values = .ok n ↔ i.Passes values ∧ ∃ s, i.Given values s ∧
      Numeral.Writes true s.toList n.toInt ∧ 0 ≤ n.toInt := by
  simp only [← readCount_eq_some_iff]
  refine requiredText_bind_eq_ok_iff fun s => ?_
  cases readCount s <;> simp [pure, Except.pure]

/-- The count of an input that is needed and passes is read. -/
theorem exists_requiredCount (hrequired : i.required = true) (hcount : i.kind = .count)
    (h : i.Passes values) : ∃ n, i.requiredCount values = .ok n := by
  cases h with
  | leftOut hnone hoptional => cases hrequired.symm.trans hoptional
  | given hgiven hkind =>
    rw [hcount] at hkind
    obtain ⟨n, hn⟩ := Option.isSome_iff_exists.mp (isSome_readCount_iff.mpr hkind)
    obtain ⟨hwrites, hpos⟩ := readCount_eq_some_iff.mp hn
    exact ⟨n, requiredCount_eq_ok_iff.mpr
      ⟨.given hgiven (hcount ▸ hkind), _, hgiven, hwrites, hpos⟩⟩

/-! ## All inputs of an action -/

/-- The checks of inputs depend on what is given under their keys only. -/
theorem checkAll_congr {others : FieldValues} {inputs : List Input}
    (h : ∀ i ∈ inputs, others.get? i.key = values.get? i.key) :
    checkAll others inputs = checkAll values inputs := by
  induction inputs with
  | nil => rfl
  | cons i rest ih =>
    have hcheck : i.check others = i.check values := by
      simp only [check, value?, h i List.mem_cons_self]
    rw [checkAll, checkAll, hcheck, ih fun j hj => h j (List.mem_cons_of_mem _ hj)]

/-- The check of inputs fails exactly with the refusal of the first one that does not pass. -/
theorem checkAll_eq_error_iff {inputs : List Input} {e : PanelError} :
    checkAll values inputs = .error e ↔
      ∃ before i after reason, inputs = before ++ i :: after ∧
        (∀ j ∈ before, j.Passes values) ∧ i.Refused values reason ∧ e = i.refuse reason := by
  constructor
  · intro h
    rcases all_or_first values inputs with hall | ⟨before, i, after, f, rfl, hbefore, hi⟩
    · cases h.symm.trans ((checkAll_eq_ok_iff values inputs).mpr hall)
    · obtain ⟨reason, hrefused, rfl⟩ := check_eq_error_iff.mp hi
      have he : e = i.refuse reason :=
        Except.error.inj (h.symm.trans (checkAll_append_cons hbefore hi))
      exact ⟨before, i, after, reason, rfl, fun j hj => check_eq_ok_iff.mp (hbefore j hj),
        hrefused, he⟩
  · rintro ⟨before, i, after, reason, rfl, hbefore, hrefused, rfl⟩
    exact checkAll_append_cons (fun j hj => (hbefore j hj).check_eq) hrefused.check_eq

/-- Zeros in front of the digits of a numeral change nothing of what is accepted. -/
theorem accepts_zeros_iff {sign ds : List Char} (hsign : sign ∈ Numeral.signs)
    (hdigits : Numeral.AreDigits ds) (k : Nat) (kind : InputKind) :
    kind.Accepts (String.ofList (sign ++ List.replicate k '0' ++ ds)) ↔
      kind.Accepts (String.ofList (sign ++ ds)) := by
  have hwrites {minus : Bool} {z : Int} :
      Numeral.Writes minus (String.ofList (sign ++ List.replicate k '0' ++ ds)).toList z ↔
        Numeral.Writes minus (String.ofList (sign ++ ds)).toList z := by
    rw [String.toList_ofList, String.toList_ofList, Numeral.writes_zeros_iff hsign hdigits]
  constructor
  · intro h
    cases h with
    | text => exact .text
    | port h hrange => exact .port (hwrites.mp h) hrange
    | count h hrange => exact .count (hwrites.mp h) hrange
  · intro h
    cases h with
    | text => exact .text
    | port h hrange => exact .port (hwrites.mpr h) hrange
    | count h hrange => exact .count (hwrites.mpr h) hrange

/-- The inputs of an action are accepted exactly if each of them passes; otherwise the first one
that does not is refused, for its reason. A port or a count that is read is the number of the given
numeral, which may begin with any number of zeros. What is given under other keys makes no
difference. -/
theorem checkAll_accepts_exactly (values : FieldValues) (inputs : List Input) :
    (checkAll values inputs = .ok () ↔ ∀ i ∈ inputs, i.Passes values) ∧
      (∀ e, checkAll values inputs = .error e ↔
        ∃ before i after reason, inputs = before ++ i :: after ∧
          (∀ j ∈ before, j.Passes values) ∧ i.Refused values reason ∧
          e = .validation i.key i.label reason) ∧
      (∀ (i : Input) n, i.requiredPort values = .ok n ↔ i.Passes values ∧
        ∃ s, i.Given values s ∧ Numeral.Writes false s.toList n.toNat ∧ 1 ≤ n.toNat) ∧
      (∀ (i : Input) n, i.requiredCount values = .ok n ↔ i.Passes values ∧
        ∃ s, i.Given values s ∧ Numeral.Writes true s.toList n.toInt ∧ 0 ≤ n.toInt) ∧
      (∀ sign ∈ Numeral.signs, ∀ ds, Numeral.AreDigits ds → ∀ k (kind : InputKind),
        kind.Accepts (String.ofList (sign ++ List.replicate k '0' ++ ds)) ↔
          kind.Accepts (String.ofList (sign ++ ds))) ∧
      ∀ others : FieldValues, (∀ i ∈ inputs, others.get? i.key = values.get? i.key) →
        checkAll others inputs = checkAll values inputs := by
  refine ⟨?_, fun _ => checkAll_eq_error_iff, fun _ _ => requiredPort_eq_ok_iff,
    fun _ _ => requiredCount_eq_ok_iff, fun _ hsign _ hdigits => accepts_zeros_iff hsign hdigits,
    fun _ => checkAll_congr⟩
  simp only [checkAll_eq_ok_iff, check_eq_ok_iff]

end Input

end SettingsConsole
