import SettingsConsole.Dict
import SettingsConsole.Panel.Descriptor
import SettingsConsole.Text.Blank
import SettingsConsole.Text.Numeral

/-!
# Inputs of actions

Values that the user gives are checked against the declared inputs, in their order. White space
around a value does not count, and a blank value is as good as none.
-/

namespace SettingsConsole

open Text

/-- The values that the user gives, by the keys of the inputs. -/
abbrev FieldValues := Dict String

/-- Read a network port, from one upwards. -/
def readPort (s : String) : Option UInt16 :=
  (Numeral.word16 s).toOption.filter (· ≠ 0)

/-- Read a count, from zero upwards. -/
def readCount (s : String) : Option Int64 :=
  (Numeral.int64 s).toOption.filter (0 ≤ ·)

namespace Input

/-- The refusal of an input. -/
def refuse (i : Input) (reason : Refusal) : PanelError := .validation i.key i.label reason

/-- The value of an input without white space around it, unless it is blank. -/
def value? (i : Input) (values : FieldValues) : Option String :=
  (values.get? i.key).bind fun v => unlessBlank (trim v)

/-- Check a value that is not blank against its kind. -/
def checkKind (i : Input) (value : String) : Except PanelError Unit :=
  match i.kind with
  | .text => .ok ()
  | .port => if (readPort value).isSome then .ok () else .error (i.refuse .invalidPort)
  | .count => if (readCount value).isSome then .ok () else .error (i.refuse .invalidInteger)

/-- Check one input. -/
def check (values : FieldValues) (i : Input) : Except PanelError Unit :=
  match i.value? values with
  | some value => i.checkKind value
  | none => if i.required then .error (i.refuse .required) else .ok ()

/-- Check all inputs of an action; the first bad one is reported. -/
def checkAll (values : FieldValues) : List Input → Except PanelError Unit
  | [] => .ok ()
  | i :: rest => do
    check values i
    checkAll values rest

/-- The text of an input that is needed. -/
def requiredText (values : FieldValues) (i : Input) : Except PanelError String := do
  check values i
  match i.value? values with
  | some value => pure value
  | none => throw (i.refuse .required)

/-- The port of an input that is needed. -/
def requiredPort (values : FieldValues) (i : Input) : Except PanelError UInt16 := do
  let text ← requiredText values i
  match readPort text with
  | some n => pure n
  | none => throw (i.refuse .invalidPort)

/-- The count of an input that is needed. -/
def requiredCount (values : FieldValues) (i : Input) : Except PanelError Int64 := do
  let text ← requiredText values i
  match readCount text with
  | some n => pure n
  | none => throw (i.refuse .invalidInteger)

end Input

end SettingsConsole
