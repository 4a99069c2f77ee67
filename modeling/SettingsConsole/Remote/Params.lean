import SettingsConsole.Dict
import SettingsConsole.Json.Basic
import SettingsConsole.Text.Blank
import SettingsConsole.Text.Percent
import SettingsConsole.Text.Split

/-!
# Parameters of a remote call

The parameters of a call are texts and numbers under names, in the order of the names. They are
sent as a query string.
-/

namespace SettingsConsole

open Text

/-- The value of a parameter. -/
inductive ParamValue where
  | text (s : String)
  | number (n : Int64)
  deriving DecidableEq, Repr

/-- A value as it is sent, before escaping. -/
def ParamValue.display : ParamValue → String
  | text s => s
  | number n => toString n

/-- The JSON form of a value. -/
def ParamValue.toJson : ParamValue → Json
  | text s => .str s
  | number n => .int n.toInt

/-- Whether a value is a blank text. -/
def ParamValue.isBlank : ParamValue → Bool
  | text s => Text.isBlank s
  | number _ => false

/-- The parameters of a call, by name. -/
abbrev Params := Dict ParamValue

namespace Params

/-- Set a text. -/
def text (p : Params) (key value : String) : Params := p.insert key (.text value)

/-- Set a number. -/
def number (p : Params) (key : String) (value : Int64) : Params := p.insert key (.number value)

/-- Set a number without a sign. -/
def word (p : Params) (key : String) (value : UInt32) : Params :=
  p.number key (Int64.ofNat value.toNat)

/-- Set a value unless there is none or it is blank. -/
def insertSome (p : Params) (key : String) : Option ParamValue → Params
  | some v => if v.isBlank then p else p.insert key v
  | none => p

/-- A value as it is sent, before escaping. -/
def display? (p : Params) (key : String) : Option String := (p.get? key).map ParamValue.display

/-- The query string: `key=value` for each parameter, with `&` between them. -/
def toQuery (p : Params) : String :=
  join "&" (p.toList.map fun m => Percent.encode m.1 ++ "=" ++ Percent.encode m.2.display)

/-- The JSON form of parameters. -/
def toJson (p : Params) : Json := .ofDict (p.map ParamValue.toJson)

end Params

end SettingsConsole
