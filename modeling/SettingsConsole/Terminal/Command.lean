import SettingsConsole.Panel.Input
import SettingsConsole.Panel.Resource
import SettingsConsole.Text.Ascii
import SettingsConsole.Text.Split

/-!
# Commands

What the user can ask for at the terminal. Panels are named by their identifiers or by short names,
in any case. Values are given as `key=value`.
-/

namespace SettingsConsole

open Text

/-- A command of the user. -/
inductive Command where
  /-- Show the panels. -/
  | sections
  /-- List one page of a panel. -/
  | list (panel : String) (page : UInt32) (search : Option String)
  /-- Show one row. -/
  | detail (panel id : String)
  /-- Change a row. The last part tells whether questions are answered with yes. -/
  | edit (panel id : String) (values : List String) (yes : Bool)
  /-- Add a row. -/
  | add (panel : String) (values : List String) (yes : Bool)
  /-- Remove a row. -/
  | remove (panel id : String) (yes : Bool)
  deriving DecidableEq, Repr

/-- Why a command cannot be carried out. -/
inductive CommandError where
  /-- No panel has this name. -/
  | unknownPanel (name : String)
  /-- A value has no equals sign. -/
  | noEquals (arg : String)
  /-- A value has no key before the equals sign. -/
  | noKey (arg : String)
  /-- The request failed. -/
  | failed (e : PanelError)
  deriving DecidableEq, Repr

/-- The message for a command that cannot be carried out. -/
def CommandError.message : CommandError → String
  | unknownPanel name =>
    "Unknown panel '" ++ name ++ "', expected one of: " ++
      join ", " (Resource.all.map Resource.panelId)
  | noEquals arg => "Expected key=value, got '" ++ arg ++ "'"
  | noKey arg => "Missing field name in '" ++ arg ++ "'"
  | failed e => e.message

namespace Command

/-- The short names of panels. -/
def aliases : List (String × Resource) :=
  [("global", .setting), ("settings", .setting), ("ldap", .ldapServer), ("hypervisor", .hypervisor),
    ("hypervisors", .hypervisor)]

/-- The resource type of a panel name. -/
def panelNamed (name : String) : Except CommandError Resource :=
  let byId := Resource.all.find? fun r => sameIgnoringCase r.panelId name
  match (aliases.lookup (asciiLower name)).or byId with
  | some r => .ok r
  | none => .error (.unknownPanel name)

/-- Read one value: the key without white space around it, and the text after the first equals
sign as it is. -/
def readValue (arg : String) : Except CommandError (String × String) :=
  match cut '=' arg with
  | none => .error (.noEquals arg)
  | some (key, value) =>
    let key := trim key
    if key.isEmpty then .error (.noKey arg) else .ok (key, value)

/-- Read values. The last value of a key counts. -/
def readValues (args : List String) : Except CommandError FieldValues :=
  (args.mapM readValue).map Dict.ofList

end Command

end SettingsConsole
