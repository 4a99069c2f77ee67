import SettingsConsole.Remote.Failure

/-!
# Failures of panels

What can go wrong between the user and the server: wrong input, a panel or an action that is not
there, a row that is not found, a panel that is declared wrongly, or a failed remote call.
-/

namespace SettingsConsole

/-- Why an input was refused. -/
inductive Refusal where
  /-- The input is needed and blank. -/
  | required
  /-- The input is no network port. -/
  | invalidPort
  /-- The input is no natural number in range. -/
  | invalidInteger
  deriving DecidableEq, Repr

/-- The words for a refusal. -/
def Refusal.message : Refusal → String
  | required => "is required"
  | invalidPort => "must be a port between 1 and 65535"
  | invalidInteger => "must be a non-negative integer"

/-- The name of a refusal. -/
def Refusal.name : Refusal → String
  | required => "required"
  | invalidPort => "invalidPort"
  | invalidInteger => "invalidInteger"

/-- Why a request to a panel failed. -/
inductive PanelError where
  /-- A remote call failed. -/
  | remote (e : RemoteError)
  /-- An input was refused before any remote call. -/
  | validation (field label : String) (reason : Refusal)
  /-- An answer lacks its envelope, or a key in it. -/
  | envelopeMismatch (operation envelope key : String)
  /-- No panel or section has this identifier. -/
  | unknownPanel (id : String)
  /-- The panel does not declare this action or view. -/
  | unsupported (panel action : String)
  /-- No row has this identifier. -/
  | rowNotFound (panel id : String)
  /-- A panel is declared wrongly. -/
  | invalidDescriptor (panel reason : String)
  /-- Nothing is selected in the section. -/
  | missingSelection (sectionId : String)
  deriving DecidableEq, Repr

namespace PanelError

/-- The failure of a panel whose remote call failed. -/
def ofRemote : RemoteError → PanelError
  | .envelopeMismatch operation envelope key => envelopeMismatch operation envelope key
  | e => remote e

/-- The name of the kind of failure. -/
def code : PanelError → String
  | remote _ => "Remote"
  | validation .. => "Validation"
  | envelopeMismatch .. => "EnvelopeMismatch"
  | unknownPanel _ => "UnknownPanel"
  | unsupported .. => "UnsupportedAction"
  | rowNotFound .. => "RowNotFound"
  | invalidDescriptor .. => "InvalidDescriptor"
  | missingSelection _ => "MissingSelection"

/-- Whether a failure is due to what the user asked for, and not to a defect or an outage. -/
def isExpected : PanelError → Bool
  | validation .. | unknownPanel _ | unsupported .. | rowNotFound .. | missingSelection _ => true
  | remote e => e.isExpected
  | envelopeMismatch .. | invalidDescriptor .. => false

/-- The message of a failure. -/
def message : PanelError → String
  | remote e => e.message
  | validation field label reason => s!"Validation error: {label} ({field}) {reason.message}"
  | envelopeMismatch operation envelope key =>
    s!"Envelope mismatch: {operation} response has no " ++ "'" ++ envelope ++ "." ++ key ++ "'"
  | unknownPanel id => s!"Unknown panel: {id}"
  | unsupported panel action => s!"Panel {panel} does not support {action}"
  | rowNotFound panel id => s!"Row not found: {panel} " ++ "'" ++ id ++ "'"
  | invalidDescriptor panel reason => s!"Invalid descriptor {panel}: {reason}"
  | missingSelection sectionId => s!"No resource type selected in section {sectionId}"

/-- The details of a failure. -/
def details : PanelError → Json
  | remote e => e.toJson
  | validation field label reason =>
    .object [("field", .str field), ("label", .str label), ("reason", .str reason.name)]
  | envelopeMismatch operation envelope key =>
    .object [("operation", .str operation), ("envelope", .str envelope), ("key", .str key)]
  | unknownPanel id => .str id
  | unsupported panel action => .object [("panel", .str panel), ("action", .str action)]
  | rowNotFound panel id => .object [("panel", .str panel), ("id", .str id)]
  | invalidDescriptor panel reason => .object [("panel", .str panel), ("reason", .str reason)]
  | missingSelection sectionId => .str sectionId

/-- The JSON form of a failure: its kind and its details. -/
def toJson (e : PanelError) : Json := .object [("code", .str e.code), ("details", e.details)]

end PanelError

end SettingsConsole
