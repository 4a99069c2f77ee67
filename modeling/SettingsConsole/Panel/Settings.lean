import SettingsConsole.Panel.Basic
import SettingsConsole.Panel.Message
import SettingsConsole.Remote.Client

/-!
# The panel of global settings

Settings are listed and their values are changed in place. After a change the user is told which
servers have to be restarted.
-/

namespace SettingsConsole.Settings

/-- The input of a change. It may be blank, which clears the setting. -/
def valueInput : Input := ⟨"value", Message.value, false, .text⟩

/-- The declaration of the panel. -/
def descriptor : Descriptor where
  resource := .setting
  id := Resource.setting.panelId
  label := Message.globalSettings
  listFields :=
    [{ key := "name", label := Message.name, identifier := true, truncate := true },
      { key := "description", label := Message.description },
      { key := "value", label := Message.value, editable := true, truncate := true }]
  detailFields := []
  actions := [⟨.edit, Message.changeValue, none, [valueInput]⟩]

/-- The value of a change. A blank one counts, but it has to be given. -/
def newValue (values : FieldValues) : Except PanelError String := do
  Input.checkAll values [valueInput]
  match values.get? valueInput.key with
  | some v => pure v
  | none => throw (valueInput.refuse .required)

/-- The advice after a change of a setting. -/
def advice (s : Setting) : String :=
  if s.isUsage then Message.restartUsage else Message.restartManagement

/-- The outcome of a change. -/
def changed (s : Setting) : Outcome :=
  ((Outcome.ofRow s.toRow).notice (advice s)).signal (.refreshPanel .setting)

variable {m : Type → Type} [Monad m]

/-- One page of settings; the search is for a part of the name. -/
def list (c : Client m) (q : ListQuery) (size : UInt32) : ExceptT PanelError m (ListPage Row) := do
  let page ← Panel.remotely (c.listSettings ⟨q.page, size⟩ q.search)
  pure (page.map Setting.toRow)

/-- Change the value of the setting with a name. -/
def edit (c : Client m) (id : String) (values : FieldValues) : ExceptT PanelError m Outcome := do
  let value ← Panel.checked (newValue values)
  let setting ← Panel.remotely (c.updateSetting id value)
  pure (changed setting)

/-- The panel of a client. -/
def panel (c : Client m) : Panel m :=
  { Panel.listing descriptor (list c) with edit := edit c }

end SettingsConsole.Settings
