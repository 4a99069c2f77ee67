import SettingsConsole.Panel.Basic
import SettingsConsole.Panel.Message
import SettingsConsole.Remote.Client

/-!
# The panel of hypervisor capabilities

Entries are listed and shown, and their guest limits are changed.
-/

namespace SettingsConsole.Hypervisors

/-- The guest limit of a change. -/
def maxGuestsInput : Input := ⟨"maxguestslimit", Message.maxGuests, true, .count⟩

/-- The declaration of the panel. -/
def descriptor : Descriptor where
  resource := .hypervisor
  id := Resource.hypervisor.panelId
  label := Message.hypervisorCapabilities
  listFields :=
    [{ key := "id", label := Message.identifier, identifier := true, hidden := true },
      { key := "hypervisor", label := Message.hypervisor },
      { key := "hypervisorversion", label := Message.hypervisorVersion },
      { key := "maxguestslimit", label := Message.maxGuests }]
  detailFields :=
    [{ key := "id", label := Message.identifier, identifier := true },
      { key := "hypervisor", label := Message.hypervisor },
      { key := "hypervisorversion", label := Message.hypervisorVersion },
      { key := "maxguestslimit", label := Message.maxGuests, editable := true }]
  actions := [⟨.edit, Message.edit, none, [maxGuestsInput]⟩]

/-- The guest limit of a change. -/
def newLimit (values : FieldValues) : Except PanelError Int64 := do
  Input.checkAll values [maxGuestsInput]
  maxGuestsInput.requiredCount values

/-- The outcome of a change. -/
def changed (h : HypervisorCapability) : Outcome :=
  (Outcome.ofRow h.toRow).signal (.refreshPanel .hypervisor)

variable {m : Type → Type} [Monad m]

/-- One page of entries; the search is for a keyword. -/
def list (c : Client m) (q : ListQuery) (size : UInt32) : ExceptT PanelError m (ListPage Row) := do
  let page ← Panel.remotely (c.listHypervisors ⟨q.page, size⟩ ⟨none, q.search⟩)
  pure (page.map HypervisorCapability.toRow)

/-- The first entry that the server gives for an identifier. -/
def detail (c : Client m) (id : String) : ExceptT PanelError m Row := do
  let page ← Panel.remotely (c.listHypervisors Paging.default ⟨some id, none⟩)
  match page.items.head? with
  | some h => pure h.toRow
  | none => throw (.rowNotFound descriptor.id id)

/-- Change the guest limit of the entry with an identifier. -/
def edit (c : Client m) (id : String) (values : FieldValues) : ExceptT PanelError m Outcome := do
  let limit ← Panel.checked (newLimit values)
  let entry ← Panel.remotely (c.updateHypervisor id limit)
  pure (changed entry)

/-- The panel of a client. -/
def panel (c : Client m) : Panel m :=
  { Panel.listing descriptor (list c) with detail := detail c, edit := edit c }

end SettingsConsole.Hypervisors
