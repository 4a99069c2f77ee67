import SettingsConsole.Panel.Basic
import SettingsConsole.Panel.Message
import SettingsConsole.Remote.Client

/-!
# The panel of LDAP servers

Servers are listed, shown, added and removed. Adding and removing need the consent of the user.
-/

namespace SettingsConsole.Ldap

/-- The host name of a new server. -/
def hostnameInput : Input := ⟨"hostname", Message.hostName, true, .text⟩

/-- The port of a new server. -/
def portInput : Input := ⟨"port", Message.port, true, .port⟩

/-- The declaration of the panel. -/
def descriptor : Descriptor where
  resource := .ldapServer
  id := Resource.ldapServer.panelId
  label := Message.ldapConfiguration
  listFields :=
    [{ key := "hostname", label := Message.hostName, identifier := true },
      { key := "port", label := Message.ldapPort }]
  detailFields :=
    [{ key := "hostname", label := Message.hostName, identifier := true },
      { key := "port", label := Message.port }]
  actions :=
    [⟨.add, Message.configureLdap, some Message.confirmConfigureLdap, [hostnameInput, portInput]⟩,
      ⟨.remove, Message.removeLdap, some Message.confirmRemoveLdap, []⟩]

/-- The host name and the port of a new server. -/
def newServer (values : FieldValues) : Except PanelError (String × UInt16) := do
  Input.checkAll values [hostnameInput, portInput]
  let hostname ← hostnameInput.requiredText values
  let port ← portInput.requiredPort values
  pure (hostname, port)

/-- The outcome of an addition. -/
def added (s : LdapServer) : Outcome := (Outcome.ofRow s.toRow).signal (.refreshPanel .ldapServer)

variable {m : Type → Type} [Monad m]

/-- One page of servers; the search is for a part of the host name. -/
def list (c : Client m) (q : ListQuery) (size : UInt32) : ExceptT PanelError m (ListPage Row) := do
  let page ← Panel.remotely (c.listLdapServers ⟨q.page, size⟩ q.search)
  pure (page.map LdapServer.toRow)

/-- The server with a host name, from the first page of those whose names contain it. -/
def detail (c : Client m) (id : String) : ExceptT PanelError m Row := do
  let page ← Panel.remotely (c.listLdapServers ⟨1, Paging.maxSize⟩ (some id))
  match page.items.find? (·.hostname == id) with
  | some s => pure s.toRow
  | none => throw (.rowNotFound descriptor.id id)

/-- Add a server. -/
def add (c : Client m) (values : FieldValues) : ExceptT PanelError m Outcome := do
  let (hostname, port) ← Panel.checked (newServer values)
  let server ← Panel.remotely (c.addLdapServer hostname port)
  pure (added server)

/-- Remove the server with a host name. Who may log in changes with it, so all lists are out of
date. -/
def remove (c : Client m) (id : String) : ExceptT PanelError m Outcome := do
  Panel.remotely (c.deleteLdapServer id)
  pure (Outcome.signal {} .fullRefresh)

/-- The panel of a client. -/
def panel (c : Client m) : Panel m :=
  { Panel.listing descriptor (list c) with detail := detail c, add := add c, remove := remove c }

end SettingsConsole.Ldap
