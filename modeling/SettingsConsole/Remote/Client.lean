import SettingsConsole.Remote.Envelope
import SettingsConsole.Remote.Params

/-!
# The client of the management server

Each request builds its parameters, makes one remote call and reads the answer. How the call
reaches the server is left open.
-/

namespace SettingsConsole

/-- A way to make remote calls. -/
structure Client (m : Type → Type) where
  /-- Make one call. -/
  call : Operation → Params → ExceptT RemoteError m Json

/-- What a listing of capability entries is restricted to. -/
structure HypervisorFilter where
  id : Option String
  keyword : Option String

namespace Client

variable {m : Type → Type} [Monad m]

/-- The parameters that ask for a page. -/
def paged (p : Paging) : Params :=
  Params.word (Params.word Dict.empty "page" p.page) "pagesize" p.size

/-- One page of the settings whose names contain a text. -/
def listSettings (c : Client m) (p : Paging) (name : Option String) :
    ExceptT RemoteError m (ListPage Setting) := do
  let v ← c.call .listSettings ((paged p).insertSome "name" (name.map .text))
  ExceptT.mk (pure (Schema.listSettings.decodeList v))

/-- Change the value of a setting. The answer is the setting as it is now. -/
def updateSetting (c : Client m) (name value : String) : ExceptT RemoteError m Setting := do
  let v ← c.call .updateSetting (Params.text (Params.text Dict.empty "name" name) "value" value)
  ExceptT.mk (pure (Schema.updateSetting.decodeSingle v))

/-- One page of the LDAP servers whose host names contain a text. -/
def listLdapServers (c : Client m) (p : Paging) (hostname : Option String) :
    ExceptT RemoteError m (ListPage LdapServer) := do
  let v ← c.call .listLdapServers ((paged p).insertSome "hostname" (hostname.map .text))
  ExceptT.mk (pure (Schema.listLdapServers.decodeList v))

/-- Add an LDAP server. -/
def addLdapServer (c : Client m) (hostname : String) (port : UInt16) :
    ExceptT RemoteError m LdapServer := do
  let v ← c.call .addLdapServer
    (Params.word (Params.text Dict.empty "hostname" hostname) "port" port.toUInt32)
  ExceptT.mk (pure (Schema.addLdapServer.decodeSingle v))

/-- Delete an LDAP server. -/
def deleteLdapServer (c : Client m) (hostname : String) : ExceptT RemoteError m Unit := do
  let v ← c.call .deleteLdapServer (Params.text Dict.empty "hostname" hostname)
  ExceptT.mk (pure (expectEnvelope .deleteLdapServer v))

/-- One page of the capability entries that a filter leaves. -/
def listHypervisors (c : Client m) (p : Paging) (filter : HypervisorFilter) :
    ExceptT RemoteError m (ListPage HypervisorCapability) := do
  let v ← c.call .listHypervisors
    (((paged p).insertSome "id" (filter.id.map .text)).insertSome "keyword"
      (filter.keyword.map .text))
  ExceptT.mk (pure (Schema.listHypervisors.decodeList v))

/-- Change the guest limit of a capability entry. The answer is the entry as it is now. -/
def updateHypervisor (c : Client m) (id : String) (limit : Int64) :
    ExceptT RemoteError m HypervisorCapability := do
  let v ← c.call .updateHypervisor
    (Params.number (Params.text Dict.empty "id" id) "maxguestslimit" limit)
  ExceptT.mk (pure (Schema.updateHypervisor.decodeSingle v))

end Client

end SettingsConsole
