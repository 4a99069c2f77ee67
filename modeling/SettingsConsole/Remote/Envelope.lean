import SettingsConsole.Entity.HypervisorCapability
import SettingsConsole.Entity.LdapServer
import SettingsConsole.Entity.Setting
import SettingsConsole.Remote.Failure
import SettingsConsole.Remote.Operation
import SettingsConsole.Remote.Paging

/-!
# Reading answers

The server nests an answer under the envelope of the operation, and in it under a key of its own.
An answer without them is a mismatch, never an empty or partial result; only a list may be empty
without its key, if there is nothing else in the envelope but a count of zero.
-/

namespace SettingsConsole

/-- Where the answer of an operation is found, and what it holds. -/
structure Schema (α : Type) where
  operation : Operation
  /-- The key inside the envelope. -/
  key : String
  /-- How an entity of the answer is read. -/
  entity : Decode.Shape α

namespace Schema

/-- The answer to a listing of settings. -/
def listSettings : Schema Setting := ⟨.listSettings, "configuration", Setting.shape⟩

/-- The answer to a change of a setting. -/
def updateSetting : Schema Setting := ⟨.updateSetting, "configuration", Setting.shape⟩

/-- The answer to a listing of LDAP servers. -/
def listLdapServers : Schema LdapServer := ⟨.listLdapServers, "LdapConfiguration", LdapServer.shape⟩

/-- The answer to the addition of an LDAP server. -/
def addLdapServer : Schema LdapServer := ⟨.addLdapServer, "LdapAddConfiguration", LdapServer.shape⟩

/-- The answer to a listing of capability entries. -/
def listHypervisors : Schema HypervisorCapability :=
  ⟨.listHypervisors, "hypervisorCapabilities", HypervisorCapability.shape⟩

/-- The answer to a change of a capability entry. The server nests the entry under a member that
is really named `null`. -/
def updateHypervisor : Schema HypervisorCapability :=
  ⟨.updateHypervisor, "null", HypervisorCapability.shape⟩

end Schema

/-- The members inside the envelope of an answer. -/
def envelope (op : Operation) (v : Json) : Except RemoteError (List (String × Json)) :=
  match (v.get? op.envelope).bind Json.members? with
  | some ms => .ok ms
  | none => .error (.envelopeMismatch op.name op.envelope op.envelope)

/-- Insist on the envelope of an answer whose contents are not used. -/
def expectEnvelope (op : Operation) (v : Json) : Except RemoteError Unit := do
  let _ ← envelope op v

namespace Schema

variable {α : Type}

/-- The failure of an answer without its key. -/
def mismatch (s : Schema α) : RemoteError :=
  .envelopeMismatch s.operation.name s.operation.envelope s.key

/-- The failure of an answer whose contents do not decode. -/
def unreadable (s : Schema α) (f : Decode.Fault) : RemoteError :=
  .parse s.operation.name f.message

/-- Read one page of a list. -/
def decodeList (s : Schema α) (v : Json) : Except RemoteError (ListPage α) := do
  let ms ← envelope s.operation v
  let count := (ms.lookup "count").bind Json.word32?
  match ms.lookup s.key with
  | none =>
    if ms.isEmpty ∨ (ms.length = 1 ∧ count = some 0) then pure .empty else throw s.mismatch
  | some items =>
    match Decode.items s.entity.read items with
    | .ok items => pure ⟨items, count⟩
    | .error f => throw (s.unreadable f)

/-- Read a single entity. -/
def decodeSingle (s : Schema α) (v : Json) : Except RemoteError α := do
  let ms ← envelope s.operation v
  match ms.lookup s.key with
  | none => throw s.mismatch
  | some entity =>
    match s.entity.read entity with
    | .ok a => pure a
    | .error f => throw (s.unreadable f)

end Schema

end SettingsConsole
