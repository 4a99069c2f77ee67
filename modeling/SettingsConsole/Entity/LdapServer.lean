import SettingsConsole.Entity.Row
import SettingsConsole.Json.Decode

/-!
# LDAP servers

A directory server that accounts are checked against. Its host name identifies it.
-/

namespace SettingsConsole

/-- One LDAP server. -/
structure LdapServer where
  /-- The host name or address, which identifies the server. -/
  hostname : String
  /-- The network port. -/
  port : UInt16
  deriving DecidableEq, Repr

namespace LdapServer

open Decode in
/-- How an LDAP server is read. Both fields have to be given. -/
def shape : Shape LdapServer where
  name := "LdapConfiguration"
  size := 2
  ofMembers ms := do
    let hostname ← member ms "hostname" text
    let port ← member ms "port" portNumber.read
    let hostname ← required "hostname" hostname
    let port ← required "port" port
    pure ⟨hostname, port⟩
  ofItems vs whole := do
    let hostname ← item vs 0 whole text
    let port ← item vs 1 whole portNumber.read
    pure ⟨hostname, port⟩

/-- The row of an LDAP server. -/
def toRow (s : LdapServer) : Row :=
  Dict.ofList [("hostname", .str s.hostname), ("port", .ofNat s.port.toNat)]

/-- The object of an LDAP server. -/
def toJson (s : LdapServer) : Json := .ofDict s.toRow

end LdapServer

end SettingsConsole
