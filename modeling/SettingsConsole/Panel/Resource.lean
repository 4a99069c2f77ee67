/-!
# Resource types

What the section shows: global settings, LDAP servers and hypervisor capabilities. There is a panel
for each.
-/

namespace SettingsConsole

/-- What a panel shows. -/
inductive Resource where
  | setting
  | ldapServer
  | hypervisor
  deriving DecidableEq, Repr

namespace Resource

/-- All resource types, in the order of the selector. -/
def all : List Resource := [setting, ldapServer, hypervisor]

/-- The identifier of the panel of a resource type. -/
def panelId : Resource → String
  | setting => "globalSettings"
  | ldapServer => "ldapConfiguration"
  | hypervisor => "hypervisorCapabilities"

/-- The name of a resource type. -/
def name : Resource → String
  | setting => "globalSetting"
  | ldapServer => "ldapConfiguration"
  | hypervisor => "hypervisorCapability"

/-- The name of a resource type in diagnostics. -/
def title : Resource → String
  | setting => "GlobalSetting"
  | ldapServer => "LdapConfiguration"
  | hypervisor => "HypervisorCapability"

/-- The resource type of a name. -/
def ofName? (s : String) : Option Resource := all.find? fun r => r.name == s

/-- Different resource types have different panels. -/
theorem panelId_inj {a b : Resource} : a.panelId = b.panelId ↔ a = b := by
  cases a <;> cases b <;> decide

end Resource

end SettingsConsole
