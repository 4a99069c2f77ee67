/-!
# Remote operations

The operations of the management server that the console uses. Each has a command name, and the
name under which the server nests its answer.
-/

namespace SettingsConsole

/-- An operation of the management server. -/
inductive Operation where
  | listSettings
  | updateSetting
  | listLdapServers
  | addLdapServer
  | deleteLdapServer
  | listHypervisors
  | updateHypervisor
  deriving DecidableEq, Repr

namespace Operation

/-- All operations. -/
def all : List Operation :=
  [listSettings, updateSetting, listLdapServers, addLdapServer, deleteLdapServer, listHypervisors,
    updateHypervisor]

/-- The command name of an operation. -/
def name : Operation → String
  | listSettings => "listConfigurations"
  | updateSetting => "updateConfiguration"
  | listLdapServers => "listLdapConfigurations"
  | addLdapServer => "addLdapConfiguration"
  | deleteLdapServer => "deleteLdapConfiguration"
  | listHypervisors => "listHypervisorCapabilities"
  | updateHypervisor => "updateHypervisorCapabilities"

/-- The member of an answer that holds all of it. The LDAP operations share one. -/
def envelope : Operation → String
  | listSettings => "listconfigurationsresponse"
  | updateSetting => "updateconfigurationresponse"
  | listLdapServers | addLdapServer | deleteLdapServer => "ldapconfigurationresponse"
  | listHypervisors => "listhypervisorcapabilitiesresponse"
  | updateHypervisor => "updatehypervisorcapabilitiesresponse"

/-- The operation of a command name. -/
def ofName? (s : String) : Option Operation := all.find? fun o => o.name == s

/-- Every operation is listed. -/
theorem mem_all (o : Operation) : o ∈ all := by cases o <;> decide

/-- A command name leads back to its operation. -/
theorem ofName?_name (o : Operation) : ofName? o.name = some o := by cases o <;> decide

end Operation

end SettingsConsole
