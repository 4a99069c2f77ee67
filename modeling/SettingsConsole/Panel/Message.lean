/-!
# Message keys

Panels carry keys, never the text that the user sees. These are the keys of all built-in texts.
-/

namespace SettingsConsole.Message

/-- The title of the section. -/
def globalSettings : String := "label.menu.global.settings"

/-- The title of the selector. -/
def selectView : String := "label.select-view"

/-! ## Settings -/

/-- The name of a setting. -/
def name : String := "label.name"

/-- What a setting does. -/
def description : String := "label.description"

/-- The value of a setting. -/
def value : String := "label.value"

/-- The title of the change of a value. -/
def changeValue : String := "label.change.value"

/-- The advice to restart the management server. -/
def restartManagement : String := "message.restart.mgmt.server"

/-- The advice to restart the management server and the usage server. -/
def restartUsage : String := "message.restart.mgmt.usage.server"

/-! ## LDAP servers -/

/-- The title of the panel of LDAP servers. -/
def ldapConfiguration : String := "label.ldap.configuration"

/-- The host name of a server. -/
def hostName : String := "label.host.name"

/-- The port of a server, in the list. -/
def ldapPort : String := "label.ldap.port"

/-- The port of a server. -/
def port : String := "label.port"

/-- The title of the addition of a server. -/
def configureLdap : String := "label.configure.ldap"

/-- The title of the removal of a server. -/
def removeLdap : String := "label.remove.ldap"

/-- The question before an addition. -/
def confirmConfigureLdap : String := "message.configure.ldap"

/-- The question before a removal. -/
def confirmRemoveLdap : String := "message.remove.ldap"

/-! ## Hypervisor capabilities -/

/-- The title of the panel of capabilities. -/
def hypervisorCapabilities : String := "label.hypervisor.capabilities"

/-- The identifier of an entry. -/
def identifier : String := "label.id"

/-- The kind of hypervisor. -/
def hypervisor : String := "label.hypervisor"

/-- The version of a hypervisor. -/
def hypervisorVersion : String := "label.hypervisor.version"

/-- The most guests that a host may run. -/
def maxGuests : String := "label.max.guest.limit"

/-- The title of a change of an entry. -/
def edit : String := "label.edit"

/-! ## The terminal -/

/-- What is shown for an empty list. -/
def noItems : String := "label.no.items"

/-- What is shown after the user declined. -/
def cancelled : String := "label.action.cancelled"

/-- What stands before the number of a page. -/
def page : String := "label.page"

/-- What is shown if all lists are out of date. -/
def refreshAll : String := "message.refresh.all"

end SettingsConsole.Message
