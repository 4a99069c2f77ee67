import SettingsConsole.Panel.Message

/-!
# Texts for message keys

A catalog gives the text of a message key in a language. A key without a text stands for itself, so
that a missing text shows.
-/

namespace SettingsConsole

/-- A language that the catalog knows. -/
inductive Language where
  | english
  deriving DecidableEq, Repr

namespace Language

/-- The code of a language. -/
def code : Language → String
  | english => "en-US"

/-- The language of a code. -/
def ofCode? (s : String) : Option Language :=
  if s = "en-US" ∨ s = "en" then some english else none

/-- The language of a code, or English. -/
def choose (s : String) : Language := (ofCode? s).getD english

end Language

namespace Catalog

/-- The English texts. -/
def english : List (String × String) :=
  [(Message.globalSettings, "Global Settings"),
    (Message.selectView, "Select view"),
    (Message.name, "Name"),
    (Message.description, "Description"),
    (Message.value, "Value"),
    (Message.changeValue, "Change value"),
    (Message.restartManagement,
      "Please restart your management server(s) for your new settings to take effect."),
    (Message.restartUsage,
      "Please restart your management server(s) and usage server(s) " ++
        "for your changes to take effect."),
    (Message.ldapConfiguration, "LDAP Configuration"),
    (Message.hostName, "Host Name"),
    (Message.ldapPort, "LDAP port"),
    (Message.port, "Port"),
    (Message.configureLdap, "Configure LDAP"),
    (Message.removeLdap, "Remove LDAP"),
    (Message.confirmConfigureLdap, "Please confirm you would like to configure LDAP."),
    (Message.confirmRemoveLdap, "Are you sure you want to delete the LDAP configuration?"),
    (Message.hypervisorCapabilities, "Hypervisor capabilities"),
    (Message.identifier, "ID"),
    (Message.hypervisor, "Hypervisor"),
    (Message.hypervisorVersion, "Hypervisor version"),
    (Message.maxGuests, "Max guest limit"),
    (Message.edit, "Edit"),
    (Message.noItems, "No Available Items"),
    (Message.cancelled, "Cancelled"),
    (Message.page, "Page"),
    (Message.refreshAll, "Other views in this section may have changed; refresh them.")]

/-- The texts of a language. -/
def texts : Language → List (String × String)
  | .english => english

/-- The text of a key, or the key itself. -/
def text (l : Language) (key : String) : String := ((texts l).lookup key).getD key

end Catalog

end SettingsConsole
