import SettingsConsole.Panel.Hypervisors
import SettingsConsole.Panel.Ldap
import SettingsConsole.Panel.Settings

/-!
# Registries

The panels of one section, in the order of its selector. Every descriptor is valid and no two
panels show the same resource type.
-/

namespace SettingsConsole

/-- The panels of one section. -/
structure Registry (m : Type → Type) where
  id : String
  /-- The message key of the title. -/
  title : String
  /-- The message key of the selector. -/
  selector : String
  panels : List (Panel m)

namespace Registry

variable {m : Type → Type}

/-- Check the descriptors of panels; `seen` holds the resource types before. -/
def checkDescriptors (seen : List Resource) : List Descriptor → Except PanelError Unit
  | [] => .ok ()
  | d :: ds => do
    d.validate
    if d.resource ∈ seen then throw (.invalidDescriptor d.id "resource type registered twice")
    checkDescriptors (d.resource :: seen) ds

/-- The section with these panels, unless one of them is declared wrongly. -/
def build (id title selector : String) (panels : List (Panel m)) :
    Except PanelError (Registry m) := do
  checkDescriptors [] (panels.map (·.descriptor))
  pure ⟨id, title, selector, panels⟩

/-- The panel of a resource type. -/
def get (r : Registry m) (resource : Resource) : Except PanelError (Panel m) :=
  match r.panels.find? (·.descriptor.resource = resource) with
  | some p => .ok p
  | none => .error (.unknownPanel resource.panelId)

/-- The panel with an identifier. -/
def find (r : Registry m) (panelId : String) : Except PanelError (Panel m) :=
  match r.panels.find? (·.descriptor.id = panelId) with
  | some p => .ok p
  | none => .error (.unknownPanel panelId)

/-- The identifier of the section of global settings. -/
def standardId : String := "global-settings"

/-- The panels of the section of global settings. -/
def standardPanels [Monad m] (c : Client m) : List (Panel m) :=
  [Settings.panel c, Ldap.panel c, Hypervisors.panel c]

/-- The section of global settings. -/
def standard [Monad m] (c : Client m) : Registry m :=
  ⟨standardId, Message.globalSettings, Message.selectView, standardPanels c⟩

/-- The section of global settings is declared properly. -/
theorem build_standardPanels [Monad m] (c : Client m) :
    build standardId Message.globalSettings Message.selectView (standardPanels c) =
      .ok (standard c) :=
  rfl

end Registry

end SettingsConsole
