import SettingsConsole.Panel.Resource

/-!
# Navigation

Where the user is: in a section, with one of its resource types selected or none.
-/

namespace SettingsConsole

/-- Where the user is. -/
structure Navigation where
  sectionId : String
  selection : Option Resource
  deriving DecidableEq, Repr

namespace Navigation

/-- Enter a section. Nothing is selected. -/
def enter (sectionId : String) : Navigation := ⟨sectionId, none⟩

/-- Select a resource type. -/
def select (n : Navigation) (r : Resource) : Navigation := { n with selection := some r }

/-- Select nothing. -/
def clear (n : Navigation) : Navigation := { n with selection := none }

end Navigation

end SettingsConsole
