import SettingsConsole.Json.Basic

/-!
# Rows

A row is what a table or a detail view shows of one entity: a JSON value for each field name.
Fields without a value are left out.
-/

namespace SettingsConsole

/-- The fields of one entity, by name. -/
abbrev Row := Dict Json

namespace Row

/-- The member of a field that may have no value. -/
def optional {α : Type} (key : String) (toJson : α → Json) : Option α → List (String × Json)
  | some a => [(key, toJson a)]
  | none => []

end Row

end SettingsConsole
