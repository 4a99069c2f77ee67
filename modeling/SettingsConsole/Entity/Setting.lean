import SettingsConsole.Entity.Row
import SettingsConsole.Json.Decode

/-!
# Global settings

A setting is a named value of the management server. Its name identifies it.
-/

namespace SettingsConsole

/-- One global setting. -/
structure Setting where
  /-- The name, which identifies the setting. -/
  name : String
  /-- The group the setting belongs to. -/
  category : String
  /-- The present value, if the setting has one. -/
  value : Option String
  description : Option String
  /-- The kind of object a scoped setting applies to. -/
  scope : Option String
  /-- Whether a change takes effect without a restart. -/
  dynamic : Option Bool
  deriving DecidableEq, Repr

namespace Setting

/-- The category of the settings that the usage server reads. -/
def usageCategory : String := "Usage"

/-- Whether the usage server reads the setting. -/
def isUsage (s : Setting) : Bool := s.category = usageCategory

open Decode in
/-- How a setting is read. Only its name has to be given. -/
def shape : Shape Setting where
  name := "Configuration"
  size := 6
  ofMembers ms := do
    let category ← member ms "category" text
    let description ← member ms "description" (nullable text)
    let dynamic ← member ms "isdynamic" (nullable boolean)
    let name ← member ms "name" text
    let scope ← member ms "scope" (nullable text)
    let value ← member ms "value" (nullable text)
    let name ← required "name" name
    pure ⟨name, category.getD "", value.join, description.join, scope.join, dynamic.join⟩
  ofItems vs whole := do
    let name ← item vs 0 whole text
    let category ← itemOr vs 1 "" text
    let value ← itemOr vs 2 none (nullable text)
    let description ← itemOr vs 3 none (nullable text)
    let scope ← itemOr vs 4 none (nullable text)
    let dynamic ← itemOr vs 5 none (nullable boolean)
    pure ⟨name, category, value, description, scope, dynamic⟩

/-- The row of a setting. -/
def toRow (s : Setting) : Row :=
  Dict.ofList <|
    [("name", .str s.name), ("category", .str s.category)] ++ Row.optional "value" .str s.value ++
      Row.optional "description" .str s.description ++ Row.optional "scope" .str s.scope ++
      Row.optional "isdynamic" .bool s.dynamic

/-- The object of a setting. -/
def toJson (s : Setting) : Json := .ofDict s.toRow

end Setting

end SettingsConsole
