import SettingsConsole.Domain.Label
import SettingsConsole.Text.Split

/-!
# Names of domains

The form of a domain name that holds ASCII characters only, in which names are compared and looked
up. A name that breaks a rule for its labels has none.
-/

namespace SettingsConsole.Domain

open Text

/-- Whether the labels of a domain keep to one direction each, if that matters. -/
def keepDirections (labels : List Label) : Bool :=
  !(labels.any fun l => l.text.any turns) || labels.all fun l => keepsDirection l.text

/-- The form of a domain name in ASCII. -/
def toAscii? (cs : List Char) : Option (List Char) := do
  let labels ← (splitChars '.' (← map? cs)).mapM Label.ofText?
  if keepDirections labels then some (['.'].intercalate (labels.map (·.ascii))) else none

/-- Upper case counts as lower case, and a name in ASCII is kept. -/
example : toAscii? "Console.Example.".toList = some "console.example.".toList := by decide +kernel

end SettingsConsole.Domain
