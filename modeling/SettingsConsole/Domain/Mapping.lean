import SettingsConsole.Domain.Excluded
import SettingsConsole.Domain.Replacement
import SettingsConsole.Unicode.Composition

/-!
# One spelling for every domain

Domains that differ only in the case, the shape or the composition of their characters are the
same. Mapping a domain replaces its characters and composes what comes out; a text that mapping
leaves as it is, is settled.
-/

namespace SettingsConsole.Domain

open Text Unicode

/-- What a character counts as: one character, several, nothing, or none if no domain holds it. -/
def image? (c : Char) : Option (List Char) :=
  if c.toNat < 128 then some [asciiLowerChar c]
  else
    match shifts.findSome? (·.move? c) with
    | some d => some [d]
    | none =>
      match replacements.findSome? (·.text? c) with
      | some ds => some ds
      | none =>
        if ignored.has c then some [] else if excluded.has c then none else some [c]

/-- The spelling that a domain has after mapping. -/
def map? (cs : List Char) : Option (List Char) :=
  (cs.mapM image?).map fun images => compose images.flatten

/-- Whether mapping leaves a text as it is. -/
def isSettled (cs : List Char) : Bool := cs.all (fun c => image? c == some [c]) && compose cs == cs

/-- A character of ASCII counts as its lower case. -/
theorem image?_of_ascii {c : Char} (h : c.toNat < 128) : image? c = some [asciiLowerChar c] := by
  simp [image?, h]

end SettingsConsole.Domain
