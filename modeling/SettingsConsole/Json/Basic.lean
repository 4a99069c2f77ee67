import SettingsConsole.Decimal
import SettingsConsole.Dict

/-!
# JSON values

Whole numbers and decimal fractions are kept apart: `1` and `1.0` are different values. The
members of an object stand in the order of their keys, each key once.
-/

namespace SettingsConsole

/-- A JSON value. -/
inductive Json where
  | null
  | bool (b : Bool)
  | int (n : Int)
  | decimal (d : Decimal)
  | str (s : String)
  | arr (items : List Json)
  | obj (members : List (String × Json))
  deriving Inhabited

namespace Json

/-- The object with the members of a dictionary. -/
def ofDict (d : Dict Json) : Json := .obj d.toList

/-- The object with these members; the last member of a key counts. -/
def object (members : List (String × Json)) : Json := ofDict (Dict.ofList members)

/-- The members of an object. -/
def members? : Json → Option (List (String × Json))
  | obj members => some members
  | _ => none

/-- A member of an object; other values have none. -/
def get? (v : Json) (key : String) : Option Json :=
  match v with
  | obj members => members.lookup key
  | _ => none

/-- The text of a string. -/
def text? : Json → Option String
  | str s => some s
  | _ => none

/-- A whole number of at most 32 bits without a sign. -/
def word32? : Json → Option UInt32
  | int n => if 0 ≤ n ∧ n ≤ 4294967295 then some (UInt32.ofNat n.toNat) else none
  | _ => none

/-- A text, or null for none. -/
def ofText? : Option String → Json
  | some s => str s
  | none => null

/-- A natural number. -/
def ofNat (n : Nat) : Json := int n

end Json

end SettingsConsole
