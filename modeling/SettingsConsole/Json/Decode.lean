import SettingsConsole.Json.Basic
import SettingsConsole.Text.Blank
import SettingsConsole.Text.Numeral
import SettingsConsole.Text.Quoted
import SettingsConsole.Text.Split

/-!
# Decoding JSON values

Readers take a JSON value to a value of a given type, or name the first fault. A record is read
from an object, by its member names, or from an array, by position. Numbers may also be given as
texts.
-/

namespace SettingsConsole.Decode

open Text

/-- Why a JSON value does not decode. -/
inductive Fault where
  /-- A value has another shape than the expected one. -/
  | shape (found : Json) (expected : String)
  /-- A whole number is outside the range of the expected type. -/
  | range (found : Int) (expected : String)
  /-- A whole number does not fit a field that also takes numeric texts. -/
  | numberRange (found : Int)
  /-- A text is no numeral of the expected type. -/
  | numeral (text : String)
  /-- A value is neither a whole number nor a text. -/
  | neither
  /-- A member is not there. -/
  | missing (key : String)
  /-- An array has another length than the expected one. -/
  | length (found : Nat) (expected : String)
  /-- A name is none of the known ones. -/
  | unknown (name : String) (known : List String)

/-- What kind of value was found, with the value itself if it is a simple one. -/
def describe : Json → String
  | .null => "null"
  | .bool b => s!"boolean `{b}`"
  | .int n => s!"integer `{n}`"
  | .decimal d => s!"floating point `{d.toText}`"
  | .str s => s!"string {quote s}"
  | .arr _ => "sequence"
  | .obj _ => "map"

/-- The words for a fault. -/
def Fault.message : Fault → String
  | shape found expected => s!"invalid type: {describe found}, expected {expected}"
  | range found expected => s!"invalid value: integer `{found}`, expected {expected}"
  | numberRange found => s!"number out of range: {found}"
  | numeral text => s!"not a number: {quote text}"
  | neither => "data did not match any variant of untagged enum NumberOrString"
  | missing key => s!"missing field `{key}`"
  | length found expected => s!"invalid length {found}, expected {expected}"
  | unknown name known =>
    s!"unknown variant `{name}`, expected one of " ++ join ", " (known.map fun k => s!"`{k}`")

/-- Read a text. -/
def text : Json → Except Fault String
  | .str s => .ok s
  | v => .error (.shape v "a string")

/-- Read a truth value. -/
def boolean : Json → Except Fault Bool
  | .bool b => .ok b
  | v => .error (.shape v "a boolean")

/-- Read null as nothing and any other value with `read`. -/
def nullable {α : Type} (read : Json → Except Fault α) : Json → Except Fault (Option α)
  | .null => .ok none
  | v => (read v).map some

/-- Read a whole number from `0` to `limit`. -/
def natural (limit : Nat) (expected : String) : Json → Except Fault Nat
  | .int n => if 0 ≤ n ∧ n ≤ limit then .ok n.toNat else .error (.range n expected)
  | v => .error (.shape v expected)

/-- Read every item of an array, in order. -/
def items {α : Type} (read : Json → Except Fault α) : Json → Except Fault (List α)
  | .arr vs => vs.mapM read
  | v => .error (.shape v "a sequence")

/-- A type of whole numbers that are given as numbers or as texts. -/
structure Numeric (α : Type) where
  /-- The value of a whole number, if it fits the type. -/
  ofInt? : Int → Option α
  /-- The value of a numeral, if it fits the type. -/
  ofText? : String → Option α

/-- Network ports. -/
def portNumber : Numeric UInt16 where
  ofInt? n := if 0 ≤ n ∧ n ≤ 65535 then some (UInt16.ofNat n.toNat) else none
  ofText? s := (Numeral.word16 s).toOption

/-- The least number of 64 bits. -/
def minInt64 : Int := -9223372036854775808

/-- The greatest number of 64 bits. -/
def maxInt64 : Int := 9223372036854775807

/-- Limits, which are signed numbers of 64 bits. -/
def limitNumber : Numeric Int64 where
  ofInt? n := some (Int64.ofInt n)
  ofText? s := (Numeral.int64 s).toOption

/-- Read a number that is given as a number or as a text with white space around it. -/
def Numeric.read {α : Type} (t : Numeric α) : Json → Except Fault α
  | .int n =>
    if minInt64 ≤ n ∧ n ≤ maxInt64 then
      match t.ofInt? n with
      | some a => .ok a
      | none => .error (.numberRange n)
    else .error .neither
  | .str s =>
    match t.ofText? (trim s) with
    | some a => .ok a
    | none => .error (.numeral s)
  | _ => .error .neither

/-- Read a number as `read` does, and null or a blank text as nothing. -/
def Numeric.readOption {α : Type} (t : Numeric α) : Json → Except Fault (Option α)
  | .null => .ok none
  | .str s => if isBlank s then .ok none else (t.read (.str s)).map some
  | v => (t.read v).map some

/-! ## Records -/

/-- Read a member of an object if it is there. -/
def member {α : Type} (members : List (String × Json)) (key : String)
    (read : Json → Except Fault α) : Except Fault (Option α) :=
  match members.lookup key with
  | some v => (read v).map some
  | none => .ok none

/-- Insist on a member. -/
def required {α : Type} (key : String) : Option α → Except Fault α
  | some a => .ok a
  | none => .error (.missing key)

/-- Read the item of an array at a position; `whole` describes the record. -/
def item {α : Type} (vs : List Json) (position : Nat) (whole : String)
    (read : Json → Except Fault α) : Except Fault α :=
  match vs[position]? with
  | some v => read v
  | none => .error (.length position whole)

/-- Read the item of an array at a position if the array is long enough. -/
def itemOr {α : Type} (vs : List Json) (position : Nat) (absent : α)
    (read : Json → Except Fault α) : Except Fault α :=
  match vs[position]? with
  | some v => read v
  | none => .ok absent

/-- Insist that an array has `size` items at most. -/
def atMost (vs : List Json) (size : Nat) (expected : String) : Except Fault Unit :=
  if vs.length ≤ size then .ok () else .error (.length vs.length expected)

/-- How the record type `α` is read. -/
structure Shape (α : Type) where
  /-- The name of the type. -/
  name : String
  /-- The number of fields. -/
  size : Nat
  /-- Read a record from the members of an object, in the order of their keys. Members that
  should be there and are not are faults of the last rank. -/
  ofMembers : List (String × Json) → Except Fault α
  /-- Read a record from the items of an array. The text describes the record. -/
  ofItems : List Json → String → Except Fault α

/-- Read a record. -/
def Shape.read {α : Type} (s : Shape α) : Json → Except Fault α
  | .obj members => s.ofMembers members
  | .arr vs => do
    let r ← s.ofItems vs s!"struct {s.name} with {s.size} elements"
    atMost vs s.size "fewer elements in array"
    pure r
  | v => .error (.shape v s!"struct {s.name}")

end SettingsConsole.Decode
