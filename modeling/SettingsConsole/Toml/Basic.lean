/-!
# TOML documents

A document is a table: keys with values, where a value may be a table again. How a table came about
decides what may be added to it: one from a header takes no second header, one from dotted keys
takes further dotted keys, and one written in braces takes nothing.
-/

namespace SettingsConsole

/-- How a table came about. -/
inductive Toml.Origin where
  /-- By its own header. -/
  | header
  /-- By the header of a table inside it. -/
  | implied
  /-- By a dotted key. -/
  | dotted
  /-- By braces. -/
  | braces
  deriving DecidableEq, Repr

/-- A value of a document. -/
inductive Toml where
  | text (s : String)
  | integer (n : Int)
  /-- A number with a fraction or an exponent, or one that is not finite. -/
  | float
  | boolean (b : Bool)
  /-- A date, a time, or both. -/
  | moment
  | array (items : List Toml)
  | table (origin : Toml.Origin) (members : List (String × Toml))
  /-- The tables of repeated headers in double brackets. -/
  | tables (elements : List (List (String × Toml)))
  deriving Inhabited

namespace Toml

/-- The keys of a table with their values, in order. -/
abbrev Members := List (String × Toml)

/-- Set the value of a key, which keeps its place if it is there. -/
def setMember (key : String) (v : Toml) : Members → Members
  | [] => [(key, v)]
  | (k, w) :: rest => if k = key then (key, v) :: rest else (k, w) :: setMember key v rest

/-- Change the last element of a list that has one. -/
def changeLast {α : Type} (f : α → Option α) : List α → Option (List α)
  | [] => none
  | [a] => (f a).map ([·])
  | a :: b :: rest => (changeLast f (b :: rest)).map (a :: ·)

/-- Add a value under a dotted key. -/
def addValue (v : Toml) : List String → Members → Option Members
  | [], _ => none
  | [key], ms => if (ms.lookup key).isSome then none else some (setMember key v ms)
  | key :: next :: rest, ms =>
    match ms.lookup key with
    | none => (addValue v (next :: rest) []).map fun sub => setMember key (table .dotted sub) ms
    | some (table .dotted sub) =>
      (addValue v (next :: rest) sub).map fun sub => setMember key (table .dotted sub) ms
    | some (table .implied sub) =>
      if rest.isEmpty then none
      else (addValue v (next :: rest) sub).map fun sub => setMember key (table .implied sub) ms
    | some (tables es) =>
      if rest.isEmpty then none
      else (changeLast (addValue v (next :: rest)) es).map fun es => setMember key (tables es) ms
    | some _ => none

/-- Change the table under a path. Tables on the way that are not there come about by this. -/
def inside (f : Members → Option Members) : List String → Members → Option Members
  | [], ms => f ms
  | key :: rest, ms =>
    match ms.lookup key with
    | none => (inside f rest []).map fun sub => setMember key (table .implied sub) ms
    | some (table .braces _) => none
    | some (table origin sub) =>
      (inside f rest sub).map fun sub => setMember key (table origin sub) ms
    | some (tables es) =>
      (changeLast (inside f rest) es).map fun es => setMember key (tables es) ms
    | some _ => none

/-- Open a table by its header. -/
def openTable (key : String) (ms : Members) : Option Members :=
  match ms.lookup key with
  | none => some (setMember key (table .header []) ms)
  | some (table .implied sub) => some (setMember key (table .header sub) ms)
  | some _ => none

/-- Open a further element of an array of tables by its header. -/
def openElement (key : String) (ms : Members) : Option Members :=
  match ms.lookup key with
  | none => some (setMember key (tables [[]]) ms)
  | some (tables es) => some (setMember key (tables (es ++ [[]])) ms)
  | some _ => none

end Toml

end SettingsConsole
