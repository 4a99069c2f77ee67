import SettingsConsole.Json.Basic
import SettingsConsole.Text.Ascii

/-!
# Reading JSON text

A document is one value with white space around it. Objects and arrays nest 127 deep at most. A
number with a fraction or an exponent is a decimal, as is minus zero and any whole number outside
64 bits; a number too large for double precision is refused. Digits that do not fit into 64 bits
count by their places only. Of members with one key the last one counts, and half a surrogate pair
is no character.
-/

namespace SettingsConsole.Json

open Text

/-- How deep arrays and objects may nest. -/
def maxDepth : Nat := 127

/-- Skip the white space of JSON. -/
def skipWhite : List Char → List Char
  | [] => []
  | c :: cs => if c = ' ' ∨ c = '\n' ∨ c = '\t' ∨ c = '\r' then skipWhite cs else c :: cs

/-- The value of four hexadecimal digits. -/
def hexUnit? (a b c d : Char) : Option Nat :=
  match hexValue? a, hexValue? b, hexValue? c, hexValue? d with
  | some a, some b, some c, some d => some (((a * 16 + b) * 16 + c) * 16 + d)
  | _, _, _, _ => none

/-- The character of a one-letter escape. -/
def shortEscape? (c : Char) : Option Char :=
  if c = '"' ∨ c = '\\' ∨ c = '/' then some c
  else if c = 'b' then some (Char.ofNat 8)
  else if c = 'f' then some (Char.ofNat 12)
  else if c = 'n' then some '\n'
  else if c = 'r' then some '\r'
  else if c = 't' then some '\t'
  else none

/-- The character of two surrogate halves. -/
def pairChar (high low : Nat) : Char :=
  Char.ofNat (0x10000 + (high - 0xD800) * 0x400 + (low - 0xDC00))

/-- Read the rest of a string after its opening quote; `done` holds the characters before, last
one first. -/
def stringBody (done : List Char) : List Char → Option (String × List Char)
  | [] => none
  | '"' :: rest => some (String.ofList done.reverse, rest)
  | '\\' :: 'u' :: a :: b :: c :: d :: rest =>
    match hexUnit? a b c d with
    | none => none
    | some n =>
      if 0xD800 ≤ n ∧ n < 0xDC00 then
        match rest with
        | '\\' :: 'u' :: e :: f :: g :: h :: rest =>
          match hexUnit? e f g h with
          | some m =>
            if 0xDC00 ≤ m ∧ m < 0xE000 then stringBody (pairChar n m :: done) rest else none
          | none => none
        | _ => none
      else if 0xDC00 ≤ n ∧ n < 0xE000 then none
      else stringBody (Char.ofNat n :: done) rest
  | '\\' :: c :: rest =>
    match shortEscape? c with
    | some e => stringBody (e :: done) rest
    | none => none
  | c :: rest => if c.toNat < 32 then none else stringBody (c :: done) rest

/-- The value of a run of digits. -/
def ofDigits (ds : List Char) : Nat := ds.foldl (fun n d => n * 10 + digitValue d) 0

/-- Read the exponent of a number, if there is one. -/
def exponent : List Char → Option (Option Int × List Char)
  | c :: cs =>
    if c = 'e' ∨ c = 'E' then
      let (negative, cs) : Bool × List Char :=
        match cs with
        | '-' :: r => (true, r)
        | '+' :: r => (false, r)
        | r => (false, r)
      let ds := cs.takeWhile isAsciiDigit
      if ds.isEmpty then none
      else
        let e : Int := ofDigits ds
        some (some (if negative then -e else e), cs.dropWhile isAsciiDigit)
    else some (none, c :: cs)
  | [] => some (none, [])

/-- Read the fraction of a number, if there is one. -/
def fraction : List Char → Option (Option (List Char) × List Char)
  | '.' :: cs =>
    let ds := cs.takeWhile isAsciiDigit
    if ds.isEmpty then none else some (some ds, cs.dropWhile isAsciiDigit)
  | cs => some (none, cs)

/-- Append digits to a number as long as it fits into 64 bits. The result is the number, and how
many digits are left. -/
def significand (m : Nat) : List Char → Nat × Nat
  | [] => (m, 0)
  | d :: ds =>
    let n := m * 10 + digitValue d
    if n ≤ 18446744073709551615 then significand n ds else (m, ds.length + 1)

/-- The decimal with some digits before and after the point. Digits that are left before the point
raise the exponent, and those that are taken after it lower the exponent. -/
def pointNumber (negative : Bool) (ds fs : List Char) (exp : Int) : Option Json :=
  let (m, left) := significand 0 ds
  let (m, unread) := significand m fs
  (Decimal.ofParts negative m (exp + left - (fs.length - unread : Nat))).map decimal

/-- The value of a number without fraction and exponent. -/
def wholeNumber (negative : Bool) (ds : List Char) : Option Json :=
  let n := ofDigits ds
  if negative = true ∧ 0 < n ∧ n ≤ 9223372036854775808 then some (int (-(n : Int)))
  else if negative = false ∧ n ≤ 18446744073709551615 then some (int n)
  else pointNumber negative ds [] 0

/-- Read a number after its sign. -/
def number (negative : Bool) (cs : List Char) : Option (Json × List Char) := do
  let ds := cs.takeWhile isAsciiDigit
  let rest := cs.dropWhile isAsciiDigit
  if ds.isEmpty ∨ (ds.head? = some '0' ∧ 1 < ds.length) then none
  else
    let (frac, rest) ← fraction rest
    let (exp, rest) ← exponent rest
    match frac, exp with
    | none, none =>
      let v ← wholeNumber negative ds
      pure (v, rest)
    | _, _ =>
      let v ← pointNumber negative ds (frac.getD []) (exp.getD 0)
      pure (v, rest)

mutual

/-- Read a value. Every step uses one unit of `fuel`; `depth` more arrays and objects may be
opened. -/
def value (fuel depth : Nat) (cs : List Char) : Option (Json × List Char) :=
  match fuel with
  | 0 => none
  | fuel + 1 =>
    match skipWhite cs with
    | 'n' :: 'u' :: 'l' :: 'l' :: rest => some (null, rest)
    | 't' :: 'r' :: 'u' :: 'e' :: rest => some (bool true, rest)
    | 'f' :: 'a' :: 'l' :: 's' :: 'e' :: rest => some (bool false, rest)
    | '"' :: rest => (stringBody [] rest).map fun (s, rest) => (str s, rest)
    | '-' :: rest => number true rest
    | '[' :: rest =>
      match depth with
      | 0 => none
      | depth + 1 =>
        match skipWhite rest with
        | ']' :: rest => some (arr [], rest)
        | rest => items fuel depth [] rest
    | '{' :: rest =>
      match depth with
      | 0 => none
      | depth + 1 =>
        match skipWhite rest with
        | '}' :: rest => some (object [], rest)
        | rest => members fuel depth [] rest
    | rest => number false rest

/-- Read the items of an array up to its closing bracket; `done` holds those before, last first. -/
def items (fuel depth : Nat) (done : List Json) (cs : List Char) : Option (Json × List Char) :=
  match fuel with
  | 0 => none
  | fuel + 1 =>
    match value fuel depth cs with
    | none => none
    | some (v, rest) =>
      match skipWhite rest with
      | ',' :: rest => items fuel depth (v :: done) rest
      | ']' :: rest => some (arr (v :: done).reverse, rest)
      | _ => none

/-- Read the members of an object up to its closing brace. -/
def members (fuel depth : Nat) (done : List (String × Json)) (cs : List Char) :
    Option (Json × List Char) :=
  match fuel with
  | 0 => none
  | fuel + 1 =>
    match skipWhite cs with
    | '"' :: rest =>
      match stringBody [] rest with
      | none => none
      | some (key, rest) =>
        match skipWhite rest with
        | ':' :: rest =>
          match value fuel depth rest with
          | none => none
          | some (v, rest) =>
            match skipWhite rest with
            | ',' :: rest => members fuel depth ((key, v) :: done) rest
            | '}' :: rest => some (object ((key, v) :: done).reverse, rest)
            | _ => none
        | _ => none
    | _ => none

end

/-- Read a document, or nothing if the text is no JSON. -/
def parse? (s : String) : Option Json :=
  let cs := s.toList
  match value (2 * cs.length + 2) maxDepth cs with
  | some (v, rest) => if (skipWhite rest).isEmpty then some v else none
  | none => none

end SettingsConsole.Json
